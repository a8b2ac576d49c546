import EdgeRig.Url.Reference

/-!
# Fetching

A rig that listens can be sent requests.  A text that starts with `http` is taken as it is; any
other text is a reference, and is seen from the base URL of the rig.

* `Fetcher.target` is the URL that a text names.
* `Request.prepare` makes the request for a URL.  A URL without a scheme or a host names no place to
  send it to: it goes out with its path and query alone, and fails after that.
* `Fetcher.fetch` sends a request over a transport, and tells what went out.
-/

namespace EdgeRig

/-- What a transport is handed. -/
structure Request where
  method : String
  url : Url
  content : String

/-- What a transport hands back. -/
structure Response where
  status : Int
  text : String

/-- A way to send requests. -/
abbrev Transport := Request → Response

namespace Request

/-- The path and query of a URL; an empty path is the root. -/
def rawPath (u : Url) : List Char :=
  (if u.path.isEmpty then ['/'] else u.path) ++ Url.marked '?' u.query

/-- The path and query of a URL without a place, below the root. -/
def placeless (u : Url) : Except Fault Url :=
  Url.ofText ('/' :: (rawPath u).dropWhile (· == '/'))

/-- The request for a written URL.  Its place is sent along in ASCII. -/
def prepare (method url content : String) : Except Fault Request := do
  let u ← Url.ofText url.toList
  let u ← if u.isAbsolute then .ok u else placeless u
  if Label.isAscii u.host = false then .error .unencodable
  .ok ⟨String.ofList (Unicode.upper method.toList), u, content⟩

end Request

/-- The helper that a rig leaves in its context: the base URL, if the rig listens, and the status of
its answer if it does not. -/
structure Fetcher where
  base : Option String
  silentStatus : Int

namespace Fetcher

/-- The answer of a rig that does not listen. -/
def silentText : String := "Fetch aborted: simulator is not configured to listen on a port."

/-- Does the text name its own place? -/
def isComplete (url : String) : Bool := "http".toList.isPrefixOf url.toList

/-- The URL that a text names from a base. -/
def target (base url : String) : Except Fault String :=
  if isComplete url then .ok url
  else do
    let b ← Url.ofText base.toList
    let r ← Url.ofText url.toList
    let u ← b.join r
    .ok (String.ofList u.text)

/-- What was sent, and what came of it. -/
structure Exchange where
  sent : List Request
  result : Except Fault Response

/-- What is wrong with the place of a request; it shows when the answer is taken. -/
def placeFault? (u : Url) : Option Fault :=
  if u.isAbsolute = false then some .noHost
  else if Reference.isPlain u.authority = false then some .misleadingAuthority
  else none

/-- Send a request. -/
def send (transport : Transport) (r : Request) : Exchange :=
  { sent := [r]
    result := match placeFault? r.url with
      | none => .ok (transport r)
      | some f => .error f }

/-- Fetch what a text names. -/
def fetch (f : Fetcher) (transport : Transport) (method url content : String) : Exchange :=
  match f.base with
  | none => ⟨[], .ok ⟨f.silentStatus, silentText⟩⟩
  | some base =>
      match target base url with
      | .error e => ⟨[], .error e⟩
      | .ok u =>
          match Request.prepare method u content with
          | .error e => ⟨[], .error e⟩
          | .ok r => send transport r

end Fetcher

end EdgeRig
