import EdgeRig.Fault
import EdgeRig.Text.Halves
import EdgeRig.Unicode.Letters
import EdgeRig.Url.Host

/-!
# Addresses of the web

A URL is kept in its parts, each in the form in which it is written: scheme and host in lower case,
a usual port left out, characters that cannot stand for themselves percent-encoded.

* `Url.ofText` reads a URL or a reference, and names the fault of one that is neither.
* `Url.text` writes it.
-/

namespace EdgeRig

/-- A URL, or a reference that lacks some of its parts. -/
structure Url where
  scheme : List Char
  user : List Char
  host : List Char
  port : Option Int
  path : List Char
  query : Option (List Char)
  fragment : Option (List Char)
  deriving DecidableEq

namespace Url

/-! ## Writing -/

/-- A host in its place; an address with colons stands between brackets. -/
def hostText (host : List Char) : List Char :=
  if host.contains ':' then '[' :: (host ++ [']']) else host

/-- User, host and port. -/
def authority (u : Url) : List Char :=
  (if u.user.isEmpty then [] else u.user ++ ['@']) ++ hostText u.host ++
    (match u.port with
      | none => []
      | some n => ':' :: Numeral.ofInt n)

/-- An optional part after its mark. -/
def marked (mark : Char) : Option (List Char) → List Char
  | none => []
  | some s => mark :: s

def text (u : Url) : List Char :=
  (if u.scheme.isEmpty then [] else u.scheme ++ [':']) ++
    (if u.authority.isEmpty then [] else '/' :: '/' :: u.authority) ++
    u.path ++ marked '?' u.query ++ marked '#' u.fragment

/-- Does the URL say by itself where to go? -/
def isAbsolute (u : Url) : Bool := !u.scheme.isEmpty && !u.host.isEmpty

/-! ## Reading -/

def isSchemeChar (c : Char) : Bool := c.isAlphanum || c == '+' || c == '.' || c == '-'

/-- The scheme and the text after it.  A colon at the very start ends an empty scheme. -/
def splitScheme (s : List Char) : List Char × List Char :=
  match Text.cut ':' s with
  | (front, some rest) =>
      if (front.head?.map Char.isAlpha).getD true && front.all isSchemeChar then (front, rest)
      else ([], s)
  | _ => ([], s)

/-- The authority and the text after it. -/
def splitAuthority (s : List Char) : List Char × List Char :=
  match s with
  | '/' :: '/' :: rest =>
      let inside := fun c => !(c == '/' || c == '?' || c == '#')
      (rest.takeWhile inside, rest.dropWhile inside)
  | _ => ([], s)

/-- Cut at the first mark, if there is one. -/
def splitMark (mark : Char) (s : List Char) : List Char × Option (List Char) := Text.cut mark s

/-- Host and port of an authority without its user. -/
def splitHost (s : List Char) : List Char × List Char :=
  match s.head?, Text.cutLast ']' s with
  | some '[', (some front, rest) => (front ++ [']'], rest)
  | _, _ => (s.takeWhile (· != ':'), s.dropWhile (· != ':'))

/-- The port of a scheme that need not be written. -/
def usualPort? (scheme : List Char) : Option Int :=
  let s := String.ofList scheme
  if s = "http" ∨ s = "ws" then some 80
  else if s = "https" ∨ s = "wss" then some 443
  else if s = "ftp" then some 21
  else none

/-- The largest number of digits of a port. -/
def portLimit : Nat := 4300

/-- The number of digits in a text. -/
def digitCount (s : List Char) : Nat := s.countP fun c => (Unicode.decimalDigit? c).isSome

/-- A port after its optional colon: a whole number, which is left out where it is usual. -/
def readPort (scheme s : List Char) : Except Fault (Option Int) :=
  let digits := match s with
    | ':' :: rest => rest
    | _ => s
  if digits.isEmpty then .ok none
  else if portLimit < digitCount digits then .error .invalidUrl
  else
    match Numeral.integer? Unicode.decimalDigit? (Unicode.trim digits) with
    | none => .error .invalidUrl
    | some n => .ok (if usualPort? scheme = some n then none else some n)

def readHost (s : List Char) : Except Fault (List Char) :=
  match Host.read s with
  | some h => .ok h
  | none => .error .invalidUrl

/-- Work off the segments `.` and `..` of a path.  The empty segment before a leading slash
stays. -/
def withoutDots (path : List Char) : List Char :=
  Text.glue '/' <|
    (Text.pieces '/' path).foldl
      (fun out p =>
        if p = ['.'] then out
        else if p = ['.', '.'] then if out = [] ∨ out = [[]] then out else out.dropLast
        else out ++ [p])
      []

/-- Which paths go with which other parts: after an authority a path starts with a slash, and a path
alone starts neither with two slashes nor with a colon. -/
def isPathAllowed (path : List Char) (hasScheme hasAuthority : Bool) : Bool :=
  if hasAuthority then path.isEmpty || path.head? == some '/'
  else if hasScheme then true
  else !(path.take 2 == ['/', '/']) && path.head? != some ':'

/-- The largest number of characters of a URL. -/
def lengthLimit : Nat := 65536

/-- Control characters of ASCII. -/
def isControl (c : Char) : Bool := decide (c.toNat < 32) || c.toNat == 127

/-- Write a part with characters of its own kind.  Half a character has no bytes to be written. -/
def escapePart (safe : Char → Bool) (s : List Char) : Except Fault (List Char) :=
  if s.any Half.isHalf then .error .unencodable else .ok (Percent.encode safe s)

/-- Read a URL or a reference. -/
def ofText (s : List Char) : Except Fault Url := do
  if lengthLimit < s.length ∨ s.any isControl = true then .error .invalidUrl
  let (scheme, rest) := splitScheme s
  let (authority, rest) := splitAuthority rest
  let (rest, fragment) := splitMark '#' rest
  let (path, query) := splitMark '?' rest
  let (user, place) := Text.cutLast '@' authority
  let (host, port) := splitHost place
  let user ← escapePart Percent.isUserChar (user.getD [])
  let host ← readHost host
  let port ← readPort scheme port
  let hasScheme := !scheme.isEmpty
  let hasAuthority := !user.isEmpty || !host.isEmpty || port.isSome
  if isPathAllowed path hasScheme hasAuthority = false then .error .invalidUrl
  let path := if hasScheme || hasAuthority then withoutDots path else path
  let path ← escapePart Percent.isPathChar path
  let query ← query.mapM (escapePart Percent.isQueryChar)
  let fragment ← fragment.mapM (escapePart Percent.isFragmentChar)
  .ok
    { scheme := scheme.map Char.toLower
      user := user
      host := host
      port := port
      path := path
      query := query
      fragment := fragment }

end Url

end EdgeRig
