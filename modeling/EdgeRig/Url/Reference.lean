import EdgeRig.Url.Basic

/-!
# Joining references

A reference is seen from a base.  One with a scheme of its own, or with an authority, stands alone;
otherwise it takes what it lacks from the base, and its path is continued from the last slash of the
base's path.

* `Reference.ofText` cuts a written reference into its parts, unless its authority is misleading.
* `Reference.resolve` is the path that a path leads to from the base's path.
* `Reference.join` joins two written references, `Url.join` two URLs.
-/

namespace EdgeRig

/-- The parts of a written reference.  The last segment of a path may carry parameters after a
semicolon. -/
structure Reference where
  scheme : List Char
  authority : List Char
  path : List Char
  parameters : List Char
  query : List Char
  fragment : List Char
  deriving DecidableEq

namespace Reference

/-- The scheme, if the text starts with one, and the text after it. -/
def splitScheme (s : List Char) : Option (List Char) × List Char :=
  match Text.cut ':' s with
  | (c :: front, some rest) =>
      if c.isAlpha && front.all Url.isSchemeChar then (some ((c :: front).map Char.toLower), rest)
      else (none, s)
  | _ => (none, s)

/-- Cut the parameters off the last segment of a path. -/
def splitParameters (path : List Char) : List Char × List Char :=
  match Text.cutLast '/' path with
  | (front, last) =>
      match Text.cut ';' last with
      | (_, none) => (path, [])
      | (name, some parameters) => ((front.map (· ++ ['/'])).getD [] ++ name, parameters)

/-- Brackets enclose the whole host, which is an address then. -/
def bracketsFit (authority : List Char) : Bool :=
  if !authority.contains '[' && !authority.contains ']' then true
  else if !authority.contains '[' || !authority.contains ']' then false
  else
    let place := (Text.cutLast '@' authority).2
    match Text.cut '[' place with
    | (before, some inner) =>
        let (host, port) := Text.cut ']' inner
        before.isEmpty && Host.isLiteral host &&
          (port.getD []).head?.all fun c => c == ':'
    | (_, none) => Host.isLiteral (Text.cut ':' place).1

/-- Characters beyond ASCII that are another way to write a mark between the parts of a URL. -/
def disguisedMarks : Unicode.Ranges :=
  [(0x2047, 0x2049), (0x2100, 0x2101), (0x2105, 0x2106), (0x2a74, 0x2a74), (0xfe13, 0xfe13),
   (0xfe16, 0xfe16), (0xfe55, 0xfe56), (0xfe5f, 0xfe5f), (0xfe6b, 0xfe6b), (0xff03, 0xff03),
   (0xff0f, 0xff0f), (0xff1a, 0xff1a), (0xff1f, 0xff20)]

/-- Can nobody take the authority for another one? -/
def isPlain (authority : List Char) : Bool :=
  bracketsFit authority && !authority.any disguisedMarks.holds

/-- Cut a written reference into its parts.  The scheme is given for one that names none. -/
def ofText (scheme s : List Char) : Except Fault Reference :=
  let (own, rest) := splitScheme s
  let (authority, rest) := Url.splitAuthority rest
  let (rest, fragment) := Text.cut '#' rest
  let (path, query) := Text.cut '?' rest
  let (path, parameters) := splitParameters path
  if isPlain authority then
    .ok
      { scheme := own.getD scheme
        authority := authority
        path := path
        parameters := parameters
        query := query.getD []
        fragment := fragment.getD [] }
  else .error .misleadingAuthority

/-- A part after its mark, unless it is empty. -/
def after (mark : Char) (s : List Char) : List Char := if s.isEmpty then [] else mark :: s

/-- Write a reference.  Empty parts leave no mark. -/
def text (r : Reference) : List Char :=
  let path := r.path ++ after ';' r.parameters
  let place :=
    if r.authority.isEmpty && path.take 2 == ['/', '/'] then path
    else
      '/' :: '/' :: r.authority ++
        (if path.isEmpty || path.head? == some '/' then path else '/' :: path)
  r.scheme ++ ':' :: place ++ after '?' r.query ++ after '#' r.fragment

/-- The segments of a path as seen from the segments of a base path. -/
def segments (base path : List Char) : List Text.Piece :=
  if path.head? = some '/' then Text.pieces '/' path
  else
    let front := Text.pieces '/' base
    let front := if front.getLast? = some [] then front else front.dropLast
    match front ++ Text.pieces '/' path with
    | [] => []
    | first :: rest =>
        first :: (rest.dropLast.filter fun p => !p.isEmpty) ++ rest.getLast?.toList

/-- Work off the segments `.` and `..`; the root has no parent. -/
def collapse (ps : List Text.Piece) : List Text.Piece :=
  let out := ps.foldl
    (fun out p =>
      if p = ['.', '.'] then out.dropLast else if p = ['.'] then out else out ++ [p])
    []
  match ps.getLast? with
  | some p => if p = ['.'] ∨ p = ['.', '.'] then out ++ [[]] else out
  | none => out

/-- The path that a path leads to from a base path. -/
def resolve (base path : List Char) : List Char :=
  match Text.glue '/' (collapse (segments base path)) with
  | [] => ['/']
  | s => s

/-- A reference as it is seen from a base. -/
def seenFrom (r b : Reference) : Reference :=
  if !r.authority.isEmpty then r
  else if r.path.isEmpty && r.parameters.isEmpty then
    { b with query := if r.query.isEmpty then b.query else r.query, fragment := r.fragment }
  else { r with authority := b.authority, path := resolve b.path r.path }

/-- Join two written references.  One with another scheme stays as it is written. -/
def join (base s : List Char) : Except Fault (List Char) :=
  if s.isEmpty then .ok base
  else do
    let b ← ofText [] base
    let r ← ofText b.scheme s
    .ok (if r.scheme = b.scheme then (r.seenFrom b).text else s)

end Reference

namespace Url

/-- The URL that a reference names from a base. -/
def join (base r : Url) : Except Fault Url := (Reference.join base.text r.text).bind ofText

end Url

end EdgeRig
