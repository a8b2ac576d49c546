import EdgeRig.Json5.Number
import EdgeRig.Json5.Text

/-!
# Object files

An object file holds one value, with blanks and comments around its tokens.

* `Json5.skipSpace` skips blanks and comments.
* `Json5.value` reads a value; arrays and objects nest, and a comma may follow their last part.
* `Json5.read` reads a whole file.
-/

namespace EdgeRig

namespace Json5

/-! ## Blanks and comments -/

/-- The text after the end of a block comment. -/
def afterBlock? : List Char → Option (List Char)
  | [] => none
  | [_] => none
  | c :: d :: rest => if c = '*' ∧ d = '/' then some rest else afterBlock? (d :: rest)

/-- Skip blanks and comments.  A comment that does not end is not skipped. -/
def skipSpaceFrom : (fuel : Nat) → List Char → List Char
  | 0, s => s
  | fuel + 1, s =>
      match s.dropWhile isSpace with
      | '/' :: '/' :: rest => skipSpaceFrom fuel (rest.dropWhile fun c => !isLineEnd c)
      | '/' :: '*' :: rest =>
          match afterBlock? rest with
          | some rest => skipSpaceFrom fuel rest
          | none => '/' :: '*' :: rest
      | rest => rest

def skipSpace (s : List Char) : List Char := skipSpaceFrom (s.length + 1) s

/-! ## Values -/

/-- A key: a text or a bare name. -/
def key (s : List Char) : Option (String × List Char) :=
  match s with
  | '"' :: rest => (quotedText '"' rest).map fun p => (String.ofList p.1, p.2)
  | '\'' :: rest => (quotedText '\'' rest).map fun p => (String.ofList p.1, p.2)
  | _ => (name s).map fun p => (String.ofList p.1, p.2)

/-- A value without parts. -/
def atom (s : List Char) : Option (Scalar × List Char) :=
  match s with
  | '"' :: rest => (quotedText '"' rest).map fun p => (.text (String.ofList p.1), p.2)
  | '\'' :: rest => (quotedText '\'' rest).map fun p => (.text (String.ofList p.1), p.2)
  | 'n' :: 'u' :: 'l' :: 'l' :: rest => some (.null, rest)
  | 't' :: 'r' :: 'u' :: 'e' :: rest => some (.bool true, rest)
  | 'f' :: 'a' :: 'l' :: 's' :: 'e' :: rest => some (.bool false, rest)
  | _ => number s

mutual

/-- A value of any kind. -/
def valueFrom : (fuel : Nat) → List Char → Option (Value × List Char)
  | 0, _ => none
  | fuel + 1, s =>
      match s with
      | '[' :: rest => do
          let (items, rest) ← elementsFrom fuel (skipSpace rest)
          some (.list items, rest)
      | '\x7b' :: rest => do
          let (entries, rest) ← membersFrom fuel (skipSpace rest)
          some (.map (Mapping.ofEntries entries), rest)
      | _ => (atom s).map fun p => (.scalar p.1, p.2)

/-- The elements of an array up to its end. -/
def elementsFrom : (fuel : Nat) → List Char → Option (List Value × List Char)
  | 0, _ => none
  | fuel + 1, s =>
      match s with
      | ']' :: rest => some ([], rest)
      | _ => do
          let (v, rest) ← valueFrom fuel s
          match skipSpace rest with
          | ']' :: rest => some ([v], rest)
          | ',' :: rest => do
              let (vs, rest) ← elementsFrom fuel (skipSpace rest)
              some (v :: vs, rest)
          | _ => none

/-- The members of an object up to its end. -/
def membersFrom : (fuel : Nat) → List Char → Option (List (Scalar × Value) × List Char)
  | 0, _ => none
  | fuel + 1, s =>
      match s with
      | '\x7d' :: rest => some ([], rest)
      | _ => do
          let (k, rest) ← key s
          match skipSpace rest with
          | ':' :: rest => do
              let (v, rest) ← valueFrom fuel (skipSpace rest)
              match skipSpace rest with
              | '\x7d' :: rest => some ([(.text k, v)], rest)
              | ',' :: rest => do
                  let (es, rest) ← membersFrom fuel (skipSpace rest)
                  some ((.text k, v) :: es, rest)
              | _ => none
          | _ => none

end

/-- A value of any kind. -/
def value (s : List Char) : Option (Value × List Char) := valueFrom (2 * s.length + 2) s

/-- The value that an object file holds. -/
def read (s : List Char) : Option Value :=
  match value (skipSpace s) with
  | some (v, rest) => if (skipSpace rest).isEmpty then some v else none
  | none => none

end Json5

end EdgeRig
