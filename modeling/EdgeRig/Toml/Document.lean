import EdgeRig.Toml.Atom
import EdgeRig.Toml.Table

/-!
# Table files

A table file is a list of statements, at most one a line: headers, which open a section, and pairs,
which add a value to the section that is open.

* `Toml.value` reads a value; arrays and inline tables nest.
* `Toml.statements` reads the statements of a file.
* `Toml.build` adds them to a tree one after another, and `Toml.read` is both together.
-/

namespace EdgeRig

namespace Toml

/-! ## Keys, blanks and comments -/

def isBareKeyChar (c : Char) : Bool := c.isAlphanum || c == '-' || c == '_'

/-- One part of a key. -/
def keyPart (s : List Char) : Option (String × List Char) :=
  match s.takeWhile isBareKeyChar with
  | [] => (lineText s).map fun p => (String.ofList p.1, p.2)
  | bare => some (String.ofList bare, s.dropWhile isBareKeyChar)

/-- The parts of a key after the first. -/
def keyRest : (fuel : Nat) → List Char → Option (Path × List Char)
  | 0, _ => none
  | fuel + 1, s =>
      match skipBlanks s with
      | '.' :: rest => do
          let (part, rest) ← keyPart (skipBlanks rest)
          let (parts, rest) ← keyRest fuel rest
          some (part :: parts, rest)
      | rest => some ([], rest)

/-- A dotted key and the blanks after it. -/
def key (s : List Char) : Option (Path × List Char) := do
  let (part, rest) ← keyPart s
  let (parts, rest) ← keyRest (rest.length + 1) rest
  some (part :: parts, rest)

/-- The rest of a line after a comment, if there is one. -/
def skipComment (s : List Char) : Option (List Char) :=
  match s with
  | '#' :: rest =>
      if (rest.takeWhile (· != '\n')).any isControl then none
      else some (rest.dropWhile (· != '\n'))
  | _ => some s

/-- Blanks, line ends and comments between the elements of an array. -/
def skipBetween : (fuel : Nat) → List Char → Option (List Char)
  | 0, s => some s
  | fuel + 1, s =>
      match s.dropWhile isBlankOrFeed with
      | '#' :: rest => do
          let rest ← skipComment ('#' :: rest)
          skipBetween fuel rest
      | rest => some rest

/-- Skip what may stand between the elements of an array. -/
def skipArrayBlanks (s : List Char) : Option (List Char) := skipBetween (s.length + 1) s

/-! ## Values -/

mutual

/-- A value of any kind. -/
def valueFrom : (fuel : Nat) → List Char → Option (Value × List Char)
  | 0, _ => none
  | fuel + 1, s =>
      match s with
      | '[' :: rest => do
          let rest ← skipArrayBlanks rest
          let (items, rest) ← elementsFrom fuel rest
          some (.list items, rest)
      | '\x7b' :: rest =>
          match skipBlanks rest with
          | '\x7d' :: rest => some (.map [], rest)
          | rest => do
              let (pairs, rest) ← pairsFrom fuel rest
              let m ← ofPairs pairs
              some (.map m, rest)
      | _ =>
          match s.head? with
          | some '"' => (quotedText s).map fun p => (.text (String.ofList p.1), p.2)
          | some '\'' => (quotedText s).map fun p => (.text (String.ofList p.1), p.2)
          | _ => (atom s).map fun p => (.scalar p.1, p.2)

/-- The elements of an array up to its end.  A comma may follow the last one. -/
def elementsFrom : (fuel : Nat) → List Char → Option (List Value × List Char)
  | 0, _ => none
  | fuel + 1, s =>
      match s with
      | ']' :: rest => some ([], rest)
      | _ => do
          let (v, rest) ← valueFrom fuel s
          let rest ← skipArrayBlanks rest
          match rest with
          | ']' :: rest => some ([v], rest)
          | ',' :: rest => do
              let rest ← skipArrayBlanks rest
              let (vs, rest) ← elementsFrom fuel rest
              some (v :: vs, rest)
          | _ => none

/-- A key and its value. -/
def pairFrom : (fuel : Nat) → List Char → Option ((Path × Value) × List Char)
  | 0, _ => none
  | fuel + 1, s => do
      let (k, rest) ← key s
      match rest with
      | '=' :: rest => do
          let (v, rest) ← valueFrom fuel (skipBlanks rest)
          some ((k, v), rest)
      | _ => none

/-- The pairs of an inline table up to its end.  No comma follows the last one. -/
def pairsFrom : (fuel : Nat) → List Char → Option (List (Path × Value) × List Char)
  | 0, _ => none
  | fuel + 1, s => do
      let (p, rest) ← pairFrom fuel s
      match skipBlanks rest with
      | '\x7d' :: rest => some ([p], rest)
      | ',' :: rest => do
          let (ps, rest) ← pairsFrom fuel (skipBlanks rest)
          some (p :: ps, rest)
      | _ => none

end

/-- More steps than reading a text of this length takes. -/
def fuelFor (s : List Char) : Nat := 2 * s.length + 2

/-- A value of any kind. -/
def value (s : List Char) : Option (Value × List Char) := valueFrom (fuelFor s) s

/-! ## Statements -/

/-- A statement of a table file. -/
inductive Statement where
  | pair (key : Path) (v : Value)
  | table (key : Path)
  | nextTable (key : Path)

/-- A header, after its first bracket. -/
def header (s : List Char) : Option (Statement × List Char) :=
  match s with
  | '[' :: rest => do
      let (k, rest) ← key (skipBlanks rest)
      match rest with
      | ']' :: ']' :: rest => some (.nextTable k, rest)
      | _ => none
  | _ => do
      let (k, rest) ← key (skipBlanks s)
      match rest with
      | ']' :: rest => some (.table k, rest)
      | _ => none

/-- The statement at the start of a line, if the line has one. -/
def statement (s : List Char) : Option (Option Statement × List Char) :=
  match s with
  | [] => some (none, s)
  | '\n' :: _ => some (none, s)
  | '#' :: _ => some (none, s)
  | '[' :: rest => (header rest).map fun p => (some p.1, p.2)
  | _ => (pairFrom (fuelFor s) s).map fun p => (some (.pair p.1.1 p.1.2), p.2)

/-- The end of a line, with blanks and a comment before it: the lines after it, if there are any. -/
def lineEnd (s : List Char) : Option (Option (List Char)) :=
  match skipComment (skipBlanks s) with
  | none => none
  | some [] => some none
  | some ('\n' :: rest) => some (some rest)
  | some _ => none

/-- The statements of the lines of a text. -/
def statementsFrom : (fuel : Nat) → List Char → Option (List Statement)
  | 0, _ => none
  | fuel + 1, s => do
      let (found, rest) ← statement (skipBlanks s)
      match ← lineEnd rest with
      | none => some found.toList
      | some rest => do
          let more ← statementsFrom fuel rest
          some (found.toList ++ more)

/-- The statements of a file. -/
def statements (s : List Char) : Option (List Statement) := statementsFrom (s.length + 1) s

/-! ## Building -/

/-- A file that is being read: the tree so far, the header of the open section and its number. -/
structure Draft where
  entries : Entries
  header : Path
  sectionNumber : Nat

/-- Add one statement. -/
def Draft.add (d : Draft) : Statement → Option Draft
  | .pair k v =>
      (within headerDoor (insert d.sectionNumber k v) d.header d.entries).map fun entries =>
        { d with entries := entries }
  | .table k => (declare k d.entries).map fun entries => ⟨entries, k, d.sectionNumber + 1⟩
  | .nextTable k => (extend k d.entries).map fun entries => ⟨entries, k, d.sectionNumber + 1⟩

/-- The mapping that statements describe. -/
def build (ss : List Statement) : Option Mapping :=
  (ss.foldlM Draft.add ⟨[], [], 0⟩).map fun d => toMapping d.entries

/-- The mapping that a table file describes. -/
def read (s : List Char) : Option Mapping := (statements s).bind build

end Toml

end EdgeRig
