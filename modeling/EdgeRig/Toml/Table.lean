import EdgeRig.Value

/-!
# Building tables

The statements of a table file add to one tree.  Its nodes remember how they came to be, because
that decides what may be added to them: a table that a header declared is closed to a second header
and to dotted keys, one that a header merely passed through is open to both, and one that dotted
keys made is open to the dotted keys of its own section only.

* `Toml.insert` adds a value under a dotted key.
* `Toml.declare` adds the table of a header, `Toml.extend` a new table of an array of tables.
* `Toml.Node.toValue` forgets how the nodes came to be.
-/

namespace EdgeRig

namespace Toml

/-- A dotted key: keys from the outside in. -/
abbrev Path := List String

/-- How a table came to be. -/
inductive Origin where
  /-- A header passed through it. -/
  | passed
  /-- Dotted keys of a section passed through it. -/
  | dotted (sectionNumber : Nat)
  /-- A header declared it. -/
  | declared
  deriving DecidableEq

/-- A node of the tree. -/
inductive Node where
  /-- A finished value; nothing can be added to it. -/
  | value (v : Value)
  | table (origin : Origin) (entries : List (String × Node))
  /-- An array of tables: the finished ones, and the entries of the last. -/
  | tables (finished : List Value) (last : List (String × Node))

abbrev Entries := List (String × Node)

/-- Set the node of a key, in its place or at the end. -/
def setNode : Entries → String → Node → Entries
  | [], k, n => [(k, n)]
  | (j, m) :: rest, k, n => if j = k then (k, n) :: rest else (j, m) :: setNode rest k n

mutual

/-- The value of a node. -/
def Node.toValue : Node → Value
  | .value v => v
  | .table _ entries => .map (toMapping entries)
  | .tables finished last => .list (finished ++ [.map (toMapping last)])

def toMapping : List (String × Node) → Mapping
  | [] => []
  | (k, n) :: rest => (.text k, n.toValue) :: toMapping rest

end

/-- The entries that can be reached through a node, and the node with other entries. -/
structure Door where
  entries : Entries
  close : Entries → Node

/-- How a header steps through a node. -/
def headerDoor : Option Node → Option Door
  | none => some ⟨[], .table .passed⟩
  | some (.value _) => none
  | some (.table origin entries) => some ⟨entries, .table origin⟩
  | some (.tables finished last) => some ⟨last, .tables finished⟩

/-- How the dotted keys of a section step through a node. -/
def dottedDoor (sectionNumber : Nat) : Option Node → Option Door
  | none => some ⟨[], .table (.dotted sectionNumber)⟩
  | some (.table .passed entries) => some ⟨entries, .table (.dotted sectionNumber)⟩
  | some (.table (.dotted n) entries) =>
      if n = sectionNumber then some ⟨entries, .table (.dotted n)⟩ else none
  | _ => none

/-- Change the entries at the end of a path. -/
def within (door : Option Node → Option Door) (change : Entries → Option Entries) :
    Path → Entries → Option Entries
  | [], entries => change entries
  | k :: ks, entries => do
      let d ← door (entries.lookup k)
      let inner ← within door change ks d.entries
      some (setNode entries k (d.close inner))

/-- Split a path into the keys on the way and the last one. -/
def splitLast : Path → Option (Path × String)
  | [] => none
  | [k] => some ([], k)
  | k :: ks => (splitLast ks).map fun p => (k :: p.1, p.2)

/-- Add a value under a key that is not taken. -/
def addValue (k : String) (v : Value) (entries : Entries) : Option Entries :=
  match entries.lookup k with
  | some _ => none
  | none => some (setNode entries k (.value v))

/-- Add a value under a dotted key. -/
def insert (sectionNumber : Nat) (key : Path) (v : Value) (entries : Entries) : Option Entries := do
  let (way, k) ← splitLast key
  within (dottedDoor sectionNumber) (addValue k v) way entries

/-- Declare a table, which no header has declared and no dotted key has made. -/
def declareHere (k : String) (entries : Entries) : Option Entries :=
  match entries.lookup k with
  | none => some (setNode entries k (.table .declared []))
  | some (.table .passed inner) => some (setNode entries k (.table .declared inner))
  | some _ => none

def declare (key : Path) (entries : Entries) : Option Entries := do
  let (way, k) ← splitLast key
  within headerDoor (declareHere k) way entries

/-- Start the first or the next table of an array of tables. -/
def extendHere (k : String) (entries : Entries) : Option Entries :=
  match entries.lookup k with
  | none => some (setNode entries k (.tables [] []))
  | some (.tables finished last) =>
      some (setNode entries k (.tables (finished ++ [.map (toMapping last)]) []))
  | some _ => none

def extend (key : Path) (entries : Entries) : Option Entries := do
  let (way, k) ← splitLast key
  within headerDoor (extendHere k) way entries

/-- The mapping of the pairs of an inline table. -/
def ofPairs (pairs : List (Path × Value)) : Option Mapping :=
  (pairs.foldlM (fun entries p => insert 0 p.1 p.2 entries) []).map toMapping

end Toml

end EdgeRig
