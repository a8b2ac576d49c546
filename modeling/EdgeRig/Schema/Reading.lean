import EdgeRig.Fault
import EdgeRig.Number.Written

/-!
# Reading values under a schema

A reader turns a value into what a schema says it is, or reports every problem it has.  Readers of
wholes are put together from readers of parts: `Reading.both` and `Reading.all` keep the problems of
all parts, in order.

The readers of this module are the plain ones: texts, whole numbers, numbers, truth values, lists,
mappings with text keys, and the fields of a record.
-/

namespace EdgeRig

/-- What a reader found: a result or the problems that stand against it. -/
abbrev Reading (α : Type) := Except (List Problem) α

/-- A reader of values. -/
abbrev Reader (α : Type) := Value → Reading α

namespace Reading

/-- A single problem of the value as a whole. -/
def refuse {α : Type} (kind : ProblemKind) : Reading α := .error [.here kind]

/-- The same reading, seen from one step further out. -/
def within {α : Type} (p : Place) (x : Reading α) : Reading α :=
  match x with
  | .ok a => .ok a
  | .error ps => .error (ps.map (Problem.within p))

def problems {α : Type} : Reading α → List Problem
  | .ok _ => []
  | .error ps => ps

/-- Two readings as one, with the problems of both. -/
def both {α β : Type} (x : Reading α) (y : Reading β) : Reading (α × β) :=
  match x, y with
  | .ok a, .ok b => .ok (a, b)
  | x, y => .error (x.problems ++ y.problems)

/-- Many readings as one, with the problems of all. -/
def all {α : Type} : List (Reading α) → Reading (List α)
  | [] => .ok []
  | x :: xs => (both x (all xs)).map fun p => p.1 :: p.2

/-- Demand something of a result. -/
def demand {α : Type} (x : Reading α) (ok : α → Bool) (kind : ProblemKind) : Reading α :=
  match x with
  | .ok a => if ok a then .ok a else refuse kind
  | .error ps => .error ps

end Reading

namespace Reader

/-- A text. -/
def text : Reader String
  | .scalar (.text s) => .ok s
  | _ => Reading.refuse .text

/-- The bound of the whole numbers that fit into 64 bits. -/
def wordBound : Int := Scale.binary 63

/-- The whole number that a double is worth.  Those that do not fit into 64 bits have too many
digits. -/
def ofFloat (x : Binary64) : Reading Int :=
  match x.toInt? with
  | some n =>
      if -wordBound < n ∧ n < wordBound then .ok n else Reading.refuse .oversizedInteger
  | none => Reading.refuse (if x.isNaN || x.isInfinite then .finite else .fraction)

/-- A whole number, or a value that is worth one. -/
def integer : Reader Int
  | .scalar (.int n) => .ok n
  | .scalar (.bool b) => .ok (if b then 1 else 0)
  | .scalar (.float x) => ofFloat x
  | .scalar (.text s) =>
      match Written.whole s with
      | .number n => .ok n
      | .oversized => Reading.refuse .oversizedInteger
      | .unreadable => Reading.refuse .unreadableInteger
  | _ => Reading.refuse .integer

/-- A whole number as a double, unless it lies beyond the range. -/
def ofWhole (n : Int) : Reading Binary64 :=
  let x := Binary64.ofInt n
  if x.isInfinite then Reading.refuse .number else .ok x

/-- A number. -/
def number : Reader Binary64
  | .scalar (.float x) => .ok x
  | .scalar (.int n) => ofWhole n
  | .scalar (.bool b) => ofWhole (if b then 1 else 0)
  | .scalar (.text s) =>
      match Written.number? s with
      | some x => .ok x
      | none => Reading.refuse .unreadableNumber
  | _ => Reading.refuse .number

/-- Zero and one as truth values. -/
def ofZeroOne (n : Int) : Reading Bool :=
  if n = 0 then .ok false else if n = 1 then .ok true else Reading.refuse .unreadableTruth

/-- A truth value.  Among the numbers only whole ones that fit into 64 bits are looked at. -/
def truth : Reader Bool
  | .scalar (.bool b) => .ok b
  | .scalar (.int n) =>
      if -wordBound ≤ n ∧ n < wordBound then ofZeroOne n else Reading.refuse .truth
  | .scalar (.float x) =>
      match ofFloat x with
      | .ok n => ofZeroOne n
      | .error _ => Reading.refuse .truth
  | .scalar (.text s) =>
      match Written.truth? s with
      | some b => .ok b
      | none => Reading.refuse .unreadableTruth
  | _ => Reading.refuse .truth

/-- Any value. -/
def any : Reader Value := .ok

/-- Nothing, or what another reader accepts. -/
def optional {α : Type} (r : Reader α) : Reader (Option α) := fun v =>
  if v.isNull then .ok none else (r v).map some

/-- Every element of a list, each under its position. -/
def items {α : Type} (r : Reader α) : (position : Nat) → List Value → List (Reading α)
  | _, [] => []
  | i, v :: vs => (r v).within (.item i) :: items r (i + 1) vs

/-- A list of what another reader accepts. -/
def listOf {α : Type} (r : Reader α) : Reader (List α)
  | .list vs => Reading.all (items r 0 vs)
  | _ => Reading.refuse .list

/-- The key of an entry, which must be a text. -/
def entryKey (k : Scalar) : Reading String :=
  match k with
  | .text s => .ok s
  | _ => ((Reading.refuse .text).within (.field "[key]")).within (.key k)

/-- A mapping from texts to what another reader accepts. -/
def mappingOf {α : Type} (r : Reader α) : Reader (List (String × α))
  | .map m => Reading.all (m.map fun e => Reading.both (entryKey e.1) ((r e.2).within (.key e.1)))
  | _ => Reading.refuse .mapping

/-- The entry of a mapping under the first of the names that it has. -/
def entry? (m : Mapping) : List String → Option (String × Value)
  | [] => none
  | n :: ns =>
      match Mapping.get? m n with
      | some v => some (n, v)
      | none => entry? m ns

/-- A field of a record, which may go by several names, the first of which counts most. -/
def field {α : Type} (m : Mapping) (names : List String) (absent : Reading α) (r : Reader α) :
    Reading α :=
  match entry? m names with
  | none => absent
  | some (n, v) => (r v).within (.field n)

/-- The entries of a value that must be a record of the given schema. -/
def record (schema : Schema) : Reader Mapping
  | .map m => .ok m
  | _ => Reading.refuse (.record schema)

end Reader

/-- Read a value under a schema, and make the problems a fault. -/
def Reader.run {α : Type} (schema : Schema) (r : Reader α) (v : Value) : Except Fault α :=
  match r v with
  | .ok a => .ok a
  | .error ps => .error (.invalid schema ps)

end EdgeRig
