import EdgeRig.Number.Binary64
import EdgeRig.Calendar

/-!
# Descriptor values

A descriptor is a nested value.  `Scalar` holds what can be a key of a mapping, `Value` adds lists
and mappings; that a list or a mapping is no key is thus visible in the types.

* `Scalar.same` is equality of keys: truth values, whole numbers and floating-point numbers are
  compared as numbers, and moments by the instant they name.
* A mapping is a list of entries in order of first insertion.  `Mapping.find?` looks a key up,
  `Mapping.put` overwrites the entry of a key in its place or appends a new one.
* `Value.isTruthy` tells the empty and zero values from all others.
-/

namespace EdgeRig

/-- A value without parts. -/
inductive Scalar where
  | null
  | bool (b : Bool)
  | int (n : Int)
  | float (x : Binary64)
  | text (s : String)
  | date (d : Date)
  | time (t : TimeOfDay)
  | moment (m : Moment)
  deriving DecidableEq

/-- A descriptor value. -/
inductive Value where
  | scalar (s : Scalar)
  | list (items : List Value)
  | map (entries : List (Scalar × Value))

/-- A mapping: entries in order of first insertion. -/
abbrev Mapping := List (Scalar × Value)

instance : Inhabited Value := ⟨.scalar .null⟩

namespace Scalar

/-- What a number is worth: an exact integer, or a double that is no integer. -/
inductive Worth where
  | whole (n : Int)
  | other (x : Binary64)

/-- The worth of a truth value or number. -/
def worth : Scalar → Option Worth
  | .bool b => some (.whole (if b then 1 else 0))
  | .int n => some (.whole n)
  | .float x =>
      match x.toInt? with
      | some n => some (.whole n)
      | none => some (.other x)
  | _ => none

/-- Equality of keys. -/
def same (a b : Scalar) : Bool :=
  match a.worth, b.worth with
  | some (.whole m), some (.whole n) => m == n
  | some (.other x), some (.other y) => x.same y
  | none, none =>
      match a, b with
      | .moment s, .moment t => s.same t
      | _, _ => a == b
  | _, _ => false

@[simp] theorem same_text (s t : String) : same (.text s) (.text t) = (s == t) := by
  have h : (Scalar.text s == Scalar.text t) = (s == t) := by
    rw [Bool.eq_iff_iff, beq_iff_eq, beq_iff_eq, Scalar.text.injEq]
  simp only [same, worth]
  exact h

end Scalar

namespace Mapping

/-- The value under a key. -/
def find? (m : Mapping) (k : Scalar) : Option Value :=
  (List.find? (fun e => e.1.same k) m).map (·.2)

/-- Is there an entry for the key? -/
def has (m : Mapping) (k : Scalar) : Bool := List.any m fun e => e.1.same k

/-- Overwrite the value of a key, or append a new entry. -/
def put : Mapping → Scalar → Value → Mapping
  | [], k, v => [(k, v)]
  | (j, u) :: rest, k, v => if j.same k then (j, v) :: rest else (j, u) :: put rest k v

/-- A mapping built from entries, later ones overwriting earlier ones. -/
def ofEntries (es : List (Scalar × Value)) : Mapping := es.foldl (fun m e => put m e.1 e.2) []

/-- The value under a text key. -/
def get? (m : Mapping) (k : String) : Option Value := find? m (.text k)

end Mapping

namespace Value

/-- The value that stands for "nothing". -/
abbrev null : Value := .scalar .null

abbrev bool (b : Bool) : Value := .scalar (.bool b)

abbrev int (n : Int) : Value := .scalar (.int n)

abbrev text (s : String) : Value := .scalar (.text s)

/-- A text value or nothing. -/
def ofText? : Option String → Value
  | none => null
  | some s => text s

def isNull : Value → Bool
  | .scalar .null => true
  | _ => false

theorem isNull_iff {v : Value} : v.isNull = true ↔ v = null := by
  cases v with
  | scalar s => cases s <;> simp [isNull]
  | list items => simp [isNull]
  | map entries => simp [isNull]

mutual

/-- Equality is decided part by part. -/
def decEq : (v w : Value) → Decidable (v = w)
  | .scalar a, .scalar b =>
      if h : a = b then isTrue (h ▸ rfl) else isFalse fun e => h (scalar.inj e)
  | .list vs, .list ws =>
      match decEqItems vs ws with
      | isTrue h => isTrue (h ▸ rfl)
      | isFalse h => isFalse fun e => h (list.inj e)
  | .map es, .map fs =>
      match decEqEntries es fs with
      | isTrue h => isTrue (h ▸ rfl)
      | isFalse h => isFalse fun e => h (map.inj e)
  | .scalar _, .list _ | .scalar _, .map _ | .list _, .scalar _ | .list _, .map _
  | .map _, .scalar _ | .map _, .list _ => isFalse nofun

def decEqItems : (vs ws : List Value) → Decidable (vs = ws)
  | [], [] => isTrue rfl
  | v :: vs, w :: ws =>
      match decEq v w, decEqItems vs ws with
      | isTrue h, isTrue hs => isTrue (h ▸ hs ▸ rfl)
      | isFalse h, _ => isFalse fun e => h (List.cons.inj e).1
      | _, isFalse hs => isFalse fun e => hs (List.cons.inj e).2
  | [], _ :: _ | _ :: _, [] => isFalse nofun

def decEqEntries : (es fs : List (Scalar × Value)) → Decidable (es = fs)
  | [], [] => isTrue rfl
  | (j, v) :: es, (k, w) :: fs =>
      if hk : j = k then
        match decEq v w, decEqEntries es fs with
        | isTrue h, isTrue hs => isTrue (hk ▸ h ▸ hs ▸ rfl)
        | isFalse h, _ => isFalse fun e => h (Prod.mk.inj (List.cons.inj e).1).2
        | _, isFalse hs => isFalse fun e => hs (List.cons.inj e).2
      else isFalse fun e => hk (Prod.mk.inj (List.cons.inj e).1).1
  | [], _ :: _ | _ :: _, [] => isFalse nofun

end

instance : DecidableEq Value := decEq

/-- All values count as true except nothing, false, zero, and the empty text, list and mapping. -/
def isTruthy : Value → Bool
  | .scalar .null => false
  | .scalar (.bool b) => b
  | .scalar (.int n) => n != 0
  | .scalar (.float x) => !x.isZero
  | .scalar (.text s) => s != ""
  | .scalar _ => true
  | .list items => !items.isEmpty
  | .map entries => !entries.isEmpty

/-- A mapping with text keys. -/
def record (es : List (String × Value)) : Value := .map (es.map fun e => (.text e.1, e.2))

end Value

end EdgeRig
