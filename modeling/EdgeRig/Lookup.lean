import EdgeRig.Text.Pieces
import EdgeRig.Value.Access

/-!
# Dotted lookup

A dotted name such as `queues.producers` names a value inside nested mappings, one key per piece.
The lookup ends without a value as soon as a piece is missing, names nothing, or would step into
something that is no mapping.

* `Value.step` is one step, `Value.follow` a chain of steps, `Value.lookup` the chain that a dotted
  name stands for.
* `follow_append` says that chains compose; `lookup_dot` says so for dotted names.
* `lookup_of_peek` says that a name without dots is looked up in a single step.
-/

namespace EdgeRig

namespace Value

/-- The value, other than nothing, under a key of a mapping. -/
def step (v : Value) (key : Text.Piece) : Option Value :=
  match v with
  | .map m => (Mapping.get? m (String.ofList key)).bind present?
  | _ => none

/-- Take one step after another. -/
def follow (v : Value) : List Text.Piece → Option Value
  | [] => some v
  | k :: ks => (v.step k).bind fun u => follow u ks

/-- The value that a dotted name stands for. -/
def lookup (v : Value) (name : String) : Option Value := follow v (Text.pieces '.' name.toList)

theorem follow_append (v : Value) (ks ls : List Text.Piece) :
    follow v (ks ++ ls) = (follow v ks).bind fun u => follow u ls := by
  induction ks generalizing v with
  | nil => rfl
  | cons k ks ih => cases h : v.step k <;> simp [follow, h, ih]

theorem present?_eq_none_iff {v : Value} : v.present? = none ↔ v = null := by
  rw [← isNull_iff]
  cases h : v.isNull <;> simp [present?, h]

theorem getD_present? (v : Value) : v.present?.getD null = v := by
  cases h : v.present? with
  | none => exact (present?_eq_none_iff.1 h).symm
  | some u =>
    unfold present? at h
    split at h
    · cases h
    · cases h
      rfl

/-- A value in which an entry may be looked for is a mapping. -/
theorem exists_map_of_peek {d v : Value} {name : String} (h : d.peek name = .ok v) :
    ∃ m, d = .map m := by
  cases d with
  | map m => exact ⟨m, rfl⟩
  | scalar s => cases h
  | list items => cases h

/-- A name without dots is looked up in a single step. -/
theorem lookup_of_peek {d v : Value} {name : String} (hname : '.' ∉ name.toList)
    (hv : d.peek name = .ok v) : d.lookup name = v.present? := by
  cases d with
  | map m =>
    have hm : (Mapping.get? m name).getD null = v := Except.ok.inj hv
    have hstep : (Value.map m).lookup name = (Mapping.get? m name).bind present? := by
      simp [lookup, Text.pieces_of_not_mem hname, follow, step]
    rw [hstep, ← hm]
    cases Mapping.get? m name <;> rfl
  | scalar s => cases hv
  | list items => cases hv

/-- A name of two parts is looked up part by part. -/
theorem lookup_dot (v : Value) (s t : String) :
    v.lookup (s ++ "." ++ t) = (v.lookup s).bind fun u => u.lookup t := by
  simp only [lookup, String.toList_append]
  rw [← follow_append]
  congr 1
  generalize s.toList = cs
  induction cs with
  | nil => simp [Text.pieces]
  | cons c cs ih =>
    by_cases h : c = '.'
    · simpa [Text.pieces, h] using ih
    · obtain ⟨p, ps, hp⟩ := List.exists_cons_of_ne_nil (Text.pieces_ne_nil '.' cs)
      simp only [List.cons_append, Text.pieces, h, if_false, hp, ih]

end Value

end EdgeRig
