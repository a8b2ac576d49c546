import EdgeRig.Worker

/-!
# Cells of workers

What a worker shows after cells were written.

* `Worker.cell_set` — a write shows in its own cell and in no other.
* `Worker.place?_ok` — what a name can stand for; `Worker.key_of_place?` — a place goes by the name that it
  is found under.
* `Worker.cell_of_assign` — a write by name shows in the cell of that name and in no other;
  `Worker.assign_set` — it can be exchanged with a write to another cell.
* `Worker.HasName`, `Worker.HoldsBindings` — the name of a worker, and its service bindings.
* `Worker.AgreesOutside` — two workers that differ in the listed fields at most.
-/

namespace EdgeRig

namespace WorkerField

theorem ofKey?_key (f : WorkerField) : ofKey? f.key = some f := by
  cases f <;> decide

theorem key_of_ofKey? {k : String} {f : WorkerField} (h : ofKey? k = some f) : f.key = k := by
  have hf := List.find?_some h
  exact beq_iff_eq.1 hf

theorem key_injective {f g : WorkerField} (h : f.key = g.key) : f = g := by
  have hf := ofKey?_key f
  rw [h, ofKey?_key g] at hf
  exact (Option.some.inj hf).symm

end WorkerField

theorem Slot.key_of_ofKey? {k : String} {s : Slot} (h : Slot.ofKey? k = some s) : s.key = k := by
  have hs := List.find?_some h
  exact beq_iff_eq.1 hs

theorem Cell.isEmpty_iff {c : Cell} : c.isEmpty = true ↔ c = .empty := by
  cases c with
  | plain v => rw [isEmpty, Value.isNull_iff, Cell.plain.injEq]
  | block b => simp [isEmpty]

namespace Worker

theorem cell_set (w : Worker) (f : WorkerField) (c : Cell) (g : WorkerField) :
    (w.set f c).cell g = if g = f then c else w.cell g := rfl

theorem cell_setText (w : Worker) (f : WorkerField) (s : Option String) (g : WorkerField) :
    (w.setText f s).cell g = if g = f then .plain (Value.ofText? s) else w.cell g := rfl

/-- Writing what a cell holds already changes nothing. -/
theorem set_cell_self (w : Worker) (f : WorkerField) : w.set f (w.cell f) = w := by
  obtain ⟨cell, note⟩ := w
  simp only [set, Worker.mk.injEq, and_true]
  funext g
  by_cases h : g = f
  · rw [if_pos h, h]
  · rw [if_neg h]

theorem set_set (w : Worker) (f : WorkerField) (c d : Cell) : (w.set f c).set f d = w.set f d := by
  simp only [set, Worker.mk.injEq, and_true]
  funext g
  by_cases h : g = f <;> simp [h]

/-! ## Writes by name -/

/-- The name of a place. -/
def Place.key : Place → String
  | field f => f.key
  | note k => k
  | slot s => s.key
  | dictionary => dictionaryKey

theorem place?_key (f : WorkerField) : place? f.key = .ok (.field f) := by
  rw [place?, WorkerField.ofKey?_key]

/-- **What a name can stand for.** -/
theorem place?_ok {key : String} {p : Place} (h : place? key = .ok p) :
    (∃ f : WorkerField, f.key = key ∧ p = .field f) ∨
      isNoteKey key = true ∧
        (p = .dictionary ∧ key = dictionaryKey ∨ (∃ s : Slot, s.key = key ∧ p = .slot s) ∨
          p = .note key) := by
  unfold place? at h
  split at h
  · rename_i f hf
    cases h
    exact Or.inl ⟨f, WorkerField.key_of_ofKey? hf, rfl⟩
  · split at h
    · cases h
    · split at h
      · cases h
      · rename_i hnote
        refine Or.inr ⟨Bool.of_not_eq_false hnote, ?_⟩
        split at h
        · cases h
        · split at h
          · rename_i hdictionary
            cases h
            exact Or.inl ⟨rfl, hdictionary⟩
          · split at h
            · rename_i s hs
              cases h
              exact Or.inr (Or.inl ⟨s, Slot.key_of_ofKey? hs, rfl⟩)
            · cases h
              exact Or.inr (Or.inr rfl)

/-- **A place goes by the name** that it is found under. -/
theorem key_of_place? {key : String} {p : Place} (h : place? key = .ok p) : p.key = key := by
  rcases place?_ok h with ⟨f, hf, rfl⟩ | ⟨-, ⟨rfl, rfl⟩ | ⟨s, hs, rfl⟩ | rfl⟩
  · exact hf
  · rfl
  · exact hs
  · rfl

/-- The name of a note is that of no field. -/
theorem key_ne_of_place? {key k : String} (h : place? key = .ok (.note k)) (f : WorkerField) :
    f.key ≠ key := by
  rintro rfl
  rw [place?_key] at h
  cases h

theorem isNoteKey_of_place? {key k : String} (h : place? key = .ok (.note k)) :
    isNoteKey key = true := by
  rcases place?_ok h with ⟨f, -, hfield⟩ | ⟨hnote, -⟩
  · cases hfield
  · exact hnote

/-- A write by name that ends well is one to a field or to a note. -/
theorem assign_ok {w w' : Worker} {key : String} {v : Value} (h : w.assign key v = .ok w') :
    (∃ f : WorkerField, f.key = key ∧ w' = w.set f (.plain v)) ∨
      (∀ f : WorkerField, f.key ≠ key) ∧ w' = w.setNote key v := by
  unfold assign at h
  split at h
  · cases h
  · split at h
    · rename_i f hp
      cases h
      exact Or.inl ⟨f, key_of_place? hp, rfl⟩
    · rename_i k hp
      cases h
      have hk : k = key := key_of_place? hp
      exact Or.inr ⟨key_ne_of_place? hp, by rw [hk]⟩
    · cases h
    · cases h
    · cases h

theorem assign_key (w : Worker) (f : WorkerField) (v : Value) :
    w.assign f.key v = .ok (w.set f (.plain v)) := by
  have hfield : f.key ∉ wholeKeys := by cases f <;> decide
  rw [assign, if_neg hfield, place?_key]

theorem cell_of_assign {w w' : Worker} {key : String} {v : Value} (h : w.assign key v = .ok w')
    (f : WorkerField) : w'.cell f = if f.key = key then .plain v else w.cell f := by
  rcases assign_ok h with ⟨g, rfl, rfl⟩ | ⟨hne, rfl⟩
  · by_cases hf : f = g
    · rw [cell_set, if_pos hf, if_pos (congrArg WorkerField.key hf)]
    · rw [cell_set, if_neg hf, if_neg fun hc => hf (WorkerField.key_injective hc)]
  · rw [if_neg (hne f)]
    rfl

/-- A write by name and a write to another cell can be exchanged. -/
theorem assign_set (w : Worker) {f : WorkerField} (c : Cell) {key : String} (v : Value)
    (h : f.key ≠ key) : (w.set f c).assign key v = (w.assign key v).map (·.set f c) := by
  unfold assign
  by_cases hwhole : key ∈ wholeKeys
  · rw [if_pos hwhole, if_pos hwhole]
    rfl
  · rw [if_neg hwhole, if_neg hwhole]
    cases hp : place? key with
    | error e => rfl
    | ok p =>
      cases p with
      | field g =>
        have hg : g.key = key := key_of_place? hp
        have hfg : f ≠ g := fun hc => h (by rw [hc, hg])
        exact congrArg Except.ok (set_comm w c (.plain v) hfg)
      | note k => rfl
      | slot s => rfl
      | dictionary => rfl

/-- A plain write leaves plain cells plain. -/
theorem plain_set {w : Worker} {f g : WorkerField} {v : Value} (h : ∃ x, w.cell g = .plain x) :
    ∃ x, (w.set f (.plain v)).cell g = .plain x := by
  by_cases hg : g = f
  · exact ⟨v, if_pos hg⟩
  · rwa [cell_set_of_ne _ _ hg]

/-! ## Names and bindings -/

/-- The worker carries this name. -/
def HasName (w : Worker) (n : String) : Prop := w.cell .name = .plain (.text n)

/-- The service bindings of the worker are these; an empty field holds none. -/
def HoldsBindings (w : Worker) (m : Mapping) : Prop :=
  w.cell .serviceBindings = .empty ∧ m = [] ∨ w.cell .serviceBindings = .plain (.map m)

/-- The worker reaches the worker of name `target` under a binding. -/
def Binds (w : Worker) (binding target : String) : Prop :=
  ∃ m, w.HoldsBindings m ∧ Mapping.get? m binding = some (.text target)

/-- Two workers agree on all fields that are not listed. -/
def AgreesOutside (fs : List WorkerField) (v w : Worker) : Prop := ∀ f, f ∉ fs → v.cell f = w.cell f

theorem HasName.unique {w : Worker} {n m : String} (hn : w.HasName n) (hm : w.HasName m) : n = m := by
  have h : Cell.plain (.text n) = Cell.plain (.text m) := hn.symm.trans hm
  cases h
  rfl

theorem HoldsBindings.unique {w : Worker} {m m' : Mapping} (h : w.HoldsBindings m)
    (h' : w.HoldsBindings m') : m = m' := by
  rcases h with ⟨hc, rfl⟩ | hc <;> rcases h' with ⟨hc', rfl⟩ | hc'
  · rfl
  · cases hc.symm.trans hc'
  · cases hc.symm.trans hc'
  · cases hc.symm.trans hc'
    rfl

theorem binds_iff {w : Worker} {m : Mapping} (h : w.HoldsBindings m) {k t : String} :
    w.Binds k t ↔ Mapping.get? m k = some (.text t) := by
  refine ⟨fun ⟨m', hm', ht⟩ => ?_, fun ht => ⟨m, h, ht⟩⟩
  rwa [hm'.unique h] at ht

theorem isNamed_iff {w : Worker} {n : String} : w.isNamed n = true ↔ w.HasName n := by
  unfold isNamed HasName Cell.text?
  constructor
  · intro h
    split at h
    · rename_i s hs
      rw [hs, Option.some.inj (beq_iff_eq.1 h)]
    · cases beq_iff_eq.1 h
  · intro h
    rw [h]
    exact beq_self_eq_true _

end Worker

end EdgeRig
