import EdgeRig.Proofs.Mapping
import EdgeRig.Proofs.Worker

/-!
# Options of workers

A simulator is told about a worker by its options, a mapping from names of fields to what stands in
them.  Fields that say nothing are left out.

* `WorkerField.optionName_injective`, `WorkerField.eq_of_optionName_eq_key` — no two fields share a
  name, not even the option name of one and the key of the other.
* `Worker.get?_optionEntries` — the options show exactly the fields that are not empty, each under its
  own option name; `Worker.get?_key_optionEntries` — an empty field is not shown under its key either.
* `Configuration.field_workers` — the options of a configuration hold those of its workers.
-/

namespace EdgeRig

namespace WorkerField

/-- The field that an option name stands for. -/
def ofOptionName? (k : String) : Option WorkerField := all.find? fun f => f.optionName == k

theorem ofOptionName?_optionName (f : WorkerField) : ofOptionName? f.optionName = some f := by
  cases f <;> decide

/-- A key is the option name of its own field, or of none. -/
theorem ofOptionName?_key (f : WorkerField) :
    ofOptionName? f.key = some f ∨ ofOptionName? f.key = none := by
  cases f <;> decide

theorem optionName_injective {f g : WorkerField} (h : f.optionName = g.optionName) : f = g := by
  have hf := ofOptionName?_optionName f
  rw [h, ofOptionName?_optionName g] at hf
  exact (Option.some.inj hf).symm

theorem eq_of_optionName_eq_key {f g : WorkerField} (h : f.optionName = g.key) : f = g := by
  have hf := ofOptionName?_optionName f
  rw [h] at hf
  rcases ofOptionName?_key g with hg | hg
  · exact Option.some.inj (hf.symm.trans hg)
  · cases hf.symm.trans hg

end WorkerField

/-! ## Entries by option name -/

section Entries

variable {fs : List WorkerField} {shown : WorkerField → Value}

/-- The values of fields under their option names. -/
def namedEntries (shown : WorkerField → Value) (fs : List WorkerField) : Mapping :=
  fs.map fun f => (.text f.optionName, shown f)

theorem get?_namedEntries_of_ne {k : String} (h : ∀ f ∈ fs, f.optionName ≠ k) :
    Mapping.get? (namedEntries shown fs) k = none := by
  induction fs with
  | nil => rfl
  | cons g fs ih =>
    obtain ⟨hg, hrest⟩ := List.forall_mem_cons.1 h
    have hne : Scalar.text g.optionName ≠ .text k := fun hc => hg (Scalar.text.inj hc)
    rw [namedEntries, List.map_cons, Mapping.get?_cons, if_neg hne]
    exact ih hrest

theorem get?_namedEntries_of_mem {f : WorkerField} (h : f ∈ fs) :
    Mapping.get? (namedEntries shown fs) f.optionName = some (shown f) := by
  induction fs with
  | nil => exact absurd h List.not_mem_nil
  | cons g fs ih =>
    rw [namedEntries, List.map_cons, Mapping.get?_cons]
    by_cases hg : g = f
    · rw [if_pos (by rw [hg]), hg]
    · have hne : Scalar.text g.optionName ≠ .text f.optionName := by
        intro hc
        exact hg (WorkerField.optionName_injective (Scalar.text.inj hc))
      rw [if_neg hne]
      exact ih ((List.mem_cons.1 h).resolve_left (Ne.symm hg))

end Entries

namespace Worker

/-- The entries of the options of a worker. -/
def optionEntries (w : Worker) : Mapping :=
  namedEntries (fun f => (w.cell f).option) (WorkerField.all.filter fun f => !(w.cell f).isEmpty)

theorem options_eq (w : Worker) : w.options = .map w.optionEntries := by
  simp [options, optionEntries, namedEntries, Value.record]

/-- **The options show the fields that are not empty.** -/
theorem get?_optionEntries (w : Worker) (f : WorkerField) :
    Mapping.get? w.optionEntries f.optionName =
      if (w.cell f).isEmpty then none else some (w.cell f).option := by
  by_cases h : (w.cell f).isEmpty = true
  · rw [if_pos h]
    refine get?_namedEntries_of_ne fun g hg hc => ?_
    rw [WorkerField.optionName_injective hc] at hg
    simpa [h] using (List.mem_filter.1 hg).2
  · rw [if_neg h]
    refine get?_namedEntries_of_mem (List.mem_filter.2 ⟨WorkerField.mem_all f, ?_⟩)
    simpa using h

/-- The options leave out exactly the fields that are empty. -/
theorem get?_optionEntries_eq_none_iff {w : Worker} {f : WorkerField} :
    Mapping.get? w.optionEntries f.optionName = none ↔ (w.cell f).isEmpty = true := by
  rw [get?_optionEntries]
  cases (w.cell f).isEmpty <;> simp

/-- The options show a text exactly where one stands. -/
theorem get?_optionEntries_text {w : Worker} {f : WorkerField} {t : String} :
    Mapping.get? w.optionEntries f.optionName = some (.text t) ↔ w.cell f = .plain (.text t) := by
  rw [get?_optionEntries]
  cases w.cell f with
  | block b => simp [Cell.isEmpty, Cell.option, Value.record]
  | plain v =>
    by_cases hv : v = .null
    · simp [hv, Cell.isEmpty, Value.isNull]
    · have hfull : (Cell.plain v).isEmpty = false :=
        Bool.eq_false_iff.2 fun hc => hv (Value.isNull_iff.1 hc)
      simp [hfull, Cell.option]

/-- The options show a text, or nothing, where the worker has one. -/
theorem get?_optionEntries_ofText? {w : Worker} {f : WorkerField} {t : Option String}
    (h : w.cell f = .plain (Value.ofText? t)) :
    Mapping.get? w.optionEntries f.optionName = t.map Value.text := by
  cases t with
  | none => exact get?_optionEntries_eq_none_iff.2 (Cell.isEmpty_iff.2 h)
  | some t => exact get?_optionEntries_text.2 h

/-- A field that is not empty is shown, and not as nothing. -/
theorem exists_get?_optionEntries {w : Worker} {f : WorkerField} (h : (w.cell f).isEmpty = false) :
    ∃ v, v ≠ .null ∧ Mapping.get? w.optionEntries f.optionName = some v := by
  refine ⟨(w.cell f).option, fun hnull => ?_, by rw [get?_optionEntries, h]; rfl⟩
  cases hc : w.cell f with
  | block b =>
    rw [hc] at hnull
    cases hnull
  | plain v =>
    rw [hc] at h hnull
    exact Bool.false_ne_true (h.symm.trans (Value.isNull_iff.2 hnull))

/-- A field that is empty is not shown under its key either. -/
theorem get?_key_optionEntries {w : Worker} {f : WorkerField} (h : (w.cell f).isEmpty = true) :
    Mapping.get? w.optionEntries f.key = none := by
  refine get?_namedEntries_of_ne fun g hg hc => ?_
  rw [WorkerField.eq_of_optionName_eq_key hc] at hg
  simpa [h] using (List.mem_filter.1 hg).2

end Worker

/-- The options of a configuration hold those of its workers, in order. -/
theorem Configuration.field_workers (c : Configuration) :
    c.options.field "workers" = .ok (.list ((c.workers.map Worker.optionEntries).map .map)) := by
  have hws : c.workers.map Worker.options = (c.workers.map Worker.optionEntries).map .map := by
    rw [List.map_map]
    exact List.map_congr_left fun w _ => w.options_eq
  rw [← hws]
  rfl

end EdgeRig
