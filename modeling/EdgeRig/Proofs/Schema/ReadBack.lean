import EdgeRig.Proofs.Options
import EdgeRig.Proofs.Schema.Reading

/-!
# Reading options back

The options of a simulator are written out by one part of the rig and read under a schema by another.
Cells are written unchecked, so a worker may show options that the schema refuses, or that are read as
another worker.  This file says when they are not.

* `WorkerField.ReadsBack` — a cell is read back from what the options show of it.
* `Worker.ReadsBack` — all cells of a worker are; `Worker.ReadsBack.set` — and stay so when a cell is
  written that is.
* `Worker.ReadsBack.read_options` — then the options as a whole are read as the worker.
* `Configuration.read_options_eq_shown` — the options of a configuration are read as what they show of it;
  `Configuration.read_options` — which is the configuration, unless it has a host and no port.
-/

namespace EdgeRig

/-! ## Cells -/

namespace WorkerField

/-- The cell is read back from what the options show of it: an empty one is not shown. -/
def ReadsBack (f : WorkerField) (c : Cell) : Prop :=
  (c.isEmpty = true → f.absent = .ok c) ∧ (c.isEmpty = false → f.read c.option = .ok c)

variable {f : WorkerField} {α : Type} {r : Reader α} {v : Value}

/-- What is read from nothing is read back. -/
theorem readsBack_empty (h : f.absent = .ok .empty) : f.ReadsBack .empty := ⟨fun _ => h, nofun⟩

/-- Apart from its name, a worker about which nothing is said is read back. -/
theorem readsBack_blank (h : f ≠ .name) : f.ReadsBack (Worker.blank f) := by
  cases f with
  | name => exact absurd rfl h
  | modules => exact ⟨nofun, fun _ => rfl⟩
  | bindings => exact ⟨nofun, fun _ => rfl⟩
  | _ => exact readsBack_empty rfl

theorem checked_eq_ok_iff {c : Cell} : checked r v = .ok c ↔ Reader.Accepts r v ∧ .plain v = c := by
  simp only [checked, Except.map_eq_ok_iff, Reader.Accepts, exists_and_right]

/-- A value that its field accepts is read back. -/
theorem readsBack_of_accepts (hread : f.read = checked r) (hne : v ≠ .null)
    (hv : Reader.Accepts r v) : f.ReadsBack (.plain v) := by
  refine ⟨fun he => absurd (Value.isNull_iff.1 he) hne, fun _ => ?_⟩
  rw [hread]
  exact checked_eq_ok_iff.2 ⟨hv, rfl⟩

/-- An optional value is read back exactly when its field accepts it. -/
theorem readsBack_optional_iff (hread : f.read = checked (Reader.optional r))
    (habsent : f.absent = .ok .empty) :
    f.ReadsBack (.plain v) ↔ v = .null ∨ Reader.Accepts r v := by
  rw [← Reader.accepts_optional]
  by_cases hv : v = .null
  · subst hv
    exact ⟨fun _ => ⟨none, rfl⟩, fun _ => readsBack_empty habsent⟩
  · refine ⟨fun h => ?_, readsBack_of_accepts hread hv⟩
    have hshown : f.read v = .ok (.plain v) :=
      h.2 (Bool.eq_false_iff.2 fun hc => hv (Value.isNull_iff.1 hc))
    rw [hread] at hshown
    exact (checked_eq_ok_iff.1 hshown).1

/-- An asset block is read back from the texts that it has. -/
theorem readsBack_block (b : AssetBlock) : WorkerField.ReadsBack .assets (.block b) := by
  refine ⟨nofun, fun _ => ?_⟩
  obtain ⟨binding, directory⟩ := b
  cases binding <;> cases directory <;> rfl

/-! ### What cells hold that are read back -/

variable {c : Cell}

theorem ReadsBack.plain (h : f.ReadsBack c) (hread : f.read = checked r) :
    ∃ v, c = .plain v ∧ (v = .null ∨ Reader.Accepts r v) := by
  cases he : c.isEmpty with
  | true => exact ⟨.null, Cell.isEmpty_iff.1 he, Or.inl rfl⟩
  | false =>
    have hshown := h.2 he
    rw [hread] at hshown
    obtain ⟨haccepts, hc⟩ := checked_eq_ok_iff.1 hshown
    exact ⟨_, hc.symm, Or.inr haccepts⟩

theorem ReadsBack.text (h : WorkerField.name.ReadsBack c) : ∃ n, c = .plain (.text n) := by
  obtain ⟨v, rfl, rfl | hv⟩ := h.plain rfl
  · cases h.1 rfl
  · obtain ⟨n, rfl⟩ := Reader.accepts_text.1 hv
    exact ⟨n, rfl⟩

theorem ReadsBack.ofText? (h : f.ReadsBack c)
    (hread : f.read = checked (Reader.optional Reader.text)) :
    ∃ o, c = .plain (Value.ofText? o) := by
  obtain ⟨v, rfl, rfl | ⟨o, ho⟩⟩ := h.plain hread
  · exact ⟨none, rfl⟩
  · exact ⟨o, by rw [Reader.optional_text_eq_ok_iff.1 ho]⟩

theorem ReadsBack.bindings (h : WorkerField.serviceBindings.ReadsBack c) : c = .empty ∨
    ∃ m, c = .plain (.map m) ∧ ∀ e ∈ m, (∃ k, e.1 = .text k) ∧ ∃ t, e.2 = .text t := by
  obtain ⟨v, rfl, rfl | hv⟩ := h.plain rfl
  · exact Or.inl rfl
  · rcases Reader.accepts_optional.1 hv with rfl | hv
    · exact Or.inl rfl
    · obtain ⟨m, rfl, hm⟩ := Reader.accepts_mappingOf.1 hv
      exact Or.inr ⟨m, rfl, fun e he => ⟨(hm e he).1, Reader.accepts_text.1 (hm e he).2⟩⟩

theorem ReadsBack.flags (h : WorkerField.compatibilityFlags.ReadsBack c) :
    c = .empty ∨ ∃ vs, c = .plain (.list vs) := by
  obtain ⟨v, rfl, rfl | hv⟩ := h.plain rfl
  · exact Or.inl rfl
  · rcases Reader.accepts_optional.1 hv with rfl | hv
    · exact Or.inl rfl
    · obtain ⟨vs, rfl, -⟩ := Reader.accepts_listOf.1 hv
      exact Or.inr ⟨vs, rfl⟩

theorem ReadsBack.assets (h : WorkerField.assets.ReadsBack c) :
    c = .empty ∨ ∃ b, c = .block b := by
  cases c with
  | block b => exact Or.inr ⟨b, rfl⟩
  | plain v =>
    by_cases hv : v = .null
    · exact Or.inl (by rw [hv])
    · -- What is shown is read as nothing or as a block, and not as a plain value.
      have hshown := h.2 (Bool.eq_false_iff.2 fun hc => hv (Value.isNull_iff.1 hc))
      obtain ⟨o, -, ho⟩ := Except.map_eq_ok_iff.1 hshown
      cases o with
      | none => exact Or.inl ho.symm
      | some b => cases ho

/-- The service bindings of a worker that is read back are texts under texts. -/
theorem readsBack_bindings {m : Mapping}
    (h : ∀ e ∈ m, (∃ k, e.1 = .text k) ∧ ∃ t, e.2 = .text t) :
    WorkerField.serviceBindings.ReadsBack (.plain (.map m)) := by
  refine (readsBack_optional_iff rfl rfl).2 (Or.inr (Reader.accepts_mappingOf.2 ⟨m, rfl, ?_⟩))
  exact fun e he => ⟨(h e he).1, Reader.accepts_text.2 (h e he).2⟩

/-- A text or nothing is read back from a field for optional texts. -/
theorem readsBack_ofText? (hread : f.read = checked (Reader.optional Reader.text))
    (habsent : f.absent = .ok .empty) (o : Option String) :
    f.ReadsBack (.plain (Value.ofText? o)) := by
  refine (readsBack_optional_iff hread habsent).2 ?_
  cases o with
  | none => exact Or.inl rfl
  | some t => exact Or.inr (Reader.accepts_text.2 ⟨t, rfl⟩)

end WorkerField

/-! ## Workers -/

namespace Worker

/-- The worker is read back from its options. -/
structure ReadsBack (w : Worker) : Prop where
  cells : ∀ f : WorkerField, f.ReadsBack (w.cell f)
  /-- The options show no notes. -/
  unnoted : ∀ k, w.note k = none

theorem ReadsBack.set {w : Worker} (h : w.ReadsBack) {f : WorkerField} {c : Cell}
    (hc : f.ReadsBack c) : (w.set f c).ReadsBack where
  cells := by
    intro g
    rw [cell_set]
    split
    · rename_i hg
      rw [hg]
      exact hc
    · exact h.cells g
  unnoted := h.unnoted

theorem readsBack_named (n : String) : (Worker.named n).ReadsBack where
  cells := by
    intro f
    rw [named, cell_set]
    split
    · rename_i hf
      rw [hf]
      exact WorkerField.readsBack_of_accepts rfl nofun (Reader.accepts_text.2 ⟨n, rfl⟩)
    · rename_i hf
      exact WorkerField.readsBack_blank hf
  unnoted := fun _ => rfl

theorem readField_optionEntries {w : Worker} {f : WorkerField} (h : f.ReadsBack (w.cell f)) :
    readField w.optionEntries f = .ok (w.cell f) := by
  unfold readField Reader.field
  cases he : (w.cell f).isEmpty with
  | true =>
    have hname : Mapping.get? w.optionEntries f.optionName = none :=
      get?_optionEntries_eq_none_iff.2 he
    have hentry : Reader.entry? w.optionEntries [f.optionName, f.key] = none := by
      simp only [Reader.entry?, hname, get?_key_optionEntries he]
    rw [hentry]
    exact h.1 he
  | false =>
    have hname : Mapping.get? w.optionEntries f.optionName = some (w.cell f).option := by
      rw [get?_optionEntries, he]
      rfl
    have hentry : Reader.entry? w.optionEntries [f.optionName, f.key] =
        some (f.optionName, (w.cell f).option) := by
      simp only [Reader.entry?, hname]
    rw [hentry]
    exact Reading.within_eq_ok_iff.2 (h.2 he)

/-- **The options of a worker are read as the worker.** -/
theorem ReadsBack.read_options {w : Worker} (h : w.ReadsBack) : Worker.read w.options = .ok w := by
  have hfields : ∀ f, readField w.optionEntries f = .ok (w.cell f) :=
    fun f => readField_optionEntries (h.cells f)
  have hproblems : fieldProblems w.optionEntries = [] := by
    refine List.flatMap_eq_nil_iff.2 fun f _ => ?_
    rw [hfields f]
    rfl
  have hsame : Worker.ofCells w.cell = w := by
    obtain ⟨cell, note⟩ := w
    rw [ofCells, Worker.mk.injEq]
    exact ⟨rfl, funext fun k => (h.unnoted k).symm⟩
  rw [options_eq, Worker.read, Reader.record, Except.ok_bind, hproblems]
  simp only [hfields, hsame]

end Worker

/-! ## Configurations -/

namespace Configuration

variable {c : Configuration}

/-- What is left of a configuration among its options: without a port, the host is not shown. -/
def shown (c : Configuration) : Configuration := if c.listens then c else { c with host := .null }

/-- The host is a text and the port a whole number, where they are given at all. -/
def HasParts (c : Configuration) : Prop :=
  (∃ host : Option String, c.host = Value.ofText? host) ∧
    ∃ port : Option Int, c.port = port.elim .null Value.int

/-- Where a configuration listens: nowhere, or at a text and a whole number. -/
def HasPlace (c : Configuration) : Prop :=
  c.host = .null ∧ c.port = .null ∨ ∃ h n, c.host = .text h ∧ c.port = .int n

theorem listens_eq_false_iff : c.listens = false ↔ c.port = .null := by
  rw [listens, Bool.not_eq_false', Value.isNull_iff]

theorem shown_eq_self_iff : c.shown = c ↔ c.port ≠ .null ∨ c.host = .null := by
  unfold shown
  cases hlistens : c.listens with
  | true =>
    have hport : c.port ≠ .null := fun hc => by simp [listens_eq_false_iff.2 hc] at hlistens
    exact iff_of_true rfl (Or.inl hport)
  | false =>
    obtain ⟨ws, host, port⟩ := c
    have hport : port = .null := listens_eq_false_iff.1 hlistens
    simp [hport, eq_comm]

/-- The options show nothing else. -/
theorem options_shown (c : Configuration) : c.shown.options = c.options := by
  unfold shown
  cases hlistens : c.listens with
  | true => rfl
  | false =>
    have hport : c.port = .null := listens_eq_false_iff.1 hlistens
    simp [options, listens, hport, Value.isNull]

/-- A configuration is read from its three parts. -/
theorem read_map {m : Mapping} {ws : List Worker} (host : Option String) (port : Option Int)
    (hws : Reader.field m ["workers"] (.ok []) (Reader.listOf Worker.read) = .ok ws)
    (hhost : Reader.field m ["host"] (.ok none) (Reader.optional Reader.text) = .ok host)
    (hport : Reader.field m ["port"] (.ok none) (Reader.optional Reader.integer) = .ok port) :
    Configuration.read (.map m) = .ok ⟨ws, Value.ofText? host, port.elim .null Value.int⟩ := by
  rw [Configuration.read, Reader.record, Except.ok_bind, hws, hhost, hport]
  rfl

/-- **The options of a configuration are read as what they show of it.** -/
theorem read_options_eq_shown (hws : ∀ w ∈ c.workers, w.ReadsBack) (hparts : c.HasParts) :
    Configuration.read c.options = .ok c.shown := by
  have hlist : (Reader.listOf Worker.read (.list (c.workers.map Worker.options))).within
      (.field "workers") = .ok c.workers :=
    Reading.within_eq_ok_iff.2 (Reader.listOf_map fun w hw => (hws w hw).read_options)
  obtain ⟨ws, host, port⟩ := c
  obtain ⟨⟨h, hhost⟩, n, hport⟩ := hparts
  cases hhost
  cases hport
  cases n with
  | none => exact read_map none none hlist rfl rfl
  | some n => exact read_map h (some n) hlist (Reading.within_eq_ok_iff.2
      (Reader.optional_text_eq_ok_iff.2 rfl)) rfl

/-- **The options of a configuration that listens, or has no host, are read as the configuration.** -/
theorem read_options (hws : ∀ w ∈ c.workers, w.ReadsBack) (hplace : c.HasPlace) :
    Configuration.read c.options = .ok c := by
  rcases hplace with ⟨hhost, hport⟩ | ⟨h, n, hhost, hport⟩
  · rw [read_options_eq_shown hws ⟨⟨none, hhost⟩, none, hport⟩, shown_eq_self_iff.2 (Or.inr hhost)]
  · have hne : c.port ≠ .null := by
      rw [hport]
      exact nofun
    rw [read_options_eq_shown hws ⟨⟨some h, hhost⟩, some n, hport⟩, shown_eq_self_iff.2 (Or.inl hne)]

end Configuration

end EdgeRig
