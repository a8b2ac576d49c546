import Mathlib.Data.List.Forall2
import EdgeRig.Proofs.Schema.ReadBack

/-!
# Reading, showing, and reading again

A configuration that a schema accepts is shown as options, and options can be read again.  Showing leaves
out what is empty and renames what is left; reading takes either name and fills in what is missing.  This
file says that the two undo each other, but for a host without a port, which no options show.

* `WorkerField.readsBack_of_read` — whatever a field is read as can be read back, and is empty exactly
  when nothing was given.
* `Worker.readsBack_of_read` — so a worker that was read can be read back; `Worker.Follows` — its options
  show the fields that its record speaks of, and no others.
* `Configuration.workers_of_field` — the workers of a configuration are read from the records of a list.
* `Configuration.round_trip_of_read` — the whole, for every value that is read as a configuration.
-/

namespace EdgeRig

/-! ## Lists -/

theorem Reading.forall₂_of_all {α : Type} {xs : List (Reading α)} {as : List α}
    (h : Reading.all xs = .ok as) : List.Forall₂ (fun x a => x = .ok a) xs as := by
  induction xs generalizing as with
  | nil =>
    cases h
    exact .nil
  | cons x xs ih =>
    obtain ⟨p, hp, rfl⟩ := Except.map_eq_ok_iff.1 h
    obtain ⟨hx, hxs⟩ := Reading.both_eq_ok_iff.1 hp
    exact .cons hx (ih hxs)

/-- A list is read element by element. -/
theorem Reader.forall₂_of_listOf {α : Type} {r : Reader α} {v : Value} {as : List α}
    (h : Reader.listOf r v = .ok as) :
    ∃ vs, v = .list vs ∧ List.Forall₂ (fun u a => r u = .ok a) vs as := by
  have hitems : ∀ (vs : List Value) (i : Nat) (as : List α),
      List.Forall₂ (fun x a => x = .ok a) (Reader.items r i vs) as →
        List.Forall₂ (fun u a => r u = .ok a) vs as := by
    intro vs
    induction vs with
    | nil =>
      intro i as hall
      cases hall
      exact .nil
    | cons u vs ih =>
      intro i as hall
      cases hall with
      | cons hu hrest => exact .cons (Reading.within_eq_ok_iff.1 hu) (ih _ _ hrest)
  unfold Reader.listOf at h
  split at h
  · rename_i vs
    exact ⟨vs, rfl, hitems vs 0 as (Reading.forall₂_of_all h)⟩
  · cases h

theorem Reader.record_eq_ok_iff {schema : Schema} {v : Value} {m : Mapping} :
    Reader.record schema v = .ok m ↔ v = .map m := by
  cases v <;> simp [Reader.record, Reading.refuse]

theorem Reader.optional_eq_none_iff {α : Type} {r : Reader α} {v : Value} :
    Reader.optional r v = .ok none ↔ v = .null := by
  unfold Reader.optional
  rw [← Value.isNull_iff]
  cases v.isNull with
  | true => exact iff_of_true rfl rfl
  | false =>
    refine iff_of_false (fun h => ?_) nofun
    obtain ⟨a, -, ha⟩ := Except.map_eq_ok_iff.1 h
    cases ha

/-! ## Fields -/

namespace WorkerField

variable {f : WorkerField} {α : Type} {r : Reader α} {v : Value} {c : Cell}

/-- Every field gives a reason for the values that it refuses. -/
theorem explains_read (f : WorkerField) : f.read.Explains := by
  have htext := Reader.explains_text
  intro v
  cases f with
  | name => exact (htext v).map _
  | modules => exact (Reader.explains_truth v).map _
  | assets => exact (AssetBlock.explains_read.optional v).map _
  | bindings => exact (Reader.explains_any.mappingOf v).map _
  | script | scriptPath | sitePath => exact (htext.optional v).map _
  | kvNamespaces | r2Buckets | compatibilityFlags => exact (htext.listOf.optional v).map _
  | d1Databases | durableObjects | queueProducers | queueConsumers =>
    exact (Reader.explains_any.mappingOf.optional v).map _
  | serviceBindings => exact (htext.mappingOf.optional v).map _
  | compatibilityDate => exact (Reader.explains_any v).map _

/-- A value that its field keeps is read back, if nothing at all is kept where it may be left out only. -/
theorem readsBack_of_checked (hread : f.read = checked r)
    (hnull : Reader.Accepts r .null → f.absent = .ok .empty) (h : f.read v = .ok c) :
    f.ReadsBack c := by
  rw [hread] at h
  obtain ⟨hv, rfl⟩ := checked_eq_ok_iff.1 h
  by_cases hn : v = .null
  · subst hn
    exact readsBack_empty (hnull hv)
  · exact readsBack_of_accepts hread hn hv

/-- **Whatever a field is read as can be read back.** -/
theorem readsBack_of_read (h : f.read v = .ok c) : f.ReadsBack c := by
  cases f with
  | name =>
    refine readsBack_of_checked rfl (fun hnull => ?_) h
    obtain ⟨t, ht⟩ := Reader.accepts_text.1 hnull
    cases ht
  | modules =>
    obtain ⟨b, -, rfl⟩ := Except.map_eq_ok_iff.1 h
    exact ⟨nofun, fun _ => rfl⟩
  | bindings =>
    refine readsBack_of_checked rfl (fun hnull => ?_) h
    obtain ⟨m, hm, -⟩ := Reader.accepts_mappingOf.1 hnull
    cases hm
  | assets =>
    obtain ⟨o, -, rfl⟩ := Except.map_eq_ok_iff.1 h
    cases o with
    | none => exact readsBack_empty rfl
    | some b => exact readsBack_block b
  | _ => exact readsBack_of_checked rfl (fun _ => rfl) h

/-- So can what stands for a field that is not given. -/
theorem readsBack_of_absent (h : f.absent = .ok c) : f.ReadsBack c := by
  cases f with
  | name => cases h
  | _ =>
    cases h
    exact readsBack_blank nofun

theorem eq_blank_of_absent (h : f.absent = .ok c) : c = Worker.blank f := by
  cases f with
  | name => cases h
  | _ =>
    cases h
    rfl

/-- A field that keeps its value is empty exactly when it was given nothing. -/
theorem isEmpty_of_checked (hread : f.read = checked r)
    (hnull : Reader.Accepts r .null → (Worker.blank f).isEmpty = true) (h : f.read v = .ok c) :
    c.isEmpty = true ↔ (Worker.blank f).isEmpty = true ∧ v = .null := by
  rw [hread] at h
  obtain ⟨hv, rfl⟩ := checked_eq_ok_iff.1 h
  rw [Cell.isEmpty_iff, Cell.plain.injEq]
  refine ⟨fun hn => ⟨hnull (hn ▸ hv), hn⟩, fun hn => hn.2⟩

/-- **A field is empty exactly when it was given nothing** and nothing stands for it otherwise. -/
theorem isEmpty_of_read (h : f.read v = .ok c) :
    c.isEmpty = true ↔ (Worker.blank f).isEmpty = true ∧ v = .null := by
  cases f with
  | modules =>
    obtain ⟨b, -, rfl⟩ := Except.map_eq_ok_iff.1 h
    exact iff_of_false nofun fun hc => nomatch hc.1
  | bindings =>
    refine isEmpty_of_checked rfl (fun hnull => ?_) h
    obtain ⟨m, hm, -⟩ := Reader.accepts_mappingOf.1 hnull
    cases hm
  | assets =>
    obtain ⟨o, ho, rfl⟩ := Except.map_eq_ok_iff.1 h
    cases o with
    | none => exact iff_of_true rfl ⟨rfl, Reader.optional_eq_none_iff.1 ho⟩
    | some b =>
      refine iff_of_false nofun fun hc => ?_
      cases ho.symm.trans (Reader.optional_eq_none_iff.2 hc.2)
  | _ => exact isEmpty_of_checked rfl (fun _ => rfl) h

/-- Apart from the truth value and the asset block, a field holds the value that it was given. -/
theorem eq_plain_of_read (hm : f ≠ .modules) (ha : f ≠ .assets) (h : f.read v = .ok c) :
    c = .plain v := by
  cases f with
  | modules => exact absurd rfl hm
  | assets => exact absurd rfl ha
  | _ => exact (checked_eq_ok_iff.1 h).2.symm

end WorkerField

/-! ## Workers -/

namespace Worker

variable {m : Mapping} {f : WorkerField} {w : Worker}

/-- What a record says about a field, under the first of its two names that it has. -/
def given? (m : Mapping) (f : WorkerField) : Option Value :=
  (Reader.entry? m [f.optionName, f.key]).map (·.2)

theorem readField_ok {c : Cell} (h : readField m f = .ok c) :
    given? m f = none ∧ f.absent = .ok c ∨ ∃ v, given? m f = some v ∧ f.read v = .ok c := by
  unfold readField Reader.field at h
  unfold given?
  cases he : Reader.entry? m [f.optionName, f.key] with
  | none =>
    rw [he] at h
    exact Or.inl ⟨rfl, h⟩
  | some e =>
    rw [he] at h
    exact Or.inr ⟨e.2, rfl, Reading.within_eq_ok_iff.1 h⟩

/-- Every field that is refused is refused for a reason. -/
theorem explained_readField (m : Mapping) (f : WorkerField) : (readField m f).Explained := by
  refine Reader.explained_field ?_ f.explains_read
  cases f with
  | name => exact (Reading.explained_refuse _).within _
  | _ => exact Reading.explained_ok _

/-- A worker is read field by field. -/
theorem read_ok {v : Value} (h : Worker.read v = .ok w) :
    ∃ m, v = .map m ∧ (∀ f, readField m f = .ok (w.cell f)) ∧ ∀ k, w.note k = none := by
  obtain ⟨m, hm, h⟩ := Except.bind_eq_ok_iff.1 h
  refine ⟨m, Reader.record_eq_ok_iff.1 hm, ?_⟩
  split at h
  · rename_i hnone
    cases h
    refine ⟨fun f => ?_, fun _ => rfl⟩
    obtain ⟨c, hc⟩ := explained_readField m f
      (List.flatMap_eq_nil_iff.1 hnone f (WorkerField.mem_all f))
    simp only [ofCells, hc]
  · cases h

/-- **A worker that was read can be read back.** -/
theorem readsBack_of_read {v : Value} (h : Worker.read v = .ok w) : w.ReadsBack := by
  obtain ⟨m, -, hfields, hnote⟩ := read_ok h
  refine ⟨fun f => ?_, hnote⟩
  rcases readField_ok (hfields f) with ⟨-, habsent⟩ | ⟨u, -, hu⟩
  · exact WorkerField.readsBack_of_absent habsent
  · exact WorkerField.readsBack_of_read hu

/-- The options of a worker show what a record says: they leave out exactly the fields that the record
says nothing of, unless something stands for them otherwise. -/
structure Follows (m : Mapping) (w : Worker) : Prop where
  leftOut : ∀ f : WorkerField, Mapping.get? w.optionEntries f.optionName = none ↔
    (blank f).isEmpty = true ∧ ∀ v, given? m f = some v → v = .null
  /-- A truth value may be written in other ways, and an asset block may have entries that are no
  fields; all other values are shown as they are given. -/
  kept : ∀ f : WorkerField, f ≠ .modules → f ≠ .assets → ∀ v, given? m f = some v → v ≠ .null →
    Mapping.get? w.optionEntries f.optionName = some v

/-- **The options of a worker show what it was read from**, under whichever names. -/
theorem follows_of_read (h : Worker.read (.map m) = .ok w) : w.Follows m := by
  obtain ⟨_, hm, hfields, -⟩ := read_ok h
  cases hm
  constructor
  · intro f
    rw [get?_optionEntries_eq_none_iff]
    rcases readField_ok (hfields f) with ⟨hnone, habsent⟩ | ⟨u, hu, hread⟩
    · rw [WorkerField.eq_blank_of_absent habsent, hnone]
      exact ⟨fun hb => ⟨hb, nofun⟩, fun hb => hb.1⟩
    · rw [WorkerField.isEmpty_of_read hread, hu]
      simp only [Option.some.injEq, forall_eq']
  · intro f hmod hassets v hv hne
    rcases readField_ok (hfields f) with ⟨hnone, -⟩ | ⟨u, hu, hread⟩
    · cases hnone.symm.trans hv
    · cases hu.symm.trans hv
      have hcell : w.cell f = .plain v := WorkerField.eq_plain_of_read hmod hassets hread
      have hfull : (w.cell f).isEmpty = false := by
        rw [hcell]
        exact Bool.eq_false_iff.2 fun hc => hne (Value.isNull_iff.1 hc)
      rw [get?_optionEntries, hfull, hcell]
      rfl

end Worker

/-! ## Configurations -/

namespace Configuration

variable {c : Configuration} {v : Value}

theorem read_ok (h : Configuration.read v = .ok c) : c.HasParts ∧ ∃ m, v = .map m ∧
    Reader.field m ["workers"] (.ok []) (Reader.listOf Worker.read) = .ok c.workers := by
  obtain ⟨m, hm, h⟩ := Except.bind_eq_ok_iff.1 h
  have hv : v = .map m := Reader.record_eq_ok_iff.1 hm
  obtain ⟨⟨ws, host, port⟩, hp, rfl⟩ := Except.map_eq_ok_iff.1 h
  exact ⟨⟨⟨host, rfl⟩, port, rfl⟩, m, hv, (Reading.both_eq_ok_iff.1 hp).1⟩

/-- The workers of a configuration are read from the records of a list, one by one. -/
theorem workers_of_field {m : Mapping} {ws : List Worker}
    (h : Reader.field m ["workers"] (.ok []) (Reader.listOf Worker.read) = .ok ws) :
    ∃ vs, (Mapping.get? m "workers").getD (.list []) = .list vs ∧
      List.Forall₂ (fun u w => Worker.read u = .ok w) vs ws := by
  unfold Reader.field at h
  simp only [Reader.entry?] at h
  cases hw : Mapping.get? m "workers" with
  | none =>
    rw [hw] at h
    cases h
    exact ⟨[], rfl, .nil⟩
  | some u =>
    rw [hw] at h
    exact Reader.forall₂_of_listOf (Reading.within_eq_ok_iff.1 h)

/-- **What was read is shown, and what is shown is read.**  For every value that is read as a
configuration: each of its workers is read from the options of that worker; the options of the whole are
read as the configuration exactly when it has a port or no host; in any case they are read, and what they
are read as has the same options.  And nothing is lost on the way in: the options of each worker show what
the record says that it was read from. -/
theorem round_trip_of_read (h : Configuration.read v = .ok c) :
    (∀ w ∈ c.workers, Worker.read w.options = .ok w) ∧
      (Configuration.read c.options = .ok c ↔ c.port ≠ .null ∨ c.host = .null) ∧
      (∃ d, Configuration.read c.options = .ok d ∧ d.options = c.options) ∧
      ∃ m vs, v = .map m ∧ (Mapping.get? m "workers").getD (.list []) = .list vs ∧
        List.Forall₂ (fun u w => ∃ r, u = .map r ∧ w.Follows r) vs c.workers := by
  obtain ⟨hparts, m, hm, hws⟩ := read_ok h
  obtain ⟨vs, hvs, hall⟩ := workers_of_field hws
  have hback : ∀ w ∈ c.workers, w.ReadsBack := by
    intro w hw
    obtain ⟨i, hi, rfl⟩ := List.getElem_of_mem hw
    exact Worker.readsBack_of_read (hall.get (hall.length_eq ▸ hi) hi)
  have hread : Configuration.read c.options = .ok c.shown := read_options_eq_shown hback hparts
  refine ⟨fun w hw => (hback w hw).read_options, ?_, ⟨c.shown, hread, options_shown c⟩,
    m, vs, hm, hvs, hall.imp fun u w hu => ?_⟩
  · rw [hread, Except.ok.injEq, shown_eq_self_iff]
  · obtain ⟨r, rfl, -⟩ := Worker.read_ok hu
    exact ⟨r, rfl, Worker.follows_of_read hu⟩

/-- A host without a port, and a worker that is given under names of both kinds: an asset block without
entries, lists and mappings without elements, nothing under a binding, and nothing for a field. -/
def sparseValue : Value :=
  Value.record
    [("host", .text "0.0.0.0"),
     ("workers", .list
       [Value.record
         [("name", .text "main"), ("script_path", .text "w.js"), ("modules", .int 1),
          ("assets", Value.record [("binding", .null), ("directory", .null)]),
          ("bindings", Value.record [("FLAG", .null)]), ("kv_namespaces", .list []),
          ("d1Databases", .map []), ("queueConsumers", Value.record [("jobs", .map [])]),
          ("sitePath", .null)]])]

theorem round_trip_of_sparseValue :
    ∃ c, Configuration.read sparseValue = .ok c ∧ (∀ w ∈ c.workers, Worker.read w.options = .ok w) ∧
      Configuration.read c.options ≠ .ok c ∧
      (∃ d, Configuration.read c.options = .ok d ∧ d.options = c.options) ∧
      ∃ w ∈ c.workers, Mapping.get? w.optionEntries "assets" = some (.map []) := by
  have hrun : (Configuration.read sparseValue).map (fun c => (c.host, c.port,
      c.workers.map fun w => Mapping.get? w.optionEntries "assets")) =
        .ok (.text "0.0.0.0", .null, [some (.map [])]) := by
    decide +kernel
  obtain ⟨c, hc, hseen⟩ := Except.map_eq_ok_iff.1 hrun
  simp only [Prod.mk.injEq] at hseen
  obtain ⟨hhost, hport, hassets⟩ := hseen
  obtain ⟨hworkers, hself, hagain, -⟩ := round_trip_of_read hc
  refine ⟨c, hc, hworkers, fun hcontra => ?_, hagain, List.mem_map.1 (by rw [hassets]; simp)⟩
  rcases hself.1 hcontra with hne | hnull
  · exact hne hport
  · cases hhost.symm.trans hnull

end Configuration

end EdgeRig
