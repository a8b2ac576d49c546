import EdgeRig.Proofs.Compile.Primary
import EdgeRig.Proofs.Compile.Shape
import EdgeRig.Proofs.Mapping
import EdgeRig.Proofs.Schema.ReadBack

/-!
# Rules and shapes

A rule writes into its target whatever it makes of a descriptor, unchecked.  If the descriptor says under
the source of the rule what it is documented to say, then the rule does not fail, and its target fits
the schema of the options.

* `Rule.Suits` — a rule makes something of a descriptor that its target is read back from;
  `Rule.applyAll_of_suits` — such rules can be applied one after another.
* `Rule.suits_direct`, `Rule.suits_nameList`, `Rule.suits_keyed` — which rules do, one lemma for each
  kind.
* `Rule.suits_table` — the rules of the compiler suit every well-shaped descriptor.
-/

namespace EdgeRig

open Descriptor

variable {d : Value}

namespace Rule

/-- The rule makes nothing of the descriptor, or something that its target is read back from. -/
def Suits (d : Value) (r : Rule) : Prop :=
  ∃ f : WorkerField, r.target = f.key ∧
    ∃ o, r.outcome d = .ok o ∧ ∀ v, o = some v → f.ReadsBack (.plain v)

/-- **A rule that suits a descriptor can be applied**, to any worker that is read back. -/
theorem Suits.apply {r : Rule} {w : Worker} (h : r.Suits d) (hw : w.ReadsBack) :
    ∃ p, r.apply d w = .ok p ∧ p.1.ReadsBack := by
  obtain ⟨f, htarget, o, ho, hback⟩ := h
  rw [Rule.apply_eq, ho]
  cases o with
  | none => exact ⟨_, rfl, hw⟩
  | some v =>
    dsimp only
    rw [htarget, Worker.assign_key]
    exact ⟨_, rfl, hw.set (hback v rfl)⟩

theorem applyAll_of_suits {rs : List Rule} {w : Worker} (h : ∀ r ∈ rs, r.Suits d)
    (hw : w.ReadsBack) : ∃ w', applyAll rs d w = .ok w' ∧ w'.ReadsBack := by
  induction rs generalizing w with
  | nil => exact ⟨w, rfl, hw⟩
  | cons r rs ih =>
    obtain ⟨hr, hrs⟩ := List.forall_mem_cons.1 h
    obtain ⟨p, hp, hback⟩ := hr.apply hw
    obtain ⟨w', hw', hback'⟩ := ih hrs hback
    exact ⟨w', by rw [applyAll_cons, hp, Except.ok_bind, hw'], hback'⟩

variable {f : WorkerField} {source : String}

theorem suits_direct (h : ∀ v, d.lookup source = some v → f.ReadsBack (.plain v)) :
    (direct source f.key).Suits d := by
  refine ⟨f, rfl, ?_⟩
  simp only [outcome, Rule.source]
  cases hv : d.lookup source with
  | none => exact ⟨none, rfl, fun _ hu => by cases hu⟩
  | some v =>
    refine ⟨some v, rfl, fun u hu => ?_⟩
    cases hu
    exact h v hv

theorem suits_nameList
    (hread : f.read = WorkerField.checked (Reader.optional (Reader.listOf Reader.text)))
    (habsent : f.absent = .ok .empty)
    (h : ∀ v, d.lookup source = some v → (Shape.entries ["binding"]).accepts v = true) :
    (nameList source f.key).Suits d := by
  refine ⟨f, rfl, ?_⟩
  simp only [outcome, Rule.source]
  cases hv : d.lookup source with
  | none => exact ⟨none, rfl, fun _ hu => by cases hu⟩
  | some v =>
    dsimp only
    split
    · obtain ⟨entries, rfl, hentries⟩ := Shape.exists_entries_of_accepts (h v hv)
      obtain ⟨names, hnames, htexts⟩ : ∃ names, bindingNames entries = .ok names ∧
          ∀ u ∈ names, ∃ t, u = .text t := by
        refine Except.mapM_total fun e he => ?_
        obtain ⟨t, ht⟩ := hentries e he "binding" (List.mem_singleton_self _)
        exact ⟨_, ht, t, rfl⟩
      refine ⟨some (.list names), ?_, fun u hu => ?_⟩
      · exact Except.bind_eq_ok_iff.2 ⟨entries, rfl, Except.bind_eq_ok_iff.2 ⟨names, hnames, rfl⟩⟩
      · cases hu
        refine (WorkerField.readsBack_optional_iff hread habsent).2 (Or.inr ?_)
        exact Reader.accepts_listOf.2 ⟨names, rfl, fun u hu => Reader.accepts_text.2 (htexts u hu)⟩
    · exact ⟨none, rfl, fun _ hu => by cases hu⟩

/-- From a mapping that has a text under the key field, an entry is made. -/
theorem addEntry_total {keyField : String} (value : EntryValue) (m : Mapping) {e : Value} {t : String}
    (he : e.field keyField = .ok (.text t)) :
    ∃ v, addEntry keyField value m e = .ok (Mapping.put m (.text t) v) := by
  obtain ⟨v, hv⟩ : ∃ v, value.take e = .ok v := by
    cases value with
    | fixed v => exact ⟨v, rfl⟩
    | field name =>
      cases e with
      | map m => exact ⟨_, rfl⟩
      | scalar s => cases he
      | list vs => cases he
  exact ⟨v, by rw [addEntry, hv, Except.ok_bind, he]; rfl⟩

theorem suits_keyed {keyField : String} {value : EntryValue}
    (hread : f.read = WorkerField.checked (Reader.optional (Reader.mappingOf Reader.any)))
    (habsent : f.absent = .ok .empty)
    (h : ∀ v, d.lookup source = some v → (Shape.entries [keyField]).accepts v = true) :
    (keyed source f.key keyField value).Suits d := by
  refine ⟨f, rfl, ?_⟩
  simp only [outcome, Rule.source]
  cases hv : d.lookup source with
  | none => exact ⟨none, rfl, fun _ hu => by cases hu⟩
  | some v =>
    obtain ⟨entries, rfl, hentries⟩ := Shape.exists_entries_of_accepts (h v hv)
    obtain ⟨m, hm, hkeys⟩ : ∃ m, mappingOf keyField value entries = .ok m ∧
        ∀ e ∈ m, (∃ k, e.1 = .text k) ∧ True := by
      refine Except.foldlM_total (fun e he m hm => ?_) fun _ he => absurd he List.not_mem_nil
      obtain ⟨t, ht⟩ := hentries e he keyField (List.mem_singleton_self _)
      obtain ⟨v, hv⟩ := addEntry_total value m ht
      exact ⟨_, hv, Mapping.forall_put (K := fun k => ∃ t, k = .text t) (V := fun _ => True) hm
        ⟨t, rfl⟩ trivial⟩
    refine ⟨some (.map m), ?_, fun u hu => ?_⟩
    · exact Except.bind_eq_ok_iff.2 ⟨m, hm, rfl⟩
    · cases hu
      refine (WorkerField.readsBack_optional_iff hread habsent).2 (Or.inr ?_)
      exact Reader.accepts_mappingOf.2 ⟨m, rfl, fun e he => ⟨(hkeys e he).1, Reader.accepts_any e.2⟩⟩

/-- **The rules of the compiler suit well-shaped descriptors.** -/
theorem suits_table (hd : isWellShaped d = true) : ∀ r ∈ table, r.Suits d := by
  have hshape : ∀ name shape, (name, shape) ∈ documented → ∀ v, d.lookup name = some v →
      shape.accepts v = true := fun _ _ hname v hv => accepts_of_isWellShaped hd hname hv
  have hmain : (direct "main" WorkerField.scriptPath.key).Suits d := by
    refine suits_direct fun v hv => ?_
    obtain ⟨t, rfl⟩ := Value.isText_iff.1 (hshape "main" .text (by simp [documented]) v hv)
    exact WorkerField.readsBack_ofText? rfl rfl (some t)
  have hflags : (direct "compatibility_flags" WorkerField.compatibilityFlags.key).Suits d := by
    refine suits_direct fun v hv => ?_
    obtain ⟨vs, rfl, htexts⟩ := Shape.exists_texts_of_accepts
      (hshape "compatibility_flags" .texts (by simp [documented]) v hv)
    refine (WorkerField.readsBack_optional_iff rfl rfl).2 (Or.inr ?_)
    exact Reader.accepts_listOf.2 ⟨vs, rfl, fun u hu => Reader.accepts_text.2 (htexts u hu)⟩
  have hdate : (direct "compatibility_date" WorkerField.compatibilityDate.key).Suits d := by
    refine suits_direct fun v _ => ?_
    by_cases hv : v = .null
    · rw [hv]
      exact WorkerField.readsBack_empty rfl
    · exact WorkerField.readsBack_of_accepts rfl hv (Reader.accepts_any v)
  simp only [table, List.forall_mem_cons]
  refine ⟨hmain, hdate, hflags, ?_, ?_, ?_, ?_, ?_, ?_, nofun⟩
  · exact suits_nameList (f := .kvNamespaces) rfl rfl (hshape _ _ (by simp [documented]))
  · exact suits_nameList (f := .r2Buckets) rfl rfl (hshape _ _ (by simp [documented]))
  · exact suits_keyed (f := .queueProducers) rfl rfl (hshape _ _ (by simp [documented]))
  · exact suits_keyed (f := .queueConsumers) rfl rfl (hshape _ _ (by simp [documented]))
  · exact suits_keyed (f := .d1Databases) rfl rfl (hshape _ _ (by simp [documented]))
  · exact suits_keyed (f := .durableObjects) rfl rfl (hshape _ _ (by simp [documented]))

end Rule

end EdgeRig
