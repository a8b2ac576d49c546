import Mathlib.Data.List.Induction
import EdgeRig.Proofs.Rig.Entries
import EdgeRig.Proofs.Rig.Run

/-!
# What a context says about listening

Two entries of a context say whether a rig listens: a flag, and the URL to listen at.  Every setup that
gets under way resets the flag, but only one that listens writes a URL, and only a teardown takes it away.

* `Rig.Step.Listens`, `Rig.Step.Silences` — a step writes the URL that it listens at, or resets the flag
  and writes none; `Rig.bearing_apply` says what each step does to the two entries.
* `Rig.Since` — something happened in a run, and every step since has a property.
* `Rig.hasUrl_after_iff` — the URL stands in the context exactly when some setup since the last teardown
  listened.
* `Rig.agrees_after_iff` — the flag is never true without a URL; and the two agree unless a setup fell
  silent after another one listened, with no teardown between them.
-/

namespace EdgeRig

namespace Context

/-- The flag says that the rig listens. -/
def SaysListening (c : Context) : Prop := c.get? RigKey.isListening.text = some (.plain (.bool true))

/-- A URL to listen at stands in the context. -/
def HasUrl (c : Context) : Prop := c.get? RigKey.baseUrl.text ≠ none

instance (c : Context) : Decidable c.HasUrl := decidable_of_iff _ Option.isSome_iff_ne_none

instance (c : Context) : Decidable c.SaysListening :=
  match h : c.get? RigKey.isListening.text with
  | some (.plain v) => decidable_of_iff (v = .bool true) (by simp [SaysListening, h])
  | some (.simulator _) | some (.fetcher _) | none => isFalse (by simp [SaysListening, h])

/-- A flag that is reset does not say that the rig listens. -/
theorem not_saysListening {c : Context}
    (h : c.get? RigKey.isListening.text = some (.plain (.bool false))) : ¬ c.SaysListening := by
  rw [SaysListening, h]
  intro hc
  cases hc

theorem hasUrl_of_get? {c : Context} {e : ContextEntry}
    (h : c.get? RigKey.baseUrl.text = some e) : c.HasUrl := by
  rw [HasUrl, h]
  exact Option.some_ne_none e

end Context

/-! ## Setups -/

namespace Setup

/-- The attempt gets under way: it writes that nothing listens yet. -/
def Attempt.Starts (a : Attempt) : Prop := silent ∈ a.writes

/-- The attempt writes the URL that it listens at. -/
def Attempt.ListensAt (a : Attempt) (url : String) : Prop :=
  (RigKey.baseUrl, Entry.plain (.text url)) ∈ a.writes

/-- **What a setup says about listening.**  It stops before its first entry, or resets the flag and
leaves the URL of the context alone, or writes both. -/
theorem listening_writes (around : Surroundings) (r : SetupRequest) (n : Nat) (c : Context) :
    (attempt around r).writes = [] ∨
      ((attempt around r).Starts ∧ (∀ url, ¬ (attempt around r).ListensAt url) ∧
        (Rig.writeAll n c (attempt around r).writes).get? RigKey.isListening.text =
          some (.plain (.bool false)) ∧
        (Rig.writeAll n c (attempt around r).writes).get? RigKey.baseUrl.text =
          c.get? RigKey.baseUrl.text) ∨
      ∃ url, (attempt around r).ListensAt url ∧
        (Rig.writeAll n c (attempt around r).writes).get? RigKey.isListening.text =
          some (.plain (.bool true)) ∧
        (Rig.writeAll n c (attempt around r).writes).get? RigKey.baseUrl.text =
          some (.plain (.text url)) := by
  rw [Rig.get?_writeAll n c, Rig.get?_writeAll n c]
  have hcourse := course_attempt around r
  generalize attempt around r = a at hcourse ⊢
  cases hcourse with
  | unsettled _ => exact Or.inl rfl
  | unequipped _ _ | unplanned _ _ _ | nowhere _ _ _ _ =>
    refine Or.inr (Or.inl ⟨List.mem_cons_self .., fun url hurl => ?_, rfl, rfl⟩)
    simp [Attempt.ListensAt, silent, optionWrites] at hurl
  | @unmade _ _ _ url _ _ _ _ _ _ | @unbound _ _ _ url _ _ _ _ _ _ _ _ | @ready _ _ _ url _ _ _ _ _ _ _ _ =>
    cases url with
    | none =>
      refine Or.inr (Or.inl ⟨List.mem_cons_self .., fun url hurl => ?_, rfl, rfl⟩)
      simp [Attempt.ListensAt, silent, optionWrites, listeningWrites] at hurl
    | some url =>
      refine Or.inr (Or.inr ⟨url, ?_, rfl, rfl⟩)
      simp [Attempt.ListensAt, optionWrites, listeningWrites]

end Setup

namespace Rig

/-! ## Steps -/

namespace Step

/-- The step is a setup that listens. -/
def Listens (st : Step) : Prop :=
  ∃ request url, st.action = .setup request ∧ (Setup.attempt st.around request).ListensAt url

/-- The step is a setup that gets under way and does not listen. -/
def Silences (st : Step) : Prop :=
  ∃ request, st.action = .setup request ∧ (Setup.attempt st.around request).Starts ∧
    ∀ url, ¬ (Setup.attempt st.around request).ListensAt url

/-- The step is a teardown. -/
def Ends (st : Step) : Prop := st.action = .teardown

/-- The step is a setup, a teardown, a fetch, or a write under a key of the caller. -/
def KeepsToCaller (st : Step) : Prop :=
  st.IsDirect ∧ ∀ key v, st.action = .put key v → RigKey.isOwn key = false

theorem not_silences_of_listens {st : Step} (h : st.Listens) : ¬ st.Silences := by
  rintro ⟨request', ha', -, hnone⟩
  obtain ⟨request, url, ha, hurl⟩ := h
  cases ha.symm.trans ha'
  exact hnone url hurl

theorem not_ends_of_listens {st : Step} (h : st.Listens) : ¬ st.Ends := by
  obtain ⟨request, url, ha, -⟩ := h
  intro hends
  cases ha.symm.trans hends

theorem not_ends_of_silences {st : Step} (h : st.Silences) : ¬ st.Ends := by
  obtain ⟨request, ha, -⟩ := h
  intro hends
  cases ha.symm.trans hends

end Step

/-- What a step does to the two entries about listening. -/
inductive Bearing (r : Rig) (st : Step) : Prop where
  | listens (h : st.Listens) (hflag : (st.apply r).context.SaysListening)
      (hurl : (st.apply r).context.HasUrl)
  | silences (h : st.Silences) (hflag : ¬ (st.apply r).context.SaysListening)
      (hurl : (st.apply r).context.HasUrl ↔ r.context.HasUrl)
  | ends (h : st.Ends) (hflag : ¬ (st.apply r).context.SaysListening)
      (hurl : ¬ (st.apply r).context.HasUrl)
  | idle (hl : ¬ st.Listens) (hs : ¬ st.Silences) (he : ¬ st.Ends)
      (hflag : (st.apply r).context.SaysListening ↔ r.context.SaysListening)
      (hurl : (st.apply r).context.HasUrl ↔ r.context.HasUrl)

/-- A step that is no setup and no teardown, and leaves the entries of the rig alone, has no bearing on
listening. -/
theorem bearing_of_same {r : Rig} {st : Step} (hsetup : ∀ request, st.action ≠ .setup request)
    (he : ¬ st.Ends)
    (hsame : ∀ key : RigKey, (st.apply r).context.get? key.text = r.context.get? key.text) :
    Bearing r st := by
  refine .idle ?_ ?_ he ?_ ?_
  · rintro ⟨request, url, ha, -⟩
    exact hsetup request ha
  · rintro ⟨request, ha, -⟩
    exact hsetup request ha
  · rw [Context.SaysListening, hsame .isListening, Context.SaysListening]
  · rw [Context.HasUrl, hsame .baseUrl, Context.HasUrl]

/-- **Every step bears on listening in one of four ways.** -/
theorem bearing_apply {st : Step} (h : st.KeepsToCaller) (r : Rig) : Bearing r st := by
  rcases Step.cases_of_isDirect h.1 r with ⟨request, ha, hr⟩ | ⟨ha, hr⟩ | ⟨key, v, ha, hr⟩ |
    ⟨method, url, content, ha, hr⟩
  · have hcontext : (st.apply r).context =
        writeAll r.running.length r.context (Setup.attempt st.around request).writes := by
      rw [hr]
      rfl
    rcases Setup.listening_writes st.around request r.running.length r.context with
      hnothing | ⟨hstarts, hnone, hflag, hurl⟩ | ⟨url, hlistens, hflag, hurl⟩
    · have hsame : (st.apply r).context = r.context := by
        rw [hcontext, hnothing]
        rfl
      refine .idle ?_ ?_ ?_ (by rw [hsame]) (by rw [hsame])
      · rintro ⟨request', url, ha', hurl⟩
        cases ha.symm.trans ha'
        rw [Setup.Attempt.ListensAt, hnothing] at hurl
        exact List.not_mem_nil hurl
      · rintro ⟨request', ha', hstarts, -⟩
        cases ha.symm.trans ha'
        rw [Setup.Attempt.Starts, hnothing] at hstarts
        exact List.not_mem_nil hstarts
      · intro hends
        cases ha.symm.trans hends
    · refine .silences ⟨request, ha, hstarts, hnone⟩ ?_ ?_
      · exact Context.not_saysListening (hcontext ▸ hflag)
      · rw [Context.HasUrl, hcontext, hurl, Context.HasUrl]
    · refine .listens ⟨request, url, ha, hlistens⟩ ?_ ?_
      · rw [Context.SaysListening, hcontext, hflag]
      · exact Context.hasUrl_of_get? (hcontext ▸ hurl)
  · have hcleared : ∀ key : RigKey, (st.apply r).context.get? key.text = none := by
      intro key
      rw [hr]
      exact (Context.get?_cleared _ _).trans (if_pos (RigKey.isOwn_text key))
    refine .ends ha ?_ ?_
    · rw [Context.SaysListening, hcleared .isListening]
      nofun
    · rw [Context.HasUrl, hcleared .baseUrl]
      exact fun hc => hc rfl
  · have hends : ¬ st.Ends := by
      intro hends
      cases ha.symm.trans hends
    refine bearing_of_same (fun request hc => ?_) hends fun own => ?_
    · cases ha.symm.trans hc
    · rw [hr]
      exact Context.get?_put_of_ne _ _ (RigKey.text_ne_of_not_isOwn (h.2 key v ha) own)
  · have hends : ¬ st.Ends := by
      intro hends
      cases ha.symm.trans hends
    refine bearing_of_same (fun request hc => ?_) hends fun own => by rw [hr]
    cases ha.symm.trans hc

/-! ## Runs -/

/-- An `event` has come at a step of the run, after the steps in front of it, and every step since then is
one that `keeps`. -/
def Since (keeps : Step → Prop) (event : List Step → Step → Prop) (steps : List Step) : Prop :=
  ∃ front st back, steps = front ++ st :: back ∧ event front st ∧ ∀ s ∈ back, keeps s

section Since

variable {keeps : Step → Prop} {event : List Step → Step → Prop}

theorem not_since_nil : ¬ Since keeps event [] := by
  rintro ⟨front, st, back, h, -⟩
  simp at h

/-- The last step of a run is the event, or keeps what has happened before it. -/
theorem since_concat {steps : List Step} {st : Step} :
    Since keeps event (steps ++ [st]) ↔ event steps st ∨ Since keeps event steps ∧ keeps st := by
  constructor
  · rintro ⟨front, s, back, hsplit, hevent, hkeeps⟩
    rcases List.eq_nil_or_concat back with rfl | ⟨back', last, rfl⟩
    · obtain ⟨rfl, hst⟩ := List.append_inj' hsplit rfl
      cases hst
      exact Or.inl hevent
    · rw [List.concat_eq_append, ← List.cons_append, ← List.append_assoc] at hsplit
      obtain ⟨rfl, hst⟩ := List.append_inj' hsplit rfl
      cases hst
      rw [List.concat_eq_append] at hkeeps
      obtain ⟨hback, hlast⟩ := List.forall_mem_append.1 hkeeps
      exact Or.inr ⟨⟨front, s, back', rfl, hevent, hback⟩, List.forall_mem_singleton.1 hlast⟩
  · rintro (hevent | ⟨⟨front, s, back, rfl, hevent, hkeeps⟩, hst⟩)
    · exact ⟨steps, st, [], rfl, hevent, fun _ hs => absurd hs List.not_mem_nil⟩
    · refine ⟨front, s, back ++ [st], by simp, hevent, ?_⟩
      exact List.forall_mem_append.2 ⟨hkeeps, List.forall_mem_singleton.2 hst⟩

end Since

/-- Some setup since the last teardown has listened. -/
def Listened : List Step → Prop := Since (fun st => ¬ st.Ends) fun _ st => st.Listens

/-- A setup has fallen silent after another one listened, with no teardown between the two; and neither a
teardown nor a setup that listens has come since. -/
def FellSilent : List Step → Prop :=
  Since (fun st => ¬ st.Ends ∧ ¬ st.Listens) fun front st => st.Silences ∧ Listened front

section Runs

variable {r : Rig} {steps : List Step}

/-- **What a run leaves of the two entries.**  The induction is on the last step, since the entries depend
on what has happened since the last teardown. -/
theorem listening_after (hflag : ¬ r.context.SaysListening) (hurl : ¬ r.context.HasUrl)
    (hsteps : ∀ st ∈ steps, st.KeepsToCaller) :
    ((r.after steps).context.HasUrl ↔ Listened steps) ∧
      ((r.after steps).context.SaysListening → (r.after steps).context.HasUrl) ∧
      ((r.after steps).context.HasUrl ∧ ¬ (r.after steps).context.SaysListening ↔
        FellSilent steps) := by
  induction steps using List.reverseRecOn with
  | nil =>
    rw [after_nil]
    exact ⟨iff_of_false hurl not_since_nil, fun h => absurd h hflag,
      iff_of_false (fun h => hurl h.1) not_since_nil⟩
  | append_singleton front st ih =>
    obtain ⟨hfront, hst⟩ := List.forall_mem_append.1 hsteps
    obtain ⟨ihurl, ihflag, ihsilent⟩ := ih hfront
    have hlistened : Listened (front ++ [st]) ↔ st.Listens ∨ Listened front ∧ ¬ st.Ends :=
      since_concat
    have hsilent : FellSilent (front ++ [st]) ↔
        st.Silences ∧ Listened front ∨ FellSilent front ∧ ¬ st.Ends ∧ ¬ st.Listens := since_concat
    rw [after_append, after_cons, after_nil, hlistened, hsilent, ← ihurl, ← ihsilent]
    cases bearing_apply (List.forall_mem_singleton.1 hst) (r.after front) with
    | listens h hflag' hurl' =>
      have hs := Step.not_silences_of_listens h
      grind
    | silences h hflag' hurl' =>
      have he := Step.not_ends_of_silences h
      have hl : ¬ st.Listens := fun hl => Step.not_silences_of_listens hl h
      grind
    | ends h hflag' hurl' =>
      have hs : ¬ st.Silences := fun hs => Step.not_ends_of_silences hs h
      have hl : ¬ st.Listens := fun hl => Step.not_ends_of_listens hl h
      grind
    | idle hl hs he hflag' hurl' => grind

/-- **When the flag and the URL agree.**  After any run from a context without the two entries, the URL
stands in the context exactly when some setup since the last teardown has listened, and the flag is never
true without it.  The two agree unless a setup has fallen silent after another one listened, with no
teardown between them: it resets the flag and leaves the URL of the other one. -/
theorem agrees_after_iff (hflag : r.context.get? RigKey.isListening.text = none)
    (hurl : r.context.get? RigKey.baseUrl.text = none) (hsteps : ∀ st ∈ steps, st.KeepsToCaller) :
    ((r.after steps).context.HasUrl ↔ Listened steps) ∧
      ((r.after steps).context.SaysListening → (r.after steps).context.HasUrl) ∧
      (((r.after steps).context.HasUrl ↔ (r.after steps).context.SaysListening) ↔
        ¬ FellSilent steps) := by
  have hflag' : ¬ r.context.SaysListening := by
    rw [Context.SaysListening, hflag]
    nofun
  have hurl' : ¬ r.context.HasUrl := fun h => h hurl
  obtain ⟨hlistened, himp, hsilent⟩ := listening_after hflag' hurl' hsteps
  refine ⟨hlistened, himp, ?_⟩
  rw [← hsilent]
  grind

end Runs

/-- A setup of a descriptor that says nothing but where to listen, if it says that. -/
def setupAt (port : Option Int) : Step :=
  let dev := Value.record (port.toList.map fun n => ("port", .int n))
  Step.bare (.setup
    ⟨.given (Value.record [("dev", dev)]), .none, .int 0, some Sample.working, some .standard⟩)

/-- A setup without a port, in a context that was not torn down after a setup with one. -/
def reusedRun : List Step := [setupAt (some 8787), setupAt none]

theorem keepsToCaller_reusedRun : ∀ st ∈ reusedRun, st.KeepsToCaller := by
  simp only [reusedRun, List.forall_mem_cons]
  exact ⟨⟨trivial, nofun⟩, ⟨trivial, nofun⟩, fun _ hst => absurd hst List.not_mem_nil⟩

/-- The URL of the first setup outlives the second one, which resets the flag. -/
theorem entries_after_reusedRun : (Rig.fresh.after reusedRun).context.HasUrl ∧
    ¬ (Rig.fresh.after reusedRun).context.SaysListening := by
  decide +kernel

theorem fellSilent_reusedRun : Listened reusedRun ∧ FellSilent reusedRun := by
  obtain ⟨hurl, hflag⟩ := entries_after_reusedRun
  obtain ⟨hlistened, -, hagrees⟩ := agrees_after_iff (r := Rig.fresh) rfl rfl keepsToCaller_reusedRun
  refine ⟨hlistened.1 hurl, Classical.byContradiction fun hnot => ?_⟩
  exact hflag ((hagrees.2 hnot).1 hurl)

/-- Setups and teardowns alone can make the flag and the URL disagree. -/
theorem not_agrees_after_reusedRun :
    ¬ ∀ steps : List Step,
      (∀ st ∈ steps, (∃ request, st.action = .setup request) ∨ st.action = .teardown) →
      ((Rig.fresh.after steps).context.HasUrl ↔ (Rig.fresh.after steps).context.SaysListening) := by
  intro h
  obtain ⟨hurl, hflag⟩ := entries_after_reusedRun
  refine hflag ((h reusedRun ?_).1 hurl)
  simp only [reusedRun, List.forall_mem_cons]
  exact ⟨Or.inl ⟨_, rfl⟩, Or.inl ⟨_, rfl⟩, fun _ hst => absurd hst List.not_mem_nil⟩

end Rig

end EdgeRig
