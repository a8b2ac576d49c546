import EdgeRig.Proofs.Rig.Entries
import EdgeRig.Proofs.Rig.Run

/-!
# What a rig leaves alone

A context belongs to its caller.  A rig writes under its own keys only and takes all of them away again,
at whatever stage a setup stops and however a disposal ends.

* `Rig.Frames` — what a step may do to a context; `Rig.frames_of_isDirect` says that every step keeps to
  it.
* `Rig.get?_after` — after any run, under a key of the caller stands what was last put there.
* `Rig.cleared_after` — a run without writes of the caller changes nothing but entries of the rig.
* `Rig.frame_of_run` — both for a whole run, and the context is given back by a teardown at its end.
-/

namespace EdgeRig

namespace Rig

/-! ## Steps -/

/-- What a step may do to the context.  A setup may write under keys of the rig, a teardown takes these
away and nothing else, a write of the caller changes one entry and a fetch none. -/
def Frames (r : Rig) (st : Step) : Prop :=
  match st.action with
  | .setup _ =>
      (st.apply r).context.cleared = r.context.cleared ∧
        ∀ k, RigKey.isOwn k = false → (st.apply r).context.get? k = r.context.get? k
  | .teardown =>
      (st.apply r).context = r.context.cleared ∧
        ∀ k, (st.apply r).context.get? k = if RigKey.isOwn k then none else r.context.get? k
  | .put key v =>
      ∀ k, (st.apply r).context.get? k = if k = key then some (.plain v) else r.context.get? k
  | .fetch _ _ _ => (st.apply r).context = r.context
  | .openSession _ | .enterSession | .exitSession => True

/-- What a setup writes is forgotten without its keys, at whatever stage it stops. -/
theorem cleared_setup (r : Rig) (around : Surroundings) (request : SetupRequest) :
    (r.setup around request).1.context.cleared = r.context.cleared := cleared_writeAll

/-- **Every step keeps to its frame.** -/
theorem frames_of_isDirect {st : Step} (h : st.IsDirect) (r : Rig) : Frames r st := by
  unfold Frames
  rcases Step.cases_of_isDirect h r with ⟨request, ha, hr⟩ | ⟨ha, hr⟩ | ⟨key, v, ha, hr⟩ |
    ⟨method, url, content, ha, hr⟩
  · rw [ha, hr]
    have hcleared := cleared_setup r st.around request
    exact ⟨hcleared, fun k hk => Context.get?_of_cleared_eq hcleared hk⟩
  · rw [ha, hr]
    exact ⟨rfl, Context.get?_cleared r.context⟩
  · rw [ha, hr]
    intro k
    show (r.context.put key (.plain v)).get? k = _
    by_cases hk : k = key
    · rw [if_pos hk, hk, Context.get?_put]
    · rw [if_neg hk, Context.get?_put_of_ne _ _ hk]
  · rw [ha, hr]

/-! ## Runs -/

/-- What the step puts under a key on behalf of the caller. -/
def Step.putAt (k : String) (st : Step) : Option ContextEntry :=
  match st.action with
  | .put key v => if k = key then some (.plain v) else none
  | _ => none

/-- What the caller has put under a key last. -/
def lastPut (k : String) : List Step → Option ContextEntry
  | [] => none
  | st :: rest => (lastPut k rest).or (st.putAt k)

theorem get?_apply {st : Step} (h : st.IsDirect) (r : Rig) {k : String} (hk : RigKey.isOwn k = false) :
    (st.apply r).context.get? k = (st.putAt k).or (r.context.get? k) := by
  have hframes := frames_of_isDirect h r
  unfold Frames at hframes
  unfold Step.putAt
  rcases Step.cases_of_isDirect h r with ⟨request, ha, -⟩ | ⟨ha, -⟩ | ⟨key, v, ha, -⟩ |
    ⟨method, url, content, ha, -⟩
  · rw [ha] at hframes ⊢
    exact hframes.2 k hk
  · rw [ha] at hframes ⊢
    refine (hframes.2 k).trans ?_
    rw [hk]
    rfl
  · rw [ha] at hframes ⊢
    refine (hframes k).trans ?_
    by_cases hkey : k = key
    · simp only [hkey, if_true, Option.some_or]
    · simp only [hkey, if_false, Option.none_or]
  · rw [ha] at hframes ⊢
    exact congrArg (·.get? k) hframes

/-- **Under a key of the caller stands what was last put there**, or else what stood there before. -/
theorem get?_after {r : Rig} {steps : List Step} (h : ∀ st ∈ steps, st.IsDirect) {k : String}
    (hk : RigKey.isOwn k = false) :
    (r.after steps).context.get? k = (lastPut k steps).or (r.context.get? k) := by
  induction steps generalizing r with
  | nil => rfl
  | cons st rest ih =>
    obtain ⟨hst, hrest⟩ := List.forall_mem_cons.1 h
    rw [after_cons, ih hrest, get?_apply hst r hk, lastPut, Option.or_assoc]

/-- **A run without writes of the caller changes nothing but entries of the rig.** -/
theorem cleared_after {r : Rig} {steps : List Step} (h : ∀ st ∈ steps, st.IsDirect)
    (hput : ∀ st ∈ steps, ∀ key v, st.action ≠ .put key v) :
    (r.after steps).context.cleared = r.context.cleared := by
  induction steps generalizing r with
  | nil => rfl
  | cons st rest ih =>
    obtain ⟨hst, hrest⟩ := List.forall_mem_cons.1 h
    obtain ⟨hst', hrest'⟩ := List.forall_mem_cons.1 hput
    rw [after_cons, ih hrest hrest']
    rcases Step.cases_of_isDirect hst r with ⟨request, -, hr⟩ | ⟨-, hr⟩ | ⟨key, v, ha, -⟩ |
      ⟨method, url, content, -, hr⟩
    · rw [hr]
      exact cleared_setup r st.around request
    · rw [hr]
      exact Context.cleared_cleared r.context
    · exact absurd ha (hst' key v)
    · rw [hr]

/-- **A rig leaves the entries of the caller alone.**  Every step of a run keeps to its frame; under
every key of the caller stands at the end what the caller put there last; and if the context held no
entry of the rig, then a teardown after setups, fetches and other teardowns gives it back unchanged. -/
theorem frame_of_run (r : Rig) {steps : List Step} (hsteps : ∀ st ∈ steps, st.IsDirect) :
    (∀ front st back, steps = front ++ st :: back → Frames (r.after front) st) ∧
      (∀ k, RigKey.isOwn k = false →
        (r.after steps).context.get? k = (lastPut k steps).or (r.context.get? k)) ∧
      ((∀ key : RigKey, r.context.get? key.text = none) →
        (∀ st ∈ steps, ∀ key v, st.action ≠ .put key v) → ∀ last : Step, last.action = .teardown →
        (r.after (steps ++ [last])).context = r.context) := by
  refine ⟨fun front st back hsplit => ?_, fun k hk => get?_after hsteps hk, ?_⟩
  · have hst : st ∈ steps := by rw [hsplit]; simp
    exact frames_of_isDirect (hsteps st hst) _
  · intro hnone hput last hlast
    rw [after_append, after_cons, after_nil, Step.apply_of_teardown hlast]
    show (r.after steps).context.cleared = r.context
    rw [cleared_after hsteps hput, Context.cleared_eq_self hnone]

/-- A rig whose context holds an entry of the caller. -/
def notedRig : Rig := ⟨[("note", .plain (.text "kept"))], []⟩

/-- Setups that stop at three stages, without a factory, in the factory and without handles, and one
whose simulator fails to be disposed of. -/
def stoppedSetups : List Step :=
  [Step.bare (.setup ⟨.none, .none, .int 0, none, some .standard⟩), Step.setupWith Sample.failing,
    Step.setupWith Sample.withoutBindings, Step.setupWith Sample.withoutDisposal]

/-- The context is given back although the teardown fails. -/
theorem context_restored_after_stoppedSetups :
    (notedRig.after stoppedSetups).teardown.2.isOk = false ∧
      (notedRig.after (stoppedSetups ++ [Step.bare .teardown])).context = notedRig.context := by
  have hdirect : ∀ st ∈ stoppedSetups, st.IsDirect := by
    simp only [stoppedSetups, List.forall_mem_cons]
    exact ⟨trivial, trivial, trivial, trivial, fun _ hst => absurd hst List.not_mem_nil⟩
  have hput : ∀ st ∈ stoppedSetups, ∀ key v, st.action ≠ .put key v := by
    simp only [stoppedSetups, List.forall_mem_cons]
    exact ⟨nofun, nofun, nofun, nofun, fun _ hst => absurd hst List.not_mem_nil⟩
  have hnone : ∀ key : RigKey, notedRig.context.get? key.text = none := by
    intro key
    cases key <;> rfl
  have hrestored := (frame_of_run notedRig hdirect).2.2 hnone hput (Step.bare .teardown) rfl
  exact ⟨by decide +kernel, hrestored⟩

end Rig

end EdgeRig
