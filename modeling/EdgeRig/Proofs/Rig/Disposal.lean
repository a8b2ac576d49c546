import EdgeRig.Proofs.Rig.Entries
import EdgeRig.Proofs.Rig.Run

/-!
# Every simulator is disposed of once

A simulator that a setup has made stands in the context until a teardown disposes of it.  Between the
two anything may fail: the setup itself after the simulator was made, fetches, and the disposal.

* `Rig.Accounted` — every simulator is the one in the context and was never disposed of, or is not in
  the context and was disposed of exactly once.
* `Rig.Settled` — no simulator is in the context, and every one was disposed of exactly once.
* `Rig.accounted_setup`, `Rig.settled_teardown` — a setup of a settled rig keeps count; a teardown
  settles whatever keeps count, however it ends.
* `Rig.accounted_after_run` — so every point of an orderly run keeps count, and teardowns at its end
  leave no simulator behind.
-/

namespace EdgeRig

namespace Rig

/-! ## Keeping count -/

/-- Every simulator is in the context, or has been disposed of. -/
structure Accounted (r : Rig) : Prop where
  /-- A simulator in the context has been made, and stands under its own key. -/
  placed : ∀ k i, r.context.get? k = some (.simulator i) →
    k = RigKey.simulator.text ∧ i < r.running.length
  /-- It was never disposed of, and every other one was disposed of exactly once. -/
  counted : ∀ i s, r.running[i]? = some s →
    r.context.get? RigKey.simulator.text = some (.simulator i) ∧ s.disposals = 0 ∨
      (∀ k, r.context.get? k ≠ some (.simulator i)) ∧ s.disposals = 1

/-- No simulator is in the context, and all have been disposed of. -/
structure Settled (r : Rig) : Prop where
  none_held : ∀ k i, r.context.get? k ≠ some (.simulator i)
  disposed : ∀ s ∈ r.running, s.disposals = 1

theorem Settled.accounted {r : Rig} (h : Settled r) : Accounted r where
  placed := fun k i hget => absurd hget (h.none_held k i)
  counted := fun i s hs => Or.inr ⟨fun k => h.none_held k i, h.disposed s (List.mem_of_getElem? hs)⟩

/-- A rig that keeps count and has no simulator under the key for simulators is settled. -/
theorem Accounted.settled {r : Rig} (h : Accounted r)
    (hget : ∀ i, r.context.get? RigKey.simulator.text ≠ some (.simulator i)) : Settled r where
  none_held := by
    intro k i hk
    obtain ⟨rfl, -⟩ := h.placed k i hk
    exact hget i hk
  disposed := by
    intro s hs
    obtain ⟨i, hi⟩ := List.getElem?_of_mem hs
    rcases h.counted i s hi with ⟨hc, -⟩ | ⟨-, hone⟩
    · exact absurd hc (hget i)
    · exact hone

/-! ## Steps -/

/-- Where the new simulator stands after a setup that has made one: under the key for simulators, with
the number after all others. -/
theorem get?_setup_iff {r : Rig} {around : Surroundings} {request : SetupRequest} {sim : Simulator}
    (hnone : ∀ k i, r.context.get? k ≠ some (.simulator i))
    (hmade : (Setup.attempt around request).made = some sim) {k : String} {i : Nat} :
    (r.setup around request).1.context.get? k = some (.simulator i) ↔
      k = RigKey.simulator.text ∧ i = r.running.length := by
  show (writeAll r.running.length r.context (Setup.attempt around request).writes).get? k = _ ↔ _
  rcases Setup.simulator_writes around request with
    ⟨hnot, -⟩ | ⟨_, front, back, -, hws, hfront, hback⟩
  · cases hmade.symm.trans hnot
  · rw [hws]
    constructor
    · intro hget
      by_cases hk : k = RigKey.simulator.text
      · rw [hk, get?_simulator_writeAll hback] at hget
        cases hget
        exact ⟨hk, rfl⟩
      · rw [writeAll_append, writeAll_cons] at hget
        refine absurd hget (get?_ne_simulator_writeAll hback ?_)
        rw [Context.get?_put_of_ne _ _ hk]
        exact get?_ne_simulator_writeAll hfront (hnone k i)
    · rintro ⟨rfl, rfl⟩
      exact get?_simulator_writeAll hback

/-- A setup that has made no simulator brings none into the context. -/
theorem get?_ne_simulator_setup {r : Rig} {around : Surroundings} {request : SetupRequest}
    (hnot : (Setup.attempt around request).made = none) {k : String} {i : Nat}
    (hget : r.context.get? k ≠ some (.simulator i)) :
    (r.setup around request).1.context.get? k ≠ some (.simulator i) := by
  rcases Setup.simulator_writes around request with ⟨-, hws⟩ | ⟨_, _, _, hmade, -, -, -⟩
  · exact get?_ne_simulator_writeAll hws hget
  · cases hmade.symm.trans hnot

/-- The simulator of a setup is put at the end of the list. -/
theorem running_setup (r : Rig) (around : Surroundings) (request : SetupRequest) :
    (r.setup around request).1.running =
      r.running ++ ((Setup.attempt around request).made.map fun s => ⟨s, 0⟩).toList := rfl

/-- **A setup of a settled rig keeps count**, at whatever stage it stops. -/
theorem accounted_setup {r : Rig} (h : Settled r) (around : Surroundings) (request : SetupRequest) :
    Accounted (r.setup around request).1 := by
  cases hmade : (Setup.attempt around request).made with
  | none =>
    have hrunning : (r.setup around request).1.running = r.running := by
      rw [running_setup, hmade]
      exact List.append_nil _
    refine Settled.accounted ⟨fun k i => get?_ne_simulator_setup hmade (h.none_held k i), ?_⟩
    rw [hrunning]
    exact h.disposed
  | some sim =>
    have hrunning : (r.setup around request).1.running = r.running ++ [⟨sim, 0⟩] := by
      rw [running_setup, hmade]
      rfl
    refine ⟨fun k i hget => ?_, fun i s hs => ?_⟩
    · obtain ⟨hk, rfl⟩ := (get?_setup_iff h.none_held hmade).1 hget
      refine ⟨hk, ?_⟩
      rw [hrunning, List.length_append]
      exact Nat.lt_succ_self _
    · rw [hrunning] at hs
      by_cases hi : i < r.running.length
      · -- An older simulator: it was disposed of, and the new one has another number.
        rw [List.getElem?_append_left hi] at hs
        refine Or.inr ⟨fun k hget => ?_, h.disposed s (List.mem_of_getElem? hs)⟩
        exact absurd ((get?_setup_iff h.none_held hmade).1 hget).2 (Nat.ne_of_lt hi)
      · rw [List.getElem?_append_right (Nat.le_of_not_lt hi)] at hs
        obtain ⟨hlast, rfl⟩ : i - r.running.length = 0 ∧ (⟨sim, 0⟩ : Running) = s := by
          simpa [List.getElem?_singleton] using hs
        have hlen : i = r.running.length := by omega
        exact Or.inl ⟨(get?_setup_iff h.none_held hmade).2 ⟨rfl, hlen⟩, rfl⟩

/-- What a teardown does to the simulators: the one under the key for simulators is disposed of. -/
theorem running_teardown (r : Rig) :
    (∃ i, r.context.get? RigKey.simulator.text = some (.simulator i) ∧
      r.teardown.1.running = (dispose r.running i).1) ∨
      (∀ i, r.context.get? RigKey.simulator.text ≠ some (.simulator i)) ∧
        r.teardown.1.running = r.running := by
  have hrun : r.teardown.1.running =
      (disposeEntry r.running (r.context.get? RigKey.simulator.text)).1 := rfl
  rw [hrun]
  cases r.context.get? RigKey.simulator.text with
  | none => exact Or.inr ⟨fun i => nofun, rfl⟩
  | some e =>
    cases e with
    | plain v => exact Or.inr ⟨fun i => nofun, rfl⟩
    | simulator i => exact Or.inl ⟨i, rfl, rfl⟩
    | fetcher f => exact Or.inr ⟨fun i => nofun, rfl⟩

/-- **A teardown settles a rig that keeps count**, however it ends. -/
theorem settled_teardown {r : Rig} (h : Accounted r) : Settled r.teardown.1 := by
  have hnone : ∀ k i, r.teardown.1.context.get? k ≠ some (.simulator i) := by
    intro k i hget
    have hcleared : r.context.cleared.get? k = some (.simulator i) := hget
    rw [Context.get?_cleared] at hcleared
    split at hcleared
    · cases hcleared
    · rename_i hown
      -- A simulator stands under a key of the rig only, and these are gone.
      rw [(h.placed k i hcleared).1] at hown
      exact hown (RigKey.isOwn_text _)
  refine ⟨hnone, fun s hs => ?_⟩
  rcases running_teardown r with ⟨i, hheld, hrunning⟩ | ⟨hheld, hrunning⟩
  · obtain ⟨-, hi⟩ := h.placed _ i hheld
    rw [hrunning, dispose, List.getElem?_eq_getElem hi] at hs
    obtain ⟨j, hj⟩ := List.getElem?_of_mem hs
    rw [List.getElem?_set] at hj
    by_cases hji : i = j
    · rw [if_pos hji, if_pos hi] at hj
      rcases h.counted i _ (List.getElem?_eq_getElem hi) with ⟨-, hzero⟩ | ⟨hout, -⟩
      · rw [← Option.some.inj hj]
        show r.running[i].disposals + 1 = 1
        rw [hzero]
      · exact absurd hheld (hout _)
    · rw [if_neg hji] at hj
      rcases h.counted j s hj with ⟨hc, -⟩ | ⟨-, hone⟩
      · cases hheld.symm.trans hc
        exact absurd rfl hji
      · exact hone
  · rw [hrunning] at hs
    exact (h.settled hheld).disposed s hs

/-- Writes of the caller bring no simulator into the context, and take none out of it. -/
theorem accounted_put {r : Rig} (h : Accounted r) {key : String} (hkey : RigKey.isOwn key = false)
    (v : Value) : Accounted (r.put key v) := by
  have hput : ∀ k i, (r.put key v).context.get? k = some (.simulator i) →
      r.context.get? k = some (.simulator i) := by
    intro k i hget
    by_cases hk : k = key
    · rw [hk, put, Context.get?_put] at hget
      cases hget
    · rwa [put, Context.get?_put_of_ne _ _ hk] at hget
  have hsame : (r.put key v).context.get? RigKey.simulator.text =
      r.context.get? RigKey.simulator.text :=
    Context.get?_put_of_ne _ _ (RigKey.text_ne_of_not_isOwn hkey _)
  refine ⟨fun k i hget => h.placed k i (hput k i hget), fun i s hs => ?_⟩
  rcases h.counted i s hs with ⟨hheld, hzero⟩ | ⟨hout, hone⟩
  · exact Or.inl ⟨hsame.trans hheld, hzero⟩
  · exact Or.inr ⟨fun k hget => hout k (hput k i hget), hone⟩

/-! ## Runs -/

/-- The simulator that the factory of a step returns. -/
def Step.returned (st : Step) : Option Simulator :=
  match st.action with
  | .setup request => (Setup.attempt st.around request).made
  | _ => none

/-- A disposal takes no simulator off the list. -/
theorem simulators_dispose (running : List Running) (i : Nat) :
    (dispose running i).1.map (·.simulator) = running.map (·.simulator) := by
  unfold dispose
  split
  · rfl
  · rename_i s hs
    -- The entry that takes the place of the old one has the same simulator.
    have hsame : (running.map (·.simulator))[i]? = some s.simulator := by
      rw [List.getElem?_map, hs]
      rfl
    rw [List.map_set]
    refine List.ext_getElem? fun j => ?_
    rw [List.getElem?_set]
    by_cases hij : i = j
    · obtain ⟨hlt, -⟩ := List.getElem?_eq_some_iff.1 hsame
      rw [if_pos hij, if_pos hlt, ← hij, hsame]
    · rw [if_neg hij]

/-- No simulator is ever taken off the list, and the one that a factory returns is added to it. -/
theorem simulators_apply {st : Step} (h : st.IsDirect) (r : Rig) :
    (st.apply r).running.map (·.simulator) =
      r.running.map (·.simulator) ++ st.returned.toList := by
  unfold Step.returned
  rcases Step.cases_of_isDirect h r with ⟨request, ha, hr⟩ | ⟨ha, hr⟩ | ⟨key, v, ha, hr⟩ |
    ⟨method, url, content, ha, hr⟩
  · rw [ha, hr, running_setup, List.map_append]
    dsimp only
    cases (Setup.attempt st.around request).made <;> rfl
  · rw [ha, hr]
    rcases running_teardown r with ⟨i, -, hrunning⟩ | ⟨-, hrunning⟩
    · rw [hrunning, simulators_dispose]
      exact (List.append_nil _).symm
    · rw [hrunning]
      exact (List.append_nil _).symm
  · rw [ha, hr]
    exact (List.append_nil _).symm
  · rw [ha, hr]
    exact (List.append_nil _).symm

/-- The step may come now: a setup needs a context without a simulator, and the caller writes under no
key of the rig. -/
structure Allows (r : Rig) (st : Step) : Prop where
  direct : st.IsDirect
  setup : ∀ request, st.action = .setup request → r.context.get? RigKey.simulator.text = none
  put : ∀ key v, st.action = .put key v → RigKey.isOwn key = false

/-- Every step of the run may come when it does. -/
def Orderly : Rig → List Step → Prop
  | _, [] => True
  | r, st :: rest => r.Allows st ∧ Orderly (st.apply r) rest

theorem accounted_apply {r : Rig} {st : Step} (h : Accounted r) (hst : r.Allows st) :
    Accounted (st.apply r) := by
  rcases Step.cases_of_isDirect hst.direct r with ⟨request, ha, hr⟩ | ⟨ha, hr⟩ | ⟨key, v, ha, hr⟩ |
    ⟨method, url, content, ha, hr⟩
  · have hnone := hst.setup request ha
    have hsettled : Settled r := h.settled fun i hc => by cases hnone.symm.trans hc
    rw [hr]
    exact accounted_setup hsettled st.around request
  · rw [hr]
    exact (settled_teardown h).accounted
  · rw [hr]
    exact accounted_put h (hst.put key v ha) v
  · rwa [hr]

theorem accounted_after {r : Rig} {steps : List Step} (h : Accounted r) (hsteps : r.Orderly steps) :
    Accounted (r.after steps) := by
  induction steps generalizing r with
  | nil => exact h
  | cons st rest ih => exact ih (accounted_apply h hsteps.1) hsteps.2

theorem Orderly.left {r : Rig} {xs ys : List Step} (h : r.Orderly (xs ++ ys)) : r.Orderly xs := by
  induction xs generalizing r with
  | nil => trivial
  | cons st xs ih => exact ⟨h.1, ih h.2⟩

theorem Orderly.simulators {r : Rig} {steps : List Step} (h : r.Orderly steps) :
    (r.after steps).running.map (·.simulator) =
      r.running.map (·.simulator) ++ steps.filterMap Step.returned := by
  induction steps generalizing r with
  | nil => exact (List.append_nil _).symm
  | cons st rest ih =>
    rw [after_cons, ih h.2, simulators_apply h.1.direct, List.append_assoc, List.filterMap_cons]
    cases st.returned <;> rfl

theorem Orderly.append {r : Rig} {xs ys : List Step} (hx : r.Orderly xs)
    (hy : (r.after xs).Orderly ys) : r.Orderly (xs ++ ys) := by
  induction xs generalizing r with
  | nil => exact hy
  | cons st xs ih => exact ⟨hx.1, ih hx.2 hy⟩

/-- A teardown may come at any time. -/
theorem allows_of_teardown {r : Rig} {st : Step} (h : st.action = .teardown) : r.Allows st where
  direct := by
    rw [Step.IsDirect, h]
    trivial
  setup := by
    intro request hc
    cases h.symm.trans hc
  put := by
    intro key v hc
    cases h.symm.trans hc

theorem orderly_of_teardowns {r : Rig} {ends : List Step} (h : ∀ st ∈ ends, st.action = .teardown) :
    r.Orderly ends := by
  induction ends generalizing r with
  | nil => trivial
  | cons st rest ih =>
    obtain ⟨hst, hrest⟩ := List.forall_mem_cons.1 h
    exact ⟨allows_of_teardown hst, ih hrest⟩

/-- No factory is called in a teardown. -/
theorem returned_of_teardowns {ends : List Step} (h : ∀ st ∈ ends, st.action = .teardown) :
    ends.filterMap Step.returned = [] := by
  refine List.filterMap_eq_nil_iff.2 fun st hst => ?_
  rw [Step.returned, h st hst]

/-- Teardowns in a row settle a rig that keeps count. -/
theorem settled_after_teardowns {r : Rig} (h : Accounted r) {ends : List Step} (hne : ends ≠ [])
    (hends : ∀ st ∈ ends, st.action = .teardown) : Settled (r.after ends) := by
  induction ends generalizing r with
  | nil => exact absurd rfl hne
  | cons st rest ih =>
    have hsettled : Settled (st.apply r) := by
      rw [Step.apply_of_teardown (hends st (List.mem_cons_self ..))]
      exact settled_teardown h
    cases rest with
    | nil => exact hsettled
    | cons st' rest' =>
      exact ih hsettled.accounted nofun fun v hv => hends v (List.mem_cons_of_mem _ hv)

/-- **No simulator is left behind and none is disposed of twice.**  In an orderly run from a rig for
which nothing was made, the simulators are those that the factories have returned; at every point each
of them is in the context and was never disposed of, or is not and was disposed of exactly once; and
after one or more teardowns at the end, whatever they raise, each was disposed of exactly once. -/
theorem accounted_after_run {r : Rig} {steps : List Step} (hmade : r.running = [])
    (hheld : ∀ k i, r.context.get? k ≠ some (.simulator i)) (hsteps : r.Orderly steps) :
    (∀ front back, steps = front ++ back →
      (r.after front).running.map (·.simulator) = front.filterMap Step.returned ∧
        Accounted (r.after front)) ∧
      ∀ ends, ends ≠ [] → (∀ st ∈ ends, st.action = .teardown) →
        (r.after (steps ++ ends)).running.map (·.simulator) = steps.filterMap Step.returned ∧
          Settled (r.after (steps ++ ends)) := by
  have hstart : Accounted r := by
    refine Settled.accounted ⟨hheld, fun s hs => ?_⟩
    rw [hmade] at hs
    exact absurd hs List.not_mem_nil
  have hlist : ∀ {front : List Step}, r.Orderly front →
      (r.after front).running.map (·.simulator) = front.filterMap Step.returned := by
    intro front hfront
    rw [hfront.simulators, hmade]
    rfl
  refine ⟨fun front back hsplit => ?_, fun ends hne hends => ?_⟩
  · have hfront : r.Orderly front := Orderly.left (hsplit ▸ hsteps)
    exact ⟨hlist hfront, accounted_after hstart hfront⟩
  · rw [hlist (hsteps.append (orderly_of_teardowns hends)), List.filterMap_append,
      returned_of_teardowns hends, List.append_nil, after_append]
    exact ⟨rfl, settled_after_teardowns (accounted_after hstart hsteps) hne hends⟩

/-- A setup that fails after its simulator was made, one whose simulator fails to be disposed of, and
what may come between them. -/
def failingRun : List Step :=
  [Step.setupWith Sample.withoutBindings, Step.bare .teardown, Step.setupWith Sample.withoutDisposal,
    Step.bare (.put "note" (.text "kept")), Step.bare (.fetch "GET" "/test" "")]

set_option maxRecDepth 10000 in
theorem settled_after_failingRun :
    (failingRun.filterMap Step.returned).length = 2 ∧
      Settled (Rig.fresh.after (failingRun ++ [Step.bare .teardown, Step.bare .teardown])) := by
  have horderly : Rig.fresh.Orderly failingRun := by
    refine ⟨⟨trivial, fun _ _ => rfl, nofun⟩, allows_of_teardown rfl, ⟨trivial, fun _ _ => ?_, nofun⟩,
      ⟨trivial, nofun, ?_⟩, ⟨trivial, nofun, nofun⟩, trivial⟩
    · exact (Context.get?_cleared _ _).trans (if_pos (RigKey.isOwn_text _))
    · intro key v hput
      cases hput
      decide
  have hfresh : ∀ k i, Rig.fresh.context.get? k ≠ some (.simulator i) :=
    fun _ _ => (Option.some_ne_none _).symm
  refine ⟨rfl, ((accounted_after_run rfl hfresh horderly).2 _ (List.cons_ne_nil _ _) ?_).2⟩
  intro st hst
  simp only [List.mem_cons, List.not_mem_nil, or_false] at hst
  rcases hst with rfl | rfl <;> rfl

end Rig

end EdgeRig
