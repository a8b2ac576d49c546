import EdgeRig.Proofs.Rig.Entries
import EdgeRig.Proofs.Rig.Run
import EdgeRig.Session

/-!
# What a session guarantees

Whoever enters a session gets its context as a setup leaves it, and finds no trace of the rig once the
session is left or could not be entered.  This file follows one visit after another through the same
session; between entering and leaving anything may fail.

* `Rig.teardown_of_held`, `Rig.teardown_of_none` — what a teardown does to the last simulator.
* `Session.Visit` — what the caller does around and in a body; `Session.visit` puts a visit together.
* `Session.Guarantee` — what holds of one visit; `Session.guarantee_of_unheld` says that it does when the
  context holds no entry of the rig, which is so again afterwards.
* `Session.guarantee_of_visits` — so it holds of each of any number of visits.
-/

namespace EdgeRig

/-! ## Setups and teardowns -/

/-- A setup that ends well has made a simulator. -/
theorem Setup.made_of_ok {around : Surroundings} {request : SetupRequest}
    (h : (attempt around request).outcome.result = .ok ()) :
    ∃ sim, (attempt around request).made = some sim := by
  have hcourse := course_attempt around request
  generalize attempt around request = a at hcourse h ⊢
  cases hcourse with
  | unsettled _ => cases h
  | unequipped _ _ => cases h
  | unplanned _ _ _ => cases h
  | nowhere _ _ _ _ => cases h
  | unmade _ _ _ _ _ => cases h
  | unbound _ _ _ _ _ _ => cases h
  | ready _ _ _ _ _ _ => exact ⟨_, rfl⟩

namespace Rig

variable {r : Rig} {around : Surroundings} {request : SetupRequest} {sim : Simulator}

/-- The context holds no entry of the rig. -/
def Unheld (r : Rig) : Prop := ∀ key : RigKey, r.context.get? key.text = none

theorem get?_simulator_setup (hmade : (Setup.attempt around request).made = some sim) :
    (r.setup around request).1.context.get? RigKey.simulator.text =
      some (.simulator r.running.length) := by
  rcases Setup.simulator_writes around request with
    ⟨hnot, -⟩ | ⟨_, front, back, -, hws, -, hback⟩
  · cases hmade.symm.trans hnot
  · show (writeAll r.running.length r.context (Setup.attempt around request).writes).get? _ = _
    rw [hws]
    exact get?_simulator_writeAll hback

theorem get?_simulator_setup_of_none (hmade : (Setup.attempt around request).made = none) :
    (r.setup around request).1.context.get? RigKey.simulator.text =
      r.context.get? RigKey.simulator.text := by
  rcases Setup.simulator_writes around request with ⟨-, hws⟩ | ⟨_, _, _, hsome, -, -, -⟩
  · exact get?_writeAll_of_ne fun w hw hc => (hws w hw).1 (RigKey.text_injective hc)
  · cases hmade.symm.trans hsome

/-- A teardown disposes of the last simulator if that is the one in the context. -/
theorem teardown_of_held {front : List Running} {n : Nat}
    (hget : r.context.get? RigKey.simulator.text = some (.simulator front.length))
    (hrunning : r.running = front ++ [⟨sim, n⟩]) :
    r.teardown = (⟨r.context.cleared, front ++ [⟨sim, n + 1⟩]⟩, sim.disposal) := by
  have hlast : r.running[front.length]? = some ⟨sim, n⟩ := by
    rw [hrunning, List.getElem?_append_right (Nat.le_refl _), Nat.sub_self]
    rfl
  have hset : r.running.set front.length ⟨sim, n + 1⟩ = front ++ [⟨sim, n + 1⟩] := by
    rw [hrunning, List.set_append_right _ _ (Nat.le_refl _), Nat.sub_self]
    rfl
  rw [teardown, hget, disposeEntry, dispose, hlast]
  simp only [hset]

/-- A teardown without a simulator in the context disposes of none. -/
theorem teardown_of_none (hget : r.context.get? RigKey.simulator.text = none) :
    r.teardown = (⟨r.context.cleared, r.running⟩, .ok ()) := by
  rw [teardown, hget]
  rfl

/-- The teardown after a setup takes its entries away and disposes of what it has made, once; it ends as
that disposal does. -/
theorem teardown_setup_eq (hunheld : r.Unheld) (around : Surroundings) (request : SetupRequest) :
    (r.setup around request).1.teardown =
      (⟨r.context, r.running ++ ((Setup.attempt around request).made.map fun sim => ⟨sim, 1⟩).toList⟩,
        ((Setup.attempt around request).made.map Simulator.disposal).getD (.ok ())) := by
  have hcontext : (r.setup around request).1.context.cleared = r.context :=
    cleared_writeAll.trans (Context.cleared_eq_self hunheld)
  cases hmade : (Setup.attempt around request).made with
  | none =>
    have hget := (get?_simulator_setup_of_none hmade).trans (hunheld .simulator)
    rw [teardown_of_none hget, hcontext]
    simp [setup, carryOut, hmade]
  | some sim =>
    have hrunning : (r.setup around request).1.running = r.running ++ [⟨sim, 0⟩] := by
      simp [setup, carryOut, hmade]
    rw [teardown_of_held (get?_simulator_setup hmade) hrunning, hcontext]
    rfl

/-- What a setup has made is disposed of once by the teardown after it, and its entries are gone. -/
theorem teardown_setup (hunheld : r.Unheld) (around : Surroundings) (request : SetupRequest) :
    (r.setup around request).1.teardown.1 = ⟨r.context,
      r.running ++ ((Setup.attempt around request).made.map fun sim => ⟨sim, 1⟩).toList⟩ :=
  congrArg Prod.fst (teardown_setup_eq hunheld around request)

/-! ## Entering -/

theorem enter_of_ok (h : (Setup.attempt around request).outcome.result = .ok ()) :
    r.enter around request = r.setup around request := by
  simp only [enter, setup, h]

/-- A failed setup is torn down at once, and entering fails whether the teardown does or not. -/
theorem enter_of_error {f : Fault}
    (h : (Setup.attempt around request).outcome.result = .error f) :
    (r.enter around request).1 = (r.setup around request).1.teardown.1 ∧
      ∃ g, (r.enter around request).2.result = .error g := by
  simp only [enter, setup, h]
  cases ((r.carryOut (Setup.attempt around request)).teardown).2 with
  | ok _ => exact ⟨rfl, f, rfl⟩
  | error g => exact ⟨rfl, g, rfl⟩

/-! ## Steps of the caller -/

/-- The step is a fetch, or a write under a key that does not belong to the rig. -/
def Step.KeepsOff (st : Step) : Prop :=
  match st.action with
  | .put key _ => RigKey.isOwn key = false
  | .fetch _ _ _ => True
  | _ => False

theorem apply_of_keepsOff {st : Step} (h : st.KeepsOff) (r : Rig) :
    (st.apply r).running = r.running ∧
      ∀ key : RigKey, (st.apply r).context.get? key.text = r.context.get? key.text := by
  obtain ⟨around, transport, action⟩ := st
  cases action with
  | put key v =>
    refine ⟨rfl, fun own => ?_⟩
    exact Context.get?_put_of_ne _ _ (RigKey.text_ne_of_not_isOwn h own)
  | fetch method url content => exact ⟨rfl, fun _ => rfl⟩
  | setup _ => exact absurd h id
  | teardown => exact absurd h id
  | openSession _ => exact absurd h id
  | enterSession => exact absurd h id
  | exitSession => exact absurd h id

/-- The caller makes no simulator and changes no entry of the rig. -/
theorem after_of_keepsOff {steps : List Step} (h : ∀ st ∈ steps, st.KeepsOff) (r : Rig) :
    (r.after steps).running = r.running ∧
      ∀ key : RigKey, (r.after steps).context.get? key.text = r.context.get? key.text := by
  induction steps generalizing r with
  | nil => exact ⟨rfl, fun _ => rfl⟩
  | cons st rest ih =>
    obtain ⟨hst, hrest⟩ := List.forall_mem_cons.1 h
    obtain ⟨hrunning, hkeys⟩ := apply_of_keepsOff hst r
    obtain ⟨hrunning', hkeys'⟩ := ih hrest (st.apply r)
    exact ⟨hrunning'.trans hrunning, fun key => (hkeys' key).trans (hkeys key)⟩

end Rig

/-! ## Visits -/

namespace Session

/-- What a caller does with a session: steps before it is entered and while it is, and how the body ends
in between.  The surroundings are those in which the session is entered. -/
structure Visit where
  around : Surroundings
  before : List Rig.Step
  during : List Rig.Step
  body : Except Fault Unit

/-- The caller writes under no key of the rig. -/
def Visit.KeepsOff (v : Visit) : Prop :=
  (∀ st ∈ v.before, st.KeepsOff) ∧ ∀ st ∈ v.during, st.KeepsOff

/-- The session after steps of the caller. -/
def act (s : Session) (steps : List Rig.Step) : Session := { s with rig := s.rig.after steps }

/-- The session as it is found when it is entered. -/
def found (s : Session) (v : Visit) : Session := s.act v.before

/-- The session once it is entered, and its context. -/
def entered (s : Session) (v : Visit) : Session × Outcome Context := (s.found v).enter v.around

/-- The session at the end of the body. -/
def inside (s : Session) (v : Visit) : Session := (s.entered v).1.act v.during

/-- The session once it is left. -/
def left (s : Session) (v : Visit) : Session × Except Fault Bool := (s.inside v).exit

/-- How a body ends that a session encloses.  A fault of leaving comes first; a fault of the body is
forgotten only if leaving says so. -/
def closed (body : Except Fault Unit) (exit : Except Fault Bool) : Except Fault Unit :=
  match exit with
  | .error f => .error f
  | .ok true => .ok ()
  | .ok false => body

/-- A visit: the body runs if the session can be entered, and then the session is left. -/
def visit (s : Session) (v : Visit) : Session × Except Fault Unit :=
  match (s.entered v).2.result with
  | .error f => ((s.entered v).1, .error f)
  | .ok _ => ((s.left v).1, closed v.body (s.left v).2)

/-- The session after visits. -/
def afterVisits (s : Session) : List Visit → Session
  | [] => s
  | v :: vs => (s.visit v).1.afterVisits vs

/-- The simulator that is made when the session is entered. -/
def madeIn (s : Session) (v : Visit) : Option Simulator := (Setup.attempt v.around s.request).made

/-- What holds of one visit to a session. -/
structure Guarantee (s : Session) (v : Visit) : Prop where
  /-- A session that cannot be entered gives its context back as it was found, without an entry of the
  rig, and a simulator that was made is disposed of once. -/
  refused : ∀ f, (s.entered v).2.result = .error f →
    (s.entered v).1.rig.Unheld ∧
      (s.entered v).1.rig.context = (s.found v).rig.context ∧
      (s.entered v).1.rig.running =
        (s.found v).rig.running ++ ((s.madeIn v).map fun sim => ⟨sim, 1⟩).toList
  /-- A session that is entered hands out its own context, with the entries that a setup writes to an
  empty one and all that was found; a simulator was made. -/
  admitted : ∀ c, (s.entered v).2.result = .ok c →
    c = (s.entered v).1.rig.context ∧
      (∀ key : RigKey, c.get? key.text = ((Rig.mk [] (s.found v).rig.running).setup v.around
        s.request).1.context.get? key.text) ∧
      (∀ k, RigKey.isOwn k = false → c.get? k = (s.found v).rig.context.get? k) ∧
      ∃ sim, s.madeIn v = some sim ∧
        (s.entered v).1.rig.running = (s.found v).rig.running ++ [⟨sim, 0⟩]
  /-- However the body and the disposal end, leaving the session takes the entries of the rig away and
  no others, disposes of the simulator once, and lets the fault of a body pass. -/
  leaves : ∀ c sim, (s.entered v).2.result = .ok c → s.madeIn v = some sim →
    (∀ k, (s.left v).1.rig.context.get? k =
        if RigKey.isOwn k then none else (s.inside v).rig.context.get? k) ∧
      (s.left v).1.rig.running = (s.found v).rig.running ++ [⟨sim, 1⟩] ∧
      (s.visit v).2 = (sim.disposal >>= fun _ => v.body) ∧
      ∀ f, v.body = .error f → ∃ g, (s.visit v).2 = .error g

section Visit

variable {s : Session} {v : Visit}

/-- Entering goes one of two ways, as the setup does. -/
theorem entered_cases (s : Session) (v : Visit) :
    (∃ f g, (Setup.attempt v.around s.request).outcome.result = .error f ∧
        (s.entered v).2.result = .error g ∧
        (s.entered v).1.rig = ((s.found v).rig.setup v.around s.request).1.teardown.1) ∨
      (Setup.attempt v.around s.request).outcome.result = .ok () ∧
        (s.entered v).2.result = .ok (s.entered v).1.rig.context ∧
        (s.entered v).1.rig = ((s.found v).rig.setup v.around s.request).1 := by
  have hrig : (s.entered v).1.rig = ((s.found v).rig.enter v.around s.request).1 := rfl
  have hresult : (s.entered v).2.result =
      ((s.found v).rig.enter v.around s.request).2.result.map fun _ => (s.entered v).1.rig.context :=
    rfl
  cases h : (Setup.attempt v.around s.request).outcome.result with
  | error f =>
    obtain ⟨hteardown, g, hg⟩ := Rig.enter_of_error (r := (s.found v).rig) h
    exact Or.inl ⟨f, g, rfl, by rw [hresult, hg]; rfl, hrig.trans hteardown⟩
  | ok _ =>
    have henter := Rig.enter_of_ok (r := (s.found v).rig) h
    refine Or.inr ⟨rfl, ?_, by rw [hrig, henter]⟩
    rw [hresult, henter, Rig.setup, h]
    rfl

theorem unheld_found (hs : s.rig.Unheld) (hv : v.KeepsOff) : (s.found v).rig.Unheld :=
  fun key => ((Rig.after_of_keepsOff hv.1 s.rig).2 key).trans (hs key)

theorem running_found (hv : v.KeepsOff) : (s.found v).rig.running = s.rig.running :=
  (Rig.after_of_keepsOff hv.1 s.rig).1

/-- A session that cannot be entered gives back what it was found with. -/
theorem entered_of_error (hs : s.rig.Unheld) (hv : v.KeepsOff) {f : Fault}
    (h : (s.entered v).2.result = .error f) :
    (s.entered v).1.rig = ⟨(s.found v).rig.context,
      (s.found v).rig.running ++ ((s.madeIn v).map fun sim => ⟨sim, 1⟩).toList⟩ := by
  rcases entered_cases s v with ⟨_, _, -, -, hrig⟩ | ⟨-, hok, -⟩
  · exact hrig.trans (Rig.teardown_setup (unheld_found hs hv) v.around s.request)
  · cases h.symm.trans hok

/-- A session that is entered hands out the context of a setup. -/
theorem entered_of_ok {c : Context} (h : (s.entered v).2.result = .ok c) :
    c = (s.entered v).1.rig.context ∧
      (s.entered v).1.rig = ((s.found v).rig.setup v.around s.request).1 ∧
      ∃ sim, s.madeIn v = some sim := by
  rcases entered_cases s v with ⟨_, g, -, herror, -⟩ | ⟨hattempt, hok, hrig⟩
  · cases h.symm.trans herror
  · cases h.symm.trans hok
    exact ⟨rfl, hrig, Setup.made_of_ok hattempt⟩

theorem running_entered {sim : Simulator} (hmade : s.madeIn v = some sim)
    (hrig : (s.entered v).1.rig = ((s.found v).rig.setup v.around s.request).1) :
    (s.entered v).1.rig.running = (s.found v).rig.running ++ [⟨sim, 0⟩] := by
  have hattempt : (Setup.attempt v.around s.request).made = some sim := hmade
  rw [hrig, Rig.setup]
  simp only [Rig.carryOut, hattempt, Option.map_some, Option.toList_some]

/-- Leaving disposes of the simulator that was made when the session was entered, whatever the caller did
in between. -/
theorem left_of_ok (hv : v.KeepsOff) {sim : Simulator} (hmade : s.madeIn v = some sim)
    (hrig : (s.entered v).1.rig = ((s.found v).rig.setup v.around s.request).1) :
    (s.left v).1.rig = ⟨(s.inside v).rig.context.cleared,
        (s.found v).rig.running ++ [⟨sim, 1⟩]⟩ ∧
      (s.left v).2 = sim.disposal.map fun _ => false := by
  obtain ⟨hrunning, hkeys⟩ := Rig.after_of_keepsOff hv.2 (s.entered v).1.rig
  have hheld : (s.inside v).rig.context.get? RigKey.simulator.text =
      some (.simulator (s.found v).rig.running.length) := by
    refine (hkeys .simulator).trans ?_
    rw [hrig]
    exact Rig.get?_simulator_setup hmade
  have hlast : (s.inside v).rig.running = (s.found v).rig.running ++ [⟨sim, 0⟩] :=
    hrunning.trans (running_entered hmade hrig)
  have hteardown := Rig.teardown_of_held hheld hlast
  have hexit : s.left v = ({ s.inside v with rig := (s.inside v).rig.teardown.1 },
      (s.inside v).rig.teardown.2.map fun _ => false) := rfl
  rw [hexit, hteardown]
  exact ⟨rfl, rfl⟩

/-- **What holds of one visit**, if the session is found without an entry of the rig. -/
theorem guarantee_of_unheld (hs : s.rig.Unheld) (hv : v.KeepsOff) : Guarantee s v where
  refused := by
    intro f h
    have hrig := entered_of_error hs hv h
    rw [hrig]
    exact ⟨unheld_found hs hv, rfl, rfl⟩
  admitted := by
    intro c h
    obtain ⟨rfl, hrig, sim, hmade⟩ := entered_of_ok h
    refine ⟨rfl, fun key => ?_, fun k hk => ?_, sim, hmade, running_entered hmade hrig⟩
    · rw [hrig]
      refine (Rig.get?_writeAll _ _ _ _).trans ?_
      rw [unheld_found hs hv key, Option.or_none]
      rfl
    · rw [hrig]
      refine Rig.get?_writeAll_of_ne fun w _ hc => ?_
      exact RigKey.text_ne_of_not_isOwn hk w.1 hc
  leaves := by
    intro c sim h hmade
    obtain ⟨-, hrig, -⟩ := entered_of_ok h
    obtain ⟨hleft, hexit⟩ := left_of_ok hv hmade hrig
    have hend : (s.visit v).2 = (sim.disposal >>= fun _ => v.body) := by
      rw [visit, h]
      show closed v.body (s.left v).2 = _
      rw [hexit]
      cases sim.disposal <;> rfl
    refine ⟨fun k => ?_, ?_, hend, fun f hf => ?_⟩
    · rw [hleft]
      exact Context.get?_cleared _ k
    · rw [hleft]
    · rw [hend, hf]
      cases sim.disposal with
      | error g => exact ⟨g, rfl⟩
      | ok _ => exact ⟨f, rfl⟩

/-- A visit leaves no entry of the rig behind, and one simulator more that is disposed of, if one was
made. -/
theorem visit_of_unheld (hs : s.rig.Unheld) (hv : v.KeepsOff) :
    (s.visit v).1.rig.Unheld ∧ (s.visit v).1.rig.running =
      s.rig.running ++ ((s.madeIn v).map fun sim => ⟨sim, 1⟩).toList := by
  unfold visit
  cases h : (s.entered v).2.result with
  | error f =>
    have hrig := entered_of_error hs hv h
    dsimp only
    rw [hrig, running_found hv]
    exact ⟨unheld_found hs hv, rfl⟩
  | ok c =>
    obtain ⟨-, hrig, sim, hmade⟩ := entered_of_ok h
    obtain ⟨hleft, -⟩ := left_of_ok hv hmade hrig
    dsimp only
    rw [hleft, hmade, running_found hv]
    refine ⟨fun key => ?_, rfl⟩
    exact (Context.get?_cleared _ _).trans (if_pos (RigKey.isOwn_text key))

/-- A session keeps its request. -/
theorem request_visit (s : Session) (v : Visit) : (s.visit v).1.request = s.request := by
  unfold visit
  split <;> rfl

/-- Visits leave no entry of the rig behind, and all simulators that were made are disposed of. -/
theorem afterVisits_of_unheld {visits : List Visit} (hs : s.rig.Unheld)
    (hv : ∀ v ∈ visits, v.KeepsOff) : (s.afterVisits visits).rig.Unheld ∧
      (s.afterVisits visits).rig.running =
        s.rig.running ++ (visits.filterMap s.madeIn).map fun sim => ⟨sim, 1⟩ := by
  induction visits generalizing s with
  | nil => exact ⟨hs, (List.append_nil _).symm⟩
  | cons v vs ih =>
    obtain ⟨hfirst, hrest⟩ := List.forall_mem_cons.1 hv
    obtain ⟨hunheld, hrunning⟩ := visit_of_unheld hs hfirst
    obtain ⟨hunheld', hrunning'⟩ := ih hunheld hrest
    have hmadeIn : (s.visit v).1.madeIn = s.madeIn := by
      funext u
      rw [madeIn, request_visit, madeIn]
    refine ⟨hunheld', ?_⟩
    rw [afterVisits, hrunning', hmadeIn, hrunning, List.append_assoc, List.filterMap_cons]
    cases s.madeIn v <;> rfl

/-- **What a session guarantees**, however often it is visited and whatever fails.  If its context holds
no entry of the rig at first and the caller writes none, then every visit keeps the guarantee, and after
all of them the context holds no entry of the rig and every simulator that was made has been disposed of
exactly once. -/
theorem guarantee_of_visits (s : Session) (visits : List Visit) (hs : s.rig.Unheld)
    (hv : ∀ v ∈ visits, v.KeepsOff) :
    (∀ front v back, visits = front ++ v :: back → Guarantee (s.afterVisits front) v) ∧
      (s.afterVisits visits).rig.Unheld ∧
      (s.afterVisits visits).rig.running =
        s.rig.running ++ (visits.filterMap s.madeIn).map fun sim => ⟨sim, 1⟩ := by
  refine ⟨fun front v back hsplit => ?_, afterVisits_of_unheld hs hv⟩
  subst hsplit
  have hfront : ∀ u ∈ front, u.KeepsOff := fun u hu => hv u (List.mem_append_left _ hu)
  exact guarantee_of_unheld (afterVisits_of_unheld hs hfront).1 (hv v (by simp))

end Visit

/-- Surroundings with nothing but a registered factory. -/
def registered (factory : Factory) : Surroundings :=
  ⟨⟨FilePath.ofText ['/'], []⟩, [], some factory⟩

/-- A session for the empty descriptor whose context holds an entry of the caller. -/
def notedSession : Session where
  request := ⟨.none, .none, .int 0, none, some .standard⟩
  rig := ⟨[("note", .plain (.text "kept"))], []⟩

theorem unheld_notedSession : notedSession.rig.Unheld := by
  intro key
  cases key <;> rfl

/-- A visit whose simulator has no handles, and one whose body fails and then its disposal. -/
def brokenVisits : List Visit :=
  [⟨registered Sample.withoutBindings, [Rig.Step.bare (.put "first" (.int 1))], [], .ok ()⟩,
   ⟨registered Sample.withoutDisposal, [],
    [Rig.Step.bare (.put "inside" (.int 2)), Rig.Step.bare (.fetch "GET" "/test" "")],
    .error (.simulator "body failed")⟩]

set_option maxRecDepth 10000 in
theorem guarantee_of_brokenVisits :
    (∀ front v back, brokenVisits = front ++ v :: back →
        Guarantee (notedSession.afterVisits front) v) ∧
      (notedSession.afterVisits brokenVisits).rig.Unheld ∧
      (notedSession.afterVisits brokenVisits).rig.running.map (·.disposals) = [1, 1] := by
  have hkeeps : ∀ v ∈ brokenVisits, v.KeepsOff := by
    have hnone : ∀ st ∈ ([] : List Rig.Step), st.KeepsOff := fun _ hst => absurd hst List.not_mem_nil
    simp only [brokenVisits, List.forall_mem_cons]
    refine ⟨⟨?_, hnone⟩, ⟨hnone, ?_⟩, fun _ hv => absurd hv List.not_mem_nil⟩
    · exact List.forall_mem_singleton.2 (rfl : RigKey.isOwn "first" = false)
    · have hinside : RigKey.isOwn "inside" = false := rfl
      exact List.forall_mem_cons.2 ⟨hinside, List.forall_mem_singleton.2 trivial⟩
  obtain ⟨hall, hafter, hrunning⟩ := guarantee_of_visits notedSession brokenVisits unheld_notedSession hkeeps
  refine ⟨hall, hafter, ?_⟩
  rw [hrunning]
  rfl

end Session

end EdgeRig
