import EdgeRig.Proofs.Session
import EdgeRig.Proofs.Setup.Runnable

/-!
# Entering in vain

A session that cannot be set up is torn down at once, and so two things may fail.  This file says which of
the two faults the caller gets to see.

* `Rig.outcome_enter_of_error` — entering ends with the fault of the teardown if that fails, and else with
  the fault of the setup.
* `Setup.FailsTwice` — a simulator has no handles, and cannot be disposed of either.
* `Session.fault_of_enter` — the caller sees the fault of the setup, except for such a simulator;
  `Session.fault_lost_of_brittle` shows one.
-/

namespace EdgeRig

/-! ## Two faults -/

namespace Setup

variable {around : Surroundings} {request : SetupRequest} {f g : Fault}

/-- The simulator that the setup asks its factory for has no handles for the primary worker, and its
disposal fails with this fault. -/
def FailsTwice (around : Surroundings) (request : SetupRequest) (g : Fault) : Prop :=
  ∃ s factory o sim, settingsOf around request = .ok s ∧ factoryOf around request = some factory ∧
    Asks around request o ∧ factory o = .ok sim ∧ (∃ f, sim.bindings s.mainWorkerName = .error f) ∧
    sim.disposal = .error g

/-- A failed setup has made a simulator only if that has no handles. -/
theorem failsTwice_iff (h : (attempt around request).outcome.result = .error f) :
    FailsTwice around request g ↔
      ∃ sim, (attempt around request).made = some sim ∧ sim.disposal = .error g := by
  constructor
  · rintro ⟨s, factory, o, sim, hs, hf, hasks, hm, -, hg⟩
    obtain ⟨s', factory', c, url, hs', hf', hp, hu, rfl⟩ := asks_iff.1 hasks
    cases hf.symm.trans hf'
    exact ⟨sim, made_eq_some_iff.2 ⟨s', factory, c, url, hs', hf, hp, hu, hm⟩, hg⟩
  · rintro ⟨sim, hmade, hg⟩
    have hcourse := course_attempt around request
    generalize attempt around request = a at hcourse h hmade
    cases hcourse with
    | unsettled _ => cases hmade
    | unequipped _ _ => cases hmade
    | unplanned _ _ _ => cases hmade
    | nowhere _ _ _ _ => cases hmade
    | unmade _ _ _ _ _ => cases hmade
    | @unbound s factory c url sim' f' hs hf hp hu hm hb =>
      cases hmade
      exact ⟨s, factory, c.options, sim, hs, hf, asks_iff.2 ⟨s, factory, c, url, hs, hf, hp, hu, rfl⟩,
        hm, ⟨f', hb⟩, hg⟩
    | ready _ _ _ _ _ _ => cases h

end Setup

namespace Rig

variable {r : Rig} {around : Surroundings} {request : SetupRequest} {f : Fault}

/-- Entering ends with the fault of the teardown if that fails, and else with the fault of the setup. -/
theorem outcome_enter_of_error (h : (Setup.attempt around request).outcome.result = .error f) :
    (r.enter around request).2 = ⟨(Setup.attempt around request).outcome.notices,
      (r.setup around request).1.teardown.2 >>= fun _ => .error f⟩ := by
  simp only [enter, setup, h]
  cases ((r.carryOut (Setup.attempt around request)).teardown).2 with
  | ok _ => rfl
  | error g => rfl

end Rig

/-! ## What the caller sees -/

namespace Session

open Setup

/-- **The fault of a session that cannot be entered** is the fault of its setup, unless a simulator was
made that has no handles and cannot be disposed of: then the fault of the disposal takes its place.  What
was told is what the setup tells, in either case. -/
theorem fault_of_enter (s : Session) (around : Surroundings) (f : Fault) (hs : s.rig.Unheld)
    (hf : ((Rig.mk [] s.rig.running).setup around s.request).2.result = .error f) :
    (s.enter around).2.notices = ((Rig.mk [] s.rig.running).setup around s.request).2.notices ∧
      ((∀ g, ¬ FailsTwice around s.request g) → (s.enter around).2.result = .error f) ∧
      ∀ g, FailsTwice around s.request g → (s.enter around).2.result = .error g := by
  have hattempt : (attempt around s.request).outcome.result = .error f := hf
  have henter := Rig.outcome_enter_of_error (r := s.rig) hattempt
  rw [Rig.teardown_setup_eq hs] at henter
  have hnotices : (s.enter around).2.notices = (s.rig.enter around s.request).2.notices := rfl
  have hresult : (s.enter around).2.result =
      (s.rig.enter around s.request).2.result.map fun _ => (s.enter around).1.rig.context := rfl
  rw [hnotices, hresult, henter]
  refine ⟨rfl, fun hnot => ?_, fun g hg => ?_⟩
  · cases hmade : (attempt around s.request).made with
    | none => rfl
    | some sim =>
      cases hdisposal : sim.disposal with
      | ok _ => simp only [Option.map_some, Option.getD_some, hdisposal, Except.ok_bind, Except.map]
      | error g => exact absurd ((failsTwice_iff hattempt).2 ⟨sim, hmade, hdisposal⟩) (hnot g)
  · obtain ⟨sim, hmade, hdisposal⟩ := (failsTwice_iff hattempt).1 hg
    simp only [hmade, Option.map_some, Option.getD_some, hdisposal, Except.error_bind, Except.map]

/-- A simulator without handles that can be disposed of leaves the fault of the setup as it is. -/
theorem fault_of_notedSession :
    notedSession.rig.Unheld ∧
      ((Rig.mk [] notedSession.rig.running).setup (registered Sample.withoutBindings)
        notedSession.request).2.result = .error (.simulator "bindings failed") ∧
      (notedSession.enter (registered Sample.withoutBindings)).2.result =
        .error (.simulator "bindings failed") := by
  have hfault : ((Rig.mk [] notedSession.rig.running).setup (registered Sample.withoutBindings)
      notedSession.request).2.result = .error (.simulator "bindings failed") := by rfl
  obtain ⟨-, hkept, -⟩ := fault_of_enter notedSession (registered Sample.withoutBindings)
    (.simulator "bindings failed") unheld_notedSession hfault
  refine ⟨unheld_notedSession, hfault, hkept fun g hg => ?_⟩
  obtain ⟨sim, hmade, hdisposal⟩ := (failsTwice_iff hfault).1 hg
  cases hmade
  cases hdisposal

/-- A factory of simulators that have no handles and cannot be disposed of. -/
def brittle : Factory := fun options =>
  .ok { Sample.plain options with
    bindings := fun _ => .error (.simulator "bindings failed")
    disposal := .error (.simulator "dispose failed") }

/-- With such simulators the caller does not see the fault of the setup. -/
theorem fault_lost_of_brittle :
    notedSession.rig.Unheld ∧
      ((Rig.mk [] notedSession.rig.running).setup (registered brittle) notedSession.request).2.result =
        .error (.simulator "bindings failed") ∧
      (notedSession.enter (registered brittle)).2.result = .error (.simulator "dispose failed") ∧
      (notedSession.enter (registered brittle)).2.result ≠ .error (.simulator "bindings failed") := by
  have hlost : (notedSession.enter (registered brittle)).2.result =
      .error (.simulator "dispose failed") := by rfl
  refine ⟨unheld_notedSession, rfl, hlost, fun hkept => ?_⟩
  have hsame := Fault.simulator.inj (Except.error.inj (hlost.symm.trans hkept))
  exact absurd hsame (by decide)

end Session

end EdgeRig
