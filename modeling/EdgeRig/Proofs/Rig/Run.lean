import EdgeRig.Lab
import EdgeRig.Sample

/-!
# Runs of a rig

A run is a list of steps on one rig.  Each step finds its own surroundings: files, environment and
registered factory may change from one to the next.

* `Rig.Step` — an action together with what it finds; `Rig.Step.IsDirect` leaves out the actions of
  sessions.
* `Rig.Step.cases_of_isDirect` — what a direct step does to a rig.
* `Rig.after` — the rig after a run; `Rig.after_append`.
-/

namespace EdgeRig

namespace Rig

/-- What is done with a rig, and what it finds around it. -/
structure Step where
  around : Surroundings
  transport : Transport
  action : Action

namespace Step

/-- What a step does to a rig without a session, and what can be seen of it. -/
def report (st : Step) (r : Rig) : Report :=
  Lab.report st.around st.transport "" none r st.action

/-- The rig after a step. -/
def apply (st : Step) (r : Rig) : Rig := (st.report r).rig

/-- The step is a setup, a teardown, a write of the caller or a fetch. -/
def IsDirect (st : Step) : Prop :=
  match st.action with
  | .setup _ | .teardown | .put _ _ | .fetch _ _ _ => True
  | .openSession _ | .enterSession | .exitSession => False

/-- **What a direct step does to a rig.** -/
theorem cases_of_isDirect {st : Step} (h : st.IsDirect) (r : Rig) :
    (∃ request, st.action = .setup request ∧ st.apply r = (r.setup st.around request).1) ∨
      (st.action = .teardown ∧ st.apply r = r.teardown.1) ∨
      (∃ key v, st.action = .put key v ∧ st.apply r = r.put key v) ∨
      ∃ method url content, st.action = .fetch method url content ∧ st.apply r = r := by
  obtain ⟨around, transport, action⟩ := st
  cases action with
  | setup request => exact Or.inl ⟨request, rfl, rfl⟩
  | teardown => exact Or.inr (Or.inl ⟨rfl, rfl⟩)
  | put key v => exact Or.inr (Or.inr (Or.inl ⟨key, v, rfl, rfl⟩))
  | fetch method url content => exact Or.inr (Or.inr (Or.inr ⟨method, url, content, rfl, rfl⟩))
  | openSession _ => exact absurd h id
  | enterSession => exact absurd h id
  | exitSession => exact absurd h id

/-- An action that finds nothing around it but the sample server. -/
def bare (a : Action) : Step := ⟨⟨⟨FilePath.ofText ['/'], []⟩, [], none⟩, Sample.server, a⟩

/-- A setup of the empty descriptor with a factory of its own. -/
def setupWith (factory : Factory) : Step :=
  bare (.setup ⟨.none, .none, .int 0, some factory, some .standard⟩)

theorem apply_of_teardown {st : Step} (h : st.action = .teardown) (r : Rig) :
    st.apply r = r.teardown.1 := by
  rw [apply, report, h]
  rfl

end Step

/-- The rig after a run. -/
def after (r : Rig) : List Step → Rig
  | [] => r
  | st :: rest => after (st.apply r) rest

@[simp] theorem after_nil (r : Rig) : r.after [] = r := rfl

@[simp] theorem after_cons (r : Rig) (st : Step) (rest : List Step) :
    r.after (st :: rest) = (st.apply r).after rest := rfl

theorem after_append (r : Rig) (xs ys : List Step) : r.after (xs ++ ys) = (r.after xs).after ys := by
  induction xs generalizing r with
  | nil => rfl
  | cons st xs ih => exact ih (st.apply r)

end Rig

end EdgeRig
