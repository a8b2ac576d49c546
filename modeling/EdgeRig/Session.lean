import EdgeRig.Rig

/-!
# Sessions

A session keeps a request until it is entered, and owns the context that is then set up.

* `Session.enter` sets the rig up and hands out its context; what a failed setup has written and made is
  taken back at once.
* `Session.exit` tears the rig down.  Its result says whether a fault of the body is to be forgotten; it
  never is.
-/

namespace EdgeRig

/-- A request, and the rig that it is for. -/
structure Session where
  request : SetupRequest
  rig : Rig

namespace Session

/-- Set the rig up, and hand out its context. -/
def enter (s : Session) (around : Surroundings) : Session × Outcome Context :=
  let (r, outcome) := s.rig.enter around s.request
  ({ s with rig := r }, ⟨outcome.notices, outcome.result.map fun _ => r.context⟩)

/-- Tear the rig down.  A fault of the body is not forgotten. -/
def exit (s : Session) : Session × Except Fault Bool :=
  let (r, result) := s.rig.teardown
  ({ s with rig := r }, result.map fun _ => false)

end Session

end EdgeRig
