import EdgeRig.Fault

/-!
# Simulators

The rig runs no workers itself.  It hands options to a factory, and what the factory makes answers
two things: the binding handles of a worker, and how its disposal ends.  Both, and the factory
itself, may fail.
-/

namespace EdgeRig

/-- A running simulator, as far as a rig can tell. -/
structure Simulator where
  /-- The binding handles of the worker of a name. -/
  bindings : String → Except Fault Value
  /-- How a disposal ends. -/
  disposal : Except Fault Unit

/-- What makes a simulator of options. -/
abbrev Factory := Value → Except Fault Simulator

end EdgeRig
