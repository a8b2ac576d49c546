import EdgeRig.Fault

/-!
# Outcomes and notices

Some activities tell what they do as they go.  An `Outcome` holds what was told, in order, and then
either a result or the fault that ended the activity; what was told before a fault stays told.

* `Notice.message` is the text of a notice, `Notice.level` its weight.  Debug lines are no notices and
  are left out.  One of them writes out a port before it is known to have few enough digits; the fault
  that this can end in is a fault of `Compile.configuration`.
* `Outcome` is a monad: `bind` runs one activity after another and joins what they tell.
-/

namespace EdgeRig

/-- The weight of a notice. -/
inductive Level where
  | info
  | warning
  deriving DecidableEq

/-- What the rig tells while it works. -/
inductive Notice where
  /-- A bound service runs a mock of the caller. -/
  | mocked (service : String)
  /-- A bound service has no mock and runs the default one. -/
  | defaulted (service : String)
  /-- The primary worker was put behind the asset router. -/
  | routed (worker : String) (directory binding : Option String)
  /-- The simulator listens. -/
  | listening (url : String)
  /-- One default factory took the place of another. -/
  | factoryReplaced
  deriving DecidableEq

namespace Notice

def level : Notice → Level
  | mocked _ => .info
  | defaulted _ => .warning
  | routed _ _ _ => .info
  | listening _ => .info
  | factoryReplaced => .warning

/-- An optional text in a notice. -/
def orNone (s : Option String) : String := s.getD "None"

def message : Notice → String
  | mocked service => "[compiler] Mocking service '" ++ service ++ "' with provided script"
  | defaulted service =>
      "[compiler] No mock provided for service '" ++ service ++ "'; applying default mock"
  | routed worker directory binding =>
      "[assets] Routed '" ++ worker ++ "' behind asset-router | directory=" ++ orNone directory ++
        " | binding=" ++ orNone binding
  | listening url => "[harness] Simulator server is listening on " ++ url
  | factoryReplaced => "[simulator] Replacing existing default simulator factory"

end Notice

/-- What an activity told, and how it ended. -/
structure Outcome (α : Type) where
  notices : List Notice
  result : Except Fault α

namespace Outcome

/-- A result without notices. -/
def ofExcept {α : Type} (r : Except Fault α) : Outcome α := ⟨[], r⟩

def done {α : Type} (a : α) : Outcome α := ⟨[], .ok a⟩

def fail {α : Type} (f : Fault) : Outcome α := ⟨[], .error f⟩

/-- Tell something. -/
def tell (n : Notice) : Outcome Unit := ⟨[n], .ok ()⟩

/-- One activity after another; a fault ends the whole. -/
def andThen {α β : Type} (x : Outcome α) (f : α → Outcome β) : Outcome β :=
  match x.result with
  | .error e => ⟨x.notices, .error e⟩
  | .ok a => ⟨x.notices ++ (f a).notices, (f a).result⟩

instance : Monad Outcome where
  pure := done
  bind := andThen

instance : MonadLift (Except Fault) Outcome := ⟨ofExcept⟩

@[simp] theorem pure_eq {α : Type} (a : α) : (pure a : Outcome α) = ⟨[], .ok a⟩ := rfl

@[simp] theorem tell_bind {β : Type} (n : Notice) (f : Unit → Outcome β) :
    (tell n >>= f) = ⟨n :: (f ()).notices, (f ()).result⟩ := rfl

end Outcome

end EdgeRig
