import EdgeRig.Session

/-!
# Labs

A lab holds several rigs, each under a name of its own, and one factory that is used where a setup
is given none.  A session is kept as its request; its rig is the one of its name.

* `Action` lists what can be done with a rig; `Lab.perform` does it.
* An action changes the rig of its name only; the registered factory is all that rigs share.
-/

namespace EdgeRig

/-- What can be done with a rig. -/
inductive Action where
  | setup (request : SetupRequest)
  | teardown
  | put (key : String) (v : Value)
  | fetch (method url content : String)
  /-- Keep a request for a session, which gets an empty context. -/
  | openSession (request : SetupRequest)
  | enterSession
  | exitSession

/-- Several rigs, the sessions that were opened, and the registered factory.  `made` names the
simulators of all rigs in order of making: the rig of each, and its number there. -/
structure Lab where
  rigs : List (String × Rig)
  sessions : List (String × SetupRequest)
  defaultFactory : Option Factory
  made : List (String × Nat)

/-- What an action does to a rig, and what can be seen of it. -/
structure Report where
  rig : Rig
  outcome : Outcome (Option Response)
  sent : List Request

namespace Report

/-- A report of an action that sends nothing. -/
def quiet {α : Type} (rig : Rig) (outcome : Outcome α) : Report :=
  ⟨rig, ⟨outcome.notices, outcome.result.map fun _ => none⟩, []⟩

end Report

/-- Set the value of a name, in its place or at the end. -/
def assignName {α : Type} : List (String × α) → String → α → List (String × α)
  | [], n, a => [(n, a)]
  | (m, b) :: rest, n, a => if m = n then (n, a) :: rest else (m, b) :: assignName rest n a

namespace Lab

def empty : Lab := ⟨[], [], none, []⟩

/-- The rig of a name; a name that was never used has a fresh one. -/
def rig (l : Lab) (name : String) : Rig := (l.rigs.lookup name).getD .fresh

/-- Register a factory, or none. -/
def register (l : Lab) (factory : Option Factory) : Lab × Outcome Unit :=
  let notices : List Notice :=
    if factory.isSome && l.defaultFactory.isSome then [.factoryReplaced] else []
  ({ l with defaultFactory := factory }, ⟨notices, .ok ()⟩)

/-- What an action does to the rig of a name.  The session of the rig is given, if one was
opened. -/
def report (around : Surroundings) (transport : Transport) (name : String)
    (session : Option SetupRequest) (r : Rig) : Action → Report
  | .setup request =>
      let (r, outcome) := r.setup around request
      .quiet r outcome
  | .teardown =>
      let (r, result) := r.teardown
      .quiet r (.ofExcept result)
  | .put key v => .quiet (r.put key v) (.done ())
  | .fetch method url content =>
      let e := r.fetch transport method url content
      ⟨r, ⟨[], e.result.map some⟩, e.sent⟩
  | .openSession _ => .quiet { r with context := [] } (.done ())
  | .enterSession =>
      match session with
      | none => ⟨r, .fail (.noSession name), []⟩
      | some request =>
          let (s, outcome) := (Session.mk request r).enter around
          .quiet s.rig outcome
  | .exitSession =>
      match session with
      | none => ⟨r, .fail (.noSession name), []⟩
      | some request =>
          let (s, result) := (Session.mk request r).exit
          .quiet s.rig (.ofExcept result)

/-- The sessions after an action. -/
def sessionsAfter (l : Lab) (name : String) : Action → List (String × SetupRequest)
  | .openSession request => assignName l.sessions name request
  | _ => l.sessions

/-- The simulators that a rig has after an action and did not have before. -/
def newSimulators (name : String) (before after : Rig) : List (String × Nat) :=
  ((List.range after.running.length).drop before.running.length).map fun i => (name, i)

/-- The number of a simulator among those of all rigs. -/
def number (l : Lab) (name : String) (index : Nat) : Nat := l.made.idxOf (name, index)

/-- How often each simulator was disposed of, in order of making. -/
def disposals (l : Lab) : List Nat :=
  l.made.map fun m => (((l.rig m.1).running[m.2]?).map (·.disposals)).getD 0

/-- Do something with the rig of a name. -/
def perform (l : Lab) (files : FileTree) (environment : List (String × String))
    (transport : Transport) (name : String) (a : Action) : Lab × Report :=
  let around : Surroundings := ⟨files, environment, l.defaultFactory⟩
  let done := report around transport name (l.sessions.lookup name) (l.rig name) a
  ({ l with
      rigs := assignName l.rigs name done.rig
      sessions := l.sessionsAfter name a
      made := l.made ++ newSimulators name (l.rig name) done.rig }, done)

end Lab

end EdgeRig
