import EdgeRig.Setup

/-!
# Rigs

A rig is a context together with the simulators that were made for it.  Simulators are never taken
off the list, so that it can be told how often each of them was disposed of.

* `Rig.setup` carries an attempt out, `Rig.teardown` disposes of the simulator in the context and
  takes the entries of the rig away, whether the disposal fails or not.
* `Rig.enter` is a setup that cleans up after itself when it fails.
* `Rig.fetch` sends a request through the helper in the context.
-/

namespace EdgeRig

/-- A simulator, and how often it was disposed of. -/
structure Running where
  simulator : Simulator
  disposals : Nat

/-- A context and the simulators that were made for it, the oldest first. -/
structure Rig where
  context : Context
  running : List Running

namespace Rig

/-- A rig that nothing was done with. -/
def fresh : Rig := ⟨[], []⟩

/-- The entry that a write of a setup leaves, when its simulator has the given number. -/
def entryOf (index : Nat) : Setup.Entry → ContextEntry
  | .plain v => .plain v
  | .made => .simulator index
  | .fetcher f => .fetcher f

/-- Write the entries of a setup. -/
def writeAll (index : Nat) (c : Context) (ws : List (RigKey × Setup.Entry)) : Context :=
  ws.foldl (fun c w => c.put w.1.text (entryOf index w.2)) c

/-- Carry an attempt out. -/
def carryOut (r : Rig) (a : Setup.Attempt) : Rig where
  context := writeAll r.running.length r.context a.writes
  running := r.running ++ (a.made.map fun s => ⟨s, 0⟩).toList

/-- Compile a descriptor, start a simulator and fill the context. -/
def setup (r : Rig) (around : Surroundings) (request : SetupRequest) : Rig × Outcome Unit :=
  let a := Setup.attempt around request
  (r.carryOut a, a.outcome)

/-- Dispose of the simulator of a number. -/
def dispose (running : List Running) (index : Nat) : List Running × Except Fault Unit :=
  match running[index]? with
  | none => (running, .ok ())
  | some s => (running.set index { s with disposals := s.disposals + 1 }, s.simulator.disposal)

/-- Dispose of what stands for a simulator in a context. -/
def disposeEntry (running : List Running) : Option ContextEntry → List Running × Except Fault Unit
  | none => (running, .ok ())
  | some (.plain v) => (running, if v.isNull then .ok () else .error .notSimulator)
  | some (.fetcher _) => (running, .error .notSimulator)
  | some (.simulator index) => dispose running index

/-- Dispose of the simulator and take the entries of the rig out of the context. -/
def teardown (r : Rig) : Rig × Except Fault Unit :=
  let (running, result) := disposeEntry r.running (r.context.get? RigKey.simulator.text)
  (⟨r.context.cleared, running⟩, result)

/-- Write an entry of the caller. -/
def put (r : Rig) (key : String) (v : Value) : Rig :=
  { r with context := r.context.put key (.plain v) }

/-- Fetch through the helper in the context. -/
def fetch (r : Rig) (transport : Transport) (method url content : String) : Fetcher.Exchange :=
  match r.context.get? RigKey.fetch.text with
  | none => ⟨[], .error (.missingKey RigKey.fetch.text)⟩
  | some (.fetcher f) => f.fetch transport method url content
  | some _ => ⟨[], .error .notFetcher⟩

/-- Set up, and tear down at once when that fails.  A fault of the teardown takes the place of the
fault of the setup. -/
def enter (r : Rig) (around : Surroundings) (request : SetupRequest) : Rig × Outcome Unit :=
  let (done, outcome) := r.setup around request
  match outcome.result with
  | .ok () => (done, outcome)
  | .error f =>
      let (cleaned, result) := done.teardown
      match result with
      | .ok () => (cleaned, ⟨outcome.notices, .error f⟩)
      | .error g => (cleaned, ⟨outcome.notices, .error g⟩)

end Rig

end EdgeRig
