import EdgeRig.Fetch
import EdgeRig.Simulator
import EdgeRig.Value.Access

/-!
# Samples to try a rig with

Simulators that show what they were started with, or fail at one stage, and a server with two pages.
-/

namespace EdgeRig

namespace Sample

/-- Is this the description of the worker of a name? -/
def describes (name : String) (worker : Value) : Bool :=
  match worker.peek "name" with
  | .ok (.scalar (.text s)) => s == name
  | _ => false

/-- The bindings of the worker of a name, as the options describe it. -/
def bindingsIn (options : Value) (name : String) : Value :=
  let found := do
    let workers ← options.peek "workers"
    let all ← workers.elements
    match all.find? (describes name) with
    | some w => w.peek "bindings"
    | none => .ok .null
  match found with
  | .ok v => v
  | .error _ => .null

/-- A simulator that hands out the bindings it was started with. -/
def plain (options : Value) : Simulator where
  bindings := fun name =>
    .ok (Value.record [("worker", .text name), ("bindings", bindingsIn options name)])
  disposal := .ok ()

/-- A factory that makes plain simulators. -/
def working : Factory := fun options => .ok (plain options)

/-- A factory that makes nothing. -/
def failing : Factory := fun _ => .error (.simulator "simulator failed to start")

/-- A factory of simulators without handles. -/
def withoutBindings : Factory := fun options =>
  .ok { plain options with bindings := fun _ => .error (.simulator "bindings failed") }

/-- A factory of simulators that cannot be disposed of. -/
def withoutDisposal : Factory := fun options =>
  .ok { plain options with disposal := .error (.simulator "dispose failed") }

/-- The page at a path, which is looked at after decoding. -/
def page (path : List UInt8) : Response :=
  if path = "/test".toUTF8.toList then ⟨200, "Hello World"⟩
  else if path = "/redirect".toUTF8.toList then ⟨302, ""⟩
  else ⟨404, "Not found"⟩

/-- A server with two pages, which are the same for every method. -/
def server : Transport := fun r => page (Percent.decode r.url.path)

end Sample

end EdgeRig
