import EdgeRig.Outcome
import EdgeRig.Rule
import EdgeRig.Schema.Workers
import EdgeRig.ServiceMock
import EdgeRig.Settings
import EdgeRig.Value.Shown

/-!
# Compiling a descriptor

A descriptor becomes a configuration: the primary worker first, then one worker for each distinct
service that it is bound to.

* `Compile.primary` makes the primary worker: plain bindings, the asset block, the mapping rules.
* `Compile.serviceWorker` makes the worker of one service, from a mock or from the default script;
  `Compile.serviceWorkers` goes through the services and leaves out repetitions and the primary
  worker itself.
* `Compile.configuration` is the whole; `Compile.rebase` moves relative paths below a base directory
  at the three places where a descriptor or a mock names one.
-/

namespace EdgeRig

namespace Compile

/-- Move a path below the base directory, if there is one.  "Nothing" stays nothing. -/
def rebase (base : Option String) (path : Value) : Except Fault Value :=
  match base with
  | none => .ok path
  | some b =>
      match path with
      | .scalar .null => .ok path
      | .scalar (.text p) => .ok (.text (FilePath.rebase p b))
      | _ => .error .pathNotText

/-! ## The primary worker -/

/-- The plain bindings of the primary worker. -/
def withVars (descriptor : Value) (w : Worker) : Except Fault Worker := do
  let vars ← descriptor.peek "vars"
  if vars.isNull then .ok w
  else
    let m ← vars.toMapping
    .ok (w.set .bindings (.plain (.map m)))

/-- The asset block that a descriptor describes. -/
def assetBlock (base : Option String) (assets : Value) : Except Fault AssetBlock := do
  let binding ← assets.peek "binding"
  let directory ← assets.peek "directory"
  let directory ← rebase base directory
  Reader.run .assetBlock AssetBlock.read
    (Value.record [("binding", binding), ("directory", directory)])

def withAssets (base : Option String) (descriptor : Value) (w : Worker) : Except Fault Worker := do
  let assets ← descriptor.peek "assets"
  if assets.isNull then .ok w
  else
    let b ← assetBlock base assets
    .ok (w.set .assets (.block b))

/-- Move the path of the primary script below the base directory. -/
def withScriptPath (base : Option String) (w : Worker) : Except Fault Worker :=
  match w.cell .scriptPath with
  | .block _ => .ok w
  | .plain v => (rebase base v).map fun v => w.set .scriptPath (.plain v)

/-- The primary worker, without its service bindings. -/
def primary (base : Option String) (s : Settings) (descriptor : Value) : Except Fault Worker := do
  let w ← withVars descriptor (Worker.named s.mainWorkerName)
  let w ← withAssets base descriptor w
  let w ← Rule.applyAll Rule.table descriptor w
  withScriptPath base w

/-! ## Services -/

/-- The binding and the service of an entry. -/
def serviceEntry (service : Value) : Except Fault (Scalar × Value) := do
  let binding ← service.field "binding"
  let target ← service.field "service"
  let binding ← binding.asKey
  .ok (binding, target)

/-- The bindings and the services of all entries. -/
def serviceEntries (services : List Value) : Except Fault (List (Scalar × Value)) :=
  services.mapM serviceEntry

/-- The name of a worker, which must be a text. -/
def workerName (name : Scalar) : Except Fault String :=
  match name with
  | .text s => .ok s
  | _ => .error (.invalid .worker [⟨[.field "name"], .text⟩])

/-- A worker that runs a mock. -/
def ofMock (base : Option String) (name : String) (mock : ServiceMock) : Worker :=
  let path := mock.scriptPath?.map fun p => (base.map (FilePath.rebase p)).getD p
  ((Worker.named name).setText .script mock.script?).setText .scriptPath path

/-- A worker that runs the default script. -/
def ofDefault (s : Settings) (name : String) : Worker :=
  (Worker.named name).setText .script
    (some (Script.defaultMock name (String.ofList (Numeral.ofInt s.defaultMockStatus))))

/-- The worker of a service. -/
def serviceWorker (base : Option String) (s : Settings) (mocks : MockTable) (service : Scalar) :
    Outcome Worker := do
  match ← mocks.find? service with
  | some mock => do
      let shown ← (Value.scalar service).written
      Outcome.tell (.mocked shown)
      let mock ← mock.resolve (.scalar service)
      let name ← workerName service
      pure (ofMock base name mock)
  | none => do
      let shown ← (Value.scalar service).written
      Outcome.tell (.defaulted shown)
      let name ← workerName service
      pure (ofDefault s name)

/-- Does the service need no worker of its own?  It has one already, or is the primary worker. -/
def isServed (s : Settings) (made : List (Scalar × Worker)) (service : Scalar) : Bool :=
  (made.any fun e => e.1.same service) || service == .text s.mainWorkerName

/-- Make the worker of the next service, unless it needs none. -/
def addService (base : Option String) (s : Settings) (mocks : MockTable)
    (made : List (Scalar × Worker)) (service : Value) : Outcome (List (Scalar × Worker)) := do
  let name ← service.asKey
  if isServed s made name then pure made
  else
    let w ← serviceWorker base s mocks name
    pure (made ++ [(name, w)])

/-- The workers of the services, in order of first appearance. -/
def serviceWorkers (base : Option String) (s : Settings) (mocks : MockTable)
    (services : List Value) : Outcome (List Worker) := do
  let made ← services.foldlM (addService base s mocks) []
  pure (made.map (·.2))

/-- The primary worker with its service bindings, and the workers of the services. -/
def withServices (base : Option String) (s : Settings) (mocks : MockTable) (descriptor : Value)
    (w : Worker) : Outcome (List Worker) := do
  let services ← descriptor.peek "services"
  if services.isNull then pure [w]
  else
    let items ← services.elements
    let entries ← serviceEntries items
    let w := w.set .serviceBindings (.plain (.map (Mapping.ofEntries entries)))
    let others ← serviceWorkers base s mocks (entries.map (·.2))
    pure (w :: others)

/-! ## The configuration -/

/-- Where to listen.  A host counts only when there is a port. -/
def listening (s : Settings) (descriptor : Value) : Value × Value :=
  match descriptor.lookup "dev.port" with
  | none => (.null, .null)
  | some port =>
      let host := (descriptor.lookup "dev.hostname").filter Value.isTruthy
      (host.getD (.text s.defaultHost), port)

/-- The configuration that a descriptor describes.  An empty value counts as a descriptor that says
nothing, and the port has to be one that can be written out. -/
def configuration (descriptor : Value) (mocks : MockTable) (base : Option String) (s : Settings) :
    Outcome Configuration := do
  let descriptor := if descriptor.isTruthy then descriptor else .map []
  let w ← primary base s descriptor
  let workers ← withServices base s mocks descriptor w
  let (host, port) := listening s descriptor
  let _ ← port.written
  pure ⟨workers, host, port⟩

end Compile

end EdgeRig
