import EdgeRig.AssetRouting
import EdgeRig.Compile
import EdgeRig.Context
import EdgeRig.Loading
import EdgeRig.Simulator

/-!
# Setting up

A setup compiles a descriptor, starts a simulator and fills a context.  It may stop at any stage;
what it has written until then stays written.

What a setup does depends on what it is asked for and on its surroundings, but on no context.  It is
therefore an `Attempt`: the entries that are written, in order, the simulator that was made, and the
outcome.  A rig carries an attempt out.

* `Setup.plan` goes as far as the options of the simulator.
* `Setup.attempt` is the whole.
-/

namespace EdgeRig

/-- Where a descriptor comes from. -/
inductive ConfigSource where
  | none
  | given (descriptor : Value)
  | file (path : String)

/-- What a setup is asked for. -/
structure SetupRequest where
  config : ConfigSource
  mocks : MockTable
  portOffset : Value
  factory : Option Factory
  settings : Option Settings

/-- What a setup finds around it. -/
structure Surroundings where
  files : FileTree
  environment : List (String × String)
  defaultFactory : Option Factory

namespace Setup

/-! ## As far as the options -/

/-- The descriptor, and the directory that its paths are seen from. -/
def descriptor (files : FileTree) : ConfigSource → Except Fault (Value × Option String)
  | .none => .ok (.map [], none)
  | .given v => .ok (v, none)
  | .file path => do
      let p := FilePath.ofText path.toList
      let m ← Loading.load files p
      .ok (.map m, some (String.ofList (Loading.baseDirectory files p).text))

/-- The port, moved by an offset.  Without a port there is nothing to move. -/
def movePort (offset port : Value) : Except Fault Value :=
  if port.isNull then .ok port else port.plus offset

/-- Give the first worker of the primary name a script, if it has none. -/
def withStub (s : Settings) : List Worker → List Worker
  | [] => []
  | w :: ws =>
      if w.isNamed s.mainWorkerName then
        (if w.hasScript then w else w.setText .script (some s.stubScript)) :: ws
      else w :: withStub s ws

/-- The configuration that a simulator is started with. -/
def plan (files : FileTree) (r : SetupRequest) (s : Settings) : Outcome Configuration := do
  let (d, base) ← descriptor files r.config
  let c ← Compile.configuration d r.mocks base s
  let port ← movePort r.portOffset c.port
  let routed := AssetRouting.apply c.workers
  routed.outcome
  pure ⟨withStub s routed.workers, c.host, port⟩

/-- The URL that a configuration listens at, if it does. -/
def baseUrl (c : Configuration) : Except Fault (Option String) :=
  if c.listens then do
    let host ← c.host.written
    let port ← c.port.written
    .ok (some ("http://" ++ host ++ ":" ++ port))
  else .ok none

/-! ## Attempts -/

/-- What a setup writes under a key. -/
inductive Entry where
  | plain (v : Value)
  /-- The simulator that the setup has made. -/
  | made
  | fetcher (f : Fetcher)

/-- What a setup does. -/
structure Attempt where
  writes : List (RigKey × Entry)
  made : Option Simulator
  outcome : Outcome Unit

/-- The first entry of any setup. -/
def silent : RigKey × Entry := (.isListening, .plain (.bool false))

/-- The entries that are written before it is known where to listen. -/
def optionWrites (c : Configuration) : List (RigKey × Entry) :=
  [silent, (.options, .plain c.options)]

/-- The entries of a setup that listens at a URL. -/
def listeningWrites (url : Option String) : List (RigKey × Entry) :=
  match url with
  | none => []
  | some url => [(.isListening, .plain (.bool true)), (.baseUrl, .plain (.text url))]

/-- The notice that a simulator listens. -/
def listeningNotice (url : Option String) : List Notice :=
  match url with
  | none => []
  | some url => [.listening url]

/-- Start the simulator, and ask it for the handles of the primary worker. -/
def start (factory : Factory) (s : Settings) (notices : List Notice) (c : Configuration)
    (url : Option String) : Attempt :=
  let writes := optionWrites c ++ listeningWrites url
  match factory c.options with
  | .error f => ⟨writes, none, ⟨notices, .error f⟩⟩
  | .ok sim =>
      let writes := writes ++ [(.simulator, .made)]
      match sim.bindings s.mainWorkerName with
      | .error f => ⟨writes, some sim, ⟨notices, .error f⟩⟩
      | .ok env =>
          { writes := writes ++
              [(.env, .plain env), (.fetch, .fetcher ⟨url, s.notListeningStatus⟩)]
            made := some sim
            outcome := ⟨notices ++ listeningNotice url, .ok ()⟩ }

/-- The settings of a setup: those it is given, or those of the environment. -/
def settingsOf (around : Surroundings) (r : SetupRequest) : Except Fault Settings :=
  match r.settings with
  | some s => .ok s
  | none => Settings.ofEnvironment around.environment

/-- The factory of a setup: the one it is given, or the registered one. -/
def factoryOf (around : Surroundings) (r : SetupRequest) : Option Factory :=
  r.factory.or around.defaultFactory

/-- What a setup does. -/
def attempt (around : Surroundings) (r : SetupRequest) : Attempt :=
  match settingsOf around r with
  | .error f => ⟨[], none, .fail f⟩
  | .ok s =>
      match factoryOf around r with
      | none => ⟨[silent], none, .fail (.failure .noFactory)⟩
      | some factory =>
          let p := plan around.files r s
          match p.result with
          | .error f => ⟨[silent], none, ⟨p.notices, .error f⟩⟩
          | .ok c =>
              match baseUrl c with
              | .error f => ⟨optionWrites c, none, ⟨p.notices, .error f⟩⟩
              | .ok url => start factory s p.notices c url

end Setup

end EdgeRig
