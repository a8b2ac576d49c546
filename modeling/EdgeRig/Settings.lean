import EdgeRig.Schema.Reading
import EdgeRig.Script

/-!
# Settings of the rig

Defaults that are used where a descriptor is silent, and the limits of a request.

* `Settings.read` accepts a record in which any field may be left out.
* `Settings.ofEnvironment` reads the two fields that environment variables can set; an empty
  variable counts as absent.
-/

namespace EdgeRig

/-- The settings of the rig. -/
structure Settings where
  defaultHost : String
  mainWorkerName : String
  stubScript : String
  defaultMockStatus : Int
  notListeningStatus : Int
  requestTimeout : Binary64

namespace Settings

/-- The settings of a rig about which nothing is said. -/
def standard : Settings where
  defaultHost := "127.0.0.1"
  mainWorkerName := "main"
  stubScript := Script.stub
  defaultMockStatus := 404
  notListeningStatus := 503
  requestTimeout := Binary64.ofInt 10

/-- A status code with which a server can answer. -/
def status : Reader Int := fun v =>
  ((Reader.integer v).demand (fun n => decide (100 ≤ n)) .atLeastHundred).demand
    (fun n => decide (n ≤ 599)) .belowSixHundred

/-- A length of time in seconds. -/
def timeout : Reader Binary64 := fun v => (Reader.number v).demand Binary64.isPositive .aboveZero

def read : Reader Settings := fun v => do
  let m ← Reader.record .settings v
  let text (n d : String) := Reader.field m [n] (.ok d) Reader.text
  let host := text "default_host" standard.defaultHost
  let main := text "main_worker_name" standard.mainWorkerName
  let stub := text "stub_script" standard.stubScript
  let mock := Reader.field m ["default_mock_status"] (.ok standard.defaultMockStatus) status
  let silent := Reader.field m ["not_listening_status"] (.ok standard.notListeningStatus) status
  let limit := Reader.field m ["request_timeout"] (.ok standard.requestTimeout) timeout
  let texts := Reading.both host (Reading.both main stub)
  let numbers := Reading.both mock (Reading.both silent limit)
  (Reading.both texts numbers).map fun p =>
    { defaultHost := p.1.1
      mainWorkerName := p.1.2.1
      stubScript := p.1.2.2
      defaultMockStatus := p.2.1
      notListeningStatus := p.2.2.1
      requestTimeout := p.2.2.2 }

/-- The variables that set a field. -/
def fieldOfVariable : List (String × String) :=
  [("WORKER_HARNESS_DEFAULT_HOST", "default_host"),
   ("WORKER_HARNESS_REQUEST_TIMEOUT", "request_timeout")]

/-- The record that an environment describes. -/
def overrides (environment : List (String × String)) : Mapping :=
  fieldOfVariable.filterMap fun v =>
    match environment.lookup v.1 with
    | none => none
    | some s => if s = "" then none else some (.text v.2, .text s)

def ofEnvironment (environment : List (String × String)) : Except Fault Settings :=
  Reader.run .settings read (.map (overrides environment))

end Settings

end EdgeRig
