import EdgeRig.Schema.Reading

/-!
# Service mocks

A service mock stands in for a service that the worker under test is bound to.  It is a script, or
the path of one; the type has no third case and no case with both.

* `ServiceMock.read` accepts a record with the fields `script` and `scriptPath`, the latter also
  spelled `script_path`, of which exactly one says something, and no other field.
* `MockTable` is what a caller hands over for all services; a mock may be read already, or is read
  when it is needed.
-/

namespace EdgeRig

/-- A stand-in for a bound service. -/
inductive ServiceMock where
  | inline (script : String)
  | file (path : String)
  deriving DecidableEq

namespace ServiceMock

def script? : ServiceMock → Option String
  | inline s => some s
  | file _ => none

def scriptPath? : ServiceMock → Option String
  | inline _ => none
  | file p => some p

/-- The spellings of the path field, the one that counts most first. -/
def pathNames : List String := ["scriptPath", "script_path"]

/-- Does a record with these entries use the entry of this key? -/
def isUsed (m : Mapping) (k : Scalar) : Bool :=
  k == .text "script" || ((Reader.entry? m pathNames).map fun e => Scalar.text e.1) == some k

/-- The entries that belong to no field. -/
def extras (m : Mapping) : List Problem :=
  (m.filter fun e => !isUsed m e.1).map fun e => ⟨[.key e.1], .extra⟩

/-- Exactly one source must say something. -/
def ofSources (script path : Option String) : Reading ServiceMock :=
  match script, path with
  | some s, none => .ok (inline s)
  | none, some p => .ok (file p)
  | _, _ => Reading.refuse .oneSource

def read : Reader ServiceMock := fun v => do
  let m ← Reader.record .serviceMock v
  let script := Reader.field m ["script"] (.ok none) (Reader.optional Reader.text)
  let path := Reader.field m pathNames (.ok none) (Reader.optional Reader.text)
  match Reading.both script path, extras m with
  | .ok (s, p), [] => ofSources s p
  | fields, extra => .error (fields.problems ++ extra)

end ServiceMock

/-- What a caller hands over for one service. -/
inductive Mock where
  | described (v : Value)
  | ready (m : ServiceMock)

namespace Mock

/-- A mock that says nothing counts as no mock. -/
def isAbsent : Mock → Bool
  | described v => v.isNull
  | ready _ => false

/-- The stand-in that a mock of a service stands for. -/
def resolve (service : Value) : Mock → Except Fault ServiceMock
  | ready m => .ok m
  | described v =>
      match ServiceMock.read v with
      | .ok m => .ok m
      | .error ps => .error (.failure (.invalidMock service ps))

end Mock

/-- The mocks of a caller, by service.  A caller may hand over something that is no mapping; that
shows when a mock is first needed. -/
inductive MockTable where
  | entries (es : List (Scalar × Mock))
  | unusable

namespace MockTable

def none : MockTable := entries []

/-- The mocks in a value; they are read when they are needed. -/
def ofValue (v : Value) : MockTable :=
  match v with
  | .map m => entries (m.map fun e => (e.1, .described e.2))
  | v => if v.isTruthy then unusable else none

/-- The mocks in a value, all of them read at once.  What is no mapping holds no mocks to read. -/
def ofValueRead (v : Value) : Except Fault MockTable :=
  match v with
  | .map m =>
      (m.mapM fun e =>
        (Reader.run .serviceMock ServiceMock.read e.2).map fun s => (e.1, Mock.ready s)).map entries
  | v => .ok (ofValue v)

/-- The mock of a service, if there is one that says something. -/
def find? (t : MockTable) (service : Scalar) : Except Fault (Option Mock) :=
  match t with
  | unusable => .error .optionOfNonMapping
  | entries es =>
      .ok <| ((es.find? fun e => e.1.same service).map (·.2)).filter fun m => !m.isAbsent

end MockTable

end EdgeRig
