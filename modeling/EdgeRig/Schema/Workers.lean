import EdgeRig.Schema.Reading
import EdgeRig.Worker

/-!
# Reading workers and configurations

A worker is read field by field; each field goes by its option name or, failing that, by its key.
Only the name must be given.  Entries that belong to no field are passed over.

`Worker.readField` says what one field of a record is read as; `Worker.read` collects the problems
of all fields in order of declaration.
-/

namespace EdgeRig

namespace AssetBlock

def read : Reader AssetBlock := fun v => do
  let m ← Reader.record .assetBlock v
  let text (n : String) := Reader.field m [n] (.ok none) (Reader.optional Reader.text)
  (Reading.both (text "binding") (text "directory")).map fun p => ⟨p.1, p.2⟩

end AssetBlock

namespace WorkerField

/-- A reader that keeps the value it accepts. -/
def checked {α : Type} (r : Reader α) : Reader Cell := fun v => (r v).map fun _ => .plain v

/-- What a field of a worker accepts. -/
def read : WorkerField → Reader Cell
  | name => checked Reader.text
  | modules => fun v => (Reader.truth v).map fun b => .plain (.bool b)
  | bindings => checked (Reader.mappingOf Reader.any)
  | script => checked (Reader.optional Reader.text)
  | scriptPath => checked (Reader.optional Reader.text)
  | assets => fun v =>
      (Reader.optional AssetBlock.read v).map fun b =>
        match b with
        | none => .empty
        | some b => .block b
  | kvNamespaces => checked (Reader.optional (Reader.listOf Reader.text))
  | r2Buckets => checked (Reader.optional (Reader.listOf Reader.text))
  | d1Databases => checked (Reader.optional (Reader.mappingOf Reader.any))
  | durableObjects => checked (Reader.optional (Reader.mappingOf Reader.any))
  | queueProducers => checked (Reader.optional (Reader.mappingOf Reader.any))
  | queueConsumers => checked (Reader.optional (Reader.mappingOf Reader.any))
  | serviceBindings => checked (Reader.optional (Reader.mappingOf Reader.text))
  | compatibilityDate => checked Reader.any
  | compatibilityFlags => checked (Reader.optional (Reader.listOf Reader.text))
  | sitePath => checked (Reader.optional Reader.text)

/-- What stands for a field that is not given. -/
def absent : WorkerField → Reading Cell
  | name => (Reading.refuse .missing).within (.field "name")
  | f => .ok (Worker.blank f)

end WorkerField

namespace Worker

/-- One field of a record that describes a worker. -/
def readField (m : Mapping) (f : WorkerField) : Reading Cell :=
  Reader.field m [f.optionName, f.key] f.absent f.read

/-- The problems of all fields, in order. -/
def fieldProblems (m : Mapping) : List Problem :=
  WorkerField.all.flatMap fun f => (readField m f).problems

def read : Reader Worker := fun v => do
  let m ← Reader.record .worker v
  match fieldProblems m with
  | [] =>
      .ok <| Worker.ofCells fun f =>
        match readField m f with
        | .ok c => c
        | .error _ => .empty
  | ps => .error ps

end Worker

namespace Configuration

def read : Reader Configuration := fun v => do
  let m ← Reader.record .configuration v
  let workers := Reader.field m ["workers"] (.ok []) (Reader.listOf Worker.read)
  let host := Reader.field m ["host"] (.ok none) (Reader.optional Reader.text)
  let port := Reader.field m ["port"] (.ok none) (Reader.optional Reader.integer)
  (Reading.both workers (Reading.both host port)).map fun p =>
    { workers := p.1
      host := Value.ofText? p.2.1
      port := p.2.2.elim Value.null Value.int }

end Configuration

end EdgeRig
