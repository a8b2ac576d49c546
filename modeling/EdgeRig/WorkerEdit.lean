import EdgeRig.Schema.Workers

/-!
# Edits of a list of workers

The workers of a configuration may be changed one by one.  `WorkerEdit` lists the changes and
`WorkerEdit.apply` makes one; an edit that fails changes nothing.  Positions are counted from the
start, or from the end when they are negative.
-/

namespace EdgeRig

/-- One change of a list of workers. -/
inductive WorkerEdit where
  /-- Write a field or a note; an asset block is read before it is written. -/
  | setField (index : Int) (field : String) (value : Value)
  /-- Insert the worker that a value describes. -/
  | insert (index : Int) (worker : Value)
  | remove (index : Int)
  /-- Add a compatibility flag. -/
  | pushFlag (index : Int) (flag : Value)
  /-- Add a service binding. -/
  | putService (index : Int) (binding : String) (service : Value)

namespace WorkerEdit

/-- The place of an element among `count` elements. -/
def place? (count : Nat) (index : Int) : Option Nat :=
  let i := if index < 0 then index + count else index
  if 0 ≤ i ∧ i < count then some i.toNat else none

/-- The place before which a new element goes: the nearest place there is. -/
def gap (count : Nat) (index : Int) : Nat :=
  let i := if index < 0 then index + count else index
  min i.toNat count

/-- Change the worker at a position. -/
def change (workers : List Worker) (index : Int) (f : Worker → Except Fault Worker) :
    Except Fault (List Worker) :=
  match place? workers.length index with
  | none => .error .noSuchWorker
  | some i =>
      match workers[i]? with
      | none => .error .noSuchWorker
      | some w => (f w).map fun w => workers.set i w

/-- What writes a field of a worker.  An asset block is read at once, before there is a worker to
write it to. -/
def writer (field : String) (value : Value) : Except Fault (Worker → Except Fault Worker) :=
  if field = WorkerField.assets.key ∧ value.isNull = false then
    (Reader.run .assetBlock AssetBlock.read value).map fun b w => .ok (w.set .assets (.block b))
  else .ok fun w => w.assign field value

/-- Change the plain value in a cell. -/
def changeCell (f : WorkerField) (g : Value → Except Fault Value) (w : Worker) :
    Except Fault Worker :=
  match w.cell f with
  | .plain v => (g v).map fun v => w.set f (.plain v)
  | .block _ => .error .notAssignable

def apply (e : WorkerEdit) (workers : List Worker) : Except Fault (List Worker) :=
  match e with
  | setField index field value => (writer field value).bind (change workers index)
  | insert index worker =>
      (Reader.run .worker Worker.read worker).map fun w =>
        workers.insertIdx (gap workers.length index) w
  | remove index =>
      match place? workers.length index with
      | none => .error .noSuchWorker
      | some i => .ok (workers.eraseIdx i)
  | pushFlag index flag =>
      change workers index (changeCell .compatibilityFlags fun v => v.pushElement flag)
  | putService index binding service =>
      change workers index (changeCell .serviceBindings fun v => v.putEntry binding service)

end WorkerEdit

end EdgeRig
