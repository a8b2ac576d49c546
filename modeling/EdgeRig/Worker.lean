import EdgeRig.Fault
import EdgeRig.Value.Access

/-!
# Workers

A worker is a row of cells, one per field.  Most cells hold a plain value; the asset field may hold
an asset block.  Writing a cell is not checked: a worker takes whatever value it is given, and its
options show that value unchanged.

* `WorkerField.key` is the name a field is written under, `WorkerField.optionName` the name it is
  handed to the simulator under.
* `Worker.set` writes one cell; `cell_set_self` and `cell_set_of_ne` say that it writes no other.
* `Worker.place?` says where a value goes that is written by name; beside the fields there are private
  notes, which no option shows.
* `Worker.assign` writes by name.  It refuses the names under which a worker is kept as a whole; what a
  write to one of those does is a matter of `WorkerObject`.
* `Worker.options` lists the cells that are not empty.
-/

namespace EdgeRig

/-- A block of static files: the binding under which the worker sees them and their directory. -/
structure AssetBlock where
  binding : Option String
  directory : Option String
  deriving DecidableEq

/-- The fields of a worker, in order of declaration. -/
inductive WorkerField where
  | name
  | modules
  | bindings
  | script
  | scriptPath
  | assets
  | kvNamespaces
  | r2Buckets
  | d1Databases
  | durableObjects
  | queueProducers
  | queueConsumers
  | serviceBindings
  | compatibilityDate
  | compatibilityFlags
  | sitePath
  deriving DecidableEq

namespace WorkerField

def all : List WorkerField :=
  [name, modules, bindings, script, scriptPath, assets, kvNamespaces, r2Buckets, d1Databases,
   durableObjects, queueProducers, queueConsumers, serviceBindings, compatibilityDate,
   compatibilityFlags, sitePath]

/-- The name of a field in rules and assignments. -/
def key : WorkerField → String
  | name => "name"
  | modules => "modules"
  | bindings => "bindings"
  | script => "script"
  | scriptPath => "script_path"
  | assets => "assets"
  | kvNamespaces => "kv_namespaces"
  | r2Buckets => "r2_buckets"
  | d1Databases => "d1_databases"
  | durableObjects => "durable_objects"
  | queueProducers => "queue_producers"
  | queueConsumers => "queue_consumers"
  | serviceBindings => "service_bindings"
  | compatibilityDate => "compatibility_date"
  | compatibilityFlags => "compatibility_flags"
  | sitePath => "site_path"

/-- The name of a field among the options of the simulator. -/
def optionName : WorkerField → String
  | name => "name"
  | modules => "modules"
  | bindings => "bindings"
  | script => "script"
  | scriptPath => "scriptPath"
  | assets => "assets"
  | kvNamespaces => "kvNamespaces"
  | r2Buckets => "r2Buckets"
  | d1Databases => "d1Databases"
  | durableObjects => "durableObjects"
  | queueProducers => "queueProducers"
  | queueConsumers => "queueConsumers"
  | serviceBindings => "serviceBindings"
  | compatibilityDate => "compatibilityDate"
  | compatibilityFlags => "compatibilityFlags"
  | sitePath => "sitePath"

/-- The field that a name stands for. -/
def ofKey? (k : String) : Option WorkerField := all.find? fun f => f.key == k

theorem mem_all (f : WorkerField) : f ∈ all := by cases f <;> decide

end WorkerField

/-- What a field of a worker holds. -/
inductive Cell where
  | plain (v : Value)
  | block (b : AssetBlock)

namespace Cell

abbrev empty : Cell := plain .null

def isEmpty : Cell → Bool
  | plain v => v.isNull
  | block _ => false

/-- The text in a cell, if it holds one. -/
def text? : Cell → Option String
  | plain (.scalar (.text s)) => some s
  | _ => none

/-- The value that a cell shows among the options; an asset block shows the entries it has. -/
def option : Cell → Value
  | plain v => v
  | block b =>
      Value.record
        ((b.binding.toList.map fun s => ("binding", Value.text s)) ++
          b.directory.toList.map fun s => ("directory", Value.text s))

end Cell

/-- What is kept of a worker beside its fields and notes. -/
inductive Slot where
  /-- Which of its fields were written. -/
  | record
  /-- What it was given that is no field. -/
  | extra
  /-- The notes that its class declares; the class of workers declares none. -/
  | secrets
  deriving DecidableEq

namespace Slot

def all : List Slot := [record, extra, secrets]

def key : Slot → String
  | record => "__pydantic_fields_set__"
  | extra => "__pydantic_extra__"
  | secrets => "__pydantic_private__"

/-- The slot that a name stands for. -/
def ofKey? (k : String) : Option Slot := all.find? fun s => s.key == k

end Slot

/-- Where a value goes that is written by name. -/
inductive Worker.Place where
  | field (f : WorkerField)
  | note (key : String)
  | slot (s : Slot)
  /-- The whole of the fields and notes. -/
  | dictionary

/-- A simulated worker. -/
structure Worker where
  cell : WorkerField → Cell
  /-- Private notes by name. -/
  note : String → Option Value

namespace Worker

/-- The cells of a worker about which nothing is said. -/
def blank : WorkerField → Cell
  | .modules => .plain (.bool true)
  | .bindings => .plain (.map [])
  | _ => .empty

/-- A worker with the given cells and without notes. -/
def ofCells (cell : WorkerField → Cell) : Worker := ⟨cell, fun _ => none⟩

/-- Write one cell. -/
def set (w : Worker) (f : WorkerField) (c : Cell) : Worker :=
  { w with cell := fun g => if g = f then c else w.cell g }

/-- Write one note. -/
def setNote (w : Worker) (key : String) (v : Value) : Worker :=
  { w with note := fun k => if k = key then some v else w.note k }

/-- A worker of which only the name is given. -/
def named (name : String) : Worker := set (ofCells blank) .name (.plain (.text name))

theorem cell_set_self (w : Worker) (f : WorkerField) (c : Cell) : (w.set f c).cell f = c := by
  simp [set]

theorem cell_set_of_ne (w : Worker) {f g : WorkerField} (c : Cell) (h : g ≠ f) :
    (w.set f c).cell g = w.cell g := by
  simp [set, h]

/-- Writes to different cells commute. -/
theorem set_comm (w : Worker) {f g : WorkerField} (c d : Cell) (h : f ≠ g) :
    (w.set f c).set g d = (w.set g d).set f c := by
  simp only [set, Worker.mk.injEq, and_true]
  funext k
  by_cases hf : k = f <;> by_cases hg : k = g <;> simp_all

/-- Write a text, or empty the cell. -/
def setText (w : Worker) (f : WorkerField) (s : Option String) : Worker :=
  w.set f (.plain (Value.ofText? s))

/-- The names of what a worker tells about itself. -/
def derivedKeys : List String := ["has_script", "model_extra", "model_fields_set"]

/-- The names of what is told about every object of its class, and of the references to it. -/
def fixedKeys : List String := ["__fields__", "__fields_set__", "__weakref__"]

/-- The name of the whole of the fields and notes. -/
def dictionaryKey : String := "__dict__"

def classKey : String := "__class__"

/-- The name of the table that knows how names are written that were written before. -/
def tableKey : String := "__pydantic_setattr_handlers__"

/-- The name of the activity that finds out how other names are written. -/
def finderKey : String := "_setattr_handler"

/-- The name of what works out the options. -/
def serializerKey : String := "__pydantic_serializer__"

/-- The names under which a worker is kept as a whole, written and shown. -/
def wholeKeys : List String :=
  dictionaryKey :: Slot.all.map Slot.key ++ [tableKey, finderKey, serializerKey]

/-- Does the name belong to a note?  What the class of workers keeps under such names is no hindrance: a
worker has its own note then, beside that of the class. -/
def isNoteKey (key : String) : Bool := key.toList.head? == some '_'

/-- The place that goes by a name. -/
def place? (key : String) : Except Fault Place :=
  match WorkerField.ofKey? key with
  | some f => .ok (.field f)
  | none =>
      if derivedKeys.contains key || fixedKeys.contains key then .error .derivedField
      else if isNoteKey key = false then .error .unknownField
      else if key = classKey then .error .notClass
      else if key = dictionaryKey then .ok .dictionary
      else
        match Slot.ofKey? key with
        | some s => .ok (.slot s)
        | none => .ok (.note key)

/-- Write a value under the name of a field or of a note. -/
def assign (w : Worker) (key : String) (v : Value) : Except Fault Worker :=
  if key ∈ wholeKeys then .error .wholeWorker
  else
    match place? key with
    | .ok (.field f) => .ok (w.set f (.plain v))
    | .ok (.note k) => .ok (w.setNote k v)
    | .ok (.slot _) | .ok .dictionary => .error .wholeWorker
    | .error e => .error e

/-- Does the worker carry a script or the path of one? -/
def hasScript (w : Worker) : Bool := !(w.cell .script).isEmpty || !(w.cell .scriptPath).isEmpty

/-- Is this the worker's name? -/
def isNamed (w : Worker) (name : String) : Bool := (w.cell .name).text? == some name

/-- The cells that are not empty, under their option names. -/
def options (w : Worker) : Value :=
  Value.record ((WorkerField.all.filter fun f => !(w.cell f).isEmpty).map fun f =>
    (f.optionName, (w.cell f).option))

end Worker

/-- A configuration: workers, the first of which gets the requests, and where to listen. -/
structure Configuration where
  workers : List Worker
  host : Value
  port : Value

namespace Configuration

/-- The position of the first worker of a name. -/
def index? (c : Configuration) (name : String) : Option Nat :=
  c.workers.findIdx? fun w => w.isNamed name

/-- The first worker of a name. -/
def worker? (c : Configuration) (name : String) : Option Worker :=
  c.workers.find? fun w => w.isNamed name

/-- What the names of the workers' cells hold. -/
def workerNames (c : Configuration) : List Value := c.workers.map fun w => (w.cell .name).option

/-- Does the configuration ask the simulator to listen? -/
def listens (c : Configuration) : Bool := !c.port.isNull

/-- The options of the simulator; host and port come together, or not at all. -/
def options (c : Configuration) : Value :=
  Value.record <|
    ("workers", .list (c.workers.map Worker.options)) ::
      if c.listens then [("host", c.host), ("port", c.port)] else []

end Configuration

end EdgeRig
