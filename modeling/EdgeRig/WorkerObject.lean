import EdgeRig.Worker

/-!
# Workers as objects

Rules, and whoever else writes a worker by name, may use any name, also one of those under which the
worker is kept as a whole: then it is another object afterwards, and later writes may fail on the way or
do something else.  A `WorkerObject` is a worker with all that can be written in this way.

* `WorkerObject.find` finds out whether a name can be written: the table is asked first, and for a name
  that it does not know the finder, and a value that was put in the place of either cannot answer.
* `WorkerObject.fill` writes to a place.  A field is written before the record is told of it, so that a
  record that was replaced stops the write when it is done.
* `WorkerObject.assign` is the one after the other.
* `WorkerObject.adopt` takes over a mapping as the whole of the fields and notes.  It takes what the
  mapping holds then; that the mapping goes on being part of the value it comes from is not followed.
* `WorkerObject.options` shows the fields, unless something stands in the way.
* `Worker.object` makes an object of a worker.
-/

namespace EdgeRig

/-- A worker with all that can be written to by name. -/
@[ext]
structure WorkerObject where
  /-- What its fields hold; nothing for a field that it lacks. -/
  cell : WorkerField → Option Cell
  /-- What else it has under texts. -/
  note : String → Option Value
  /-- What it has under keys that are no texts. -/
  rest : Mapping
  /-- What was put into the slots; nothing for a slot that holds what it was made with. -/
  slot : Slot → Option Value
  /-- The fields that its own table knows, if one was put in the place of that of the class, and the
  fields that the one of the class knows. -/
  known : Bool → WorkerField → Bool

/-- The object that a worker is as long as it is not written under one of the names that hold it as a
whole.  What the table of the class knows is no matter of the worker. -/
def Worker.object (w : Worker) (known : WorkerField → Bool) : WorkerObject where
  cell f := some (w.cell f)
  note k := if isNoteKey k = true ∧ k ∉ wholeKeys then w.note k else none
  rest := []
  slot _ := none
  known own f := !own && known f

namespace WorkerObject

open Worker (tableKey finderKey serializerKey)

/-! ## Finding out whether a name can be written -/

/-- Does it have a table of its own? -/
def ownsTable (o : WorkerObject) : Bool := (o.note tableKey).isSome

/-- Does the table in use know how the name is written? -/
def knows (o : WorkerObject) (key : String) : Bool :=
  match WorkerField.ofKey? key with
  | some f => o.known o.ownsTable f
  | none => false

/-- Ask the finder about a name that the table does not know. -/
def search (o : WorkerObject) (key : String) : Except Fault Unit :=
  if o.knows key || (o.note finderKey).isNone then .ok () else .error .notCallable

/-- Find out whether a name can be written. -/
def find (o : WorkerObject) (key : String) : Except Fault Unit :=
  match o.note tableKey with
  | none => o.search key
  | some (.map m) =>
      match (Mapping.get? m key).bind Value.present? with
      | none => o.search key
      | some _ => .error .notCallable
  | some _ => .error .noSuchName

/-! ## Writing -/

/-- Write one cell. -/
def set (o : WorkerObject) (f : WorkerField) (c : Cell) : WorkerObject :=
  { o with cell := fun g => if g = f then some c else o.cell g }

/-- Enter a field into the table in use. -/
def learn (o : WorkerObject) (f : WorkerField) : WorkerObject :=
  { o with known := fun own g => own == o.ownsTable && g = f || o.known own g }

/-- What is known when another table of its own comes into use. -/
def knownAnew (o : WorkerObject) (own : Bool) (f : WorkerField) : Bool := !own && o.known own f

/-- Write one note. -/
def setNote (o : WorkerObject) (key : String) (v : Value) : WorkerObject :=
  { o with
    note := fun k => if k = key then some v else o.note k
    known := if key = tableKey then o.knownAnew else o.known }

/-- Write one slot. -/
def setSlot (o : WorkerObject) (s : Slot) (v : Value) : WorkerObject :=
  { o with slot := fun t => if t = s then some v else o.slot t }

/-- Is the key something else than a text? -/
def isLoose : Scalar → Bool
  | .text _ => false
  | _ => true

/-- Take a mapping for the whole of the fields and notes. -/
def adopt (o : WorkerObject) (m : Mapping) : WorkerObject :=
  { o with
    cell := fun f => (Mapping.get? m f.key).map .plain
    note := fun k => if (WorkerField.ofKey? k).isSome then none else Mapping.get? m k
    rest := m.filter fun e => isLoose e.1
    known := o.knownAnew }

/-- Write a value to a place. -/
def fill (o : WorkerObject) (v : Value) : Worker.Place → Except Fault Unit × WorkerObject
  | .field f =>
      match o.slot .record with
      | none => (.ok (), (o.set f (.plain v)).learn f)
      | some _ => (.error .noSuchName, o.set f (.plain v))
  | .note k => (.ok (), o.setNote k v)
  | .slot s => (.ok (), o.setSlot s v)
  | .dictionary =>
      match v with
      | .map m => (.ok (), o.adopt m)
      | _ => (.error .notDictionary, o)

/-- Write a value under a name. -/
def assign (o : WorkerObject) (key : String) (v : Value) : Except Fault Unit × WorkerObject :=
  match o.find key >>= fun _ => Worker.place? key with
  | .error e => (.error e, o)
  | .ok p => o.fill v p

/-! ## What an object shows -/

/-- The names that are called for when the options are shown. -/
def showingKeys : List String := ["to_options", "model_dump"]

/-- The options that its fields make. -/
def options (o : WorkerObject) : Except Fault Value :=
  if showingKeys.any fun k => (o.note k).isSome then .error .notCallable
  else if (o.note serializerKey).isSome then .error .noSuchName
  else if o.rest.isEmpty = false then .error .keyNotText
  else .ok (Worker.ofCells fun f => (o.cell f).getD .empty).options

/-! ## Writing in place -/

/-- The names of what a worker can do, and of what nobody can put an entry into. -/
def activityKeys : List String :=
  ["to_options", "copy", "dict", "json", "schema", "validate", "construct", "model_copy",
   "model_dump", "model_dump_json", "model_validate", "__fields_set__", "__weakref__",
   Worker.classKey, finderKey, serializerKey]

/-- The tables in which a worker keeps its make, with their keys. -/
def makeTables (o : WorkerObject) : List (String × List String) :=
  [("model_config", ["populate_by_name"]), ("model_computed_fields", []),
   ("model_fields", WorkerField.all.map WorkerField.key),
   ("__fields__", WorkerField.all.map WorkerField.key),
   (tableKey, (WorkerField.all.filter (o.known false)).map WorkerField.key)]

/-- Put an entry into the mapping that stands under a key of a value. -/
def putInside (whole : Value) (key name : String) (v : Value) : Except Fault Value := do
  let inner ← whole.field key
  let inner ← inner.putEntry name v
  whole.putEntry key inner

/-- The fault of putting an entry under a name that is neither a field nor a note that was
written.  The tables of a worker's make hold no mappings. -/
def putFault (o : WorkerObject) (target key : String) : Fault :=
  if Worker.derivedKeys.contains target || activityKeys.contains target then .keyOfNonMapping
  else
    match o.makeTables.lookup target with
    | none => .noSuchName
    | some keys => if keys.contains key then .notAssignable else .missingKey key

/-- Write a note that is there in place, which no table takes notice of. -/
def putNote (o : WorkerObject) (key : String) (v : Value) : WorkerObject :=
  { o with note := fun k => if k = key then some v else o.note k }

/-- Put an entry into the mapping that stands under a key of the whole of the fields and notes. -/
def putIntoDictionary (o : WorkerObject) (key name : String) (v : Value) :
    Except Fault WorkerObject :=
  match WorkerField.ofKey? key with
  | some f =>
      match o.cell f with
      | none => .error (.missingKey key)
      | some (.block _) => .error .notAssignable
      | some (.plain inner) => (inner.putEntry name v).map fun u => o.set f (.plain u)
  | none =>
      match o.note key with
      | none => .error (.missingKey key)
      | some inner => (inner.putEntry name v).map fun u => o.putNote key u

/-- Put an entry into the mapping that stands under a key of what goes by a name. -/
def putWithin (o : WorkerObject) (target key name : String) (v : Value) :
    Except Fault WorkerObject :=
  match WorkerField.ofKey? target, Slot.ofKey? target with
  | some f, _ =>
      match o.cell f with
      | none => .error .noSuchName
      | some (.block _) => .error .keyOfNonMapping
      | some (.plain whole) => (putInside whole key name v).map fun u => o.set f (.plain u)
  | none, some s =>
      match o.slot s with
      | none => .error .keyOfNonMapping
      | some whole => (putInside whole key name v).map fun u => o.setSlot s u
  | none, none =>
      if target = Worker.dictionaryKey then o.putIntoDictionary key name v
      else
        match o.note target with
        | some whole => (putInside whole key name v).map fun u => o.putNote target u
        | none => .error (o.putFault target key)

end WorkerObject

end EdgeRig
