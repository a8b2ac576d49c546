import EdgeRig.Lookup
import EdgeRig.WorkerObject

/-!
# Mapping rules

A rule takes the value at a dotted name of a descriptor, its source, and writes what it makes of it
into one field of a worker, its target; any other name can be a target as well.

* A direct rule takes the value as it is; a name list keeps the `binding` of each entry; a keyed
  rule makes a mapping of the entries, keyed by one of their fields.
* A `Handling` is what is done step by step to something that is written by name: to a worker as an
  object, or to a worker that is written under the names of fields and notes only, as the compiler does.
  What was written before a fault stays written.
* `Rule.perform` applies a rule in this way, and `Rule.apply` looks at how that ends for a worker.
* `Rule.outcome` says what a rule makes of a descriptor, without any worker; `Rule.perform_eq` that a
  rule works this out first and writes it then.
* `Rule.ofParameters` makes a rule of named parameters.
* `Rule.table` lists the rules of the compiler.
-/

namespace EdgeRig

/-- What a keyed rule keeps of each entry. -/
inductive EntryValue where
  | field (name : String)
  | fixed (v : Value)

/-- Take from an entry what is kept of it. -/
def EntryValue.take (value : EntryValue) (entry : Value) : Except Fault Value :=
  match value with
  | .field name => entry.peek name
  | .fixed v => .ok v

/-- The kinds of rules. -/
inductive RuleKind where
  | direct
  | nameList
  | keyed
  deriving DecidableEq

/-- Is the name one of the parameters of a kind of rules? -/
def RuleKind.knows (k : RuleKind) (name : String) : Bool :=
  ["source", "target"].contains name ||
    (k == keyed && ["key_field", "value_field", "static_value"].contains name)

/-- A mapping rule. -/
inductive Rule where
  | direct (source target : String)
  | nameList (source target : String)
  | keyed (source target keyField : String) (value : EntryValue)

namespace Rule

def source : Rule → String
  | direct s _ => s
  | nameList s _ => s
  | keyed s _ _ _ => s

def target : Rule → String
  | direct _ t => t
  | nameList _ t => t
  | keyed _ t _ _ => t

/-- A keyed rule needs either a field to take values from or one fixed value. -/
def keyed? (source target keyField : String) (valueField : Option String) (fixed : Option Value) :
    Except Fault Rule :=
  match valueField, fixed with
  | some name, none => .ok (keyed source target keyField (.field name))
  | none, some v => .ok (keyed source target keyField (.fixed v))
  | _, _ => .error (.ruleShape source)

/-- The value of a parameter that must be a text. -/
def textParameter (ps : List (String × Value)) (name : String) : Except Fault String :=
  match ps.lookup name with
  | some (.scalar (.text s)) => .ok s
  | _ => .error .ruleParameters

/-- The value of a parameter that is a text, if it says something. -/
def textParameter? (ps : List (String × Value)) (name : String) : Except Fault (Option String) :=
  match ps.lookup name with
  | none => .ok none
  | some v => if v.isNull then .ok none else (textParameter ps name).map some

/-- The rule that named parameters describe.  All that its kind needs must be among them, and
nothing that its kind does not know. -/
def ofParameters (kind : RuleKind) (ps : List (String × Value)) : Except Fault Rule := do
  if ps.all (fun p => kind.knows p.1) = false then .error .ruleParameters
  let source ← textParameter ps "source"
  let target ← textParameter ps "target"
  match kind with
  | .direct => .ok (direct source target)
  | .nameList => .ok (nameList source target)
  | .keyed => do
      let keyField ← textParameter ps "key_field"
      let valueField ← textParameter? ps "value_field"
      keyed? source target keyField valueField (ps.lookup "static_value")

/-- The text of the fault of a rule of wrong shape. -/
def shapeMessage (source : String) : String :=
  "Rule for '" ++ source ++ "' needs exactly one of value_field or static_value"

/-! ## What rules make of a descriptor -/

/-- Add an entry to the mapping of a keyed rule.  The value is taken before the key. -/
def addEntry (keyField : String) (value : EntryValue) (m : Mapping) (entry : Value) :
    Except Fault Mapping := do
  let v ← value.take entry
  let k ← entry.field keyField
  let k ← k.asKey
  .ok (Mapping.put m k v)

/-- The mapping that a keyed rule makes of entries; of entries with one key the last one counts. -/
def mappingOf (keyField : String) (value : EntryValue) (entries : List Value) :
    Except Fault Mapping :=
  entries.foldlM (addEntry keyField value) []

/-- The `binding` of each entry. -/
def bindingNames (entries : List Value) : Except Fault (List Value) :=
  entries.mapM fun entry => entry.field "binding"

/-- What a rule makes of a descriptor; nothing when the descriptor says nothing about it. -/
def outcome (r : Rule) (descriptor : Value) : Except Fault (Option Value) :=
  match r, descriptor.lookup r.source with
  | _, none => .ok none
  | direct _ _, some v => .ok (some v)
  | nameList _ _, some v =>
      if v.isTruthy then do
        let entries ← v.elements
        let names ← bindingNames entries
        .ok (some (.list names))
      else .ok none
  | keyed _ _ keyField value, some v =>
      match v.sequence? with
      | none => .ok none
      | some entries => do
          let m ← mappingOf keyField value entries
          .ok (some (.map m))

end Rule

/-! ## Handling what is written by name -/

/-- What can be written by name: how a write ends, and what it leaves. -/
class Handled (σ : Type) where
  write : σ → String → Value → Except Fault Unit × σ

/-- A write that a worker refuses leaves it alone. -/
instance : Handled Worker where
  write w key v :=
    match w.assign key v with
    | .ok u => (.ok (), u)
    | .error e => (.error e, w)

instance : Handled WorkerObject := ⟨WorkerObject.assign⟩

/-- What is done to a worker step by step.  Each step may end in a fault, and what was written until then
stays written. -/
abbrev Handling (σ : Type) := ExceptT Fault (StateM σ)

namespace Handling

variable {σ α β : Type}

/-- How the handling of a worker ends, and the worker afterwards. -/
def on (h : Handling σ α) (w : σ) : Except Fault α × σ := h.run.run w

/-- The worker afterwards, and what came of the handling, if it ended well. -/
def finish (h : Handling σ α) (w : σ) : Except Fault (σ × α) :=
  match h.on w with
  | (.ok a, u) => .ok (u, a)
  | (.error e, _) => .error e

/-- Write a value under a name. -/
def write [Handled σ] (key : String) (v : Value) : Handling σ Unit :=
  ExceptT.mk fun w => Handled.write w key v

theorem on_lift (x : Except Fault α) (w : σ) : on (liftM x) w = (x, w) := rfl

theorem lift_ok (a : α) : (liftM (.ok a : Except Fault α) : Handling σ α) = pure a := rfl

theorem on_write [Handled σ] (key : String) (v : Value) (w : σ) :
    (write key v).on w = Handled.write w key v := rfl

theorem on_bind_ok {h : Handling σ α} {w u : σ} {a : α} (hw : h.on w = (.ok a, u))
    (f : α → Handling σ β) : (h >>= f).on w = (f a).on u := by
  have hrun : h.run.run w = (.ok a, u) := hw
  simp only [on, ExceptT.run_bind, StateT.run_bind, hrun]
  rfl

theorem on_bind_error {h : Handling σ α} {w u : σ} {e : Fault} (hw : h.on w = (.error e, u))
    (f : α → Handling σ β) : (h >>= f).on w = (.error e, u) := by
  have hrun : h.run.run w = (.error e, u) := hw
  simp only [on, ExceptT.run_bind, StateT.run_bind, hrun]
  rfl

/-- To go through a list without looking at the worker is to go through it before there is one. -/
theorem lift_mapM (f : α → Except Fault β) (xs : List α) :
    (xs.mapM fun a => (liftM (f a) : Handling σ β)) = liftM (xs.mapM f) := by
  induction xs with
  | nil => simp
  | cons a xs ih => simp [List.mapM_cons, ih]

theorem lift_foldlM (f : β → α → Except Fault β) (xs : List α) (b : β) :
    (xs.foldlM (fun b a => (liftM (f b a) : Handling σ β)) b) = liftM (xs.foldlM f b) := by
  induction xs generalizing b with
  | nil => simp
  | cons a xs ih => simp [List.foldlM_cons, ih]

end Handling

/-! ## Applying rules -/

namespace Rule

variable {σ : Type} [Handled σ]

/-- Apply a rule: whether the descriptor said anything. -/
def perform (r : Rule) (descriptor : Value) : Handling σ Bool := do
  match r, descriptor.lookup r.source with
  | _, none => return false
  | direct _ target, some v =>
      Handling.write target v
      return true
  | nameList _ target, some v =>
      if v.isTruthy then
        let names ← (← v.elements).mapM fun entry => entry.field "binding"
        Handling.write target (.list names)
        return true
      else return false
  | keyed _ target keyField value, some v =>
      match v.sequence? with
      | none => return false
      | some entries =>
          let m ← entries.foldlM (fun m entry => addEntry keyField value m entry) []
          Handling.write target (.map m)
          return true

/-- Apply rules one after another: of each, whether the descriptor said anything. -/
def performAll (rs : List Rule) (descriptor : Value) : Handling σ (List Bool) :=
  rs.mapM fun r => r.perform descriptor

/-- The worker after a rule, and whether the descriptor said anything. -/
def apply (r : Rule) (descriptor : Value) (w : Worker) : Except Fault (Worker × Bool) :=
  (r.perform descriptor).finish w

/-- The worker after rules that were applied one after another. -/
def applyAll (rs : List Rule) (descriptor : Value) (w : Worker) : Except Fault Worker :=
  ((performAll rs descriptor).finish w).map (·.1)

/-- **A rule writes once, when all that it writes is known.** -/
theorem perform_eq (r : Rule) (d : Value) : (r.perform d : Handling σ Bool) = do
    match ← r.outcome d with
    | none => return false
    | some v =>
        Handling.write r.target v
        return true := by
  cases r with
  | direct source target =>
    simp only [perform, outcome, Rule.source, Rule.target]
    cases d.lookup source <;> simp [Handling.lift_ok]
  | nameList source target =>
    simp only [perform, outcome, Rule.source, Rule.target, Handling.lift_mapM, bindingNames]
    cases d.lookup source with
    | none => simp [Handling.lift_ok]
    | some v => by_cases hv : v.isTruthy = true <;> simp [Handling.lift_ok, hv]
  | keyed source target keyField value =>
    simp only [perform, outcome, Rule.source, Rule.target, Handling.lift_foldlM, mappingOf]
    cases d.lookup source with
    | none => simp [Handling.lift_ok]
    | some v => cases hv : v.sequence? <;> simp [Handling.lift_ok, hv]

theorem on_perform (r : Rule) (d : Value) (w : σ) :
    (r.perform d).on w =
      match r.outcome d with
      | .error e => (.error e, w)
      | .ok none => (.ok false, w)
      | .ok (some v) =>
          ((Handled.write w r.target v).1.map fun _ => true, (Handled.write w r.target v).2) := by
  rw [perform_eq]
  cases ho : r.outcome d with
  | error e => exact Handling.on_bind_error (Handling.on_lift (.error e) w) _
  | ok o =>
    rw [Handling.on_bind_ok (Handling.on_lift (.ok o) w)]
    cases o with
    | none => rfl
    | some v =>
      dsimp only
      rw [← Handling.on_write]
      rcases hwrite : (Handling.write r.target v).on w with ⟨e | a, u⟩
      · exact Handling.on_bind_error hwrite _
      · exact Handling.on_bind_ok hwrite _

theorem apply_eq (r : Rule) (d : Value) (w : Worker) :
    r.apply d w =
      match r.outcome d with
      | .error e => .error e
      | .ok none => .ok (w, false)
      | .ok (some v) => (w.assign r.target v).map (·, true) := by
  rw [apply, Handling.finish, on_perform]
  cases r.outcome d with
  | error e => rfl
  | ok o =>
    cases o with
    | none => rfl
    | some v =>
      simp only [Handled.write]
      cases w.assign r.target v <;> rfl

/-- The rules after the first one are applied to what the first one has left. -/
theorem on_performAll_cons (r : Rule) (rs : List Rule) (d : Value) (w : σ) :
    (performAll (r :: rs) d).on w =
      match (r.perform d).on w with
      | (.error e, u) => (.error e, u)
      | (.ok b, u) =>
          match (performAll rs d).on u with
          | (.error e, v) => (.error e, v)
          | (.ok bs, v) => (.ok (b :: bs), v) := by
  rw [performAll, List.mapM_cons]
  rcases hr : (r.perform d).on w with ⟨e | b, u⟩
  · exact Handling.on_bind_error hr _
  · rw [Handling.on_bind_ok hr]
    dsimp only
    rcases hrs : (performAll rs d).on u with ⟨e | bs, v⟩
    · exact Handling.on_bind_error hrs _
    · exact Handling.on_bind_ok hrs _

theorem applyAll_cons (r : Rule) (rs : List Rule) (d : Value) (w : Worker) :
    applyAll (r :: rs) d w = r.apply d w >>= fun p => applyAll rs d p.1 := by
  simp only [applyAll, apply, Handling.finish, on_performAll_cons]
  rcases (r.perform d).on w with ⟨e | b, u⟩
  · rfl
  · rcases hrs : (performAll rs d).on u with ⟨e | bs, v⟩ <;> simp [hrs, bind, Except.bind, Except.map]

/-! ## The rules of the compiler -/

/-- The rules of the compiler, in the order in which they are applied. -/
def table : List Rule :=
  [direct "main" "script_path",
   direct "compatibility_date" "compatibility_date",
   direct "compatibility_flags" "compatibility_flags",
   nameList "kv_namespaces" "kv_namespaces",
   nameList "r2_buckets" "r2_buckets",
   keyed "queues.producers" "queue_producers" "binding" (.field "queue"),
   keyed "queues.consumers" "queue_consumers" "queue" (.fixed (.map [])),
   keyed "d1_databases" "d1_databases" "binding" (.field "database_id"),
   keyed "durable_objects.bindings" "durable_objects" "name" (.field "class_name")]

end Rule

end EdgeRig
