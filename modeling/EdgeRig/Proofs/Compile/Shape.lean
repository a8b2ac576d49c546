import EdgeRig.Lookup

/-!
# Shapes of descriptors

A descriptor is read without a schema.  What its known names are documented to hold is a matter of
shapes, which can be looked at without compiling anything.

* `Shape.accepts` — has a value this shape?  The lemmas `exists_..._of_accepts` say what a value of
  each shape looks like.
* `Descriptor.documented` — the names that the compiler knows, with their shapes.
* `Descriptor.isWellShaped` — every known name says nothing or what it is documented to say; names that
  are not known may say anything.
-/

namespace EdgeRig

namespace Value

def isText : Value → Bool
  | .scalar (.text _) => true
  | _ => false

def isInteger : Value → Bool
  | .scalar (.int _) => true
  | _ => false

theorem isText_iff {v : Value} : v.isText = true ↔ ∃ t, v = .text t := by
  constructor
  · intro h
    unfold isText at h
    split at h
    · exact ⟨_, rfl⟩
    · cases h
  · rintro ⟨t, rfl⟩
    rfl

theorem isInteger_iff {v : Value} : v.isInteger = true ↔ ∃ n, v = .int n := by
  constructor
  · intro h
    unfold isInteger at h
    split at h
    · exact ⟨_, rfl⟩
    · cases h
  · rintro ⟨n, rfl⟩
    rfl

/-- Stands a text under the key of a mapping? -/
def hasText (v : Value) (key : String) : Bool :=
  match v.field key with
  | .ok u => u.isText
  | .error _ => false

/-- Stands a text under the key of a mapping, or nothing? -/
def maySayText (v : Value) (key : String) : Bool :=
  match v.peek key with
  | .ok u => u.isNull || u.isText
  | .error _ => false

theorem field_of_hasText {v : Value} {key : String} (h : v.hasText key = true) :
    ∃ t, v.field key = .ok (.text t) := by
  unfold hasText at h
  split at h
  · rename_i u hu
    obtain ⟨t, rfl⟩ := isText_iff.1 h
    exact ⟨t, hu⟩
  · cases h

theorem peek_of_maySayText {v : Value} {key : String} (h : v.maySayText key = true) :
    ∃ o : Option String, v.peek key = .ok (ofText? o) := by
  unfold maySayText at h
  split at h
  · rename_i u hu
    rcases Bool.or_eq_true_iff.1 h with hn | ht
    · exact ⟨none, by rw [hu, isNull_iff.1 hn]; rfl⟩
    · obtain ⟨t, rfl⟩ := isText_iff.1 ht
      exact ⟨some t, hu⟩
  · cases h

end Value

/-! ## Shapes -/

/-- What a name of a descriptor may be documented to hold. -/
inductive Shape where
  | text
  | integer
  /-- A list of texts. -/
  | texts
  /-- A mapping whose keys are texts. -/
  | keyed
  /-- A mapping that has a text under each of the keys, or nothing. -/
  | optionalTexts (keys : List String)
  /-- A list of mappings, each of which has a text under each of the keys. -/
  | entries (keys : List String)

namespace Shape

/-- Has the value this shape? -/
def accepts : Shape → Value → Bool
  | text, v => v.isText
  | integer, v => v.isInteger
  | texts, .list vs => vs.all Value.isText
  | keyed, .map m => m.all fun e => Value.isText (.scalar e.1)
  | optionalTexts keys, .map m => keys.all fun k => Value.maySayText (.map m) k
  | entries keys, .list vs => vs.all fun v => keys.all v.hasText
  | _, _ => false

variable {v : Value} {keys : List String}

theorem exists_texts_of_accepts (h : texts.accepts v = true) :
    ∃ vs, v = .list vs ∧ ∀ u ∈ vs, ∃ t, u = .text t := by
  cases v with
  | list vs => exact ⟨vs, rfl, fun u hu => Value.isText_iff.1 (List.all_eq_true.1 h u hu)⟩
  | scalar s => cases h
  | map m => cases h

theorem exists_map_of_accepts (h : keyed.accepts v = true) :
    ∃ m, v = .map m ∧ ∀ e ∈ m, ∃ k, e.1 = .text k := by
  cases v with
  | map m =>
    refine ⟨m, rfl, fun e he => ?_⟩
    obtain ⟨k, hk⟩ := Value.isText_iff.1 (List.all_eq_true.1 h e he)
    exact ⟨k, Value.scalar.inj hk⟩
  | scalar s => cases h
  | list vs => cases h

theorem peek_of_accepts (h : (optionalTexts keys).accepts v = true) {k : String} (hk : k ∈ keys) :
    ∃ o : Option String, v.peek k = .ok (Value.ofText? o) := by
  cases v with
  | map m => exact Value.peek_of_maySayText (List.all_eq_true.1 h k hk)
  | scalar s => cases h
  | list vs => cases h

theorem exists_entries_of_accepts (h : (entries keys).accepts v = true) :
    ∃ vs, v = .list vs ∧ ∀ u ∈ vs, ∀ k ∈ keys, ∃ t, u.field k = .ok (.text t) := by
  cases v with
  | list vs =>
    refine ⟨vs, rfl, fun u hu k hk => ?_⟩
    exact Value.field_of_hasText (List.all_eq_true.1 (List.all_eq_true.1 h u hu) k hk)
  | scalar s => cases h
  | map m => cases h

end Shape

/-! ## Descriptors -/

namespace Descriptor

/-- The names that the compiler knows, with the shapes of what they are documented to hold.  A
compatibility date may be anything. -/
def documented : List (String × Shape) :=
  [("main", .text),
   ("compatibility_flags", .texts),
   ("vars", .keyed),
   ("assets", .optionalTexts ["binding", "directory"]),
   ("kv_namespaces", .entries ["binding"]),
   ("r2_buckets", .entries ["binding"]),
   ("queues.producers", .entries ["binding"]),
   ("queues.consumers", .entries ["queue"]),
   ("d1_databases", .entries ["binding"]),
   ("durable_objects.bindings", .entries ["name"]),
   ("services", .entries ["binding", "service"]),
   ("dev.port", .integer),
   ("dev.hostname", .text)]

/-- Is the value a mapping in which every known name says nothing or what it is documented to say? -/
def isWellShaped : Value → Bool
  | .map m => documented.all fun e => ((Value.map m).lookup e.1).all e.2.accepts
  | _ => false

variable {d : Value}

theorem exists_map_of_isWellShaped (h : isWellShaped d = true) : ∃ m, d = .map m := by
  cases d with
  | map m => exact ⟨m, rfl⟩
  | scalar s => cases h
  | list vs => cases h

/-- What a known name says has its documented shape. -/
theorem accepts_of_isWellShaped (h : isWellShaped d = true) {name : String} {shape : Shape}
    (hname : (name, shape) ∈ documented) {v : Value} (hv : d.lookup name = some v) : shape.accepts v = true := by
  obtain ⟨m, rfl⟩ := exists_map_of_isWellShaped h
  have hall := List.all_eq_true.1 h (name, shape) hname
  rw [hv] at hall
  exact hall

/-- A known name without dots says nothing, or something of its documented shape. -/
theorem peek_of_isWellShaped (h : isWellShaped d = true) (name : String) (shape : Shape)
    (hname : (name, shape) ∈ documented) (hdot : '.' ∉ name.toList) :
    ∃ v, d.peek name = .ok v ∧ (v = .null ∨ shape.accepts v = true) := by
  obtain ⟨m, rfl⟩ := exists_map_of_isWellShaped h
  obtain ⟨v, hv⟩ : ∃ v, (Value.map m).peek name = .ok v := ⟨_, rfl⟩
  refine ⟨v, hv, ?_⟩
  have hlookup := Value.lookup_of_peek hdot hv
  cases hp : v.present? with
  | none => exact Or.inl (Value.present?_eq_none_iff.1 hp)
  | some u =>
    have hwhole := Value.getD_present? v
    rw [hp] at hlookup hwhole
    rw [← hwhole]
    exact Or.inr (accepts_of_isWellShaped h hname hlookup)

end Descriptor

end EdgeRig
