import Mathlib.Data.List.Forall2
import EdgeRig.Proofs.Compile.Configuration

/-!
# What the compiler reads

A descriptor may say anything under names that the compiler does not know, in the entries of its lists
beside the fields that are looked at, and in the blocks around a dotted name.  None of it shows in what a
compilation tells or in how it ends, and neither do mocks of services that are not bound.

* `Value.SameUnder`, `Value.SameEntries` — two mappings have the same under some keys, and two lists go
  side by side with such entries.
* `Descriptor.Agrees` — two descriptors agree on all that the compiler knows; everything else may differ.
* `MockTable.AgreesFor` — two tables agree on the services that need a mock.
* `Rule.outcome_table_of_agrees`, `Compile.primary_of_agrees`, `Compile.withServices_of_agrees` — each
  stage makes the same of two descriptors that agree, and so does `Compile.configuration_of_agrees`.
-/

namespace EdgeRig

/-! ## Lists gone through side by side -/

section SideBySide

variable {m : Type → Type} [Monad m] {α β : Type} {R : α → α → Prop} {xs ys : List α}

/-- Related lists are gone through in the same way if each step makes the same of related elements. -/
theorem mapM_of_forall₂ [LawfulMonad m] {f : α → m β} (h : List.Forall₂ R xs ys)
    (step : ∀ a b, R a b → f a = f b) : xs.mapM f = ys.mapM f := by
  induction h with
  | nil => rfl
  | cons hab _ ih => rw [List.mapM_cons, List.mapM_cons, step _ _ hab, ih]

theorem foldlM_of_forall₂ {f : β → α → m β} (h : List.Forall₂ R xs ys)
    (step : ∀ c a b, R a b → f c a = f c b) (c : β) : xs.foldlM f c = ys.foldlM f c := by
  induction h generalizing c with
  | nil => rfl
  | cons hab _ ih =>
    rw [List.foldlM_cons, List.foldlM_cons, step _ _ _ hab]
    exact bind_congr ih

/-- Two ways to go through a list are one if they make the same of each of its elements. -/
theorem foldlM_congr_of_mem {f g : β → α → m β} (step : ∀ a ∈ xs, ∀ c, f c a = g c a) (c : β) :
    xs.foldlM f c = xs.foldlM g c := by
  induction xs generalizing c with
  | nil => rfl
  | cons a xs ih =>
    obtain ⟨ha, hrest⟩ := List.forall_mem_cons.1 step
    rw [List.foldlM_cons, List.foldlM_cons, ha]
    exact bind_congr (ih hrest)

end SideBySide

/-! ## Values that say the same -/

namespace Value

variable {keys : List String} {v w : Value}

/-- Two mappings have the same under each of the keys, or neither has anything there. -/
def SameUnder (keys : List String) (v w : Value) : Prop :=
  ∃ m n, v = .map m ∧ w = .map n ∧ ∀ k ∈ keys, Mapping.get? m k = Mapping.get? n k

/-- Two mappings say the same under each of the keys; to have nothing there says no more than to have no
such key. -/
def SaysSame (keys : List String) (v w : Value) : Prop :=
  ∃ m n, v = .map m ∧ w = .map n ∧ ∀ k ∈ keys, v.peek k = w.peek k

/-- Two lists are equally long, and their entries have the same under the keys. -/
def SameEntries (keys : List String) (v w : Value) : Prop :=
  ∃ vs ws, v = .list vs ∧ w = .list ws ∧ List.Forall₂ (SameUnder keys) vs ws

theorem SameUnder.field (h : SameUnder keys v w) {k : String} (hk : k ∈ keys) :
    v.field k = w.field k := by
  obtain ⟨m, n, rfl, rfl, hsame⟩ := h
  rw [Value.field, Value.field, hsame k hk]

theorem SameUnder.peek (h : SameUnder keys v w) {k : String} (hk : k ∈ keys) :
    v.peek k = w.peek k := by
  obtain ⟨m, n, rfl, rfl, hsame⟩ := h
  rw [Value.peek, Value.peek, hsame k hk]

/-- What a mapping says under a name without dots is what the name is looked up to. -/
theorem peek_eq_lookup {m : Mapping} {name : String} (hname : '.' ∉ name.toList) :
    (Value.map m).peek name = .ok (((Value.map m).lookup name).getD null) := by
  obtain ⟨u, hu⟩ : ∃ u, (Value.map m).peek name = .ok u := ⟨_, rfl⟩
  rw [hu, lookup_of_peek hname hu, getD_present?]

end Value

/-! ## Descriptors that agree -/

variable {d d' : Value}

namespace Descriptor

open Value

/-- The names under which the compiler takes what it finds as it is. -/
def readWhole : List String :=
  ["main", "compatibility_date", "compatibility_flags", "vars", "dev.port", "dev.hostname"]

/-- The names under which the compiler looks for entries, with the fields that it looks at. -/
def readByEntry : List (String × List String) :=
  [("kv_namespaces", ["binding"]),
   ("r2_buckets", ["binding"]),
   ("d1_databases", ["binding", "database_id"]),
   ("queues.producers", ["binding", "queue"]),
   ("queues.consumers", ["queue"]),
   ("durable_objects.bindings", ["name", "class_name"]),
   ("services", ["binding", "service"])]

/-- Two descriptors agree on all that the compiler knows. -/
structure Agrees (d d' : Value) : Prop where
  mappings : (∃ m, d = .map m) ∧ ∃ m, d' = .map m
  whole : ∀ name ∈ readWhole, d.lookup name = d'.lookup name
  assets : Option.Rel (SaysSame ["binding", "directory"]) (d.lookup "assets") (d'.lookup "assets")
  entries : ∀ e ∈ readByEntry, Option.Rel (SameEntries e.2) (d.lookup e.1) (d'.lookup e.1)

theorem Agrees.rel (h : Agrees d d') (name : String) (keys : List String)
    (hname : (name, keys) ∈ readByEntry) :
    Option.Rel (SameEntries keys) (d.lookup name) (d'.lookup name) := h.entries _ hname

/-- The descriptor binds the service of this name. -/
def Binds (d : Value) (service : Scalar) : Prop :=
  ∃ items, d.lookup "services" = some (.list items) ∧
    ∃ e ∈ items, e.field "service" = .ok (.scalar service)

end Descriptor

/-- Two tables of mocks agree on the services that are bound, apart from the primary worker. -/
def MockTable.AgreesFor (s : Settings) (d : Value) (mocks mocks' : MockTable) : Prop :=
  ∀ service, Descriptor.Binds d service → service ≠ .text s.mainWorkerName →
    mocks.find? service = mocks'.find? service

open Descriptor Value

/-! ## The rules -/

/-- The fields of an entry that its value is taken from. -/
def EntryValue.names : EntryValue → List String
  | .field name => [name]
  | .fixed _ => []

namespace Rule

variable {source target : String}

theorem outcome_direct_of_agrees (h : d.lookup source = d'.lookup source) :
    (direct source target).outcome d = (direct source target).outcome d' := by
  simp only [outcome, Rule.source, h]

theorem outcome_nameList_of_agrees (keys : List String) (hkey : "binding" ∈ keys)
    (h : Option.Rel (SameEntries keys) (d.lookup source) (d'.lookup source)) :
    (nameList source target).outcome d = (nameList source target).outcome d' := by
  simp only [outcome, Rule.source]
  generalize d.lookup source = x, d'.lookup source = x' at h
  cases h with
  | none => rfl
  | some h =>
    obtain ⟨vs, ws, rfl, rfl, hentries⟩ := h
    have hnames : bindingNames vs = bindingNames ws := by
      exact mapM_of_forall₂ hentries fun a b hab => hab.field hkey
    have hempty : (Value.list vs).isTruthy = (Value.list ws).isTruthy := by
      cases hentries <;> rfl
    dsimp only
    rw [hempty]
    split
    · show (bindingNames vs >>= _) = (bindingNames ws >>= _)
      rw [hnames]
    · rfl

theorem outcome_keyed_of_agrees (keys : List String) {keyField : String} {value : EntryValue}
    (hkeys : ∀ k ∈ keyField :: value.names, k ∈ keys)
    (h : Option.Rel (SameEntries keys) (d.lookup source) (d'.lookup source)) :
    (keyed source target keyField value).outcome d =
      (keyed source target keyField value).outcome d' := by
  simp only [outcome, Rule.source]
  generalize d.lookup source = x, d'.lookup source = x' at h
  cases h with
  | none => rfl
  | some h =>
    obtain ⟨vs, ws, rfl, rfl, hentries⟩ := h
    have hmapping : mappingOf keyField value vs = mappingOf keyField value ws := by
      refine foldlM_of_forall₂ hentries (fun c a b hab => ?_) []
      have htake : value.take a = value.take b := by
        cases value with
        | field name => exact hab.peek (hkeys name (by simp [EntryValue.names]))
        | fixed v => rfl
      rw [addEntry, addEntry, htake, hab.field (hkeys keyField (List.mem_cons_self ..))]
    show (mappingOf keyField value vs >>= _) = (mappingOf keyField value ws >>= _)
    rw [hmapping]

/-- **Every rule of the compiler makes the same of descriptors that agree.** -/
theorem outcome_table_of_agrees (h : Agrees d d') : ∀ r ∈ table, r.outcome d = r.outcome d' := by
  have hwhole : ∀ {name target}, name ∈ readWhole →
      (direct name target).outcome d = (direct name target).outcome d' :=
    fun hname => outcome_direct_of_agrees (h.whole _ hname)
  simp only [table, List.forall_mem_cons]
  refine ⟨hwhole (by simp [readWhole]), hwhole (by simp [readWhole]), hwhole (by simp [readWhole]),
    ?_, ?_, ?_, ?_, ?_, ?_, nofun⟩
  · exact outcome_nameList_of_agrees ["binding"] (by simp) (h.rel _ _ (by simp [readByEntry]))
  · exact outcome_nameList_of_agrees ["binding"] (by simp) (h.rel _ _ (by simp [readByEntry]))
  · exact outcome_keyed_of_agrees ["binding", "queue"] (by simp [EntryValue.names])
      (h.rel _ _ (by simp [readByEntry]))
  · exact outcome_keyed_of_agrees ["queue"] (by simp [EntryValue.names])
      (h.rel _ _ (by simp [readByEntry]))
  · exact outcome_keyed_of_agrees ["binding", "database_id"] (by simp [EntryValue.names])
      (h.rel _ _ (by simp [readByEntry]))
  · exact outcome_keyed_of_agrees ["name", "class_name"] (by simp [EntryValue.names])
      (h.rel _ _ (by simp [readByEntry]))

/-- Rules that make the same of two descriptors can be applied with either of them. -/
theorem applyAll_of_outcome {rs : List Rule} (h : ∀ r ∈ rs, r.outcome d = r.outcome d') (w : Worker) :
    applyAll rs d w = applyAll rs d' w := by
  induction rs generalizing w with
  | nil => rfl
  | cons r rs ih =>
    obtain ⟨hr, hrs⟩ := List.forall_mem_cons.1 h
    rw [applyAll_cons, applyAll_cons, apply_eq, apply_eq, hr]
    exact bind_congr fun p => ih hrs p.1

end Rule

/-! ## The stages of the compiler -/

namespace Compile

variable {base : Option String} {s : Settings} {mocks mocks' : MockTable}

/-- Descriptors that agree under a name without dots say the same there. -/
theorem peek_of_agrees (h : Agrees d d') (name : String) (hdot : '.' ∉ name.toList)
    (hname : name ∈ readWhole) : d.peek name = d'.peek name := by
  obtain ⟨⟨m, rfl⟩, m', rfl⟩ := h.mappings
  rw [peek_eq_lookup hdot, peek_eq_lookup hdot, h.whole name hname]

theorem withVars_of_agrees (h : Agrees d d') (w : Worker) : withVars d w = withVars d' w := by
  rw [withVars, withVars, peek_of_agrees h "vars" (by decide) (by simp [readWhole])]

theorem assetBlock_of_saysSame (base : Option String) {v v' : Value} (h : SaysSame ["binding", "directory"] v v') :
    assetBlock base v = assetBlock base v' := by
  obtain ⟨-, -, -, -, hsame⟩ := h
  rw [assetBlock, assetBlock, hsame "binding" (by simp), hsame "directory" (by simp)]

theorem withAssets_of_agrees (h : Agrees d d') (w : Worker) :
    withAssets base d w = withAssets base d' w := by
  obtain ⟨⟨m, rfl⟩, m', rfl⟩ := h.mappings
  have hassets := h.assets
  rw [withAssets, withAssets, peek_eq_lookup (by decide), peek_eq_lookup (by decide)]
  generalize (Value.map m).lookup "assets" = x, (Value.map m').lookup "assets" = x' at hassets
  cases hassets with
  | none => rfl
  | some hsame =>
    have hblock := assetBlock_of_saysSame base hsame
    obtain ⟨n, n', rfl, rfl, -⟩ := hsame
    show (assetBlock base (.map n) >>= _) = (assetBlock base (.map n') >>= _)
    rw [hblock]

/-- **The primary worker is the same** for descriptors that agree, or fails to be made in the same way. -/
theorem primary_of_agrees (h : Agrees d d') : primary base s d = primary base s d' := by
  rw [primary, primary, withVars_of_agrees h]
  refine bind_congr fun u => ?_
  rw [withAssets_of_agrees h]
  refine bind_congr fun v => ?_
  rw [Rule.applyAll_of_outcome (Rule.outcome_table_of_agrees h)]

theorem listening_of_agrees (h : Agrees d d') : listening s d = listening s d' := by
  rw [listening, listening, h.whole "dev.port" (by simp [readWhole]),
    h.whole "dev.hostname" (by simp [readWhole])]

/-- The services that are gone through are bound. -/
theorem exists_entry_of_serviceEntries {items : List Value} {entries : List (Scalar × Value)}
    (h : serviceEntries items = .ok entries) {v : Value} (hv : v ∈ entries.map (·.2)) :
    ∃ e ∈ items, e.field "service" = .ok v := by
  unfold serviceEntries at h
  induction items generalizing entries with
  | nil =>
    cases h
    exact absurd hv List.not_mem_nil
  | cons item items ih =>
    rw [List.mapM_cons] at h
    obtain ⟨p, hp, h⟩ := Except.bind_eq_ok_iff.1 h
    obtain ⟨ps, hps, h⟩ := Except.bind_eq_ok_iff.1 h
    cases h
    rcases List.mem_cons.1 hv with rfl | hv
    · obtain ⟨binding, -, hp⟩ := Except.bind_eq_ok_iff.1 hp
      obtain ⟨target, htarget, hp⟩ := Except.bind_eq_ok_iff.1 hp
      obtain ⟨key, -, hp⟩ := Except.bind_eq_ok_iff.1 hp
      cases hp
      exact ⟨item, List.mem_cons_self .., htarget⟩
    · obtain ⟨e, he, hfield⟩ := ih hps hv
      exact ⟨e, List.mem_cons_of_mem _ he, hfield⟩

/-- A table is asked for the mock of a service only if the service has no worker yet and is not the
primary worker. -/
theorem addService_of_find? {made : List (Scalar × Worker)} {v : Value}
    (h : ∀ k, v = .scalar k → k ≠ .text s.mainWorkerName → mocks.find? k = mocks'.find? k) :
    addService base s mocks made v = addService base s mocks' made v := by
  cases v with
  | scalar k =>
    show (if isServed s made k then _ else _) = (if isServed s made k then _ else _)
    split
    · rfl
    · rename_i hserved
      have hmain : k ≠ .text s.mainWorkerName := by
        rintro rfl
        simp [isServed] at hserved
      rw [serviceWorker, serviceWorker, h k rfl hmain]
  | list items => rfl
  | map entries => rfl

/-- **The services make the same workers** for descriptors and mocks that agree, and tell the same while
they are gone through. -/
theorem withServices_of_agrees (h : Agrees d d') (hmocks : MockTable.AgreesFor s d mocks mocks')
    (w : Worker) : withServices base s mocks d w = withServices base s mocks' d' w := by
  obtain ⟨⟨m, rfl⟩, m', rfl⟩ := h.mappings
  have hservices := h.rel "services" ["binding", "service"] (by simp [readByEntry])
  have hbinds : ∀ items, (Value.map m).lookup "services" = some (.list items) →
      ∀ e ∈ items, ∀ k, e.field "service" = .ok (.scalar k) → Binds (.map m) k :=
    fun items hitems e he k hk => ⟨items, hitems, e, he, hk⟩
  rw [withServices, withServices, peek_eq_lookup (by decide), peek_eq_lookup (by decide)]
  generalize (Value.map m).lookup "services" = x, (Value.map m').lookup "services" = x'
    at hservices hbinds
  cases hservices with
  | none => rfl
  | some hsame =>
    obtain ⟨vs, ws, rfl, rfl, hentries⟩ := hsame
    have hsame : serviceEntries vs = serviceEntries ws := by
      refine mapM_of_forall₂ hentries fun a b hab => ?_
      rw [serviceEntry, serviceEntry, hab.field (k := "binding") (by simp),
        hab.field (k := "service") (by simp)]
    show (Outcome.ofExcept (serviceEntries vs) >>= _) = (Outcome.ofExcept (serviceEntries ws) >>= _)
    rw [← hsame]
    cases hrun : serviceEntries vs with
    | error f => rfl
    | ok entries =>
      have hworkers : serviceWorkers base s mocks (entries.map (·.2)) =
          serviceWorkers base s mocks' (entries.map (·.2)) := by
        rw [serviceWorkers, serviceWorkers]
        refine congrArg (· >>= _) (foldlM_congr_of_mem (fun v hv made => ?_) [])
        obtain ⟨e, he, hfield⟩ := exists_entry_of_serviceEntries hrun hv
        refine addService_of_find? fun k hk hmain => hmocks k ?_ hmain
        rw [hk] at hfield
        exact hbinds vs rfl e he k hfield
      show (serviceWorkers base s mocks _ >>= _) = (serviceWorkers base s mocks' _ >>= _)
      rw [hworkers]

/-- **The compiler reads nothing but what it knows.**  For two descriptors that agree on every known name
and on the looked-at fields of entries, and two tables of mocks that agree on the bound services other
than the primary worker, two compilations tell the same and end in the same configuration or with the
same fault, whatever the base and the settings. -/
theorem configuration_of_agrees (h : Agrees d d') (base : Option String) (s : Settings)
    (hmocks : MockTable.AgreesFor s d mocks mocks') :
    configuration d mocks base s = configuration d' mocks' base s := by
  obtain ⟨⟨m, rfl⟩, m', rfl⟩ := h.mappings
  have heffective : ∀ n : Mapping, (if (Value.map n).isTruthy then .map n else .map []) = Value.map n := by
    intro n
    cases n <;> rfl
  rw [configuration, configuration, heffective, heffective, primary_of_agrees h]
  refine bind_congr fun w => ?_
  rw [withServices_of_agrees h hmocks, listening_of_agrees h]

/-- A descriptor that says no more than it needs to. -/
def sparseDescriptor : Value :=
  Value.record
    [("main", .text "./src/worker.js"),
     ("kv_namespaces", .list [Value.record [("binding", .text "KV")]]),
     ("services", .list
       [Value.record [("binding", .text "AUTH"), ("service", .text "auth")],
        Value.record [("binding", .text "SELF"), ("service", .text "main")]])]

/-- The same in another order, among names and fields that the compiler does not know. -/
def crowdedDescriptor : Value :=
  Value.record
    [("name", .text "site"), ("assets", .null), ("dev", Value.record [("ip", .text "::1")]),
     ("services", .list
       [Value.record
         [("service", .text "auth"), ("environment", .text "staging"), ("binding", .text "AUTH")],
        Value.record [("binding", .text "SELF"), ("service", .text "main")]]),
     ("kv_namespaces", .list [Value.record [("id", .int 7), ("binding", .text "KV")]]),
     ("queues", .list []), ("main", .text "./src/worker.js")]

/-- A mock of the bound service. -/
def sparseMocks : MockTable := .entries [(.text "auth", .ready (.file "mocks/auth.js"))]

/-- The same mock, among others that are not needed and could not be read. -/
def crowdedMocks : MockTable :=
  .entries [(.text "main", .described (.int 1)), (.text "auth", .ready (.file "mocks/auth.js")),
    (.text "api", .described (.list []))]

set_option maxRecDepth 10000 in
theorem configuration_of_crowdedDescriptor :
    configuration sparseDescriptor sparseMocks (some "/proj") .standard =
        configuration crowdedDescriptor crowdedMocks (some "/proj") .standard ∧
      (configuration crowdedDescriptor crowdedMocks (some "/proj") .standard).notices =
        [.mocked "auth"] := by
  have hagrees : Agrees sparseDescriptor crowdedDescriptor := by
    refine ⟨⟨⟨_, rfl⟩, _, rfl⟩, ?_, .none, ?_⟩
    · simp only [readWhole, List.forall_mem_cons]
      exact ⟨rfl, rfl, rfl, rfl, rfl, rfl, nofun⟩
    · have hentry : ∀ {keys : List String} (m n : Mapping),
          (∀ k ∈ keys, Mapping.get? m k = Mapping.get? n k) → SameUnder keys (.map m) (.map n) :=
        fun m n h => ⟨m, n, rfl, rfl, h⟩
      simp only [readByEntry, List.forall_mem_cons]
      refine ⟨.some ⟨_, _, rfl, rfl, .cons (hentry _ _ ?_) .nil⟩, .none, .none, .none, .none, .none,
        .some ⟨_, _, rfl, rfl, .cons (hentry _ _ ?_) (.cons (hentry _ _ fun _ _ => rfl) .nil)⟩,
        nofun⟩
      · exact List.forall_mem_singleton.2 rfl
      · exact List.forall_mem_cons.2 ⟨rfl, List.forall_mem_singleton.2 rfl⟩
  have hmocks : MockTable.AgreesFor .standard sparseDescriptor sparseMocks crowdedMocks := by
    rintro service ⟨items, hitems, e, he, hservice⟩ hmain
    cases hitems
    simp only [List.mem_cons, List.not_mem_nil, or_false] at he
    rcases he with rfl | rfl
    · cases hservice
      rfl
    · cases hservice
      exact absurd rfl hmain
  exact ⟨configuration_of_agrees hagrees (some "/proj") .standard hmocks, rfl⟩

end Compile

end EdgeRig
