import EdgeRig.Proofs.AssetRouting.ReadBack
import EdgeRig.Proofs.Compile.Rules
import EdgeRig.Proofs.Compile.Sources

/-!
# Well-shaped descriptors compile

A descriptor that says what it is documented to say can be compiled, and what it is compiled into fits
the schema of the options: they are read back as the configuration.

* `Compile.primary_total` — a well-shaped descriptor makes a primary worker that is read back.
* `Compile.serviceWorkers_total` — services with valid mocks make workers.
* `Compile.configuration_of_isWellShaped` — a well-shaped descriptor is compiled, unless its port has
  too many digits to be written out.
-/

namespace EdgeRig

open Descriptor

variable {d : Value}

namespace Compile

variable {base : Option String} {s : Settings} {mocks : MockTable}

/-! ## The primary worker -/

theorem withVars_total (hd : isWellShaped d = true) {w : Worker} (hw : w.ReadsBack) :
    ∃ w', withVars d w = .ok w' ∧ w'.ReadsBack := by
  obtain ⟨vars, hpeek, hvars⟩ :=
    peek_of_isWellShaped hd "vars" .keyed (by simp [documented]) (by decide)
  rw [withVars, hpeek, Except.ok_bind]
  rcases hvars with rfl | hvars
  · exact ⟨w, rfl, hw⟩
  · obtain ⟨m, rfl, hkeys⟩ := Shape.exists_map_of_accepts hvars
    refine ⟨_, rfl, hw.set (WorkerField.readsBack_of_accepts rfl (by simp) ?_)⟩
    exact Reader.accepts_mappingOf.2 ⟨m, rfl, fun e he => ⟨hkeys e he, Reader.accepts_any e.2⟩⟩

/-- A text stays one when it is seen from a base, and nothing stays nothing. -/
theorem rebase_ofText? (base o : Option String) :
    ∃ o' : Option String, rebase base (Value.ofText? o) = .ok (Value.ofText? o') := by
  cases base with
  | none => exact ⟨o, rfl⟩
  | some b =>
    cases o with
    | none => exact ⟨none, rfl⟩
    | some p => exact ⟨some (FilePath.rebase p b), rfl⟩

theorem withAssets_total (base : Option String) (hd : isWellShaped d = true) {w : Worker}
    (hw : w.ReadsBack) :
    ∃ w', withAssets base d w = .ok w' ∧ w'.ReadsBack := by
  obtain ⟨assets, hpeek, hassets⟩ := peek_of_isWellShaped hd "assets"
    (.optionalTexts ["binding", "directory"]) (by simp [documented]) (by decide)
  rcases hassets with rfl | hassets
  · exact ⟨w, withAssets_eq_ok_iff.2 ⟨.null, hpeek, Or.inl ⟨rfl, rfl⟩⟩, hw⟩
  · obtain ⟨binding, hbinding⟩ := Shape.peek_of_accepts hassets (k := "binding") (by simp)
    obtain ⟨dir, hdir⟩ := Shape.peek_of_accepts hassets (k := "directory") (by simp)
    obtain ⟨dir', hdir'⟩ := rebase_ofText? base dir
    have hblock : assetBlock base assets = .ok ⟨binding, dir'⟩ :=
      assetBlock_eq_ok_iff.2 ⟨hbinding, _, hdir, hdir'⟩
    have hn : assets.isNull = false := by
      obtain ⟨m, rfl⟩ := Value.exists_map_of_peek hbinding
      rfl
    exact ⟨_, withAssets_eq_ok_iff.2 ⟨assets, hpeek, Or.inr ⟨hn, _, hblock, rfl⟩⟩,
      hw.set (WorkerField.readsBack_block _)⟩

theorem withScriptPath_total (base : Option String) {w : Worker} (hw : w.ReadsBack) :
    ∃ w', withScriptPath base w = .ok w' ∧ w'.ReadsBack := by
  obtain ⟨o, ho⟩ := (hw.cells .scriptPath).ofText? rfl
  obtain ⟨o', ho'⟩ := rebase_ofText? base o
  refine ⟨w.set .scriptPath (.plain (Value.ofText? o')), ?_,
    hw.set (WorkerField.readsBack_ofText? rfl rfl o')⟩
  rw [withScriptPath, ho]
  dsimp only
  rw [ho']
  rfl

/-- **A well-shaped descriptor makes a primary worker**, and it is read back. -/
theorem primary_total (base : Option String) (s : Settings) (hd : isWellShaped d = true) :
    ∃ p, primary base s d = .ok p ∧ p.ReadsBack := by
  obtain ⟨u, hu, hback⟩ := withVars_total hd (Worker.readsBack_named s.mainWorkerName)
  obtain ⟨v, hv, hback⟩ := withAssets_total base hd hback
  obtain ⟨w, hw, hback⟩ := Rule.applyAll_of_suits (Rule.suits_table hd) hback
  obtain ⟨p, hp, hback⟩ := withScriptPath_total base hback
  exact ⟨p, primary_of_strokes hu hv hw hp, hback⟩

/-! ## The services -/

end Compile

/-- The mock of a service, if there is one, is a script or the path of one. -/
def MockTable.ValidFor (mocks : MockTable) (n : String) : Prop :=
  ∃ found, mocks.find? (.text n) = .ok found ∧
    ∀ mock, found = some mock → ∃ m, mock.resolve (.text n) = .ok m

/-- The descriptor binds a service of this name. -/
def Descriptor.BindsService (d : Value) (n : String) : Prop :=
  ∃ items, d.lookup "services" = some (.list items) ∧ ∃ e ∈ items, e.field "service" = .ok (.text n)

/-- A worker that stands in for a service is read back. -/
theorem Worker.StandsIn.readsBack {w : Worker} (h : w.StandsIn) : w.ReadsBack where
  cells := by
    obtain ⟨n, hagrees⟩ := h.agrees
    intro f
    by_cases hf : f ∈ [WorkerField.script, .scriptPath]
    · obtain ⟨t, ⟨hs, hp⟩ | ⟨hs, hp⟩⟩ := h.runsText
      · simp only [List.mem_cons, List.not_mem_nil, or_false] at hf
        rcases hf with rfl | rfl
        · rw [hs]
          exact WorkerField.readsBack_ofText? rfl rfl (some t)
        · rw [hp]
          exact WorkerField.readsBack_empty rfl
      · simp only [List.mem_cons, List.not_mem_nil, or_false] at hf
        rcases hf with rfl | rfl
        · rw [hs]
          exact WorkerField.readsBack_empty rfl
        · rw [hp]
          exact WorkerField.readsBack_ofText? rfl rfl (some t)
    · rw [hagrees f hf]
      exact (Worker.readsBack_named n).cells f
  unnoted := h.unnoted

namespace Compile

theorem serviceWorker_total {n : String} (h : mocks.ValidFor n) :
    ∃ w, (serviceWorker base s mocks (.text n)).result = .ok w := by
  obtain ⟨found, hfound, hvalid⟩ := h
  unfold serviceWorker
  cases found with
  | none =>
    exact ⟨_, Outcome.bind_eq_ok_iff.2 ⟨none, hfound, rfl⟩⟩
  | some mock =>
    obtain ⟨m, hm⟩ := hvalid mock rfl
    refine ⟨ofMock base n m, Outcome.bind_eq_ok_iff.2 ⟨some mock, hfound, ?_⟩⟩
    refine Outcome.bind_eq_ok_iff.2 ⟨_, rfl, Outcome.bind_eq_ok_iff.2 ⟨(), rfl, ?_⟩⟩
    exact Outcome.bind_eq_ok_iff.2 ⟨m, hm, rfl⟩

/-- **Services with valid mocks make workers**, and these are read back. -/
theorem serviceWorkers_total {services : List Value}
    (h : ∀ v ∈ services, ∃ n, v = .text n ∧ mocks.ValidFor n) :
    ∃ ws, (serviceWorkers base s mocks services).result = .ok ws ∧ ∀ w ∈ ws, w.ReadsBack := by
  obtain ⟨made, hmade, -⟩ : ∃ made : List (Scalar × Worker),
      services.foldlM (fun made v => (addService base s mocks made v).result) [] = .ok made ∧
        True := by
    refine Except.foldlM_total (fun v hv made _ => ?_) trivial
    obtain ⟨n, rfl, hvalid⟩ := h v hv
    unfold addService
    by_cases hs : isServed s made (.text n) = true
    · exact ⟨made, Outcome.bind_eq_ok_iff.2 ⟨.text n, rfl, by rw [if_pos hs]; rfl⟩, trivial⟩
    · obtain ⟨w, hw⟩ := serviceWorker_total hvalid
      refine ⟨made ++ [(.text n, w)], Outcome.bind_eq_ok_iff.2 ⟨.text n, rfl, ?_⟩, trivial⟩
      rw [if_neg hs]
      exact Outcome.bind_eq_ok_iff.2 ⟨w, hw, rfl⟩
  have hws : (serviceWorkers base s mocks services).result = .ok (made.map (·.2)) :=
    Outcome.bind_eq_ok_iff.2 ⟨made, by rw [Outcome.result_foldlM, hmade], rfl⟩
  exact ⟨_, hws, fun w hw => (standsIn_of_serviceWorkers hws w hw).readsBack⟩

theorem serviceEntries_total {items : List Value}
    (h : ∀ e ∈ items, ∀ k ∈ ["binding", "service"], ∃ t, e.field k = .ok (.text t)) :
    ∃ entries, serviceEntries items = .ok entries ∧ ∀ p ∈ entries, (∃ k, p.1 = .text k) ∧
      ∃ n, p.2 = .text n ∧ ∃ e ∈ items, e.field "service" = .ok (.text n) := by
  refine Except.mapM_total fun e he => ?_
  obtain ⟨k, hk⟩ := h e he "binding" (by simp)
  obtain ⟨n, hn⟩ := h e he "service" (by simp)
  refine ⟨(.text k, .text n), ?_, ⟨k, rfl⟩, n, rfl, e, he, hn⟩
  rw [serviceEntry, hk, Except.ok_bind, hn]
  rfl

/-- The primary worker takes its service bindings, and the services have their workers. -/
theorem withServices_total (base : Option String) (s : Settings) (hd : isWellShaped d = true)
    (hmocks : ∀ n, BindsService d n → mocks.ValidFor n) {p : Worker} (hp : p.ReadsBack) :
    ∃ ws, (withServices base s mocks d p).result = .ok ws ∧ ∀ w ∈ ws, w.ReadsBack := by
  obtain ⟨services, hpeek, hservices⟩ := peek_of_isWellShaped hd "services"
    (.entries ["binding", "service"]) (by simp [documented]) (by decide)
  unfold withServices
  rcases hservices with rfl | hservices
  · refine ⟨[p], Outcome.bind_eq_ok_iff.2 ⟨.null, hpeek, rfl⟩, ?_⟩
    exact List.forall_mem_singleton.2 hp
  · obtain ⟨items, rfl, hitems⟩ := Shape.exists_entries_of_accepts hservices
    have hlookup : d.lookup "services" = some (.list items) :=
      Value.lookup_of_peek (by decide) hpeek
    obtain ⟨entries, hentries, htexts⟩ := serviceEntries_total hitems
    obtain ⟨others, hothers, hback⟩ : ∃ ws, (serviceWorkers base s mocks
        (entries.map (·.2))).result = .ok ws ∧ ∀ w ∈ ws, w.ReadsBack := by
      refine serviceWorkers_total fun v hv => ?_
      obtain ⟨e, he, rfl⟩ := List.mem_map.1 hv
      obtain ⟨-, n, hn, hbinds⟩ := htexts e he
      exact ⟨n, hn, hmocks n ⟨items, hlookup, hbinds⟩⟩
    have hbindings : ∀ e ∈ Mapping.ofEntries entries,
        (∃ k, e.1 = .text k) ∧ ∃ t, e.2 = .text t :=
      Mapping.forall_ofEntries (K := fun k => ∃ t, k = .text t) (V := fun v => ∃ t, v = .text t)
        fun e he => ⟨(htexts e he).1, (htexts e he).2.imp fun _ h => h.1⟩
    refine ⟨p.set .serviceBindings (.plain (.map (Mapping.ofEntries entries))) :: others, ?_, ?_⟩
    · refine Outcome.bind_eq_ok_iff.2 ⟨.list items, hpeek, ?_⟩
      refine Outcome.bind_eq_ok_iff.2 ⟨items, rfl, Outcome.bind_eq_ok_iff.2 ⟨entries, hentries, ?_⟩⟩
      exact Outcome.bind_eq_ok_iff.2 ⟨others, hothers, rfl⟩
    · exact List.forall_mem_cons.2 ⟨hp.set (WorkerField.readsBack_bindings hbindings), hback⟩

/-! ## The configuration -/

/-- A whole number is written out unless it has too many digits. -/
theorem written_int (n : Int) :
    (n.natAbs < Scale.decimal Scalar.digitLimit → ∃ t, (Value.int n).written = .ok t) ∧
      (Scale.decimal Scalar.digitLimit ≤ n.natAbs → (Value.int n).written = .error .numberTooLong) := by
  have hwritable : (Value.int n).isWritable = decide (n.natAbs < Scale.decimal Scalar.digitLimit) :=
    rfl
  unfold Value.written Value.shown?
  rw [hwritable]
  constructor
  · intro h
    rw [decide_eq_true h]
    exact ⟨_, rfl⟩
  · intro h
    rw [decide_eq_false (Nat.not_lt.2 h)]
    rfl

/-- A well-shaped descriptor listens nowhere, or at a text and a whole number. -/
theorem listening_of_isWellShaped (s : Settings) (hd : isWellShaped d = true) :
    d.lookup "dev.port" = none ∧ listening s d = (.null, .null) ∨
      ∃ h n, d.lookup "dev.port" = some (.int n) ∧ listening s d = (.text h, .int n) := by
  unfold listening
  cases hport : d.lookup "dev.port" with
  | none => exact Or.inl ⟨rfl, rfl⟩
  | some port =>
    have hshape : Shape.accepts .integer port = true :=
      accepts_of_isWellShaped hd (by simp [documented]) hport
    obtain ⟨n, rfl⟩ := Value.isInteger_iff.1 hshape
    refine Or.inr ?_
    cases hhost : d.lookup "dev.hostname" with
    | none => exact ⟨s.defaultHost, n, rfl, rfl⟩
    | some host =>
      have hshape : Shape.accepts .text host = true :=
        accepts_of_isWellShaped hd (by simp [documented]) hhost
      obtain ⟨t, rfl⟩ := Value.isText_iff.1 hshape
      dsimp only
      cases ht : (Value.text t).isTruthy with
      | true => exact ⟨t, n, rfl, by rw [Option.filter_some, ht]; rfl⟩
      | false => exact ⟨s.defaultHost, n, rfl, by rw [Option.filter_some, ht]; rfl⟩

/-- A well-shaped descriptor is compiled as far as its port can be written out. -/
theorem result_configuration (base : Option String) (hd : isWellShaped (effective d) = true)
    (hmocks : ∀ n, BindsService (effective d) n → mocks.ValidFor n) :
    ∃ ws, (∀ w ∈ ws, w.ReadsBack) ∧ (configuration d mocks base s).result =
      (listening s (effective d)).2.written.map fun _ =>
        ⟨ws, (listening s (effective d)).1, (listening s (effective d)).2⟩ := by
  obtain ⟨p, hp, hback⟩ := primary_total base s hd
  obtain ⟨ws, hws, hall⟩ := withServices_total base s hd hmocks hback
  refine ⟨ws, hall, ?_⟩
  rw [configuration_of_primary hp, Outcome.result_bind, hws, Except.ok_bind, Outcome.result_bind]
  cases (listening s (effective d)).2.written <;> rfl

/-- **Well-shaped descriptors compile.**  If every known name of a descriptor says nothing or what it is
documented to say, and the mocks of its services are valid, then it is compiled, unless its port has too
many digits to be written out.  The options of the configuration are read as the configuration; and
routing its workers ends well or finds a reserved name and changes nothing, and leaves workers whose
options are read as them. -/
theorem configuration_of_isWellShaped (d : Value) (mocks : MockTable) (base : Option String)
    (s : Settings) (hd : isWellShaped (effective d) = true)
    (hmocks : ∀ n, BindsService (effective d) n → mocks.ValidFor n) :
    (∀ n, (effective d).lookup "dev.port" = some (.int n) →
        Scale.decimal Scalar.digitLimit ≤ n.natAbs →
        (configuration d mocks base s).result = .error .numberTooLong) ∧
      ((∀ n, (effective d).lookup "dev.port" = some (.int n) →
          n.natAbs < Scale.decimal Scalar.digitLimit) →
        ∃ c, (configuration d mocks base s).result = .ok c ∧ Configuration.read c.options = .ok c ∧
          ((AssetRouting.apply c.workers).outcome.result = .ok () ∨
            ∃ n ∈ AssetRouting.reserved, (∃ w ∈ c.workers, w.HasName n) ∧
              (AssetRouting.apply c.workers).outcome.result =
                .error (.failure (.reservedName (.text n))) ∧
              (AssetRouting.apply c.workers).workers = c.workers) ∧
          ∀ w ∈ (AssetRouting.apply c.workers).workers, Worker.read w.options = .ok w) := by
  obtain ⟨ws, hback, hresult⟩ := result_configuration (s := s) base hd hmocks
  have hplace := listening_of_isWellShaped s hd
  constructor
  · intro n hport hlong
    rcases hplace with ⟨hnone, -⟩ | ⟨h, n', hport', hlisten⟩
    · cases hport.symm.trans hnone
    · cases hport.symm.trans hport'
      rw [hresult, hlisten, (written_int n).2 hlong]
      rfl
  · intro hshort
    obtain ⟨c, hc, hcws, hcplace⟩ : ∃ c, (configuration d mocks base s).result = .ok c ∧
        c.workers = ws ∧ c.HasPlace := by
      rcases hplace with ⟨-, hlisten⟩ | ⟨h, n, hport, hlisten⟩
      · exact ⟨_, by rw [hresult, hlisten]; rfl, rfl, Or.inl ⟨rfl, rfl⟩⟩
      · obtain ⟨t, ht⟩ := (written_int n).1 (hshort n hport)
        exact ⟨_, by rw [hresult, hlisten, ht]; rfl, rfl, Or.inr ⟨h, n, rfl, rfl⟩⟩
    rw [← hcws] at hback
    obtain ⟨hroute, hrouted⟩ := AssetRouting.apply_of_readsBack hback
    exact ⟨c, hc, Configuration.read_options hback hcplace, hroute,
      fun w hw => (hrouted w hw).read_options⟩

/-- A descriptor that says something under every known name but `compatibility_date`, and something
under a name that is not known. -/
def fullDescriptor : Value :=
  let entry (fields : List (String × String)) : Value :=
    Value.record (fields.map fun f => (f.1, .text f.2))
  Value.record
    [("main", .text "./src/worker.js"), ("compatibility_flags", .list [.text "nodejs_compat"]),
     ("vars", Value.record [("LEVEL", .int 3), ("NOTHING", .null)]),
     ("assets", entry [("binding", "ASSETS"), ("directory", "./public")]),
     ("kv_namespaces", .list [entry [("binding", "KV")]]), ("r2_buckets", .list []),
     ("queues", Value.record
       [("producers", .list [entry [("binding", "OUT")]]),
        ("consumers", .list [entry [("queue", "in")], entry [("queue", "in")]])]),
     ("d1_databases", .list [entry [("binding", "DB"), ("database_id", "d1")]]),
     ("durable_objects", Value.record [("bindings", .list [entry [("name", "ROOM")]])]),
     ("services", .list
       [entry [("binding", "API"), ("service", "api")], entry [("binding", "AUTH"), ("service", "auth")]]),
     ("dev", Value.record [("port", .int 8787), ("hostname", .text "")]),
     ("routes", .bool false)]

/-- Mocks of the services of the descriptor above. -/
def fullMocks : MockTable :=
  .entries
    [(.text "api", .described (Value.record [("script", .text "export default {};")])),
     (.text "auth", .ready (.file "mocks/auth.js"))]

set_option maxRecDepth 10000 in
theorem configuration_of_fullDescriptor :
    isWellShaped (effective fullDescriptor) = true ∧
      (∀ n, BindsService (effective fullDescriptor) n → fullMocks.ValidFor n) ∧
      ∃ c, (configuration fullDescriptor fullMocks (some "/proj") .standard).result = .ok c ∧
        Configuration.read c.options = .ok c := by
  have hshape : isWellShaped (effective fullDescriptor) = true := rfl
  have hmocks : ∀ n, BindsService (effective fullDescriptor) n → fullMocks.ValidFor n := by
    rintro n ⟨items, hitems, e, he, hn⟩
    cases hitems
    simp only [List.mem_cons, List.not_mem_nil, or_false] at he
    rcases he with rfl | rfl
    · cases hn
      exact ⟨_, rfl, fun mock hm => by cases hm; exact ⟨.inline "export default {};", rfl⟩⟩
    · cases hn
      exact ⟨_, rfl, fun mock hm => by cases hm; exact ⟨.file "mocks/auth.js", rfl⟩⟩
  have hport : ∀ n, (effective fullDescriptor).lookup "dev.port" = some (.int n) →
      n.natAbs < Scale.decimal Scalar.digitLimit := by
    intro n hn
    cases hn
    have hshort : Int.natAbs 8787 < Scale.decimal 4 := by decide
    have hdigits : 4 ≤ Scalar.digitLimit := by decide
    exact Nat.lt_of_lt_of_le hshort (Scale.decimal_mono hdigits)
  obtain ⟨c, hc, hread, -⟩ :=
    (configuration_of_isWellShaped fullDescriptor fullMocks (some "/proj") .standard hshape hmocks).2
      hport
  exact ⟨hshape, hmocks, c, hc, hread⟩

/-- A descriptor of nothing but a port, the smallest whole number with too many digits. -/
def longPortDescriptor : Value :=
  Value.record [("dev", Value.record [("port", .int (Scale.decimal Scalar.digitLimit))])]

/-- A port with too many digits stops the compiler although the descriptor is well-shaped. -/
theorem not_compiled_of_longPortDescriptor :
    isWellShaped (effective longPortDescriptor) = true ∧
      (∀ n, MockTable.none.ValidFor n) ∧
      ∀ c, (configuration longPortDescriptor .none none .standard).result ≠ .ok c := by
  have hshape : isWellShaped (effective longPortDescriptor) = true := rfl
  have hmocks : ∀ n, MockTable.none.ValidFor n := fun n => ⟨none, rfl, nofun⟩
  refine ⟨hshape, hmocks, fun c hc => ?_⟩
  obtain ⟨ws, -, hresult⟩ := result_configuration (s := .standard) none hshape fun n _ => hmocks n
  have hlisten : listening .standard (effective longPortDescriptor) =
      (.text "127.0.0.1", .int (Scale.decimal Scalar.digitLimit)) := rfl
  rw [hresult, hlisten, (written_int _).2 (Nat.le_of_eq (Int.natAbs_natCast _).symm)] at hc
  cases hc

end Compile

end EdgeRig
