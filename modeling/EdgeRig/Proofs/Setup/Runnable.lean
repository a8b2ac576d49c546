import EdgeRig.Proofs.Compile.Sources
import EdgeRig.Proofs.Options
import EdgeRig.Proofs.Setup.Course
import EdgeRig.Proofs.WorkerGraph
import EdgeRig.Sample

/-!
# What a simulator is started with

A simulator can start a worker only if there is one body to run, and it knows nothing of asset blocks.
Four places see to that: the mocks, the default script, the path that the descriptor gives, and the stub
that is filled in last.  This file follows the workers through all of them.

* `Worker.Startable` — the body of a worker has one source, the worker has no asset block, and only the
  store serves a directory; `Mapping.Startable` — the options of a worker show as much.
* `Setup.startable_of_routed` — once routed, every worker is startable but for the primary one, which
  has at most the path of its descriptor.
* `Setup.withStub_eq_map` — the stub goes to the worker of the primary name, if it has no body;
  `Setup.complete_withStub` — and then all workers are startable.
* `Setup.Asks` — a setup asks its factory for a simulator with certain options, which shows in that the
  factory decides how the setup ends by refusing them; `Setup.asks_iff` says when it does.
* `Setup.startable_of_asks` — whatever a setup asks for can be started, and the primary worker runs the
  stub exactly when the descriptor names no script.
-/

namespace EdgeRig

open AssetRouting

namespace Worker

/-- The body of the worker has exactly one source. -/
def HasOneSource (w : Worker) : Prop :=
  (w.cell .script).isEmpty = false ∧ (w.cell .scriptPath).isEmpty = true ∨
    (w.cell .script).isEmpty = true ∧ (w.cell .scriptPath).isEmpty = false

/-- A simulator can start the worker. -/
structure Startable (w : Worker) : Prop where
  source : w.HasOneSource
  unblocked : w.cell .assets = .empty
  site : w.cell .sitePath = .empty ∨ w.HasName storeName

theorem RunsText.hasOneSource {w : Worker} (h : w.RunsText) : w.HasOneSource := by
  obtain ⟨t, ⟨hs, hp⟩ | ⟨hs, hp⟩⟩ := h
  · exact Or.inl ⟨by rw [hs]; rfl, by rw [hp]; rfl⟩
  · exact Or.inr ⟨by rw [hs]; rfl, by rw [hp]; rfl⟩

theorem StandsIn.startable {w : Worker} (h : w.StandsIn) : w.Startable := by
  obtain ⟨n, hn⟩ := h.agrees
  exact ⟨h.runsText.hasOneSource, hn .assets (by decide), Or.inl (hn .sitePath (by decide))⟩

theorem HasOneSource.hasScript {w : Worker} (h : w.HasOneSource) : w.hasScript = true := by
  rcases h with ⟨hs, -⟩ | ⟨-, hp⟩
  · simp [Worker.hasScript, hs]
  · simp [Worker.hasScript, hp]

end Worker

namespace Mapping

/-- A simulator can start the worker that these options tell of. -/
structure Startable (m : Mapping) : Prop where
  /-- One of the two keys for a body is there, and something stands under it. -/
  source : (∃ v, v ≠ .null ∧ get? m "script" = some v) ∧ get? m "scriptPath" = none ∨
    get? m "script" = none ∧ ∃ v, v ≠ .null ∧ get? m "scriptPath" = some v
  unblocked : get? m "assets" = none
  site : get? m "sitePath" = none ∨ get? m "name" = some (.text storeName)

end Mapping

/-- The options show that the worker can be started. -/
theorem Worker.Startable.optionEntries {w : Worker} (h : w.Startable) :
    Mapping.Startable w.optionEntries := by
  have hempty : ∀ f : WorkerField, (w.cell f).isEmpty = true →
      Mapping.get? w.optionEntries f.optionName = none :=
    fun _ => Worker.get?_optionEntries_eq_none_iff.2
  constructor
  · rcases h.source with ⟨hs, hp⟩ | ⟨hs, hp⟩
    · exact Or.inl ⟨Worker.exists_get?_optionEntries hs, hempty .scriptPath hp⟩
    · exact Or.inr ⟨hempty .script hs, Worker.exists_get?_optionEntries hp⟩
  · exact hempty .assets (by rw [h.unblocked]; rfl)
  · rcases h.site with hs | hn
    · exact Or.inl (hempty .sitePath (by rw [hs]; rfl))
    · exact Or.inr (Worker.get?_optionEntries_text.2 hn)

namespace AssetRouting

theorem startable_of_router {w : Worker} {origin : String}
    (h : w.AgreesOutside [.compatibilityDate, .compatibilityFlags] (router origin)) :
    w.Startable where
  source := Worker.RunsText.hasOneSource
    ⟨Script.router, Or.inl ⟨h .script (by decide), h .scriptPath (by decide)⟩⟩
  unblocked := h .assets (by decide)
  site := Or.inl (h .sitePath (by decide))

theorem startable_of_store {w : Worker} {directory : Option String}
    (h : w.AgreesOutside [.compatibilityDate, .compatibilityFlags] (store directory)) :
    w.Startable where
  source := Worker.RunsText.hasOneSource
    ⟨Script.store, Or.inl ⟨h .script (by decide), h .scriptPath (by decide)⟩⟩
  unblocked := h .assets (by decide)
  site := Or.inr (h .name (by decide))

end AssetRouting

namespace Setup

variable {base : Option String} {s : Settings} {mocks : MockTable} {d : Value}

/-! ## The primary worker before the stub -/

/-- The primary worker before the stub: it carries no script, its path is what the descriptor says under
`main`, and a simulator can start it once it has a body. -/
structure Unstubbed (base : Option String) (s : Settings) (d : Value) (w : Worker) : Prop where
  name : w.HasName s.mainWorkerName
  script : w.cell .script = .empty
  path : ∃ main v, d.peek "main" = .ok main ∧ Compile.rebase base main = .ok v ∧
    w.cell .scriptPath = .plain v
  unblocked : w.cell .assets = .empty
  site : w.cell .sitePath = .empty

theorem unstubbed_of_continues {p head w : Worker} (hp : Compile.primary base s d = .ok p)
    (hagrees : head.AgreesOutside [.serviceBindings] p) (hcont : Continues w head) :
    Unstubbed base s d w := by
  have hcell : ∀ f, f ∉ [WorkerField.assets, .serviceBindings] → w.cell f = p.cell f := by
    intro f hf
    have hservice : f ∉ [WorkerField.serviceBindings] := fun hc => hf (List.mem_cons_of_mem _ hc)
    exact (hcont.agrees f hf).trans (hagrees f hservice)
  constructor
  · exact (hcell .name (by decide)).trans (Compile.hasName_of_primary hp)
  · exact (hcell .script (by decide)).trans (Compile.script_of_primary hp)
  · rw [hcell .scriptPath (by decide)]
    exact Compile.scriptPath_of_primary hp
  · exact hcont.cleared
  · rw [hcell .sitePath (by decide)]
    exact Compile.cell_of_primary hp (f := .sitePath) (by decide) (by decide)

/-- The first worker goes on among the routed ones, and all others can be started. -/
theorem startable_of_apply {head : Worker} {others : List Worker} {m : Mapping}
    (hm : head.HoldsBindings m) (hothers : ∀ w ∈ others, w.Startable)
    (hok : (apply (head :: others)).outcome.result = .ok ()) :
    ∃ bound ∈ (apply (head :: others)).workers, Continues bound head ∧
      ∀ w ∈ (apply (head :: others)).workers, w = bound ∨ w.Startable := by
  obtain ⟨bound, hbound, hcont, hall⟩ := workers_of_apply hm hok
  refine ⟨bound, hbound, hcont, fun w hw => ?_⟩
  rcases hall w hw with rfl | hw | ⟨origin, hr⟩ | ⟨b, -, ht⟩
  · exact Or.inl rfl
  · exact Or.inr (hothers w hw)
  · exact Or.inr (startable_of_router hr)
  · exact Or.inr (startable_of_store ht)

/-- **Routed workers before the stub.**  No two of them share a name, the one of the primary name has at
most a path, and all others can be started. -/
theorem startable_of_routed {c : Configuration}
    (hc : (Compile.configuration d mocks base s).result = .ok c)
    (hok : (apply c.workers).outcome.result = .ok ()) :
    WellLinked (apply c.workers).workers ∧
      (∃ w ∈ (apply c.workers).workers, Unstubbed base s (Compile.effective d) w) ∧
      ∀ w ∈ (apply c.workers).workers, Unstubbed base s (Compile.effective d) w ∨
        w.Startable ∧ ¬ w.HasName s.mainWorkerName := by
  obtain ⟨p, head, others, hp, hws, hagrees, hstand⟩ := Compile.workers_of_configuration hc
  obtain ⟨_, _, _, m, _, hws', _, hm, _⟩ := Compile.head_of_configuration hc
  cases hws.symm.trans hws'
  have hlinked := wellLinked_configuration hc
  rw [hws] at hok hlinked ⊢
  obtain ⟨hafter, -⟩ := wellLinked_apply hlinked hok
  obtain ⟨bound, hbound, hcont, hall⟩ :=
    startable_of_apply hm (fun w hw => (hstand w hw).startable) hok
  have hprimary : Unstubbed base s (Compile.effective d) bound := unstubbed_of_continues hp hagrees hcont
  refine ⟨hafter, ⟨bound, hbound, hprimary⟩, fun w hw => ?_⟩
  by_cases hname : w.HasName s.mainWorkerName
  · -- Both are found under the primary name, so they are the same worker.
    have hsame : some w = some bound :=
      (hafter.find?_eq hw hname).symm.trans (hafter.find?_eq hbound hprimary.name)
    rw [Option.some.inj hsame]
    exact Or.inl hprimary
  · rcases hall w hw with rfl | hstart
    · exact absurd hprimary.name hname
    · exact Or.inr ⟨hstart, hname⟩

/-! ## The stub -/

/-- The worker with the stub, if it is the primary one and has no body. -/
def stubbed (s : Settings) (w : Worker) : Worker :=
  if w.isNamed s.mainWorkerName && !w.hasScript then w.setText .script (some s.stubScript) else w

theorem stubbed_of_hasScript {w : Worker} (h : w.hasScript = true) : stubbed s w = w := by
  simp [stubbed, h]

theorem stubbed_of_not_hasName {w : Worker} (h : ¬ w.HasName s.mainWorkerName) : stubbed s w = w := by
  have hn : w.isNamed s.mainWorkerName = false := Bool.eq_false_iff.2 fun hc => h (Worker.isNamed_iff.1 hc)
  simp [stubbed, hn]

/-- Among workers of different names it makes no difference that only the first one of the primary name
gets the stub. -/
theorem withStub_eq_map {ws : List Worker}
    (h : ws.Pairwise fun v w => v.cell .name ≠ w.cell .name) : withStub s ws = ws.map (stubbed s) := by
  induction ws with
  | nil => rfl
  | cons w ws ih =>
    obtain ⟨hw, hrest⟩ := List.pairwise_cons.1 h
    rw [withStub, List.map_cons]
    by_cases hn : w.isNamed s.mainWorkerName = true
    · -- No worker after the first one of the primary name has this name, too.
      have hsame : ws.map (stubbed s) = ws := by
        refine (List.map_congr_left fun v hv => ?_).trans (List.map_id ws)
        exact stubbed_of_not_hasName fun hc => hw v hv ((Worker.isNamed_iff.1 hn).trans hc.symm)
      rw [if_pos hn, hsame]
      cases hs : w.hasScript <;> simp [stubbed, hn, hs]
    · rw [if_neg hn, ih hrest, stubbed_of_not_hasName fun hc => hn (Worker.isNamed_iff.2 hc)]

/-- **The stub completes the primary worker**, and it is needed exactly when the descriptor names no
script. -/
theorem startable_stubbed {w : Worker} (h : Unstubbed base s d w) :
    (stubbed s w).Startable ∧ (stubbed s w).HasName s.mainWorkerName ∧
      ((stubbed s w).cell .script = .plain (.text s.stubScript) ↔ d.peek "main" = .ok .null) := by
  obtain ⟨main, v, hmain, hv, hpath⟩ := h.path
  have hnull : v = .null ↔ main = .null := Compile.rebase_null hv
  by_cases hempty : v = .null
  · have hno : w.hasScript = false := by
      rw [Worker.hasScript, h.script, hpath, hempty]
      rfl
    have hw : stubbed s w = w.setText .script (some s.stubScript) := by
      simp [stubbed, hno, Worker.isNamed_iff.2 h.name]
    rw [hw]
    refine ⟨⟨Or.inl ⟨rfl, ?_⟩, h.unblocked, Or.inl h.site⟩, h.name, ?_⟩
    · exact Cell.isEmpty_iff.2 (hpath.trans (by rw [hempty]))
    · simp [Worker.cell_setText, Value.ofText?, hmain, hnull.1 hempty]
  · have hfull : (w.cell .scriptPath).isEmpty = false := by
      rw [hpath]
      exact Bool.eq_false_iff.2 fun hc => hempty (Value.isNull_iff.1 hc)
    have hsource : w.HasOneSource := Or.inr ⟨by rw [h.script]; rfl, hfull⟩
    rw [stubbed_of_hasScript hsource.hasScript]
    refine ⟨⟨hsource, h.unblocked, Or.inl h.site⟩, h.name, ?_⟩
    have hne : main ≠ .null := fun hc => hempty (hnull.2 hc)
    simp [h.script, hmain, hne]

/-- What a setup is about to start: configurations whose workers can all be started. -/
structure Complete (s : Settings) (d : Value) (ws : List Worker) : Prop where
  startable : ∀ w ∈ ws, w.Startable
  primary : ∃ w ∈ ws, w.HasName s.mainWorkerName
  stub : ∀ w ∈ ws, w.HasName s.mainWorkerName →
    (w.cell .script = .plain (.text s.stubScript) ↔ d.peek "main" = .ok .null)

/-- **The stub completes the workers.** -/
theorem complete_withStub {c : Configuration}
    (hc : (Compile.configuration d mocks base s).result = .ok c)
    (hok : (apply c.workers).outcome.result = .ok ()) :
    Complete s (Compile.effective d) (withStub s (apply c.workers).workers) := by
  obtain ⟨hlinked, ⟨bound, hbound, hprimary⟩, hall⟩ := startable_of_routed hc hok
  rw [withStub_eq_map hlinked.distinct]
  have hstubbed : ∀ w ∈ (apply c.workers).workers, (stubbed s w).Startable ∧
      ((stubbed s w).HasName s.mainWorkerName → ((stubbed s w).cell .script =
        .plain (.text s.stubScript) ↔ (Compile.effective d).peek "main" = .ok .null)) := by
    intro w hw
    rcases hall w hw with hw | ⟨hw, hname⟩
    · obtain ⟨hstart, -, hstub⟩ := startable_stubbed hw
      exact ⟨hstart, fun _ => hstub⟩
    · rw [stubbed_of_not_hasName hname]
      exact ⟨hw, fun hc => absurd hc hname⟩
  constructor
  · intro w hw
    obtain ⟨v, hv, rfl⟩ := List.mem_map.1 hw
    exact (hstubbed v hv).1
  · exact ⟨stubbed s bound, List.mem_map_of_mem hbound, (startable_stubbed hprimary).2.1⟩
  · intro w hw
    obtain ⟨v, hv, rfl⟩ := List.mem_map.1 hw
    exact (hstubbed v hv).2

/-- A plan is a configuration that was compiled, routed and completed. -/
theorem plan_ok {files : FileTree} {r : SetupRequest} {c : Configuration}
    (h : (plan files r s).result = .ok c) :
    ∃ d base compiled port, descriptor files r.config = .ok (d, base) ∧
      (Compile.configuration d r.mocks base s).result = .ok compiled ∧
      movePort r.portOffset compiled.port = .ok port ∧
      (apply compiled.workers).outcome.result = .ok () ∧
      c = ⟨withStub s (apply compiled.workers).workers, compiled.host, port⟩ := by
  obtain ⟨⟨d, base⟩, hd, h⟩ := Outcome.bind_eq_ok_iff.1 h
  obtain ⟨compiled, hc, h⟩ := Outcome.bind_eq_ok_iff.1 h
  obtain ⟨port, hport, h⟩ := Outcome.bind_eq_ok_iff.1 h
  obtain ⟨_, hr, h⟩ := Outcome.bind_eq_ok_iff.1 h
  cases h
  exact ⟨d, base, compiled, port, hd, hc, hport, hr, rfl⟩

/-! ## What a factory is asked for -/

/-- A setup ends with the first fault that one of its stages has. -/
theorem result_attempt {around : Surroundings} {r : SetupRequest} {factory : Factory}
    (hf : factoryOf around r = some factory) : (attempt around r).outcome.result =
      (settingsOf around r >>= fun s => (plan around.files r s).result >>= fun c =>
        baseUrl c >>= fun _ => factory c.options >>= fun sim =>
          (sim.bindings s.mainWorkerName).map fun _ => ()) := by
  have hcourse := course_attempt around r
  generalize attempt around r = a at hcourse ⊢
  cases hcourse with
  | unsettled hs => rw [hs]; rfl
  | unequipped _ hf' => cases hf.symm.trans hf'
  | unplanned hs _ hp => rw [hs, Except.ok_bind, hp]; rfl
  | nowhere hs _ hp hu => rw [hs, Except.ok_bind, hp, Except.ok_bind, hu]; rfl
  | unmade hs hf' hp hu hm =>
    cases hf.symm.trans hf'
    rw [hs, Except.ok_bind, hp, Except.ok_bind, hu, Except.ok_bind, hm]
    rfl
  | unbound hs hf' hp hu hm hb | ready hs hf' hp hu hm hb =>
    cases hf.symm.trans hf'
    rw [hs, Except.ok_bind, hp, Except.ok_bind, hu, Except.ok_bind, hm, Except.ok_bind, hb]
    rfl

/-- The factory that refuses one request. -/
def refusing (factory : Factory) (o : Value) (f : Fault) : Factory :=
  fun v => if v = o then .error f else factory v

/-- The setup asks its factory for a simulator with these options: with whatever fault the factory
refuses them, the setup ends with that fault. -/
def Asks (around : Surroundings) (r : SetupRequest) (o : Value) : Prop :=
  ∃ factory, factoryOf around r = some factory ∧ ∀ f,
    (attempt around { r with factory := some (refusing factory o f) }).outcome.result = .error f

/-- No result is all faults at once. -/
theorem not_forall_error {α : Type} (x : Except Fault α) : ¬ ∀ f, x = .error f := by
  intro h
  cases (h .unknownField).symm.trans (h .noSuchName)

/-- **What a setup asks for** are the options of its plan, once it is known where to listen. -/
theorem asks_iff {around : Surroundings} {r : SetupRequest} {o : Value} :
    Asks around r o ↔ ∃ s factory c url, settingsOf around r = .ok s ∧
      factoryOf around r = some factory ∧ (plan around.files r s).result = .ok c ∧
      baseUrl c = .ok url ∧ c.options = o := by
  -- Another factory changes neither the settings nor the plan.
  have hrun : ∀ factory f,
      (attempt around { r with factory := some (refusing factory o f) }).outcome.result =
        (settingsOf around r >>= fun s => (plan around.files r s).result >>= fun c =>
          baseUrl c >>= fun _ => refusing factory o f c.options >>= fun sim =>
            (sim.bindings s.mainWorkerName).map fun _ => ()) :=
    fun factory f => result_attempt rfl
  constructor
  · rintro ⟨factory, hf, hasks⟩
    simp only [hrun] at hasks
    cases hs : settingsOf around r with
    | error g =>
      simp only [hs, Except.error_bind] at hasks
      exact absurd hasks (not_forall_error _)
    | ok s =>
      simp only [hs, Except.ok_bind] at hasks
      cases hp : (plan around.files r s).result with
      | error g =>
        simp only [hp, Except.error_bind] at hasks
        exact absurd hasks (not_forall_error _)
      | ok c =>
        simp only [hp, Except.ok_bind] at hasks
        cases hu : baseUrl c with
        | error g =>
          simp only [hu, Except.error_bind] at hasks
          exact absurd hasks (not_forall_error _)
        | ok url =>
          simp only [hu, Except.ok_bind] at hasks
          by_cases ho : c.options = o
          · exact ⟨s, factory, c, url, rfl, hf, hp, hu, ho⟩
          · simp only [refusing, if_neg ho] at hasks
            exact absurd hasks (not_forall_error _)
  · rintro ⟨s, factory, c, url, hs, hf, hp, hu, ho⟩
    refine ⟨factory, hf, fun f => ?_⟩
    rw [hrun, hs, Except.ok_bind, hp, Except.ok_bind, hu, Except.ok_bind, refusing, if_pos ho]
    rfl

/-- **Whatever a setup asks for can be started.**  Every worker has one body, none has an asset block,
only the store serves a directory; and the primary worker runs the stub exactly when the descriptor
says nothing under `main`. -/
theorem startable_of_asks {around : Surroundings} {r : SetupRequest} {o : Value}
    (h : Asks around r o) :
    ∃ s d base, ∃ workers : List Mapping, settingsOf around r = .ok s ∧
      descriptor around.files r.config = .ok (d, base) ∧
      o.field "workers" = .ok (.list (workers.map .map)) ∧
      (∀ m ∈ workers, Mapping.Startable m) ∧
      (∃ m ∈ workers, Mapping.get? m "name" = some (.text s.mainWorkerName)) ∧
      ∀ m ∈ workers, Mapping.get? m "name" = some (.text s.mainWorkerName) →
        (Mapping.get? m "script" = some (.text s.stubScript) ↔
          (Compile.effective d).peek "main" = .ok .null) := by
  obtain ⟨s, factory, c, url, hs, -, hp, -, rfl⟩ := asks_iff.1 h
  obtain ⟨d, base, compiled, port, hd, hc, -, hr, rfl⟩ := plan_ok hp
  obtain ⟨hstart, ⟨w, hw, hname⟩, hstub⟩ := complete_withStub hc hr
  refine ⟨s, d, base, _, hs, hd, Configuration.field_workers _, ?_,
    ⟨_, List.mem_map_of_mem hw, Worker.get?_optionEntries_text.2 hname⟩, ?_⟩
  · intro m hm
    obtain ⟨v, hv, rfl⟩ := List.mem_map.1 hm
    exact (hstart v hv).optionEntries
  · intro m hm hn
    obtain ⟨v, hv, rfl⟩ := List.mem_map.1 hm
    rw [← hstub v hv (Worker.get?_optionEntries_text.1 hn)]
    exact Worker.get?_optionEntries_text (f := .script)

/-- A setup that finds nothing around it. -/
def nothingAround : Surroundings := ⟨⟨FilePath.ofText ['/'], []⟩, [], none⟩

/-- A descriptor that names no script and has static files and two services, one of which is mocked. -/
def scriptlessRequest : SetupRequest where
  config := .given <| Value.record
    [("main", .null), ("assets", Value.record [("directory", .text "./public")]),
     ("services", .list
       [Value.record [("binding", .text "API"), ("service", .text "api")],
        Value.record [("binding", .text "AUTH"), ("service", .text "auth")]])]
  mocks := .entries [(.text "api", .ready (.file "mocks/api.js"))]
  portOffset := .int 0
  factory := some Sample.working
  settings := some .standard

set_option maxRecDepth 10000 in
theorem startable_of_scriptlessRequest :
    ∃ o, Asks nothingAround scriptlessRequest o ∧ ∃ workers : List Mapping,
      o.field "workers" = .ok (.list (workers.map .map)) ∧ (∀ m ∈ workers, Mapping.Startable m) ∧
      ∃ m ∈ workers, Mapping.get? m "name" = some (.text "main") ∧
        Mapping.get? m "script" = some (.text Script.stub) := by
  have hrun : ((plan nothingAround.files scriptlessRequest .standard).result >>= baseUrl) = .ok none :=
    rfl
  obtain ⟨c, hc, hurl⟩ := Except.bind_eq_ok_iff.1 hrun
  have hasks : Asks nothingAround scriptlessRequest c.options :=
    asks_iff.2 ⟨.standard, Sample.working, c, none, rfl, rfl, hc, hurl, rfl⟩
  obtain ⟨s, d, base, workers, hs, hd, hworkers, hall, ⟨m, hm, hname⟩, hstub⟩ :=
    startable_of_asks hasks
  cases hs
  cases hd
  exact ⟨c.options, hasks, workers, hworkers, hall, m, hm, hname, (hstub m hm hname).2 rfl⟩

end Setup

end EdgeRig
