import EdgeRig.Proofs.Compile.Sources
import EdgeRig.Proofs.Schema.Reading

/-!
# Base directories

A descriptor may be compiled with a base directory, below which its relative paths are moved, or
without one.  Paths stand at three places: under `main`, in the asset block and in the mocks of the
services.  This file compares the two runs.

* `Configuration.below` — a configuration with the paths of its workers seen from a base.
* `Compile.primary_below` — the primary worker of the run with a base is the one of the run without it,
  seen from the base, provided that the path of its script is a text.
* `Compile.serviceWorkers_below` — the workers of the services are so in any case, whatever mocks there
  are, and the two runs tell the same.
* `Compile.configuration_below` — so a base directory changes paths and nothing else.
-/

namespace EdgeRig

/-! ## Paths seen from a base -/

/-- The asset block with its directory seen from a base. -/
def AssetBlock.below (b : String) (a : AssetBlock) : AssetBlock :=
  { a with directory := a.directory.map fun p => FilePath.rebase p b }

/-- The cell with the path in it seen from a base.  A text is a path, and an asset block has one. -/
def Cell.below (b : String) : Cell → Cell
  | .plain (.scalar (.text p)) => .plain (.text (FilePath.rebase p b))
  | .block a => .block (a.below b)
  | c => c

/-- The worker with the path of its script and the directory of its asset block seen from a base. -/
def Worker.below (b : String) (w : Worker) : Worker :=
  (w.set .assets ((w.cell .assets).below b)).set .scriptPath ((w.cell .scriptPath).below b)

/-- The configuration with the paths of all workers seen from a base. -/
def Configuration.below (b : String) (c : Configuration) : Configuration :=
  { c with workers := c.workers.map (Worker.below b) }

namespace Worker

/-- A write to a field without paths can be exchanged with a change of the base. -/
theorem below_set (b : String) (w : Worker) {f : WorkerField} (c : Cell) (hp : f ≠ .scriptPath)
    (ha : f ≠ .assets) : (w.set f c).below b = (w.below b).set f c := by
  unfold below
  rw [cell_set_of_ne w c ha.symm, cell_set_of_ne w c hp.symm, set_comm _ _ _ ha, set_comm _ _ _ hp]

/-- A worker whose fields for paths are empty is the same from everywhere. -/
theorem below_of_empty {b : String} {w : Worker} (hp : w.cell .scriptPath = .empty)
    (ha : w.cell .assets = .empty) : w.below b = w := by
  have hassets : (w.cell .assets).below b = w.cell .assets := by
    rw [ha]
    rfl
  have hpath : (w.cell .scriptPath).below b = w.cell .scriptPath := by
    rw [hp]
    rfl
  rw [below, hassets, hpath, set_cell_self, set_cell_self]

end Worker

namespace Compile

variable {b : String} {s : Settings} {mocks : MockTable} {d : Value}

/-- A path is seen from a base if it is a text, or nothing. -/
theorem rebase_eq_ok_iff {v u : Value} : rebase (some b) v = .ok u ↔
    ∃ p : Option String, v = Value.ofText? p ∧
      u = Value.ofText? (p.map fun q => FilePath.rebase q b) := by
  unfold rebase
  dsimp only
  split
  · constructor
    · intro h
      cases h
      exact ⟨none, rfl, rfl⟩
    · rintro ⟨p, hp, rfl⟩
      cases p with
      | none => rfl
      | some q => cases hp
  · rename_i p
    constructor
    · intro h
      cases h
      exact ⟨some p, rfl, rfl⟩
    · rintro ⟨q, hq, rfl⟩
      cases q with
      | none => cases hq
      | some q =>
        cases hq
        rfl
  · rename_i hnull htext
    constructor
    · intro h
      cases h
    · rintro ⟨p, rfl, -⟩
      cases p with
      | none => exact absurd rfl hnull
      | some q => exact absurd rfl (htext q)

/-! ## The asset block -/

theorem assetBlock_below {v : Value} {a' : AssetBlock} :
    assetBlock (some b) v = .ok a' ↔ ∃ a, assetBlock none v = .ok a ∧ a.below b = a' := by
  simp only [assetBlock_eq_ok_iff, rebase_eq_ok_iff]
  constructor
  · rintro ⟨hbinding, dir, hdir, p, rfl, hp⟩
    refine ⟨⟨a'.binding, p⟩, ⟨hbinding, _, hdir, rfl⟩, ?_⟩
    obtain ⟨binding, directory⟩ := a'
    cases p <;> cases directory <;> cases hp <;> rfl
  · rintro ⟨a, ⟨hbinding, dir, hdir, hsame⟩, rfl⟩
    cases hsame
    exact ⟨hbinding, _, hdir, a.directory, rfl, rfl⟩

theorem withAssets_below {w w' : Worker} (hempty : w.cell .assets = .empty) :
    withAssets (some b) d w = .ok w' ↔
      ∃ v, withAssets none d w = .ok v ∧ v.set .assets ((v.cell .assets).below b) = w' := by
  have hsame : w.set .assets ((w.cell .assets).below b) = w := by
    have hcell : (w.cell .assets).below b = w.cell .assets := by
      rw [hempty]
      rfl
    rw [hcell, Worker.set_cell_self]
  simp only [withAssets_eq_ok_iff, assetBlock_below]
  constructor
  · rintro ⟨assets, hpeek, ⟨hn, rfl⟩ | ⟨hn, _, ⟨a, ha, rfl⟩, rfl⟩⟩
    · exact ⟨w', ⟨assets, hpeek, Or.inl ⟨hn, rfl⟩⟩, hsame⟩
    · exact ⟨_, ⟨assets, hpeek, Or.inr ⟨hn, a, ha, rfl⟩⟩, Worker.set_set ..⟩
  · rintro ⟨v, ⟨assets, hpeek, ⟨hn, rfl⟩ | ⟨hn, a, ha, rfl⟩⟩, rfl⟩
    · exact ⟨assets, hpeek, Or.inl ⟨hn, hsame⟩⟩
    · exact ⟨assets, hpeek, Or.inr ⟨hn, _, ⟨a, ha, rfl⟩, Worker.set_set ..⟩⟩

/-! ## The primary worker -/

theorem withScriptPath_none (w : Worker) : withScriptPath none w = .ok w := by
  unfold withScriptPath
  split
  · rfl
  · rename_i v hv
    show Except.ok (w.set .scriptPath (.plain v)) = _
    rw [← hv, Worker.set_cell_self]

theorem withScriptPath_some {w w' : Worker} (hplain : ∃ v, w.cell .scriptPath = .plain v) :
    withScriptPath (some b) w = .ok w' ↔
      w.HasPath ∧ w.set .scriptPath ((w.cell .scriptPath).below b) = w' := by
  obtain ⟨v, hv⟩ := hplain
  unfold withScriptPath Worker.HasPath
  rw [hv]
  simp only [Except.map_eq_ok_iff, rebase_eq_ok_iff, Cell.plain.injEq]
  constructor
  · rintro ⟨u, ⟨p, rfl, rfl⟩, rfl⟩
    refine ⟨⟨p, rfl⟩, ?_⟩
    cases p <;> rfl
  · rintro ⟨⟨p, rfl⟩, rfl⟩
    refine ⟨_, ⟨p, rfl, rfl⟩, ?_⟩
    cases p <;> rfl

/-- The rules make the same of a worker whose asset block is seen from a base. -/
theorem table_below (v : Worker) : Rule.applyAll Rule.table d
    (v.set .assets ((v.cell .assets).below b)) =
      (Rule.applyAll Rule.table d v).map fun w => w.set .assets ((w.cell .assets).below b) := by
  rw [Rule.applyAll_set Rule.table d v _ (by decide)]
  cases hw : Rule.applyAll Rule.table d v with
  | error e => rfl
  | ok w =>
    have hassets : w.cell .assets = v.cell .assets := Rule.cell_of_applyAll hw (by decide)
    simp only [Except.map, hassets]

/-- **The primary worker seen from a base.**  There is one exactly when there is one without a base and
the path of its script is a text. -/
theorem primary_below {p' : Worker} : primary (some b) s d = .ok p' ↔
    ∃ p, primary none s d = .ok p ∧ p.HasPath ∧ p.below b = p' := by
  have hplain : ∀ {u v w : Worker}, withVars d (Worker.named s.mainWorkerName) = .ok u →
      withAssets none d u = .ok v → Rule.applyAll Rule.table d v = .ok w →
      ∃ x, w.cell .scriptPath = .plain x := by
    intro u v w hu hv hw
    exact plain_of_primary (primary_of_strokes hu hv hw (withScriptPath_none w)) (by decide)
  have hempty : ∀ {u : Worker}, withVars d (Worker.named s.mainWorkerName) = .ok u →
      u.cell .assets = .empty := by
    intro u hu
    obtain ⟨_, _, ⟨_, rfl⟩ | ⟨_, _, _, rfl⟩⟩ := withVars_ok hu <;> rfl
  constructor
  · intro h
    obtain ⟨u, v', w', hu, hv', hw', hp'⟩ := primary_ok h
    -- The asset block is seen from the base before the rules, the path of the script after them.
    obtain ⟨v, hv, rfl⟩ := (withAssets_below (hempty hu)).1 hv'
    rw [table_below] at hw'
    obtain ⟨w, hw, rfl⟩ := Except.map_eq_ok_iff.1 hw'
    obtain ⟨x, hx⟩ := hplain hu hv hw
    have hseen : (w.set .assets ((w.cell .assets).below b)).cell .scriptPath = .plain x := hx
    obtain ⟨hpath, rfl⟩ := (withScriptPath_some ⟨x, hseen⟩).1 hp'
    exact ⟨w, primary_of_strokes hu hv hw (withScriptPath_none w), hpath, rfl⟩
  · rintro ⟨p, h, hpath, rfl⟩
    obtain ⟨u, v, w, hu, hv, hw, hp⟩ := primary_ok h
    cases hp.symm.trans (withScriptPath_none w)
    have hw' := table_below (b := b) (d := d) v
    rw [hw] at hw'
    obtain ⟨x, hx⟩ := hplain hu hv hw
    have hseen : (p.set .assets ((p.cell .assets).below b)).cell .scriptPath = .plain x := hx
    exact primary_of_strokes hu ((withAssets_below (hempty hu)).2 ⟨v, hv, rfl⟩) hw'
      ((withScriptPath_some ⟨x, hseen⟩).2 ⟨hpath, rfl⟩)

/-! ## The workers of the services -/

theorem ofMock_below (n : String) (m : ServiceMock) :
    ofMock (some b) n m = (ofMock none n m).below b := by
  cases m with
  | inline script => exact (Worker.below_of_empty rfl rfl).symm
  | file path =>
    simp only [ofMock, Worker.below, Worker.setText, Worker.set, Worker.mk.injEq, and_true]
    funext f
    cases f <;> rfl

theorem ofDefault_below (s : Settings) (n : String) : (ofDefault s n).below b = ofDefault s n :=
  Worker.below_of_empty rfl rfl

theorem serviceWorker_below (k : Scalar) :
    serviceWorker (some b) s mocks k = (serviceWorker none s mocks k).map (Worker.below b) := by
  unfold serviceWorker
  rw [Outcome.map_bind]
  refine bind_congr fun found => ?_
  cases found with
  | some mock => simp only [Outcome.map_bind, Outcome.map_pure, ofMock_below]
  | none => simp only [Outcome.map_bind, Outcome.map_pure, ofDefault_below]

/-- Workers by service, seen from a base. -/
def belowEach (b : String) (made : List (Scalar × Worker)) : List (Scalar × Worker) :=
  made.map fun e => (e.1, e.2.below b)

/-- Whether a service is served does not depend on where paths are seen from. -/
theorem isServed_below (made : List (Scalar × Worker)) (k : Scalar) :
    isServed s (belowEach b made) k = isServed s made k := by
  unfold isServed belowEach
  rw [List.any_map]
  rfl

theorem addService_below (made : List (Scalar × Worker)) (v : Value) :
    addService (some b) s mocks (belowEach b made) v =
      (addService none s mocks made v).map (belowEach b) := by
  unfold addService
  rw [Outcome.map_bind]
  refine bind_congr fun k => ?_
  rw [isServed_below]
  by_cases h : isServed s made k = true
  · rw [if_pos h, if_pos h, Outcome.map_pure]
  · rw [if_neg h, if_neg h, serviceWorker_below, Outcome.bind_map, Outcome.map_bind]
    refine bind_congr fun w => ?_
    rw [Outcome.map_pure]
    simp [belowEach]

/-- **The workers of the services seen from a base.**  The two runs tell the same and end in the same
way. -/
theorem serviceWorkers_below (services : List Value) :
    serviceWorkers (some b) s mocks services =
      (serviceWorkers none s mocks services).map (List.map (Worker.below b)) := by
  unfold serviceWorkers
  have hfold := Outcome.foldlM_map (φ := belowEach b) (f := addService none s mocks)
    (g := addService (some b) s mocks) addService_below services []
  rw [show ([] : List (Scalar × Worker)) = belowEach b [] from rfl, hfold, Outcome.bind_map,
    Outcome.map_bind]
  refine bind_congr fun made => ?_
  rw [Outcome.map_pure]
  simp [belowEach]

theorem withServices_below (p : Worker) :
    withServices (some b) s mocks d (p.below b) =
      (withServices none s mocks d p).map (List.map (Worker.below b)) := by
  unfold withServices
  rw [Outcome.map_bind]
  refine bind_congr fun services => ?_
  by_cases hn : services.isNull = true
  · rw [if_pos hn, if_pos hn]
    rfl
  · rw [if_neg hn, if_neg hn, Outcome.map_bind]
    refine bind_congr fun items => ?_
    rw [Outcome.map_bind]
    refine bind_congr fun entries => ?_
    rw [serviceWorkers_below, Outcome.bind_map, Outcome.map_bind,
      ← Worker.below_set b p _ (by decide) (by decide)]
    rfl

/-! ## The configuration -/

/-- When both runs have a primary worker, they go side by side to their ends. -/
theorem configuration_map_below {p : Worker} (hp : primary none s (effective d) = .ok p)
    (hpath : p.HasPath) :
    configuration d mocks (some b) s = (configuration d mocks none s).map (Configuration.below b) := by
  rw [configuration_of_primary (primary_below.2 ⟨p, hp, hpath, rfl⟩), configuration_of_primary hp,
    withServices_below, Outcome.bind_map, Outcome.map_bind]
  refine bind_congr fun ws => ?_
  rw [Outcome.map_bind]
  rfl

/-- The descriptor says nothing under `main`, or a text. -/
def MainIsPath (d : Value) : Prop := ∃ p : Option String, d.peek "main" = .ok (Value.ofText? p)

/-- A descriptor with a text under `main` makes a worker whose path is a text. -/
theorem hasPath_of_primary {p : Worker} (h : primary none s d = .ok p) (hmain : MainIsPath d) :
    p.HasPath := by
  obtain ⟨path, hpeek⟩ := hmain
  obtain ⟨main, v, hmain, hv, hcell⟩ := scriptPath_of_primary h
  cases hmain.symm.trans hpeek
  exact ⟨path, by rw [hcell, ← Except.ok.inj hv]⟩

theorem hasPath_of_configuration {c : Configuration} {p : Worker}
    (h : (configuration d mocks none s).result = .ok c) (hp : primary none s (effective d) = .ok p)
    (hpath : p.HasPath) : ∀ w ∈ c.workers, w.HasPath := by
  obtain ⟨p', head, others, hp', hws, hagrees, hothers⟩ := workers_of_configuration h
  cases hp.symm.trans hp'
  rw [hws]
  refine List.forall_mem_cons.2 ⟨?_, fun w hw => (hothers w hw).runsText.hasPath⟩
  rwa [Worker.HasPath, hagrees .scriptPath (by decide)]

/-- **A base directory changes paths and nothing else.**  If a descriptor compiles with a base, it
compiles without one; the two runs tell the same, and their configurations differ in that the paths,
which all are texts, are seen from the base.  If it compiles without a base and says nothing but a text
under `main`, it compiles with every base. -/
theorem configuration_below (d : Value) (mocks : MockTable) (b : String) (s : Settings) :
    (∀ c', (configuration d mocks (some b) s).result = .ok c' →
      ∃ c, (configuration d mocks none s).result = .ok c ∧
        (configuration d mocks none s).notices = (configuration d mocks (some b) s).notices ∧
        (∀ w ∈ c.workers, w.HasPath) ∧ c' = c.below b) ∧
      ∀ c, (configuration d mocks none s).result = .ok c → MainIsPath (effective d) →
        (configuration d mocks (some b) s).result = .ok (c.below b) := by
  constructor
  · intro c' h
    obtain ⟨p', hp', -, -⟩ := configuration_ok h
    obtain ⟨p, hp, hpath, rfl⟩ := primary_below.1 hp'
    have hrun : configuration d mocks (some b) s = _ := configuration_map_below hp hpath
    rw [hrun] at h ⊢
    obtain ⟨c, hc, rfl⟩ := Outcome.map_eq_ok_iff.1 h
    exact ⟨c, hc, rfl, hasPath_of_configuration hc hp hpath, rfl⟩
  · intro c hc hmain
    obtain ⟨p, hp, -, -⟩ := configuration_ok hc
    rw [configuration_map_below hp (hasPath_of_primary hp hmain)]
    exact Outcome.map_eq_ok_iff.2 ⟨c, hc, rfl⟩

/-- A descriptor with a relative path, an absolute one, and two services. -/
def pathDescriptor : Value :=
  let service (binding name : String) : Value :=
    Value.record [("binding", .text binding), ("service", .text name)]
  Value.record
    [("main", .text "./src/worker.js"),
     ("assets", Value.record [("binding", .text "ASSETS"), ("directory", .text "/srv//public")]),
     ("services", .list [service "AUTH" "auth", service "API" "api"])]

/-- A mock that names a path, and one that carries a script. -/
def pathMocks : MockTable :=
  .entries
    [(.text "auth", .described (Value.record [("scriptPath", .text "mocks/auth.js")])),
     (.text "api", .described (Value.record [("script", .text "export default {};")]))]

set_option maxRecDepth 10000 in
/-- The relative paths move below the base, the absolute one stays as it is written, and the script of
the second mock is no path. -/
theorem configuration_below_of_pathDescriptor :
    ∃ c, (configuration pathDescriptor pathMocks none .standard).result = .ok c ∧
      (configuration pathDescriptor pathMocks (some "/proj/.") .standard).result =
        .ok (c.below "/proj/.") ∧
      (configuration pathDescriptor pathMocks none .standard).notices =
        (configuration pathDescriptor pathMocks (some "/proj/.") .standard).notices ∧
      (c.below "/proj/.").workers.map (fun w => (w.cell .scriptPath).text?) =
        [some "/proj/src/worker.js", some "/proj/mocks/auth.js", none] := by
  have hrun : (configuration pathDescriptor pathMocks none .standard).result.map
      (fun c => (c.below "/proj/.").workers.map fun w => (w.cell .scriptPath).text?) =
        .ok [some "/proj/src/worker.js", some "/proj/mocks/auth.js", none] := rfl
  obtain ⟨c, hc, hpaths⟩ := Except.map_eq_ok_iff.1 hrun
  have hboth := configuration_below pathDescriptor pathMocks "/proj/." .standard
  have hbelow := hboth.2 c hc ⟨some "./src/worker.js", rfl⟩
  obtain ⟨_, hc', hnotices, -, -⟩ := hboth.1 _ hbelow
  exact ⟨c, hc, hbelow, hnotices, hpaths⟩

end Compile

end EdgeRig
