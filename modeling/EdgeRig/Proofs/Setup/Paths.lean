import EdgeRig.Proofs.Compile.BaseDirectory
import EdgeRig.Proofs.Loading
import EdgeRig.Proofs.Setup.Runnable

/-!
# The paths that a simulator is given

A setup from a descriptor file sees the paths in it from the directory of the file.  Paths are configured
at three places, under `main`, in the asset block and in the mocks, and end up as the paths of scripts and
as the directory of the store.  This file follows them to the options.

* `PathOrigin` — where the paths of a worker come from, by the name of the worker;
  `PathOrigin.isAbsolute` says that they are absolute if the directory is.
* `Worker.Locates`, `Mapping.Locates` — a worker, or the options of one, have these paths.
* `Setup.placed_of_primary`, `Setup.placed_of_madeFor` — the workers that a descriptor is compiled into
  have the paths of their origin; `Setup.placed_of_apply`, `Setup.placed_of_withStub` — and so have the
  routed ones, and those with the stub.
* `Setup.paths_of_file` — whatever is asked for by a setup from a file, all its paths are the configured
  ones, seen from the directory of the file.
-/

namespace EdgeRig

open AssetRouting

/-- Where the paths of a worker come from.  A worker has a name, may have the path of a script, and may
have a directory that it serves; `base` is what configured paths are seen from. -/
inductive PathOrigin (base : FilePath) (s : Settings) (mocks : MockTable) (d : Value) :
    String → Option String → Option String → Prop where
  /-- The primary worker runs the script that the descriptor names. -/
  | primary {main : Option String} (h : d.peek "main" = .ok (Value.ofText? main)) :
      PathOrigin base s mocks d s.mainWorkerName (main.map base.seenFrom) none
  /-- The worker of a service runs its mock. -/
  | mocked {n : String} {mock : Mock} {m : ServiceMock} (hn : n ≠ s.mainWorkerName)
      (hf : mocks.find? (.text n) = .ok (some mock)) (hm : mock.resolve (.text n) = .ok m) :
      PathOrigin base s mocks d n (m.scriptPath?.map base.seenFrom) none
  /-- The worker of a service without a mock has no paths. -/
  | unmocked {n : String} (hn : n ≠ s.mainWorkerName) (hf : mocks.find? (.text n) = .ok none) :
      PathOrigin base s mocks d n none none
  | router : PathOrigin base s mocks d routerName none none
  /-- The store serves the directory of the asset block. -/
  | store {assets : Value} {directory : Option String} (ha : d.peek "assets" = .ok assets)
      (hd : assets.peek "directory" = .ok (Value.ofText? directory)) :
      PathOrigin base s mocks d storeName none (directory.map base.seenFrom)

/-- The worker has this name, this path of a script and this directory to serve. -/
structure Worker.Locates (w : Worker) (n : String) (script site : Option String) : Prop where
  name : w.HasName n
  script : w.cell .scriptPath = .plain (Value.ofText? script)
  site : w.cell .sitePath = .plain (Value.ofText? site)

/-- The options of a worker show this name, this path of a script and this directory to serve. -/
structure Mapping.Locates (m : Mapping) (n : String) (script site : Option String) : Prop where
  name : get? m "name" = some (.text n)
  script : get? m "scriptPath" = script.map Value.text
  site : get? m "sitePath" = site.map Value.text

/-- **Configured paths are absolute** once they are seen from an absolute directory. -/
theorem PathOrigin.isAbsolute {base : FilePath} {s : Settings} {mocks : MockTable} {d : Value}
    {n t : String} {script site : Option String} (hbase : base.isAbsolute = true)
    (h : PathOrigin base s mocks d n script site) (ht : script = some t ∨ site = some t) :
    (FilePath.ofText t.toList).isAbsolute = true := by
  have hseen : ∀ path : Option String, path.map base.seenFrom = some t →
      (FilePath.ofText t.toList).isAbsolute = true := by
    intro path hpath
    obtain ⟨q, -, rfl⟩ := Option.map_eq_some_iff.1 hpath
    exact FilePath.isAbsolute_seenFrom hbase q
  cases h with
  | primary _ | mocked _ _ _ => exact ht.elim (hseen _) (fun hc => nomatch hc)
  | unmocked _ _ | router => exact ht.elim (fun hc => nomatch hc) (fun hc => nomatch hc)
  | store _ _ => exact ht.elim (fun hc => nomatch hc) (hseen _)

/-- A worker that agrees with another one in the three fields has its paths. -/
theorem Worker.Locates.of_agreesOutside {v w : Worker} {n : String} {script site : Option String}
    {fs : List WorkerField} (h : v.Locates n script site) (hw : w.AgreesOutside fs v)
    (hfs : ∀ f ∈ [WorkerField.name, .scriptPath, .sitePath], f ∉ fs) : w.Locates n script site where
  name := (hw .name (hfs _ (by simp))).trans h.name
  script := (hw .scriptPath (hfs _ (by simp))).trans h.script
  site := (hw .sitePath (hfs _ (by simp))).trans h.site

theorem Worker.Locates.optionEntries {w : Worker} {n : String} {script site : Option String}
    (h : w.Locates n script site) : Mapping.Locates w.optionEntries n script site where
  name := get?_optionEntries_text.2 h.name
  script := get?_optionEntries_ofText? h.script
  site := get?_optionEntries_ofText? h.site

namespace Setup

section Workers

variable {base : FilePath} {s : Settings} {mocks : MockTable} {d : Value}

/-- The worker has the paths of its origin. -/
def Placed (base : FilePath) (s : Settings) (mocks : MockTable) (d : Value) (w : Worker) : Prop :=
  ∃ n script site, PathOrigin base s mocks d n script site ∧ w.Locates n script site

theorem Placed.of_agreesOutside {v w : Worker} {fs : List WorkerField}
    (h : Placed base s mocks d v) (hw : w.AgreesOutside fs v)
    (hfs : ∀ f ∈ [WorkerField.name, .scriptPath, .sitePath], f ∉ fs) : Placed base s mocks d w := by
  obtain ⟨n, script, site, horigin, hlocates⟩ := h
  exact ⟨n, script, site, horigin, hlocates.of_agreesOutside hw hfs⟩

/-- A path that is moved below a written directory is seen from there. -/
theorem map_rebase (path : Option String) :
    (path.map fun q => FilePath.rebase q (String.ofList base.text)) = path.map base.seenFrom := by
  have hsame : (fun q => FilePath.rebase q (String.ofList base.text)) = base.seenFrom :=
    funext fun q => FilePath.rebase_text base q
  rw [hsame]

/-- **The primary worker** has the path of its script from `main`. -/
theorem placed_of_primary {p : Worker}
    (h : Compile.primary (some (String.ofList base.text)) s d = .ok p) :
    Placed base s mocks d p := by
  obtain ⟨main, v, hmain, hv, hpath⟩ := Compile.scriptPath_of_primary h
  obtain ⟨path, rfl, rfl⟩ := Compile.rebase_eq_ok_iff.1 hv
  rw [map_rebase] at hpath
  exact ⟨_, _, none, .primary hmain, Compile.hasName_of_primary h, hpath,
    Compile.cell_of_primary h (f := .sitePath) (by decide) (by decide)⟩

/-- **The worker of a service** has the path of its script from the mock, if there is one. -/
theorem placed_of_madeFor {n : String} {w : Worker}
    (h : Compile.MadeFor (some (String.ofList base.text)) s mocks n w) : Placed base s mocks d w := by
  obtain ⟨hn, hw⟩ := h
  obtain ⟨k, hk, ⟨mock, m, hf, hm, rfl⟩ | ⟨hf, rfl⟩⟩ := Compile.serviceWorker_ok hw
  · cases hk
    refine ⟨n, _, none, .mocked hn hf hm, rfl, ?_, rfl⟩
    rw [← map_rebase]
    rfl
  · cases hk
    exact ⟨n, none, none, .unmocked hn hf, rfl, rfl, rfl⟩

theorem placed_of_router {w : Worker} {origin : String}
    (h : w.AgreesOutside [.compatibilityDate, .compatibilityFlags] (router origin)) :
    Placed base s mocks d w := by
  have hrouter : Placed base s mocks d (router origin) :=
    ⟨routerName, none, none, .router, rfl, rfl, rfl⟩
  exact hrouter.of_agreesOutside h (by decide)

/-- **The store** has the directory of the asset block. -/
theorem placed_of_store {p w : Worker} {a : AssetBlock}
    (hp : Compile.primary (some (String.ofList base.text)) s d = .ok p)
    (ha : p.cell .assets = .block a)
    (h : w.AgreesOutside [.compatibilityDate, .compatibilityFlags] (store a.directory)) :
    Placed base s mocks d w := by
  obtain ⟨assets, hassets, ⟨-, hempty⟩ | ⟨-, a', hblock, ha'⟩⟩ := Compile.assetBlock_of_primary hp
  · cases ha.symm.trans hempty
  · cases ha.symm.trans ha'
    obtain ⟨-, dir, hdir, hdir'⟩ := Compile.assetBlock_eq_ok_iff.1 hblock
    obtain ⟨directory, rfl, hseen⟩ := Compile.rebase_eq_ok_iff.1 hdir'
    rw [map_rebase] at hseen
    have hstore : Placed base s mocks d (store a.directory) :=
      ⟨storeName, none, _, .store hassets hdir, rfl, rfl, congrArg Cell.plain hseen⟩
    exact hstore.of_agreesOutside h (by decide)

/-- **Routing** brings in a router without paths, and the store. -/
theorem placed_of_apply {c : Configuration}
    (hc : (Compile.configuration d mocks (some (String.ofList base.text)) s).result = .ok c)
    (hok : (apply c.workers).outcome.result = .ok ()) :
    ∀ w ∈ (apply c.workers).workers, Placed base s mocks (Compile.effective d) w := by
  obtain ⟨p, head, others, hp, hws, hagrees, hmade⟩ := Compile.madeFor_of_configuration hc
  obtain ⟨_, _, _, m, _, hws', _, hm, _⟩ := Compile.head_of_configuration hc
  cases hws.symm.trans hws'
  rw [hws] at hok ⊢
  obtain ⟨bound, -, hcont, hall⟩ := workers_of_apply hm hok
  have hhead : Placed base s mocks (Compile.effective d) head :=
    (placed_of_primary hp).of_agreesOutside hagrees (by decide)
  intro w hw
  rcases hall w hw with rfl | hw | ⟨origin, hr⟩ | ⟨a, ha, ht⟩
  · exact hhead.of_agreesOutside hcont.agrees (by decide)
  · obtain ⟨n, hn⟩ := hmade w hw
    exact placed_of_madeFor hn
  · exact placed_of_router hr
  · exact placed_of_store hp ((hagrees .assets (by decide)).symm.trans ha) ht

/-- The stub changes no more than the script of a worker. -/
theorem agrees_of_withStub {ws : List Worker} {w : Worker} (h : w ∈ withStub s ws) :
    ∃ v ∈ ws, w.AgreesOutside [.script] v := by
  induction ws with
  | nil => exact absurd h List.not_mem_nil
  | cons v ws ih =>
    unfold withStub at h
    split at h
    · rcases List.mem_cons.1 h with rfl | h
      · refine ⟨v, List.mem_cons_self .., fun f hf => ?_⟩
        split
        · rfl
        · rw [Worker.cell_setText, if_neg (by simpa using hf)]
      · exact ⟨w, List.mem_cons_of_mem v h, fun _ _ => rfl⟩
    · rcases List.mem_cons.1 h with rfl | h
      · exact ⟨w, List.mem_cons_self .., fun _ _ => rfl⟩
      · obtain ⟨u, hu, hagrees⟩ := ih h
        exact ⟨u, List.mem_cons_of_mem v hu, hagrees⟩

/-- **The stub** is no path. -/
theorem placed_of_withStub {ws : List Worker} (h : ∀ w ∈ ws, Placed base s mocks d w) :
    ∀ w ∈ withStub s ws, Placed base s mocks d w := by
  intro w hw
  obtain ⟨v, hv, hagrees⟩ := agrees_of_withStub hw
  exact (h v hv).of_agreesOutside hagrees (by decide)

end Workers

/-- **Paths in a setup from a file.**  Let a descriptor file be loaded from a path of any spelling.  The
directory that its paths are seen from is absolute, holds no `.` and no `..`, and leads to the very file
that was read by the last segment of the path.  Whatever a setup from this path asks its factory for, all
paths of scripts and all directories in it are the configured texts, seen from there: as they are written
where they are absolute, and otherwise the paths that they continue.  They all are absolute.  The working
directory of a process is absolute and holds no `..`; only the latter matters here. -/
theorem paths_of_file {around : Surroundings} {path : String} {m : Mapping}
    (hw : FilePath.IsSettled around.files.working.segments)
    (hload : Loading.load around.files (.ofText path.toList) = .ok m) :
    ∃ base, base = Loading.baseDirectory around.files (.ofText path.toList) ∧
      Loading.IsHome around.files (.ofText path.toList) base ∧
      ∀ r o, r.config = .file path → Asks around r o →
        ∃ s, ∃ workers : List Mapping, settingsOf around r = .ok s ∧
          o.field "workers" = .ok (.list (workers.map .map)) ∧
          ∀ w ∈ workers, ∃ n script site, PathOrigin base s r.mocks (.map m) n script site ∧
            w.Locates n script site ∧
            ∀ t, script = some t ∨ site = some t →
              (FilePath.ofText t.toList).isAbsolute = true := by
  have hhome := Loading.isHome_of_load hw hload
  refine ⟨_, rfl, hhome, fun r o hr h => ?_⟩
  obtain ⟨s, factory, c, url, hs, -, hp, -, rfl⟩ := asks_iff.1 h
  obtain ⟨d, base, compiled, port, hd, hc, -, hok, rfl⟩ := plan_ok hp
  have hsource : d = .map m ∧ base = some (String.ofList
      (Loading.baseDirectory around.files (.ofText path.toList)).text) := by
    rw [hr, descriptor] at hd
    rw [hload] at hd
    cases hd
    exact ⟨rfl, rfl⟩
  obtain ⟨rfl, rfl⟩ := hsource
  have hplaced := placed_of_withStub (placed_of_apply hc hok)
  rw [Compile.effective_map] at hplaced
  refine ⟨s, _, hs, Configuration.field_workers _, fun w hw => ?_⟩
  obtain ⟨v, hv, rfl⟩ := List.mem_map.1 hw
  obtain ⟨n, script, site, horigin, hlocates⟩ := hplaced v hv
  exact ⟨n, script, site, horigin, hlocates.optionEntries, fun t => horigin.isAbsolute hhome.absolute⟩

/-- A descriptor with a script, static files and two services. -/
def nestedText : String :=
  "main = './src//w.js'\n[assets]\ndirectory = '../pub'\n[[services]]\nbinding = 'API'\n" ++
    "service = 'api'\n[[services]]\nbinding = 'AUTH'\nservice = 'auth'\n"

/-- What this text describes. -/
def nested : Mapping :=
  [(.text "main", .text "./src//w.js"),
   (.text "assets", Value.record [("directory", .text "../pub")]),
   (.text "services", .list
     [Value.record [("binding", .text "API"), ("service", .text "api")],
      Value.record [("binding", .text "AUTH"), ("service", .text "auth")]])]

/-- A project with this descriptor in one of its directories. -/
def projectAround : Surroundings where
  files := ⟨.ofText "/srv/app".toList,
    [(["srv".toList, "app".toList, "conf".toList, "w.toml".toList], .file nestedText.toUTF8)]⟩
  environment := []
  defaultFactory := none

def windingRequest : SetupRequest where
  config := .file "conf/../conf//./w.toml"
  mocks := .entries [(.text "api", .ready (.file "/mocks//api.js"))]
  portOffset := .int 0
  factory := some Sample.working
  settings := some .standard

theorem load_nested :
    Loading.load projectAround.files (.ofText "conf/../conf//./w.toml".toList) = .ok nested := by
  have hr : projectAround.files.read (.ofText "conf/../conf//./w.toml".toList) =
      .ok nestedText.toUTF8 := rfl
  have hs : String.fromUTF8? nestedText.toUTF8 = some nestedText := by decide +kernel
  have hp : DescriptorFormat.table.parse (Text.unifyLines nestedText.toList) =
      some (.map nested) := by decide +kernel
  exact Loading.load_eq_ok_iff.2 ⟨.table, _, nestedText, by decide, hr, hs, hp⟩

theorem descriptor_windingRequest : descriptor projectAround.files windingRequest.config =
    .ok (.map nested, some "/srv/app/conf") := by
  have hbase : String.ofList (Loading.baseDirectory projectAround.files
      (.ofText "conf/../conf//./w.toml".toList)).text = "/srv/app/conf" := by decide +kernel
  rw [windingRequest, descriptor, load_nested, Except.ok_bind, hbase]

/-- The path of the script and the directory in the options of a worker. -/
def shownPaths (w : Mapping) : Option Value × Option Value :=
  (Mapping.get? w "scriptPath", Mapping.get? w "sitePath")

set_option maxRecDepth 10000 in
/-- The router has no paths, the store has the directory, the primary worker its script, and of the two
services only the mocked one has a path, which is written as it was given. -/
theorem paths_of_windingRequest :
    FilePath.IsSettled projectAround.files.working.segments ∧
      Loading.load projectAround.files (.ofText "conf/../conf//./w.toml".toList) = .ok nested ∧
      ∃ o, ∃ workers : List Mapping, Asks projectAround windingRequest o ∧
        o.field "workers" = .ok (.list (workers.map .map)) ∧
        workers.map shownPaths =
          [(none, none), (none, some (.text "/srv/app/conf/../pub")),
           (some (.text "/srv/app/conf/src/w.js"), none), (some (.text "/mocks//api.js"), none),
           (none, none)] ∧
        ∀ w ∈ workers, ∃ n script site,
          PathOrigin (Loading.baseDirectory projectAround.files
              (.ofText "conf/../conf//./w.toml".toList)) .standard windingRequest.mocks (.map nested)
            n script site ∧ w.Locates n script site := by
  have hsettled : FilePath.IsSettled projectAround.files.working.segments := by decide
  have hrun : ((plan projectAround.files windingRequest .standard).result >>= fun c =>
      (baseUrl c).map fun url => (url, (c.workers.map Worker.optionEntries).map shownPaths)) =
        .ok (none,
          [(none, none), (none, some (.text "/srv/app/conf/../pub")),
           (some (.text "/srv/app/conf/src/w.js"), none), (some (.text "/mocks//api.js"), none),
           (none, none)]) := by
    rw [plan, descriptor_windingRequest]
    rfl
  obtain ⟨c, hc, hrun⟩ := Except.bind_eq_ok_iff.1 hrun
  obtain ⟨url, hurl, hpaths⟩ := Except.map_eq_ok_iff.1 hrun
  have hasks : Asks projectAround windingRequest c.options :=
    asks_iff.2 ⟨.standard, Sample.working, c, url, rfl, rfl, hc, hurl, rfl⟩
  obtain ⟨_, rfl, -, hall⟩ := paths_of_file hsettled load_nested
  obtain ⟨s, workers, hs, hworkers, horigins⟩ := hall windingRequest _ rfl hasks
  cases hs
  have hsame : workers.map Value.map = (c.workers.map Worker.optionEntries).map Value.map :=
    Value.list.inj (Except.ok.inj (hworkers.symm.trans c.field_workers))
  rw [List.map_inj_right fun _ _ => Value.map.inj] at hsame
  refine ⟨hsettled, load_nested, c.options, workers, hasks, hworkers, ?_, fun w hw => ?_⟩
  · rw [hsame]
    exact congrArg Prod.snd hpaths
  · obtain ⟨n, script, site, horigin, hlocates, -⟩ := horigins w hw
    exact ⟨n, script, site, horigin, hlocates⟩

end Setup

end EdgeRig
