import EdgeRig.Proofs.AssetRouting.ReadBack
import EdgeRig.Proofs.Schema.RoundTrip

/-!
# The effect of routing

Between workers that fit the schema routing has three effects, and it depends on the asset block of the
first worker and on the names of all of them which one it is.  This file says what each effect is, down
to every cell of every worker.

* `AssetRouting.IsAdded` — a worker that routing adds: its name and its script, one cell of its own, and
  the compatibility settings of the first worker.
* `AssetRouting.Rebound` — what becomes of the first worker.
* `AssetRouting.Effect` — one constructor for each effect, with what decides on it;
  `AssetRouting.Effect.unique` says that the workers before determine it.
* `AssetRouting.apply_eq_iff_effect` — routing has that effect and no other.
-/

namespace EdgeRig

namespace AssetRouting

/-! ## What routing leaves behind -/

/-- A worker that is added in front of `head`.  Beside its name, its script and the cell `f` it has the
compatibility settings of `head`, which may be empty, and nothing else. -/
structure IsAdded (head : Worker) (name script : String) (f : WorkerField) (c : Cell) (w : Worker) :
    Prop where
  named : w.HasName name
  script : w.cell .script = .plain (.text script)
  own : w.cell f = c
  date : w.cell .compatibilityDate = head.cell .compatibilityDate
  flags : w.cell .compatibilityFlags = head.cell .compatibilityFlags
  blank : w.AgreesOutside [.name, .script, f, .compatibilityDate, .compatibilityFlags]
    (Worker.ofCells Worker.blank)
  unnoted : ∀ k, w.note k = none

/-- The store of a directory. -/
def IsStore (head : Worker) (b : AssetBlock) : Worker → Prop :=
  IsAdded head storeName Script.store .sitePath (.plain (Value.ofText? b.directory))

/-- The router to the store and to the worker of a name. -/
def IsRouter (head : Worker) (origin : String) : Worker → Prop :=
  IsAdded head routerName Script.router .serviceBindings
    (.plain (.map [(.text Script.storeBinding, .text storeName),
      (.text Script.originBinding, .text origin)]))

/-- What becomes of the first worker: its asset block is gone, and if the block has a name, then the
service bindings lead to the store under that name. -/
structure Rebound (head : Worker) (b : AssetBlock) (w : Worker) : Prop where
  agrees : w.AgreesOutside [.assets, .serviceBindings] head
  notes : ∀ k, w.note k = head.note k
  cleared : w.cell .assets = .empty
  unnamed : b.binding = none ∨ b.binding = some "" →
    w.cell .serviceBindings = head.cell .serviceBindings
  named : ∀ k, b.binding = some k → k ≠ "" → ∃ m, head.HoldsBindings m ∧
    w.cell .serviceBindings = .plain (.map (Mapping.put m (.text k) (.text storeName)))

/-- The three effects of routing. -/
inductive Effect (ws : List Worker) : Step → Prop where
  /-- There is no worker, or the first one has no asset block: nothing changes. -/
  | unchanged (h : ∀ head others, ws = head :: others → head.cell .assets = .empty) :
      Effect ws ⟨ws, .done ()⟩
  /-- The first worker that carries a reserved name is reported, and nothing changes. -/
  | refused {head : Worker} {others front rest : List Worker} {w : Worker} {n : String}
      (hws : ws = head :: others) (hassets : head.cell .assets ≠ .empty)
      (hsplit : ws = front ++ w :: rest) (hfront : Unreserved front) (hn : n ∈ reserved)
      (hw : w.HasName n) : Effect ws ⟨ws, .fail (.failure (.reservedName (.text n)))⟩
  /-- The router and the store stand in front, and the other workers stay. -/
  | routed {head bound store router : Worker} {others : List Worker} {b : AssetBlock} {origin : String}
      (hws : ws = head :: others) (hassets : head.cell .assets = .block b) (hfree : Unreserved ws)
      (horigin : head.HasName origin) (hrouter : IsRouter head origin router)
      (hstore : IsStore head b store) (hbound : Rebound head b bound) :
      Effect ws ⟨router :: store :: bound :: others,
        Outcome.tell (.routed origin b.directory b.binding)⟩

/-! ## The workers before determine the effect -/

theorem eq_of_cells {v w : Worker} (hcells : ∀ f, v.cell f = w.cell f)
    (hnotes : ∀ k, v.note k = w.note k) : v = w := by
  obtain ⟨cell, note⟩ := v
  rw [Worker.mk.injEq]
  exact ⟨funext hcells, funext hnotes⟩

theorem IsAdded.unique {head v w : Worker} {name script : String} {f : WorkerField} {c : Cell}
    (hv : IsAdded head name script f c v) (hw : IsAdded head name script f c w) : v = w := by
  refine eq_of_cells (fun g => ?_) fun k => (hv.unnoted k).trans (hw.unnoted k).symm
  by_cases hg : g ∈ [.name, .script, f, .compatibilityDate, .compatibilityFlags]
  · simp only [List.mem_cons, List.not_mem_nil, or_false] at hg
    rcases hg with rfl | rfl | rfl | rfl | rfl
    · exact hv.named.trans hw.named.symm
    · exact hv.script.trans hw.script.symm
    · exact hv.own.trans hw.own.symm
    · exact hv.date.trans hw.date.symm
    · exact hv.flags.trans hw.flags.symm
  · exact (hv.blank g hg).trans (hw.blank g hg).symm

theorem Rebound.unique {head v w : Worker} {b : AssetBlock} (hv : Rebound head b v)
    (hw : Rebound head b w) : v = w := by
  have hbindings : v.cell .serviceBindings = w.cell .serviceBindings := by
    rcases unnamed_or_named b with hb | ⟨k, hb, hk⟩
    · exact (hv.unnamed hb).trans (hw.unnamed hb).symm
    · obtain ⟨m, hm, hvm⟩ := hv.named k hb hk
      obtain ⟨m', hm', hwm⟩ := hw.named k hb hk
      rw [hvm, hwm, hm.unique hm']
  refine eq_of_cells (fun g => ?_) fun k => (hv.notes k).trans (hw.notes k).symm
  by_cases hg : g ∈ [.assets, .serviceBindings]
  · simp only [List.mem_cons, List.not_mem_nil, or_false] at hg
    rcases hg with rfl | rfl
    · exact hv.cleared.trans hw.cleared.symm
    · exact hbindings
  · exact (hv.agrees g hg).trans (hw.agrees g hg).symm

/-- In a list there is one first worker that carries a reserved name. -/
theorem eq_of_first_reserved {front front' rest rest' : List Worker} {w w' : Worker} {n n' : String}
    (hsplit : front ++ w :: rest = front' ++ w' :: rest') (hfront : Unreserved front)
    (hfront' : Unreserved front') (hn : n ∈ reserved) (hn' : n' ∈ reserved) (hw : w.HasName n)
    (hw' : w'.HasName n') : n = n' := by
  induction front generalizing front' with
  | nil =>
    cases front' with
    | nil =>
      cases hsplit
      exact hw.unique hw'
    | cons v front' =>
      cases hsplit
      exact absurd hw (hfront' _ (List.mem_cons_self ..) n hn)
  | cons v front ih =>
    obtain ⟨hv, hrest⟩ := List.forall_mem_cons.1 hfront
    cases front' with
    | nil =>
      cases hsplit
      exact absurd hw' (hv n' hn')
    | cons v' front' =>
      exact ih (List.cons.inj hsplit).2 hrest (List.forall_mem_cons.1 hfront').2

/-- **The workers before determine the effect.** -/
theorem Effect.unique {ws : List Worker} {s t : Step} (hs : Effect ws s) (ht : Effect ws t) : s = t := by
  cases hs with
  | unchanged h =>
    cases ht with
    | unchanged _ => rfl
    | refused hws hassets _ _ _ _ => exact absurd (h _ _ hws) hassets
    | routed hws hassets _ _ _ _ _ => cases hassets.symm.trans (h _ _ hws)
  | refused hws hassets hsplit hfront hn hw =>
    cases ht with
    | unchanged h => exact absurd (h _ _ hws) hassets
    | refused _ _ hsplit' hfront' hn' hw' =>
      rw [eq_of_first_reserved (hsplit.symm.trans hsplit') hfront hfront' hn hn' hw hw']
    | routed _ _ hfree _ _ _ _ => exact absurd hw (hfree _ (by simp [hsplit]) _ hn)
  | routed hws hassets hfree horigin hrouter hstore hbound =>
    cases ht with
    | unchanged h => cases hassets.symm.trans (h _ _ hws)
    | refused _ _ hsplit _ hn hw => exact absurd hw (hfree _ (by simp [hsplit]) _ hn)
    | routed hws' hassets' _ horigin' hrouter' hstore' hbound' =>
      cases hws.symm.trans hws'
      cases hassets.symm.trans hassets'
      cases horigin.unique horigin'
      rw [hrouter.unique hrouter', hstore.unique hstore', hbound.unique hbound']

/-! ## The parts of routing -/

/-- Handing on the settings of a worker that fits the schema writes them as they are. -/
theorem inherit_of_blank {main w : Worker} (hmain : main.ReadsBack)
    (hdate : w.cell .compatibilityDate = .empty) (hflags : w.cell .compatibilityFlags = .empty) :
    inherit main w = .ok ((w.set .compatibilityDate (main.cell .compatibilityDate)).set
      .compatibilityFlags (main.cell .compatibilityFlags)) := by
  have hdated : (if (main.cell .compatibilityDate).isEmpty then w
      else w.set .compatibilityDate (main.cell .compatibilityDate)) =
        w.set .compatibilityDate (main.cell .compatibilityDate) := by
    split
    · rename_i he
      rw [Cell.isEmpty_iff.1 he, ← hdate, Worker.set_cell_self]
    · rfl
  unfold inherit
  rw [hdated]
  rcases (hmain.cells .compatibilityFlags).flags with hc | ⟨flags, hc⟩
  · have hkeep : (w.set .compatibilityDate (main.cell .compatibilityDate)).cell .compatibilityFlags =
        .empty := hflags
    rw [hc, ← hkeep, Worker.set_cell_self, hkeep]
  · rw [hc]
    rfl

/-- A worker with a name, a script and one more cell is an added one once it has the settings. -/
theorem isAdded_of_inherit {main w : Worker} {name script : String} {f : WorkerField} {c : Cell}
    (hmain : main.ReadsBack)
    (hf : f ∉ [WorkerField.name, .script, .compatibilityDate, .compatibilityFlags])
    (h : inherit main (((Worker.named name).setText .script (some script)).set f c) = .ok w) :
    IsAdded main name script f c w := by
  simp only [List.mem_cons, List.not_mem_nil, or_false, not_or] at hf
  obtain ⟨hname, hscript, hdate, hflags⟩ := hf
  have hblank : ∀ g, g ∉ [WorkerField.name, .script, f] →
      (((Worker.named name).setText .script (some script)).set f c).cell g = Worker.blank g := by
    intro g hg
    simp only [List.mem_cons, List.not_mem_nil, or_false, not_or] at hg
    rw [Worker.cell_set, if_neg hg.2.2, Worker.cell_setText, if_neg hg.2.1, Worker.named,
      Worker.cell_set, if_neg hg.1]
    rfl
  have hdate' := hblank .compatibilityDate (by simp [Ne.symm hdate])
  have hflags' := hblank .compatibilityFlags (by simp [Ne.symm hflags])
  cases (inherit_of_blank hmain hdate' hflags').symm.trans h
  refine ⟨?_, ?_, ?_, ?_, ?_, ?_, fun _ => rfl⟩
  · simp [Worker.HasName, Worker.cell_set, Worker.cell_setText, Ne.symm hname, Worker.named]
  · simp [Worker.cell_set, Worker.cell_setText, Ne.symm hscript, Value.ofText?]
  · simp [Worker.cell_set, hdate, hflags]
  · simp [Worker.cell_set]
  · simp [Worker.cell_set]
  · intro g hg
    simp only [List.mem_cons, List.not_mem_nil, or_false, not_or] at hg
    rw [Worker.cell_set, if_neg hg.2.2.2.2, Worker.cell_set, if_neg hg.2.2.2.1]
    exact hblank g (by simp [hg.1, hg.2.1, hg.2.2.1])

theorem rebound_of_rebind {head bound : Worker} {m : Mapping} {b : AssetBlock}
    (hm : head.HoldsBindings m) (h : rebind (cleared head) b = .ok bound) : Rebound head b bound := by
  have hkept : (cleared head).cell .serviceBindings = head.cell .serviceBindings :=
    cell_of_cleared head (by decide)
  obtain ⟨hagrees, hnotes⟩ := rebind_ok h
  refine ⟨fun f hf => ?_, hnotes, ?_, fun hb => ?_, fun k hb hk => ⟨m, hm, ?_⟩⟩
  · simp only [List.mem_cons, List.not_mem_nil, or_false, not_or] at hf
    rw [hagrees f (by simpa using hf.2), cell_of_cleared head hf.1]
  · rw [hagrees .assets (by decide)]
    exact Worker.cell_set_self ..
  · cases (rebind_unnamed hb).symm.trans h
    exact hkept
  · have hholds : (cleared head).HoldsBindings m := by rwa [Worker.HoldsBindings, hkept]
    cases (rebind_named hholds hb hk).symm.trans h
    exact Worker.cell_set_self ..

theorem holdsBindings_of_readsBack {w : Worker} (h : w.ReadsBack) : ∃ m, w.HoldsBindings m := by
  rcases (h.cells .serviceBindings).bindings with hc | ⟨m, hc, -⟩
  · exact ⟨[], Or.inl ⟨hc, rfl⟩⟩
  · exact ⟨m, Or.inr hc⟩

/-- The first worker keeps its settings, so what is added to the bound one is added to it. -/
theorem Rebound.isAdded {head bound w : Worker} {b : AssetBlock} {name script : String}
    {f : WorkerField} {c : Cell} (hbound : Rebound head b bound) (h : IsAdded bound name script f c w) :
    IsAdded head name script f c w where
  named := h.named
  script := h.script
  own := h.own
  date := h.date.trans (hbound.agrees _ (by decide))
  flags := h.flags.trans (hbound.agrees _ (by decide))
  blank := h.blank
  unnoted := h.unnoted

/-- Between workers that fit the schema only a reserved name stops routing. -/
theorem ok_of_checkNames {ws : List Worker} (h : ∀ w ∈ ws, w.ReadsBack) (hn : checkNames ws = .ok ()) :
    (apply ws).outcome.result = .ok () := by
  rcases (apply_of_readsBack h).1 with hok | ⟨n, hres, ⟨w, hw, hname⟩, -, -⟩
  · exact hok
  · exact absurd hname (unreserved_of_passes (checkNames_eq_ok_iff.1 hn) w hw n hres)

/-! ## The whole -/

/-- Routing has one of the three effects. -/
theorem effect_apply {ws : List Worker} (h : ∀ w ∈ ws, w.ReadsBack) : Effect ws (apply ws) := by
  have hcourse := course_apply ws
  have hok := ok_of_checkNames h
  generalize apply ws = step at hcourse hok ⊢
  cases hcourse with
  | none => exact .unchanged nofun
  | idle hassets =>
    refine .unchanged fun _ _ hws => ?_
    cases hws
    exact hassets
  | refused hassets hn =>
    obtain ⟨front, w, rest, hsplit, hfront, ⟨n, hres, hname, rfl⟩ | ⟨hk, -⟩⟩ := checkNames_error hn
    · exact .refused rfl hassets hsplit (unreserved_of_passes hfront) hres hname
    · -- A worker that fits the schema has a text for its name.
      obtain ⟨n, hname⟩ := ((h w (by simp [hsplit])).cells .name).text
      exact absurd hname (hk _)
  | notBlock _ _ hn => cases hok hn
  | nameless _ hn _ => cases hok hn
  | unbound _ hn _ _ => cases hok hn
  | unlisted _ hn _ _ _ => cases hok hn
  | @routed head bound t r _ b origin hblock hn ho hb ha =>
    have hhead : head.ReadsBack := h head (List.mem_cons_self ..)
    obtain ⟨m, hm⟩ := holdsBindings_of_readsBack hhead
    have hrebound : Rebound head b bound := rebound_of_rebind hm hb
    have horigin : head.HasName origin := by
      have hname := originName_ok ho
      rwa [Worker.HasName, cell_of_cleared head (by decide)] at hname
    have hback : bound.ReadsBack := by
      have hcleared : (cleared head).ReadsBack := hhead.set (WorkerField.readsBack_empty rfl)
      obtain ⟨bound', hb', hback⟩ := rebind_of_readsBack b hcleared
      cases hb.symm.trans hb'
      exact hback
    obtain ⟨ht, hr⟩ := inherit_of_added ha
    refine .routed rfl hblock (unreserved_of_passes (checkNames_eq_ok_iff.1 hn)) horigin ?_ ?_ hrebound
    · exact hrebound.isAdded (isAdded_of_inherit hback (by decide) hr)
    · exact hrebound.isAdded (isAdded_of_inherit hback (by decide) ht)

/-- **The effect of routing** on workers that a schema has let pass.  Without an asset block on the first
worker nothing happens.  With one, the first reserved name is reported and nothing changes; and if there
is none, then the router, the store and the bound first worker take the place of the first one. -/
theorem apply_eq_iff_effect {ws : List Worker} (h : ∀ w ∈ ws, ∃ v, Worker.read v = .ok w) {step : Step} :
    apply ws = step ↔ Effect ws step := by
  have heffect : Effect ws (apply ws) := by
    refine effect_apply fun w hw => ?_
    obtain ⟨v, hv⟩ := h w hw
    exact Worker.readsBack_of_read hv
  constructor
  · rintro rfl
    exact heffect
  · exact heffect.unique

/-- A worker with static files and compatibility flags, and one that it is bound to. -/
def boundWorkers : List Worker :=
  [(((Worker.named "main").set .assets (.block ⟨some "FILES", some "./public"⟩)).set .compatibilityFlags
      (.plain (.list [.text "nodejs_compat"]))).set .serviceBindings
        (.plain (.map [(.text "API", .text "api")])),
    Worker.named "api"]

/-- They are routed, and the first of them keeps its other binding. -/
theorem effect_of_boundWorkers : (∀ w ∈ boundWorkers, ∃ v, Worker.read v = .ok w) ∧
    Effect boundWorkers (apply boundWorkers) ∧
    (apply boundWorkers).workers.map (fun w => (w.cell .name).text?) =
      [some routerName, some storeName, some "main", some "api"] := by
  have hback : ∀ w ∈ boundWorkers, w.ReadsBack := by
    refine List.forall_mem_cons.2 ⟨?_, List.forall_mem_singleton.2 (Worker.readsBack_named "api")⟩
    refine (((Worker.readsBack_named "main").set (WorkerField.readsBack_block _)).set ?_).set ?_
    · exact WorkerField.readsBack_of_accepts rfl nofun ⟨_, rfl⟩
    · refine WorkerField.readsBack_bindings (List.forall_mem_singleton.2 ?_)
      exact ⟨⟨"API", rfl⟩, "api", rfl⟩
  have hread : ∀ w ∈ boundWorkers, ∃ v, Worker.read v = .ok w :=
    fun w hw => ⟨_, (hback w hw).read_options⟩
  exact ⟨hread, (apply_eq_iff_effect hread).1 rfl, rfl⟩

end AssetRouting

end EdgeRig
