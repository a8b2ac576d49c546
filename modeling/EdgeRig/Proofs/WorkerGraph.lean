import EdgeRig.Proofs.AssetRouting.Parts
import EdgeRig.Proofs.Compile.Configuration

/-!
# The graph of workers

The workers of a configuration refer to each other by name: a service binding holds the name of the
worker that it leads to.  This file says that the references are sound.

* `WellLinked` — every worker has a name, no two workers share one, and every service binding leads to
  a worker of the list.
* `WellLinked.find?_eq` — in a well linked list a worker is found under its name.
* `wellLinked_configuration` — compiling makes well linked workers, whatever the services repeat.
* `wellLinked_apply` — routing keeps them well linked when it ends well.
* `worker_graph_of_configuration` — so the workers that a simulator is started with are well linked,
  and the worker of the primary name is the one that the descriptor was compiled into.
-/

namespace EdgeRig

/-- Every service binding of the worker leads to one of the given workers. -/
def Worker.LeadsInto (w : Worker) (ws : List Worker) : Prop :=
  ∃ m, w.HoldsBindings m ∧ ∀ e ∈ m, ∃ n, e.2 = .text n ∧ ∃ v ∈ ws, v.HasName n

/-- Workers whose names are sound references. -/
structure WellLinked (ws : List Worker) : Prop where
  /-- Every worker has a name. -/
  named : ∀ w ∈ ws, ∃ n, w.HasName n
  /-- No two workers share a name. -/
  distinct : ws.Pairwise fun v w => v.cell .name ≠ w.cell .name
  /-- Every service binding leads to a worker. -/
  closed : ∀ w ∈ ws, w.LeadsInto ws

theorem Worker.LeadsInto.mono {w : Worker} {ws ws' : List Worker} (h : w.LeadsInto ws)
    (hsub : ∀ n, (∃ v ∈ ws, v.HasName n) → ∃ v ∈ ws', v.HasName n) : w.LeadsInto ws' := by
  obtain ⟨m, hm, he⟩ := h
  refine ⟨m, hm, fun e hmem => ?_⟩
  obtain ⟨n, hn, hv⟩ := he e hmem
  exact ⟨n, hn, hsub n hv⟩

/-- A worker without service bindings leads nowhere. -/
theorem Worker.leadsInto_of_empty {w : Worker} (h : w.cell .serviceBindings = .empty)
    (ws : List Worker) : w.LeadsInto ws :=
  ⟨[], Or.inl ⟨h, rfl⟩, fun _ he => absurd he List.not_mem_nil⟩

/-- A worker is found under its name. -/
theorem WellLinked.find?_eq {ws : List Worker} {w : Worker} {n : String} (h : WellLinked ws)
    (hw : w ∈ ws) (hn : w.HasName n) : ws.find? (fun v => v.isNamed n) = some w := by
  have hd := h.distinct
  clear h
  induction ws with
  | nil => exact absurd hw List.not_mem_nil
  | cons v ws ih =>
    obtain ⟨hv, hrest⟩ := List.pairwise_cons.1 hd
    rw [List.find?_cons]
    rcases List.mem_cons.1 hw with rfl | hmem
    · rw [Worker.isNamed_iff.2 hn]
    · have hvn : v.isNamed n = false := by
        refine Bool.eq_false_iff.2 fun hc => hv w hmem ?_
        exact (Worker.isNamed_iff.1 hc).trans hn.symm
      rw [hvn]
      exact ih hmem hrest

/-! ## Compiling -/

section Compile

open Compile

variable {base : Option String} {s : Settings} {mocks : MockTable} {d : Value}

/-- The names of the service workers differ from each other and from that of the primary worker. -/
theorem distinct_of_served {seen : List Value} {made : List (Scalar × Worker)} {head : Worker}
    (h : Served s seen made) (hhead : head.HasName s.mainWorkerName) :
    (head :: made.map (·.2)).Pairwise fun v w => v.cell .name ≠ w.cell .name := by
  refine List.pairwise_cons.2 ⟨fun w hw hc => ?_, List.pairwise_map.2 ?_⟩
  · obtain ⟨e, he, rfl⟩ := List.mem_map.1 hw
    obtain ⟨n, -, hn, hcells⟩ := h.named e he
    have hname : e.2.HasName n := hcells .name (by decide)
    exact hn (Worker.HasName.unique hname (hc.symm.trans hhead))
  · refine h.distinct.imp_of_mem fun {e f} he hf hne hc => hne ?_
    obtain ⟨n, hen, -, hcells⟩ := h.named e he
    obtain ⟨m, hfm, -, hcells'⟩ := h.named f hf
    have hnm : n = m := Worker.HasName.unique (hcells .name (by decide))
      (hc.trans (hcells' .name (by decide)))
    rw [hen, hfm, hnm]

/-- The workers of the services, behind a primary worker that binds them. -/
theorem wellLinked_of_served {entries : List (Scalar × Value)} {made : List (Scalar × Worker)}
    {head : Worker} (h : Served s (entries.map (·.2)) made) (hhead : head.HasName s.mainWorkerName)
    (hbind : head.cell .serviceBindings = .plain (.map (Mapping.ofEntries entries))) :
    WellLinked (head :: made.map (·.2)) where
  named := by
    refine List.forall_mem_cons.2 ⟨⟨_, hhead⟩, fun w hw => ?_⟩
    obtain ⟨e, he, rfl⟩ := List.mem_map.1 hw
    obtain ⟨n, -, -, hcells⟩ := h.named e he
    exact ⟨n, hcells .name (by decide)⟩
  distinct := distinct_of_served h hhead
  closed := by
    refine List.forall_mem_cons.2 ⟨⟨_, Or.inr hbind, fun e he => ?_⟩, fun w hw => ?_⟩
    · obtain ⟨f, hf, hfe⟩ := Mapping.exists_value_of_mem_ofEntries he
      obtain ⟨n, hn, hserved⟩ := h.covered f.2 (List.mem_map_of_mem hf)
      refine ⟨n, hfe ▸ hn, ?_⟩
      rcases hserved with rfl | ⟨w, hw⟩
      · exact ⟨head, List.mem_cons_self .., hhead⟩
      · obtain ⟨m, hm, -, hcells⟩ := h.named _ hw
        cases hm
        exact ⟨w, List.mem_cons_of_mem _ (List.mem_map_of_mem hw), hcells .name (by decide)⟩
    · obtain ⟨e, he, rfl⟩ := List.mem_map.1 hw
      obtain ⟨n, -, -, hcells⟩ := h.named e he
      exact Worker.leadsInto_of_empty (hcells .serviceBindings (by decide)) _

/-- **Compiling makes well linked workers.** -/
theorem wellLinked_configuration {c : Configuration}
    (h : (configuration d mocks base s).result = .ok c) : WellLinked c.workers := by
  obtain ⟨p, hp, hws, -⟩ := configuration_ok h
  have hname : p.HasName s.mainWorkerName := hasName_of_primary hp
  obtain ⟨_, _, ⟨_, hc⟩ | ⟨_, _, entries, others, _, _, hothers, hc⟩⟩ := withServices_ok hws
  · rw [hc]
    refine ⟨?_, List.pairwise_singleton .., ?_⟩
    · exact List.forall_mem_singleton.2 ⟨_, hname⟩
    · exact List.forall_mem_singleton.2 (Worker.leadsInto_of_empty (serviceBindings_of_primary hp) _)
  · obtain ⟨made, hmade, rfl⟩ := served_serviceWorkers hothers
    rw [hc]
    refine wellLinked_of_served hmade ?_ rfl
    rwa [Worker.HasName, Worker.cell_set_of_ne _ _ (by decide)]

end Compile

/-! ## Routing -/

section Routing

open AssetRouting

/-- The router leads to the store and to the worker behind it. -/
theorem leadsInto_of_router {w : Worker} {origin : String} {ws : List Worker}
    (hw : w.AgreesOutside [.compatibilityDate, .compatibilityFlags] (router origin))
    (hstore : ∃ v ∈ ws, v.HasName storeName) (horigin : ∃ v ∈ ws, v.HasName origin) :
    w.LeadsInto ws := by
  refine ⟨_, Or.inr (hw .serviceBindings (by decide)), fun e he => ?_⟩
  rcases List.mem_cons.1 he with rfl | he
  · exact ⟨storeName, rfl, hstore⟩
  · rcases List.mem_singleton.1 he with rfl
    exact ⟨origin, rfl, horigin⟩

/-- Nobody behind the router and the store shares a name with them. -/
theorem distinct_of_routed {r t : Worker} {ws : List Worker} (hr : r.HasName routerName)
    (ht : t.HasName storeName) (hpass : ∀ w ∈ ws, Passes w)
    (hws : ws.Pairwise fun v w => v.cell .name ≠ w.cell .name) :
    (r :: t :: ws).Pairwise fun v w => v.cell .name ≠ w.cell .name := by
  refine List.pairwise_cons.2 ⟨List.forall_mem_cons.2 ⟨fun hc => ?_, fun v hv => ?_⟩,
    List.pairwise_cons.2 ⟨fun v hv => ?_, hws⟩⟩
  · have hsame : routerName = storeName := Worker.HasName.unique hr (hc.trans ht)
    exact absurd hsame (by decide)
  · exact (hpass v hv).ne hr (by decide)
  · exact (hpass v hv).ne ht (by decide)

/-- The router and the store in front of well linked workers, the first of which was bound to the
store. -/
theorem wellLinked_of_routed {main bound r t : Worker} {others : List Worker} {m : Mapping}
    {b : AssetBlock} {origin : String} (h : WellLinked (main :: others))
    (hpass : ∀ w ∈ main :: others, Passes w) (horigin : main.HasName origin)
    (hm : main.HoldsBindings m) (hholds : bound.HoldsBindings (withBlock m b))
    (hagrees : bound.AgreesOutside [.assets, .serviceBindings] main)
    (ht : t.AgreesOutside [.compatibilityDate, .compatibilityFlags] (store b.directory))
    (hr : r.AgreesOutside [.compatibilityDate, .compatibilityFlags] (router origin)) :
    WellLinked (r :: t :: bound :: others) := by
  have hrname : r.HasName routerName := hr .name (by decide)
  have htname : t.HasName storeName := ht .name (by decide)
  have hbname : bound.cell .name = main.cell .name := hagrees .name (by decide)
  -- Whoever could be reached before can be reached now: the bound worker carries the old name.
  have hkeep : ∀ n, (∃ v ∈ main :: others, v.HasName n) →
      ∃ v ∈ r :: t :: bound :: others, v.HasName n := by
    rintro n ⟨v, hv, hn⟩
    rcases List.mem_cons.1 hv with rfl | hv
    · exact ⟨bound, by simp, hbname.trans hn⟩
    · exact ⟨v, by simp [hv], hn⟩
  have hstore : ∃ v ∈ r :: t :: bound :: others, v.HasName storeName := ⟨t, by simp, htname⟩
  refine ⟨?_, ?_, ?_⟩
  · simp only [List.forall_mem_cons]
    exact ⟨⟨_, hrname⟩, ⟨_, htname⟩, ⟨_, hbname.trans horigin⟩,
      fun w hw => h.named w (List.mem_cons_of_mem _ hw)⟩
  · obtain ⟨hmain, hrest⟩ := List.forall_mem_cons.1 hpass
    obtain ⟨hne, hdistinct⟩ := List.pairwise_cons.1 h.distinct
    rw [← hbname] at hne
    refine distinct_of_routed hrname htname (List.forall_mem_cons.2 ⟨?_, hrest⟩)
      (List.pairwise_cons.2 ⟨hne, hdistinct⟩)
    rwa [Passes, hbname]
  · simp only [List.forall_mem_cons]
    refine ⟨?_, ?_, ?_, fun w hw => (h.closed w (List.mem_cons_of_mem _ hw)).mono hkeep⟩
    · exact leadsInto_of_router hr hstore ⟨bound, by simp, hbname.trans horigin⟩
    · exact Worker.leadsInto_of_empty (ht .serviceBindings (by decide)) _
    · obtain ⟨m', hm', hlead⟩ := h.closed main (List.mem_cons_self ..)
      cases hm'.unique hm
      refine ⟨_, hholds, fun e he => ?_⟩
      rcases mem_withBlock he with he | he
      · obtain ⟨n, hn, hv⟩ := hlead e he
        exact ⟨n, hn, hkeep n hv⟩
      · exact ⟨storeName, he, hstore⟩

/-- **Routing keeps workers well linked when it ends well**, and the first worker goes on behind the
router under its name. -/
theorem wellLinked_apply {head : Worker} {others : List Worker} (h : WellLinked (head :: others))
    (hok : (apply (head :: others)).outcome.result = .ok ()) :
    WellLinked (apply (head :: others)).workers ∧
      ∃ main ∈ (apply (head :: others)).workers, Continues main head := by
  have hcourse := course_apply (head :: others)
  generalize apply (head :: others) = step at hcourse hok ⊢
  cases hcourse with
  | idle hnone => exact ⟨h, head, List.mem_cons_self .., continues_self hnone⟩
  | refused _ _ => cases hok
  | notBlock _ _ _ => cases hok
  | nameless _ _ _ => cases hok
  | unbound _ _ _ _ => cases hok
  | unlisted _ _ _ _ _ => cases hok
  | @routed _ bound t r _ b origin hblock hn ho hb ha =>
    obtain ⟨m, hm, -⟩ := h.closed head (List.mem_cons_self ..)
    obtain ⟨bound', hb', hholds, hcleared, hagrees⟩ := rebind_cleared b hm
    cases hb.symm.trans hb'
    have horigin : head.HasName origin := by
      have := originName_ok ho
      rwa [Worker.HasName, cell_of_cleared head (by decide)] at this
    obtain ⟨ht, hr⟩ := added_ok ha
    exact ⟨wellLinked_of_routed h (checkNames_eq_ok_iff.1 hn) horigin hm hholds hagrees ht hr,
      bound, by simp, continues_of_rebind hblock hm hholds hcleared hagrees⟩

end Routing

/-! ## The whole -/

/-- **The workers that a simulator is started with.**  They are well linked, so each of them is found
under its name; and the worker of the primary name is what has become of the worker that the
descriptor was compiled into. -/
theorem worker_graph_of_configuration {d : Value} {mocks : MockTable} {base : Option String}
    {s : Settings} {c : Configuration} (hc : (Compile.configuration d mocks base s).result = .ok c)
    (hr : (AssetRouting.apply c.workers).outcome.result = .ok ()) :
    WellLinked (AssetRouting.apply c.workers).workers ∧
      (∀ w ∈ (AssetRouting.apply c.workers).workers, ∃ n, w.HasName n ∧
        ({ c with workers := (AssetRouting.apply c.workers).workers }).worker? n = some w) ∧
      ∃ p head m main, Compile.primary base s (Compile.effective d) = .ok p ∧
        c.workers.head? = some head ∧ head.AgreesOutside [.serviceBindings] p ∧
        head.HoldsBindings m ∧ Compile.AsksFor (Compile.effective d) m ∧
        main ∈ (AssetRouting.apply c.workers).workers ∧ main.HasName s.mainWorkerName ∧
        AssetRouting.Continues main head := by
  have hlinked : WellLinked c.workers := wellLinked_configuration hc
  obtain ⟨p, head, others, m, hp, hws, hagrees, hm, hasks⟩ := Compile.head_of_configuration hc
  rw [hws] at hlinked hr ⊢
  obtain ⟨hafter, main, hmain, hcont⟩ := wellLinked_apply hlinked hr
  have hname : main.HasName s.mainWorkerName := by
    have hphead : head.cell .name = p.cell .name := hagrees .name (by decide)
    exact (hcont.agrees .name (by decide)).trans (hphead.trans (Compile.hasName_of_primary hp))
  refine ⟨hafter, fun w hw => ?_, p, head, m, main, hp, rfl, hagrees, hm, hasks, hmain, hname, hcont⟩
  obtain ⟨n, hn⟩ := hafter.named w hw
  exact ⟨n, hn, hafter.find?_eq hw hn⟩

/-- Services that repeat, that name the primary worker, and that share bindings with each other and
with the asset block. -/
def tangledDescriptor : Value :=
  let service (binding name : String) : Value :=
    Value.record [("binding", .text binding), ("service", .text name)]
  Value.record
    [("services", .list [service "API" "api", service "FILES" "api", service "API" "auth",
        service "SELF" "main"]),
     ("assets", Value.record [("binding", .text "FILES"), ("directory", .text "./public")])]

set_option maxRecDepth 10000 in
theorem worker_graph_of_tangledDescriptor :
    ∃ c, (Compile.configuration tangledDescriptor .none none .standard).result = .ok c ∧
      (AssetRouting.apply c.workers).outcome.result = .ok () ∧
      WellLinked (AssetRouting.apply c.workers).workers := by
  have hrun : ((Compile.configuration tangledDescriptor .none none .standard).result >>= fun c =>
      (AssetRouting.apply c.workers).outcome.result) = .ok () := rfl
  obtain ⟨c, hc, hr⟩ := Except.bind_eq_ok_iff.1 hrun
  exact ⟨c, hc, hr, (worker_graph_of_configuration hc hr).1⟩

end EdgeRig
