import EdgeRig.Proofs.AssetRouting.Parts
import EdgeRig.Proofs.Schema.ReadBack

/-!
# Routing workers that fit the schema

Routing takes workers as they come, and much can stop it that no schema would let pass.  Between workers
that are read back from their options only a reserved name does, and what it leaves behind is read back
again.

* `AssetRouting.rebind_of_readsBack`, `AssetRouting.added_of_readsBack` — no part of routing fails.
* `AssetRouting.reservedName_of_checkNames` — the check of the names finds reserved names only.
* `AssetRouting.apply_of_readsBack` — routing ends well, or refuses a reserved name and changes nothing.
-/

namespace EdgeRig

namespace AssetRouting

variable {main w : Worker} {others : List Worker} {b : AssetBlock}

/-! ## The parts -/

theorem originName_of_readsBack (h : main.ReadsBack) : ∃ n, originName main = .ok n := by
  obtain ⟨n, hn⟩ := (h.cells .name).text
  exact ⟨n, by rw [originName, hn]; rfl⟩

theorem rebind_of_readsBack (b : AssetBlock) (h : main.ReadsBack) :
    ∃ bound, rebind main b = .ok bound ∧ bound.ReadsBack := by
  obtain ⟨m, hm, htexts⟩ : ∃ m, main.HoldsBindings m ∧
      ∀ e ∈ m, (∃ k, e.1 = .text k) ∧ ∃ t, e.2 = .text t := by
    rcases (h.cells .serviceBindings).bindings with hc | ⟨m, hc, htexts⟩
    · exact ⟨[], Or.inl ⟨hc, rfl⟩, fun _ he => absurd he List.not_mem_nil⟩
    · exact ⟨m, Or.inr hc, htexts⟩
  obtain ⟨v, hv, hread⟩ := toMapping_of_holds hm
  unfold rebind
  cases b.binding with
  | none => exact ⟨main, rfl, h⟩
  | some n =>
    dsimp only
    by_cases he : n = ""
    · rw [if_pos he]
      exact ⟨main, rfl, h⟩
    · rw [if_neg he, withStore, hv]
      dsimp only
      rw [hread]
      refine ⟨_, rfl, h.set (WorkerField.readsBack_bindings ?_)⟩
      exact Mapping.forall_put (K := fun k => ∃ n, k = .text n) (V := fun v => ∃ t, v = .text t)
        htexts ⟨n, rfl⟩ ⟨storeName, rfl⟩

theorem inherit_of_readsBack (hmain : main.ReadsBack) (hw : w.ReadsBack) :
    ∃ w', inherit main w = .ok w' ∧ w'.ReadsBack := by
  unfold inherit
  have hdate : (if (main.cell .compatibilityDate).isEmpty then w
      else w.set .compatibilityDate (main.cell .compatibilityDate)).ReadsBack := by
    split
    · exact hw
    · exact hw.set (hmain.cells .compatibilityDate)
  rcases (hmain.cells .compatibilityFlags).flags with hc | ⟨flags, hc⟩
  · rw [hc]
    exact ⟨_, rfl, hdate⟩
  · have hflags := hmain.cells .compatibilityFlags
    rw [hc] at hflags ⊢
    exact ⟨_, rfl, hdate.set hflags⟩

theorem readsBack_store (directory : Option String) : (store directory).ReadsBack := by
  refine ((Worker.readsBack_named storeName).set ?_).set ?_
  · exact WorkerField.readsBack_ofText? rfl rfl (some Script.store)
  · exact WorkerField.readsBack_ofText? rfl rfl directory

theorem readsBack_router (origin : String) : (router origin).ReadsBack := by
  refine ((Worker.readsBack_named routerName).set ?_).set (WorkerField.readsBack_bindings ?_)
  · exact WorkerField.readsBack_ofText? rfl rfl (some Script.router)
  · intro e he
    simp only [List.map_cons, List.map_nil, List.mem_cons, List.not_mem_nil, or_false] at he
    rcases he with rfl | rfl
    · exact ⟨⟨_, rfl⟩, _, rfl⟩
    · exact ⟨⟨_, rfl⟩, _, rfl⟩

theorem added_of_readsBack (b : AssetBlock) (origin : String) (h : main.ReadsBack) :
    ∃ t r, added main b origin = .ok (t, r) ∧ t.ReadsBack ∧ r.ReadsBack := by
  obtain ⟨t, ht, hstore⟩ := inherit_of_readsBack h (readsBack_store b.directory)
  obtain ⟨r, hr, hrouter⟩ := inherit_of_readsBack h (readsBack_router origin)
  refine ⟨t, r, ?_, hstore, hrouter⟩
  rw [added, ht, Except.ok_bind, hr]
  rfl

/-- The only fault that the check of names finds among names that are texts is a reserved one. -/
theorem reservedName_of_checkNames {ws : List Worker} {f : Fault} (hws : ∀ w ∈ ws, w.ReadsBack)
    (h : checkNames ws = .error f) :
    ∃ n ∈ reserved, (∃ w ∈ ws, w.HasName n) ∧ f = .failure (.reservedName (.text n)) := by
  obtain ⟨front, w, rest, rfl, -, ⟨n, hn, hname, rfl⟩ | ⟨hk, -⟩⟩ := checkNames_error h
  · exact ⟨n, hn, ⟨w, by simp, hname⟩, rfl⟩
  · obtain ⟨n, hname⟩ := ((hws w (by simp)).cells .name).text
    exact absurd hname (hk _)

/-! ## The whole -/

/-- **Routing workers that are read back ends well, or finds a reserved name and changes nothing.**
Either way the workers afterwards are read back. -/
theorem apply_of_readsBack {ws : List Worker} (h : ∀ w ∈ ws, w.ReadsBack) :
    ((apply ws).outcome.result = .ok () ∨
        ∃ n ∈ reserved, (∃ w ∈ ws, w.HasName n) ∧
          (apply ws).outcome.result = .error (.failure (.reservedName (.text n))) ∧
          (apply ws).workers = ws) ∧
      ∀ w ∈ (apply ws).workers, w.ReadsBack := by
  have hcourse := course_apply ws
  generalize apply ws = step at hcourse ⊢
  have hcleared : ∀ {main : Worker} {others : List Worker}, (∀ w ∈ main :: others, w.ReadsBack) →
      (cleared main).ReadsBack := fun h =>
    (h _ (List.mem_cons_self ..)).set (WorkerField.readsBack_empty rfl)
  cases hcourse with
  | none => exact ⟨Or.inl rfl, h⟩
  | idle _ => exact ⟨Or.inl rfl, h⟩
  | refused _ hn =>
    obtain ⟨n, hres, hname, rfl⟩ := reservedName_of_checkNames h hn
    exact ⟨Or.inr ⟨n, hres, hname, rfl, rfl⟩, h⟩
  | notBlock hc hv _ =>
    rcases ((h _ (List.mem_cons_self ..)).cells .assets).assets with he | ⟨b, hb⟩
    · exact absurd (Cell.plain.inj (hc.symm.trans he)) hv
    · cases hc.symm.trans hb
  | nameless _ _ ho =>
    obtain ⟨n, hn⟩ := originName_of_readsBack (hcleared h)
    cases ho.symm.trans hn
  | @unbound _ _ b _ _ _ _ _ hb =>
    obtain ⟨bound, hbound, -⟩ := rebind_of_readsBack b (hcleared h)
    cases hb.symm.trans hbound
  | @unlisted _ _ _ b origin _ _ _ _ hb ha =>
    obtain ⟨bound, hbound, hback⟩ := rebind_of_readsBack b (hcleared h)
    cases hb.symm.trans hbound
    obtain ⟨t, r, hadded, -⟩ := added_of_readsBack b origin hback
    cases ha.symm.trans hadded
  | @routed _ _ _ _ _ b origin _ _ _ hb ha =>
    obtain ⟨bound, hbound, hback⟩ := rebind_of_readsBack b (hcleared h)
    cases hb.symm.trans hbound
    obtain ⟨t, r, hadded, hstore, hrouter⟩ := added_of_readsBack b origin hback
    cases ha.symm.trans hadded
    refine ⟨Or.inl rfl, ?_⟩
    simp only [List.forall_mem_cons]
    exact ⟨hrouter, hstore, hback, (List.forall_mem_cons.1 h).2⟩

end AssetRouting

end EdgeRig
