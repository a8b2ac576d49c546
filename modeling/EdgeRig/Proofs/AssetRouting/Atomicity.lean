import EdgeRig.Proofs.AssetRouting.Parts
import EdgeRig.Proofs.Compile.Configuration

/-!
# Faults of routing

Routing changes workers in place.  A caller who is told of a fault would like to have the workers as
they were before: a second call finds no asset block on a half routed worker, and ends well without
doing anything.  This file says when that wish is granted.

* `AssetRouting.Atomic` — whenever routing ends in a fault, it has changed nothing.
* `AssetRouting.StopsHalfway` — the names pass the check, and then the compatibility flags of the first
  worker turn out to be nothing that can be gone through.
* `AssetRouting.apply_of_holds` — the three ends of routing for a worker that was compiled.
* `AssetRouting.atomic_iff_of_configuration` — routing the workers of a configuration is atomic exactly
  when it does not stop halfway; when it does, the asset block is lost and the next call is silent.
-/

namespace EdgeRig

namespace AssetRouting

/-- Routing that ends in a fault leaves the workers as they were. -/
def Atomic (ws : List Worker) : Prop :=
  ∀ f, (apply ws).outcome.result = .error f → (apply ws).workers = ws

/-- There is an asset block and no name stands in the way of it, but the compatibility flags cannot be
handed on. -/
def StopsHalfway (ws : List Worker) : Prop :=
  ∃ head others b, ws = head :: others ∧ head.cell .assets = .block b ∧ (∀ w ∈ ws, Passes w) ∧
    ¬ FlagsListed head

/-! ## Three ends -/

theorem flagsListed_congr {v w : Worker}
    (h : v.cell .compatibilityFlags = w.cell .compatibilityFlags) : FlagsListed v ↔ FlagsListed w := by
  unfold FlagsListed
  rw [h]

/-- The router and the store can be made only if the flags can be handed on. -/
theorem flagsListed_of_added {main : Worker} {b : AssetBlock} {origin : String} {p : Worker × Worker}
    (h : added main b origin = .ok p) : FlagsListed main := by
  refine Classical.byContradiction fun hn => ?_
  obtain ⟨s, hs, -⟩ := Except.bind_eq_ok_iff.1 h
  cases hs.symm.trans (inherit_error_iff.2 ⟨rfl, hn⟩)

/-- A worker without an asset block is left alone. -/
theorem apply_of_cleared {head : Worker} {others : List Worker} (h : head.cell .assets = .empty) :
    apply (head :: others) = ⟨head :: others, .done ()⟩ := by
  simp only [apply, h]

/-- How routing ends for a first worker that has a name and service bindings, and an asset block if
anything in its asset field. -/
theorem apply_of_holds {head : Worker} (others : List Worker) {n : String} {m : Mapping}
    (hname : head.HasName n) (hm : head.HoldsBindings m)
    (hassets : head.cell .assets = .empty ∨ ∃ b, head.cell .assets = .block b) :
    ((apply (head :: others)).outcome.result = .ok () ∧ ¬ StopsHalfway (head :: others)) ∨
      ((apply (head :: others)).workers = head :: others ∧ ¬ StopsHalfway (head :: others)) ∨
      StopsHalfway (head :: others) ∧ ∃ bound,
        apply (head :: others) = ⟨bound :: others, .fail .notIterable⟩ ∧ Continues bound head := by
  have hcourse := course_apply (head :: others)
  generalize apply (head :: others) = step at hcourse ⊢
  cases hcourse with
  | idle hnone =>
    refine Or.inl ⟨rfl, ?_⟩
    rintro ⟨_, _, b, hws, hb, -⟩
    cases hws
    cases hnone.symm.trans hb
  | refused _ hn =>
    refine Or.inr (Or.inl ⟨rfl, ?_⟩)
    rintro ⟨_, _, b, -, -, hpass, -⟩
    cases hn.symm.trans (checkNames_eq_ok_iff.2 hpass)
  | notBlock h hv _ =>
    -- A compiled worker has an asset block or nothing.
    rcases hassets with hnone | ⟨b, hb⟩
    · exact absurd (Cell.plain.inj (h.symm.trans hnone)) hv
    · cases h.symm.trans hb
  | nameless _ _ ho =>
    have hcell : (cleared head).cell .name = .plain (.text n) :=
      (cell_of_cleared head (by decide)).trans hname
    rw [originName, hcell] at ho
    cases ho
  | unbound _ _ _ hb =>
    obtain ⟨bound, hok, -⟩ := rebind_cleared _ hm
    cases hb.symm.trans hok
  | @unlisted _ bound _ b _ f hblock hn _ hb ha =>
    obtain ⟨bound', hok, hholds, hcleared, hagrees⟩ := rebind_cleared b hm
    cases hb.symm.trans hok
    obtain ⟨rfl, hflags⟩ := added_error ha
    rw [flagsListed_congr (hagrees .compatibilityFlags (by decide))] at hflags
    exact Or.inr (Or.inr ⟨⟨head, others, b, rfl, hblock, checkNames_eq_ok_iff.1 hn, hflags⟩, bound,
      rfl, continues_of_rebind hblock hm hholds hcleared hagrees⟩)
  | @routed _ bound _ _ _ b _ hblock _ _ hb ha =>
    obtain ⟨bound', hok, -, -, hagrees⟩ := rebind_cleared b hm
    cases hb.symm.trans hok
    have hflags := flagsListed_of_added ha
    rw [flagsListed_congr (hagrees .compatibilityFlags (by decide))] at hflags
    refine Or.inl ⟨rfl, ?_⟩
    rintro ⟨_, _, _, hws, -, -, hnot⟩
    cases hws
    exact hnot hflags

/-! ## Compiled workers -/

variable {d : Value} {mocks : MockTable} {base : Option String} {s : Settings} {c : Configuration}

/-- **Routing the workers of a configuration is atomic unless it stops halfway.**  Where it stops
halfway, the first worker has lost its asset block for a binding to a store that does not exist, and
routing once more ends well without doing anything. -/
theorem atomic_iff_of_configuration (hc : (Compile.configuration d mocks base s).result = .ok c) :
    (Atomic c.workers ↔ ¬ StopsHalfway c.workers) ∧
      (StopsHalfway c.workers → ∃ head others bound, c.workers = head :: others ∧
        apply c.workers = ⟨bound :: others, .fail .notIterable⟩ ∧ Continues bound head ∧
        apply (bound :: others) = ⟨bound :: others, .done ()⟩) := by
  obtain ⟨p, head, others, m, hp, hws, hagrees, hm, -⟩ := Compile.head_of_configuration hc
  have hname : head.HasName s.mainWorkerName :=
    (hagrees .name (by decide)).trans (Compile.hasName_of_primary hp)
  have hassets : head.cell .assets = .empty ∨ ∃ b, head.cell .assets = .block b := by
    rw [hagrees .assets (by decide)]
    exact Compile.assets_of_primary hp
  rw [hws]
  rcases apply_of_holds others hname hm hassets with ⟨hok, hnot⟩ | ⟨hsame, hnot⟩ |
      ⟨hhalf, bound, happly, hcont⟩
  · refine ⟨⟨fun _ => hnot, fun _ f hf => ?_⟩, fun h => absurd h hnot⟩
    cases hf.symm.trans hok
  · exact ⟨⟨fun _ => hnot, fun _ _ _ => hsame⟩, fun h => absurd h hnot⟩
  · refine ⟨⟨fun hatomic => ?_, fun h => absurd hhalf h⟩, fun _ =>
      ⟨head, others, bound, rfl, happly, hcont, apply_of_cleared hcont.cleared⟩⟩
    -- The asset block tells the two first workers apart.
    have hsame := hatomic .notIterable (by rw [happly]; rfl)
    rw [happly] at hsame
    obtain ⟨_, _, b, heq, hb, -⟩ := hhalf
    cases heq
    cases (List.cons.inj hsame).1
    cases hcont.cleared.symm.trans hb

/-- A descriptor with an asset block, with a single service, and with a number for flags. -/
def flaggedDescriptor (service : String) : Value :=
  Value.record
    [("assets", Value.record [("binding", .text "ASSETS"), ("directory", .text "./public")]),
     ("compatibility_flags", .int 5),
     ("services", .list [Value.record [("binding", .text "API"), ("service", .text service)]])]

set_option maxRecDepth 10000 in
/-- A service of a reserved name is found before anything is changed. -/
theorem atomic_of_reserved_service :
    ∃ c, (Compile.configuration (flaggedDescriptor storeName) .none none .standard).result = .ok c ∧
      Atomic c.workers := by
  have hrun : (Compile.configuration (flaggedDescriptor storeName) .none none .standard).result.map
      (fun c => checkNames c.workers) = .ok (.error (.failure (.reservedName (.text storeName)))) := rfl
  obtain ⟨c, hc, hn⟩ := Except.map_eq_ok_iff.1 hrun
  refine ⟨c, hc, (atomic_iff_of_configuration hc).1.2 ?_⟩
  rintro ⟨_, _, _, -, -, hpass, -⟩
  cases hn.symm.trans (checkNames_eq_ok_iff.2 hpass)

set_option maxRecDepth 10000 in
/-- With another service the asset block is gone when the flags turn out to be a number. -/
theorem not_atomic_of_numeric_flags :
    ∃ c, (Compile.configuration (flaggedDescriptor "api") .none none .standard).result = .ok c ∧
      (apply c.workers).outcome.result = .error .notIterable ∧ ¬ Atomic c.workers := by
  let blocks (ws : List Worker) : List Bool := ws.map fun w => !(w.cell .assets).isEmpty
  have hrun : (Compile.configuration (flaggedDescriptor "api") .none none .standard).result.map
      (fun c => ((apply c.workers).outcome.result, blocks c.workers, blocks (apply c.workers).workers)) =
        .ok (.error .notIterable, [true, false], [false, false]) := rfl
  obtain ⟨c, hc, hresult⟩ := Except.map_eq_ok_iff.1 hrun
  simp only [Prod.mk.injEq] at hresult
  obtain ⟨herror, hbefore, hafter⟩ := hresult
  refine ⟨c, hc, herror, fun hatomic => ?_⟩
  rw [hatomic _ herror, hbefore] at hafter
  cases hafter

end AssetRouting

end EdgeRig
