import EdgeRig.Compile
import EdgeRig.Proofs.Schema.Reading
import EdgeRig.Proofs.Worker

/-!
# The primary worker

What the worker that a descriptor is compiled into looks like, field by field.

* `Rule.cell_of_apply` — a rule writes what it makes of the descriptor into its target, and leaves
  every other field alone.
* `Rule.cell_of_applyAll` — so a field that is the target of no rule comes through all of them;
  `Rule.applyAll_set` — and what stands in it makes no difference to the rules.
* `Compile.cell_of_primary` — the fields that neither the rules nor the two blocks of the descriptor
  speak of are those of a worker of which only the name is known.
* `Compile.assetBlock_of_primary` — the asset field holds the asset block of the descriptor, if any.
* `Compile.plain_of_primary` — apart from the asset field, every field of the primary worker holds a
  plain value.
-/

namespace EdgeRig

/-! ## Rules -/

namespace Rule

/-- **A rule writes its target and nothing else.** -/
theorem cell_of_apply {r : Rule} {d : Value} {w : Worker} {p : Worker × Bool}
    (h : r.apply d w = .ok p) : ∃ o, r.outcome d = .ok o ∧
      ∀ f, p.1.cell f = if f.key = r.target then o.elim (w.cell f) .plain else w.cell f := by
  rw [apply_eq] at h
  split at h
  · cases h
  · rename_i ho
    cases h
    exact ⟨none, ho, fun f => by simp⟩
  · rename_i v ho
    obtain ⟨w', hw, rfl⟩ := Except.map_eq_ok_iff.1 h
    exact ⟨some v, ho, Worker.cell_of_assign hw⟩

theorem applyAll_cons_ok {r : Rule} {rs : List Rule} {d : Value} {w w' : Worker}
    (h : applyAll (r :: rs) d w = .ok w') :
    ∃ p, r.apply d w = .ok p ∧ applyAll rs d p.1 = .ok w' := by
  rw [applyAll_cons] at h
  exact Except.bind_eq_ok_iff.1 h

theorem cell_of_applyAll {rs : List Rule} {d : Value} {w w' : Worker} {f : WorkerField}
    (h : applyAll rs d w = .ok w') (hf : f.key ∉ rs.map target) : w'.cell f = w.cell f := by
  induction rs generalizing w with
  | nil =>
    cases h
    rfl
  | cons r rs ih =>
    rw [List.map_cons, List.mem_cons, not_or] at hf
    obtain ⟨p, hp, hrest⟩ := applyAll_cons_ok h
    obtain ⟨o, -, hcell⟩ := cell_of_apply hp
    rw [ih hrest hf.2, hcell f, if_neg hf.1]

/-- A rule takes no notice of what stands beside its target. -/
theorem apply_set (r : Rule) (d : Value) (w : Worker) {f : WorkerField} (c : Cell)
    (hf : f.key ≠ r.target) :
    r.apply d (w.set f c) = (r.apply d w).map fun p => (p.1.set f c, p.2) := by
  rw [apply_eq, apply_eq]
  cases r.outcome d with
  | error e => rfl
  | ok o =>
    cases o with
    | none => rfl
    | some v =>
      dsimp only
      rw [Worker.assign_set w c v hf]
      cases w.assign r.target v <;> rfl

/-- Rules take no notice of a field that is the target of none of them. -/
theorem applyAll_set (rs : List Rule) (d : Value) (w : Worker) {f : WorkerField} (c : Cell)
    (hf : f.key ∉ rs.map target) : applyAll rs d (w.set f c) = (applyAll rs d w).map (·.set f c) := by
  induction rs generalizing w with
  | nil => rfl
  | cons r rs ih =>
    rw [List.map_cons, List.mem_cons, not_or] at hf
    rw [applyAll_cons, applyAll_cons, apply_set r d w c hf.1]
    cases r.apply d w with
    | error e => rfl
    | ok p => exact ih p.1 hf.2

/-- Rules put plain values where plain values were. -/
theorem plain_of_applyAll {rs : List Rule} {d : Value} {w w' : Worker} {f : WorkerField}
    (h : applyAll rs d w = .ok w') (hw : ∃ v, w.cell f = .plain v) : ∃ v, w'.cell f = .plain v := by
  induction rs generalizing w with
  | nil =>
    cases h
    exact hw
  | cons r rs ih =>
    obtain ⟨p, hp, hrest⟩ := applyAll_cons_ok h
    obtain ⟨o, -, hcell⟩ := cell_of_apply hp
    refine ih hrest ?_
    rw [hcell f]
    cases o with
    | none => simpa using hw
    | some v =>
      by_cases hf : f.key = r.target
      · exact ⟨v, if_pos hf⟩
      · rw [if_neg hf]
        exact hw

end Rule

/-! ## The four strokes of the primary worker -/

namespace Compile

theorem withVars_ok {d : Value} {w w' : Worker} (h : withVars d w = .ok w') :
    ∃ vars, d.peek "vars" = .ok vars ∧ (vars.isNull = true ∧ w' = w ∨
      vars.isNull = false ∧ ∃ m, vars.toMapping = .ok m ∧
        w' = w.set .bindings (.plain (.map m))) := by
  obtain ⟨vars, hvars, h⟩ := Except.bind_eq_ok_iff.1 h
  refine ⟨vars, hvars, ?_⟩
  split at h
  · rename_i hn
    cases h
    exact Or.inl ⟨hn, rfl⟩
  · rename_i hn
    obtain ⟨m, hm, h⟩ := Except.bind_eq_ok_iff.1 h
    cases h
    exact Or.inr ⟨Bool.eq_false_iff.2 hn, m, hm, rfl⟩

/-- The directory of an asset block is a text once it is seen from the base, and so is its binding,
unless they are missing. -/
theorem assetBlock_eq_ok_iff {base : Option String} {v : Value} {a : AssetBlock} :
    assetBlock base v = .ok a ↔ v.peek "binding" = .ok (Value.ofText? a.binding) ∧
      ∃ dir, v.peek "directory" = .ok dir ∧ rebase base dir = .ok (Value.ofText? a.directory) := by
  unfold assetBlock
  simp only [Except.bind_eq_ok_iff, Reader.run_eq_ok_iff, AssetBlock.read_iff]
  constructor
  · rintro ⟨x, hx, dir, hdir, y, hy, rfl, rfl⟩
    exact ⟨hx, dir, hdir, hy⟩
  · rintro ⟨hx, dir, hdir, hy⟩
    exact ⟨_, hx, dir, hdir, _, hy, rfl, rfl⟩

theorem withAssets_eq_ok_iff {base : Option String} {d : Value} {w w' : Worker} :
    withAssets base d w = .ok w' ↔
      ∃ assets, d.peek "assets" = .ok assets ∧ (assets.isNull = true ∧ w' = w ∨
        assets.isNull = false ∧ ∃ a, assetBlock base assets = .ok a ∧
          w' = w.set .assets (.block a)) := by
  constructor
  · intro h
    obtain ⟨assets, hpeek, h⟩ := Except.bind_eq_ok_iff.1 h
    refine ⟨assets, hpeek, ?_⟩
    split at h
    · rename_i hn
      cases h
      exact Or.inl ⟨hn, rfl⟩
    · rename_i hn
      obtain ⟨a, ha, h⟩ := Except.bind_eq_ok_iff.1 h
      cases h
      exact Or.inr ⟨Bool.eq_false_iff.2 hn, a, ha, rfl⟩
  · rintro ⟨assets, hpeek, ⟨hn, rfl⟩ | ⟨hn, a, ha, rfl⟩⟩
    · exact Except.bind_eq_ok_iff.2 ⟨assets, hpeek, if_pos hn⟩
    · refine Except.bind_eq_ok_iff.2 ⟨assets, hpeek, ?_⟩
      rw [if_neg (by simp [hn])]
      exact Except.bind_eq_ok_iff.2 ⟨a, ha, rfl⟩

theorem withScriptPath_ok {base : Option String} {w w' : Worker}
    (h : withScriptPath base w = .ok w') : w' = w ∨ ∃ v u, w.cell .scriptPath = .plain v ∧
      rebase base v = .ok u ∧ w' = w.set .scriptPath (.plain u) := by
  unfold withScriptPath at h
  split at h
  · cases h
    exact Or.inl rfl
  · rename_i v hv
    obtain ⟨u, hu, rfl⟩ := Except.map_eq_ok_iff.1 h
    exact Or.inr ⟨v, u, hv, hu, rfl⟩

/-- The primary worker is made in four strokes. -/
theorem primary_ok {base : Option String} {s : Settings} {d : Value} {p : Worker}
    (h : primary base s d = .ok p) : ∃ u v w, withVars d (Worker.named s.mainWorkerName) = .ok u ∧
      withAssets base d u = .ok v ∧ Rule.applyAll Rule.table d v = .ok w ∧
      withScriptPath base w = .ok p := by
  obtain ⟨u, hu, h⟩ := Except.bind_eq_ok_iff.1 h
  obtain ⟨v, hv, h⟩ := Except.bind_eq_ok_iff.1 h
  obtain ⟨w, hw, h⟩ := Except.bind_eq_ok_iff.1 h
  exact ⟨u, v, w, hu, hv, hw, h⟩

/-- The four strokes make the primary worker. -/
theorem primary_of_strokes {base : Option String} {s : Settings} {d : Value} {u v w p : Worker}
    (hu : withVars d (Worker.named s.mainWorkerName) = .ok u) (hv : withAssets base d u = .ok v)
    (hw : Rule.applyAll Rule.table d v = .ok w) (hp : withScriptPath base w = .ok p) :
    primary base s d = .ok p :=
  Except.bind_eq_ok_iff.2 ⟨u, hu, Except.bind_eq_ok_iff.2 ⟨v, hv, Except.bind_eq_ok_iff.2 ⟨w, hw, hp⟩⟩⟩

/-! ## Fields of the primary worker -/

section Fields

variable {base : Option String} {s : Settings} {d : Value} {p : Worker}

/-- Fields that nothing in a descriptor speaks of stay as they are in a worker of which only the
name is known. -/
theorem cell_of_primary (h : primary base s d = .ok p) {f : WorkerField}
    (hb : f ∉ [WorkerField.bindings, .assets, .scriptPath]) (hr : f.key ∉ Rule.table.map Rule.target) :
    p.cell f = (Worker.named s.mainWorkerName).cell f := by
  simp only [List.mem_cons, List.not_mem_nil, or_false, not_or] at hb
  obtain ⟨u, v, w, hu, hv, hw, hp⟩ := primary_ok h
  have hpw : p.cell f = w.cell f := by
    rcases withScriptPath_ok hp with rfl | ⟨_, _, _, _, rfl⟩
    · rfl
    · exact if_neg hb.2.2
  have hvu : v.cell f = u.cell f := by
    obtain ⟨_, _, ⟨_, rfl⟩ | ⟨_, _, _, rfl⟩⟩ := withAssets_eq_ok_iff.1 hv
    · rfl
    · exact if_neg hb.2.1
  have hun : u.cell f = (Worker.named s.mainWorkerName).cell f := by
    obtain ⟨_, _, ⟨_, rfl⟩ | ⟨_, _, _, rfl⟩⟩ := withVars_ok hu
    · rfl
    · exact if_neg hb.1
  rw [hpw, Rule.cell_of_applyAll hw hr, hvu, hun]

theorem hasName_of_primary (h : primary base s d = .ok p) : p.HasName s.mainWorkerName :=
  cell_of_primary h (f := .name) (by decide) (by decide)

theorem serviceBindings_of_primary (h : primary base s d = .ok p) :
    p.cell .serviceBindings = .empty :=
  cell_of_primary h (f := .serviceBindings) (by decide) (by decide)

/-- The asset field holds the asset block of the descriptor, if there is one. -/
theorem assetBlock_of_primary (h : primary base s d = .ok p) :
    ∃ assets, d.peek "assets" = .ok assets ∧ (assets.isNull = true ∧ p.cell .assets = .empty ∨
      assets.isNull = false ∧ ∃ a, assetBlock base assets = .ok a ∧ p.cell .assets = .block a) := by
  obtain ⟨u, v, w, hu, hv, hw, hp⟩ := primary_ok h
  have hpw : p.cell .assets = w.cell .assets := by
    rcases withScriptPath_ok hp with rfl | ⟨_, _, _, _, rfl⟩ <;> rfl
  have hpv : p.cell .assets = v.cell .assets :=
    hpw.trans (Rule.cell_of_applyAll hw (f := .assets) (by decide))
  obtain ⟨assets, hassets, ⟨hn, rfl⟩ | ⟨hn, a, ha, rfl⟩⟩ := withAssets_eq_ok_iff.1 hv
  · refine ⟨assets, hassets, Or.inl ⟨hn, hpv.trans ?_⟩⟩
    obtain ⟨_, _, ⟨_, rfl⟩ | ⟨_, _, _, rfl⟩⟩ := withVars_ok hu <;> rfl
  · exact ⟨assets, hassets, Or.inr ⟨hn, a, ha, hpv⟩⟩

/-- The asset field is empty or holds an asset block. -/
theorem assets_of_primary (h : primary base s d = .ok p) :
    p.cell .assets = .empty ∨ ∃ b, p.cell .assets = .block b := by
  obtain ⟨_, -, ⟨-, hempty⟩ | ⟨-, a, -, hblock⟩⟩ := assetBlock_of_primary h
  · exact Or.inl hempty
  · exact Or.inr ⟨a, hblock⟩

/-- Every field other than the asset field holds a plain value. -/
theorem plain_of_primary (h : primary base s d = .ok p) {f : WorkerField} (hf : f ≠ .assets) :
    ∃ x, p.cell f = .plain x := by
  obtain ⟨u, v, w, hu, hv, hw, hp⟩ := primary_ok h
  have hnamed : ∃ x, (Worker.named s.mainWorkerName).cell f = .plain x := by
    cases f <;> exact ⟨_, rfl⟩
  have hpu : ∃ x, u.cell f = .plain x := by
    obtain ⟨_, _, ⟨_, rfl⟩ | ⟨_, _, _, rfl⟩⟩ := withVars_ok hu
    · exact hnamed
    · exact Worker.plain_set hnamed
  have hpv : ∃ x, v.cell f = .plain x := by
    obtain ⟨_, _, ⟨_, rfl⟩ | ⟨_, _, _, rfl⟩⟩ := withAssets_eq_ok_iff.1 hv
    · exact hpu
    · rwa [Worker.cell_set_of_ne _ _ hf]
  have hpw : ∃ x, w.cell f = .plain x := Rule.plain_of_applyAll hw hpv
  rcases withScriptPath_ok hp with rfl | ⟨_, _, _, _, rfl⟩
  · exact hpw
  · exact Worker.plain_set hpw

end Fields

end Compile

end EdgeRig
