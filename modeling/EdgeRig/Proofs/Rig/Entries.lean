import EdgeRig.Proofs.Setup.Course
import EdgeRig.Rig

/-!
# Entries of contexts

What stands in a context after a rig has written to it or has been taken out of it.

* `Context.get?_cleared` — taking a rig out removes its own entries and no others;
  `Context.cleared_put` — whatever is written under a key of its own is thereby forgotten.
* `Context.cleared_eq_self` — a context without such entries stays as it is.
* `Rig.get?_writeAll` — what a setup writes does not depend on what stood in the context;
  `Rig.get?_writeAll_of_ne`, `Rig.cleared_writeAll` — it writes under its own keys only.
* `Rig.get?_simulator_writeAll` — the simulator that a setup makes stands where it belongs.
-/

namespace EdgeRig

namespace RigKey

theorem isOwn_iff {k : String} : isOwn k = true ↔ ∃ r : RigKey, r.text = k := by
  constructor
  · intro h
    obtain ⟨r, -, hr⟩ := List.any_eq_true.1 h
    exact ⟨r, beq_iff_eq.1 hr⟩
  · rintro ⟨r, rfl⟩
    exact isOwn_text r

theorem text_ne_of_not_isOwn {k : String} (h : isOwn k = false) (r : RigKey) : r.text ≠ k := by
  rintro rfl
  rw [isOwn_text] at h
  cases h

end RigKey

namespace Context

theorem get?_cons (j : String) (d : ContextEntry) (c : Context) (k : String) :
    get? ((j, d) :: c) k = if k = j then some d else get? c k := by
  unfold get?
  rw [List.lookup_cons]
  by_cases h : k = j
  · rw [if_pos h, beq_iff_eq.2 h]
  · rw [if_neg h, beq_eq_false_iff_ne.2 h]

/-- Taking a rig out removes its own entries and no others. -/
theorem get?_cleared (c : Context) (k : String) :
    get? c.cleared k = if RigKey.isOwn k then none else get? c k := by
  induction c with
  | nil => cases RigKey.isOwn k <;> rfl
  | cons e rest ih =>
    obtain ⟨j, d⟩ := e
    unfold cleared at ih ⊢
    rw [List.filter_cons, get?_cons]
    by_cases hj : RigKey.isOwn j = true
    · rw [if_neg (by rw [hj]; decide), ih]
      by_cases hk : k = j
      · rw [hk, if_pos hj, if_pos hj]
      · rw [if_neg hk]
    · rw [if_pos (by simpa using hj), get?_cons, ih]
      by_cases hk : k = j
      · rw [if_pos hk, if_pos hk, hk, if_neg hj]
      · rw [if_neg hk, if_neg hk]

/-- What is written under a key of a rig goes away with the rig. -/
theorem cleared_put (c : Context) {k : String} (e : ContextEntry) (h : RigKey.isOwn k = true) :
    (put c k e).cleared = c.cleared := by
  unfold cleared
  induction c with
  | nil => simp [put, h]
  | cons p rest ih =>
    obtain ⟨j, d⟩ := p
    by_cases hj : j = k
    · rw [put, if_pos hj, List.filter_cons, List.filter_cons]
      simp [hj, h]
    · rw [put, if_neg hj, List.filter_cons, List.filter_cons, ih]

theorem cleared_cleared (c : Context) : c.cleared.cleared = c.cleared := by
  unfold cleared
  rw [List.filter_filter]
  simp only [Bool.and_self]

/-- Contexts that are the same without a rig have the same entries beside those of the rig. -/
theorem get?_of_cleared_eq {c d : Context} (h : c.cleared = d.cleared) {k : String}
    (hk : RigKey.isOwn k = false) : c.get? k = d.get? k := by
  have hc := get?_cleared c k
  have hd := get?_cleared d k
  rw [hk] at hc hd
  exact (hc.symm.trans (congrArg (get? · k) h)).trans hd

/-- A context without entries of a rig stays as it is. -/
theorem cleared_eq_self {c : Context} (h : ∀ r : RigKey, get? c r.text = none) : c.cleared = c := by
  unfold cleared
  induction c with
  | nil => rfl
  | cons p rest ih =>
    obtain ⟨j, d⟩ := p
    have hj : RigKey.isOwn j = false := by
      refine Bool.eq_false_iff.2 fun hc => ?_
      obtain ⟨r, rfl⟩ := RigKey.isOwn_iff.1 hc
      have := h r
      rw [get?_cons, if_pos rfl] at this
      cases this
    have hrest : ∀ r : RigKey, get? rest r.text = none := by
      intro r
      have := h r
      rwa [get?_cons, if_neg (RigKey.text_ne_of_not_isOwn hj r)] at this
    rw [List.filter_cons, if_pos (by rw [hj]; rfl), ih hrest]

end Context

/-! ## The entries of a setup -/

namespace Rig

variable {n : Nat} {c : Context} {ws vs : List (RigKey × Setup.Entry)}

theorem writeAll_cons (n : Nat) (c : Context) (w : RigKey × Setup.Entry)
    (ws : List (RigKey × Setup.Entry)) :
    writeAll n c (w :: ws) = writeAll n (c.put w.1.text (entryOf n w.2)) ws := rfl

theorem writeAll_append (n : Nat) (c : Context) (ws vs : List (RigKey × Setup.Entry)) :
    writeAll n c (ws ++ vs) = writeAll n (writeAll n c ws) vs := List.foldl_append

/-- Under a key stands what is written there, whatever the context, or else what the context held. -/
theorem get?_writeAll (n : Nat) (c : Context) (ws : List (RigKey × Setup.Entry)) (k : String) :
    (writeAll n c ws).get? k = ((writeAll n [] ws).get? k).or (c.get? k) := by
  induction ws generalizing c with
  | nil => rfl
  | cons w ws ih =>
    rw [writeAll_cons, writeAll_cons, ih, ih (Context.put [] _ _), Option.or_assoc]
    congr 1
    by_cases hk : k = w.1.text
    · rw [hk, Context.get?_put, Context.get?_put]
      rfl
    · rw [Context.get?_put_of_ne _ _ hk, Context.get?_put_of_ne _ _ hk]
      rfl

/-- What is not written under stays. -/
theorem get?_writeAll_of_ne {k : String} (h : ∀ w ∈ ws, w.1.text ≠ k) :
    (writeAll n c ws).get? k = c.get? k := by
  induction ws generalizing c with
  | nil => rfl
  | cons w ws ih =>
    rw [writeAll_cons, ih fun v hv => h v (List.mem_cons_of_mem _ hv),
      Context.get?_put_of_ne _ _ (h w (List.mem_cons_self ..)).symm]

theorem cleared_writeAll : (writeAll n c ws).cleared = c.cleared := by
  induction ws generalizing c with
  | nil => rfl
  | cons w ws ih => rw [writeAll_cons, ih, Context.cleared_put _ _ (RigKey.isOwn_text w.1)]

/-- Entries that are no simulators bring none into a context. -/
theorem get?_ne_simulator_writeAll {k : String} {i : Nat} (hws : Setup.WithoutSimulator ws)
    (hc : c.get? k ≠ some (.simulator i)) : (writeAll n c ws).get? k ≠ some (.simulator i) := by
  induction ws generalizing c with
  | nil => exact hc
  | cons w ws ih =>
    obtain ⟨hw, hrest⟩ := List.forall_mem_cons.1 hws
    rw [writeAll_cons]
    refine ih hrest ?_
    by_cases hk : k = w.1.text
    · rw [hk, Context.get?_put]
      intro he
      obtain ⟨key, entry⟩ := w
      cases entry with
      | plain v => cases he
      | made => exact hw.2 rfl
      | fetcher f => cases he
    · rwa [Context.get?_put_of_ne _ _ hk]

/-- The simulator that a setup makes stands under the key for simulators. -/
theorem get?_simulator_writeAll (hvs : Setup.WithoutSimulator vs) :
    (writeAll n c (ws ++ (.simulator, .made) :: vs)).get? RigKey.simulator.text =
      some (.simulator n) := by
  rw [writeAll_append, writeAll_cons, get?_writeAll_of_ne, Context.get?_put]
  · rfl
  · intro w hw hc
    exact (hvs w hw).1 (RigKey.text_injective hc)

end Rig

end EdgeRig
