import EdgeRig.Lookup
import EdgeRig.Proofs.Mapping
import EdgeRig.Proofs.Text

/-!
# Trails of a dotted lookup

A dotted name is looked up by going from one mapping into the next, through an entry under each part of
the name.  This file says what is found, and which entries are never gone through.

* `Value.Trail` — a chain of entries, each found in the value of the one before;
  `Value.follow_eq_some_iff` says that steps lead where a trail with their keys ends.
* `Value.undotted` — a value without the entries under keys that hold a dot;
  `Value.follow_undotted` says that steps with other keys do not miss them.
* `Value.lookup_composes` — names are looked up part by part, along trails, past keys that hold a dot.
-/

namespace EdgeRig

namespace Value

/-! ## Trails -/

/-- Entries that lead from one value to another: each is what a mapping shows under its key, it holds
something, and the trail goes on in the value that it holds. -/
inductive Trail : Value → List (String × Value) → Value → Prop where
  | nil (v : Value) : Trail v [] v
  | cons {m : Mapping} {k : String} {v u : Value} {es : List (String × Value)}
      (hk : Mapping.get? m k = some v) (hv : v ≠ null) (hrest : Trail v es u) :
      Trail (.map m) ((k, v) :: es) u

/-- A trail that goes anywhere ends at something. -/
theorem Trail.ne_null {v u : Value} {es : List (String × Value)} (h : v.Trail es u) (hes : es ≠ []) :
    u ≠ null := by
  induction h with
  | nil v => exact absurd rfl hes
  | @cons m k v u es hk hv hrest ih =>
    cases es with
    | nil =>
      cases hrest
      exact hv
    | cons e es => exact ih (List.cons_ne_nil e es)

theorem present?_eq_some_iff {v u : Value} : v.present? = some u ↔ v = u ∧ u ≠ null := by
  constructor
  · intro h
    have hv : v = u := by rw [← getD_present? v, h]; rfl
    refine ⟨hv, fun hu => ?_⟩
    rw [present?_eq_none_iff.2 (hv.trans hu)] at h
    cases h
  · rintro ⟨rfl, hv⟩
    rw [present?, if_neg (mt isNull_iff.1 hv)]

/-- A step goes through an entry of a mapping that holds something. -/
theorem step_eq_some_iff {v u : Value} {p : Text.Piece} :
    v.step p = some u ↔ ∃ m, v = .map m ∧ Mapping.get? m (String.ofList p) = some u ∧ u ≠ null := by
  constructor
  · intro h
    cases v with
    | map m =>
      obtain ⟨w, hw, hu⟩ := Option.bind_eq_some_iff.1 h
      obtain ⟨rfl, hnull⟩ := present?_eq_some_iff.1 hu
      exact ⟨m, rfl, hw, hnull⟩
    | scalar s => cases h
    | list items => cases h
  · rintro ⟨m, rfl, hu, hnull⟩
    exact Option.bind_eq_some_iff.2 ⟨u, hu, present?_eq_some_iff.2 ⟨rfl, hnull⟩⟩

/-- **Steps lead where a trail with their keys ends.** -/
theorem follow_eq_some_iff {v u : Value} {ps : List Text.Piece} :
    follow v ps = some u ↔ ∃ es, es.map (fun e => e.1.toList) = ps ∧ v.Trail es u := by
  induction ps generalizing v with
  | nil =>
    constructor
    · intro h
      cases h
      exact ⟨[], rfl, .nil _⟩
    · rintro ⟨es, hes, htrail⟩
      cases List.map_eq_nil_iff.1 hes
      cases htrail
      rfl
  | cons p ps ih =>
    constructor
    · intro h
      obtain ⟨w, hw, hrest⟩ := Option.bind_eq_some_iff.1 h
      obtain ⟨m, rfl, hm, hnull⟩ := step_eq_some_iff.1 hw
      obtain ⟨es, rfl, htrail⟩ := ih.1 hrest
      exact ⟨(String.ofList p, w) :: es, by simp, .cons hm hnull htrail⟩
    · rintro ⟨es, hes, htrail⟩
      cases htrail with
      | nil => cases hes
      | @cons m k w u es hk hnull hrest =>
        obtain ⟨rfl, rfl⟩ := List.cons.inj hes
        have hstep : (Value.map m).step k.toList = some w :=
          step_eq_some_iff.2 ⟨m, rfl, by rwa [String.ofList_toList], hnull⟩
        exact Option.bind_eq_some_iff.2 ⟨w, hstep, ih.2 ⟨es, rfl, hrest⟩⟩

end Value

/-! ## Keys that hold a dot -/

/-- Is the key a text that holds a dot? -/
def Scalar.isDotted : Scalar → Bool
  | .text s => s.toList.contains '.'
  | _ => false

namespace Value

mutual

/-- The value without the entries under keys that hold a dot, in whatever mapping within mappings they
are. -/
def undotted : Value → Value
  | .map m => .map (undottedEntries m)
  | .scalar s => .scalar s
  | .list items => .list items

def undottedEntries : List (Scalar × Value) → List (Scalar × Value)
  | [] => []
  | (k, v) :: m => if k.isDotted then undottedEntries m else (k, undotted v) :: undottedEntries m

end

theorem get?_undottedEntries {k : String} (hk : '.' ∉ k.toList) (m : Mapping) :
    Mapping.get? (undottedEntries m) k = (Mapping.get? m k).map undotted := by
  induction m with
  | nil => rfl
  | cons e m ih =>
    obtain ⟨i, v⟩ := e
    rw [undottedEntries, Mapping.get?_cons]
    by_cases hi : i.isDotted = true
    · have hne : i ≠ .text k := by
        rintro rfl
        exact hk (List.contains_iff_mem.1 hi)
      rw [if_pos hi, if_neg hne, ih]
    · rw [if_neg hi, Mapping.get?_cons, ih]
      by_cases hik : i = .text k
      · rw [if_pos hik, if_pos hik]
        rfl
      · rw [if_neg hik, if_neg hik]

theorem present?_undotted (v : Value) : v.undotted.present? = v.present?.map undotted := by
  cases v with
  | map m => rfl
  | list items => rfl
  | scalar s => cases s <;> rfl

theorem step_undotted {p : Text.Piece} (hp : '.' ∉ p) (v : Value) :
    v.undotted.step p = (v.step p).map undotted := by
  cases v with
  | map m =>
    have hget : Mapping.get? (undottedEntries m) (String.ofList p) =
        (Mapping.get? m (String.ofList p)).map undotted :=
      get?_undottedEntries (by rwa [String.toList_ofList]) m
    simp only [undotted, step, hget]
    cases Mapping.get? m (String.ofList p) with
    | none => rfl
    | some w => exact present?_undotted w
  | list items => rfl
  | scalar s => rfl

/-- **Steps with other keys do not miss them.** -/
theorem follow_undotted {ps : List Text.Piece} (hps : ∀ p ∈ ps, '.' ∉ p) (v : Value) :
    follow v.undotted ps = (follow v ps).map undotted := by
  induction ps generalizing v with
  | nil => rfl
  | cons p ps ih =>
    obtain ⟨hp, hrest⟩ := List.forall_mem_cons.1 hps
    rw [follow, follow, step_undotted hp]
    cases v.step p with
    | none => rfl
    | some w => exact ih hrest w

/-! ## Names -/

/-- In nothing, nothing is found. -/
theorem lookup_null (name : String) : null.lookup name = none := by
  obtain ⟨p, ps, hp⟩ := List.exists_cons_of_ne_nil (Text.pieces_ne_nil '.' name.toList)
  rw [lookup, hp]
  rfl

/-- **Dotted lookup composes.**  To look up two names with a dot between them is to look up the second in
what stands under the first, whatever dots they hold themselves.  A name stands for something exactly if a
trail leads there whose keys are the parts of the name between its dots.  No such key holds a dot, so
entries under keys that hold one can be left out of the value, and the lookup ends in the same way. -/
theorem lookup_composes (v : Value) :
    (∀ s t : String, v.lookup (s ++ "." ++ t) = ((v.lookup s).getD null).lookup t) ∧
      (∀ (name : String) (u : Value), v.lookup name = some u ↔
        u ≠ null ∧ ∃ es, es.map (fun e => e.1.toList) = name.toList.splitOn '.' ∧ v.Trail es u ∧
          ∀ e ∈ es, '.' ∉ e.1.toList) ∧
      ∀ name : String, v.undotted.lookup name = (v.lookup name).map undotted := by
  refine ⟨fun s t => ?_, fun name u => ?_, fun name => ?_⟩
  · rw [lookup_dot]
    cases v.lookup s with
    | none => exact (lookup_null t).symm
    | some w => rfl
  · rw [lookup, follow_eq_some_iff, ← Text.pieces_eq_splitOn]
    constructor
    · rintro ⟨es, hes, htrail⟩
      have hne : es ≠ [] := by
        rintro rfl
        exact Text.pieces_ne_nil '.' name.toList hes.symm
      refine ⟨htrail.ne_null hne, es, hes, htrail, fun e he => ?_⟩
      have hpiece : e.1.toList ∈ Text.pieces '.' name.toList := hes ▸ List.mem_map_of_mem he
      exact Text.notMem_of_mem_pieces hpiece
    · rintro ⟨-, es, hes, htrail, -⟩
      exact ⟨es, hes, htrail⟩
  · exact follow_undotted (fun p hp => Text.notMem_of_mem_pieces hp) v

/-- The entry under the whole name is not looked at. -/
example : (record [("queues.producers", text "flat"),
    ("queues", record [("producers", text "nested")])]).lookup "queues.producers" =
      some (text "nested") := by decide +kernel

end Value

end EdgeRig
