import EdgeRig.Value
import Mathlib.Data.List.Induction

/-!
# Mappings

What a mapping holds after entries were put into it.

* `Scalar.same_text_right` — only a text is the same key as a text.
* `Mapping.get?_put` — a text key finds what was put under it, and what stood there otherwise.
* `Mapping.forall_put`, `Mapping.forall_ofEntries` — what holds of keys and values is kept.
* `Mapping.exists_value_of_mem_ofEntries` — the values of a mapping are values of the entries it was
  built from.
* `Mapping.overwrittenBy` — a mapping after more entries were put into it; `Mapping.keys_overwrittenBy` and
  `Mapping.get?_overwrittenBy` say what it holds then.
* `Mapping.keys_ofEntries`, `Mapping.get?_ofEntries` — a mapping built from entries has their keys in order
  of first appearance, and shows the last value of each.
* `Mapping.eq_of_keys` — keys and what they show make a mapping; `Mapping.overwrittenBy_ofEntries` — so it
  makes no difference whether entries are put in one after the other, or those of a mapping built from
  them.
-/

namespace EdgeRig

/-! ## Text keys -/

namespace Scalar

theorem same_text_right {a : Scalar} {s : String} : a.same (.text s) = true ↔ a = .text s := by
  cases a with
  | text t => rw [same_text, beq_iff_eq, Scalar.text.injEq]
  | float x =>
    simp only [same, worth]
    split <;> simp_all
  | _ => simp [same, worth]

theorem same_text_left {a : Scalar} {s : String} : same (.text s) a = true ↔ a = .text s := by
  cases a with
  | text t =>
    rw [same_text, beq_iff_eq, Scalar.text.injEq]
    exact eq_comm
  | float x =>
    simp only [same, worth]
    split <;> simp_all
  | _ => simp [same, worth]

end Scalar

namespace Mapping

theorem get?_cons (i : Scalar) (u : Value) (m : Mapping) (j : String) :
    get? ((i, u) :: m) j = if i = .text j then some u else get? m j := by
  rw [get?, find?, List.find?_cons]
  by_cases h : i = .text j
  · have hs : i.same (.text j) = true := Scalar.same_text_right.2 h
    rw [hs, if_pos h]
    rfl
  · have hs : i.same (.text j) = false :=
      Bool.eq_false_iff.2 fun hc => h (Scalar.same_text_right.1 hc)
    rw [hs, if_neg h]
    rfl

/-- A text key finds nothing exactly if no entry has it. -/
theorem get?_eq_none_iff {m : Mapping} {j : String} : get? m j = none ↔ ∀ e ∈ m, e.1 ≠ .text j := by
  induction m with
  | nil => simp [get?, find?]
  | cons e m ih =>
    obtain ⟨i, u⟩ := e
    rw [get?_cons, List.forall_mem_cons, ← ih]
    by_cases h : i = .text j <;> simp [h]

/-- **Read after write.**  A text key finds what was put under it; all other text keys find what they
found before. -/
theorem get?_put (m : Mapping) (k : Scalar) (v : Value) (j : String) :
    get? (put m k v) j = if k = .text j then some v else get? m j := by
  induction m with
  | nil => rw [put, get?_cons]
  | cons e rest ih =>
    obtain ⟨i, u⟩ := e
    by_cases hi : i.same k = true
    · rw [put, if_pos hi, get?_cons, get?_cons]
      by_cases hk : k = .text j
      · have hij : i = .text j := by
          rw [hk] at hi
          exact Scalar.same_text_right.1 hi
        rw [if_pos hij, if_pos hk]
      · have hij : i ≠ .text j := by
          intro hc
          rw [hc] at hi
          exact hk (Scalar.same_text_left.1 hi)
        rw [if_neg hij, if_neg hk, if_neg hij]
    · rw [put, if_neg hi, get?_cons, get?_cons, ih]
      by_cases hk : k = .text j
      · have hij : i ≠ .text j := by
          intro hc
          exact hi (by rw [hc, hk]; exact Scalar.same_text_right.2 rfl)
        rw [if_neg hij, if_pos hk, if_pos hk]
      · rw [if_neg hk, if_neg hk]

/-! ## Values -/

theorem mem_put {m : Mapping} {k : Scalar} {v : Value} {e : Scalar × Value} (h : e ∈ put m k v) :
    e ∈ m ∨ e.2 = v := by
  induction m with
  | nil =>
    rw [put, List.mem_singleton] at h
    exact Or.inr (by rw [h])
  | cons f rest ih =>
    obtain ⟨i, u⟩ := f
    by_cases hi : i.same k = true
    · rw [put, if_pos hi] at h
      rcases List.mem_cons.1 h with rfl | hrest
      · exact Or.inr rfl
      · exact Or.inl (List.mem_cons_of_mem _ hrest)
    · rw [put, if_neg hi] at h
      rcases List.mem_cons.1 h with rfl | hrest
      · exact Or.inl (List.mem_cons_self ..)
      · exact (ih hrest).imp (List.mem_cons_of_mem _) id

/-- What holds of the keys and of the values of a mapping is kept by an entry of which it holds. -/
theorem forall_put {K : Scalar → Prop} {V : Value → Prop} {m : Mapping} {k : Scalar} {v : Value}
    (hm : ∀ e ∈ m, K e.1 ∧ V e.2) (hk : K k) (hv : V v) : ∀ e ∈ put m k v, K e.1 ∧ V e.2 := by
  induction m with
  | nil => exact List.forall_mem_singleton.2 ⟨hk, hv⟩
  | cons f rest ih =>
    obtain ⟨i, u⟩ := f
    obtain ⟨hf, hrest⟩ := List.forall_mem_cons.1 hm
    by_cases hi : i.same k = true
    · rw [put, if_pos hi]
      exact List.forall_mem_cons.2 ⟨⟨hf.1, hv⟩, hrest⟩
    · rw [put, if_neg hi]
      exact List.forall_mem_cons.2 ⟨hf, ih hrest⟩

/-- What holds of the keys and of the values of entries holds of the mapping built from them. -/
theorem forall_ofEntries {K : Scalar → Prop} {V : Value → Prop} {es : List (Scalar × Value)}
    (h : ∀ e ∈ es, K e.1 ∧ V e.2) : ∀ e ∈ ofEntries es, K e.1 ∧ V e.2 := by
  have hfold : ∀ m : Mapping, (∀ e ∈ m, K e.1 ∧ V e.2) →
      ∀ e ∈ es.foldl (fun m e => put m e.1 e.2) m, K e.1 ∧ V e.2 := by
    induction es with
    | nil => exact fun _ hm => hm
    | cons f rest ih =>
      intro m hm
      obtain ⟨hf, hrest⟩ := List.forall_mem_cons.1 h
      exact ih hrest _ (forall_put hm hf.1 hf.2)
  exact hfold [] fun _ he => absurd he List.not_mem_nil

theorem exists_value_of_mem_foldl {es : List (Scalar × Value)} {m : Mapping} {e : Scalar × Value}
    (h : e ∈ es.foldl (fun m e => put m e.1 e.2) m) : e ∈ m ∨ ∃ f ∈ es, f.2 = e.2 := by
  induction es generalizing m with
  | nil => exact Or.inl h
  | cons f rest ih =>
    rcases ih h with hm | ⟨g, hg, hge⟩
    · rcases mem_put hm with hm | hf
      · exact Or.inl hm
      · exact Or.inr ⟨f, List.mem_cons_self .., hf.symm⟩
    · exact Or.inr ⟨g, List.mem_cons_of_mem _ hg, hge⟩

theorem exists_value_of_mem_ofEntries {es : List (Scalar × Value)} {e : Scalar × Value}
    (h : e ∈ ofEntries es) : ∃ f ∈ es, f.2 = e.2 := by
  rcases exists_value_of_mem_foldl h with hm | hf
  · exact absurd hm List.not_mem_nil
  · exact hf

/-! ## First appearances -/

theorem eraseDups_concat (ks : List String) (k : String) :
    (ks ++ [k]).eraseDups = if k ∈ ks then ks.eraseDups else ks.eraseDups ++ [k] := by
  rw [List.eraseDups_append]
  by_cases h : k ∈ ks <;> simp [List.removeAll, List.eraseDups_cons, h]

theorem nodup_eraseDups (ks : List String) : ks.eraseDups.Nodup := by
  induction ks using List.reverseRecOn with
  | nil => exact List.nodup_nil
  | append_singleton ks k ih =>
    rw [eraseDups_concat]
    split
    · exact ih
    · rename_i hk
      refine List.nodup_append.2 ⟨ih, List.pairwise_singleton _ k, fun j hj i hi => ?_⟩
      rw [List.mem_singleton.1 hi]
      exact fun hc => hk (hc ▸ List.mem_eraseDups.1 hj)

/-- What repeats at the end of a list may be erased before what repeats in all of it. -/
theorem eraseDups_append_eraseDups (js ks : List String) :
    (js ++ ks.eraseDups).eraseDups = (js ++ ks).eraseDups := by
  induction ks using List.reverseRecOn with
  | nil => rfl
  | append_singleton ks k ih =>
    rw [← List.append_assoc, eraseDups_concat (js ++ ks), ← ih, eraseDups_concat ks]
    by_cases hk : k ∈ ks
    · rw [if_pos hk, if_pos (List.mem_append_right js hk)]
    · rw [if_neg hk, ← List.append_assoc, eraseDups_concat]
      simp only [List.mem_append, List.mem_eraseDups]

/-! ## More entries -/

/-- A mapping into which more entries were put, in order. -/
def overwrittenBy (m : Mapping) (es : List (Scalar × Value)) : Mapping :=
  es.foldl (fun m e => put m e.1 e.2) m

theorem overwrittenBy_cons (m : Mapping) (e : Scalar × Value) (es : List (Scalar × Value)) :
    m.overwrittenBy (e :: es) = (put m e.1 e.2).overwrittenBy es := rfl

theorem overwrittenBy_append (m : Mapping) (es fs : List (Scalar × Value)) :
    m.overwrittenBy (es ++ fs) = (m.overwrittenBy es).overwrittenBy fs := List.foldl_append

theorem overwrittenBy_concat (m : Mapping) (es : List (Scalar × Value)) (e : Scalar × Value) :
    m.overwrittenBy (es ++ [e]) = put (m.overwrittenBy es) e.1 e.2 := overwrittenBy_append m es [e]

theorem ofEntries_concat (es : List (Scalar × Value)) (e : Scalar × Value) :
    ofEntries (es ++ [e]) = put (ofEntries es) e.1 e.2 := overwrittenBy_concat [] es e

/-- A text key that is there keeps its place, and a new one goes to the end. -/
theorem keys_put {m : Mapping} {ks : List String} (hm : m.map Prod.fst = ks.map Scalar.text) (k : String)
    (v : Value) :
    (put m (.text k) v).map Prod.fst = (if k ∈ ks then ks else ks ++ [k]).map Scalar.text := by
  induction m generalizing ks with
  | nil =>
    cases ks with
    | nil => rfl
    | cons _ _ => cases hm
  | cons e rest ih =>
    obtain ⟨i, u⟩ := e
    cases ks with
    | nil => cases hm
    | cons j ks =>
      obtain ⟨rfl, hrest⟩ := List.cons.inj hm
      rw [put, Scalar.same_text]
      by_cases hj : j = k
      · simp [hj, hrest]
      · rw [if_neg (by simpa using hj), List.map_cons, ih hrest]
        by_cases hk : k ∈ ks <;> simp [hk, Ne.symm hj]

/-- **The keys after more entries**: those that were there and those of the entries, in order of first
appearance. -/
theorem keys_overwrittenBy {m : Mapping} {ks js : List String} {es : List (Scalar × Value)}
    (hm : m.map Prod.fst = ks.eraseDups.map Scalar.text) (hes : es.map Prod.fst = js.map Scalar.text) :
    (m.overwrittenBy es).map Prod.fst = (ks ++ js).eraseDups.map Scalar.text := by
  induction js generalizing m ks es with
  | nil =>
    rw [List.map_eq_nil_iff.1 hes, List.append_nil]
    exact hm
  | cons j js ih =>
    obtain ⟨⟨i, u⟩, es, rfl, rfl, hrest⟩ := List.map_eq_cons_iff.1 hes
    have hput : (put m (.text j) u).map Prod.fst = (ks ++ [j]).eraseDups.map Scalar.text := by
      rw [keys_put hm, eraseDups_concat]
      simp only [List.mem_eraseDups]
    rw [overwrittenBy_cons, ih hput hrest, List.append_assoc, List.singleton_append]

/-- **What is shown after more entries**: what they show alone, or else what was shown before. -/
theorem get?_overwrittenBy (m : Mapping) (es : List (Scalar × Value)) (k : String) :
    get? (m.overwrittenBy es) k = (get? (ofEntries es) k).or (get? m k) := by
  induction es using List.reverseRecOn with
  | nil => rfl
  | append_singleton es e ih =>
    rw [overwrittenBy_concat, ofEntries_concat, get?_put, get?_put, ih]
    by_cases h : e.1 = .text k
    · rw [if_pos h, if_pos h]
      rfl
    · rw [if_neg h, if_neg h]

/-- **The keys of a mapping built from entries**, in order of first appearance. -/
theorem keys_ofEntries (es : List (String × Value)) :
    (ofEntries (es.map fun e => (.text e.1, e.2))).map Prod.fst =
      (es.map Prod.fst).eraseDups.map Scalar.text := by
  have hes : (es.map fun e => (Scalar.text e.1, e.2)).map Prod.fst = (es.map Prod.fst).map Scalar.text := by
    rw [List.map_map, List.map_map]
    rfl
  have hnone : ([] : Mapping).map Prod.fst = ([] : List String).eraseDups.map Scalar.text := rfl
  exact keys_overwrittenBy hnone hes

theorem lookup_map {β γ : Type} (g : β → γ) (es : List (String × β)) (k : String) :
    (es.map fun e => (e.1, g e.2)).lookup k = (es.lookup k).map g := by
  induction es with
  | nil => rfl
  | cons e es ih =>
    rw [List.map_cons, List.lookup_cons, List.lookup_cons]
    cases k == e.1 with
    | true => rfl
    | false => exact ih

/-- **The values of a mapping built from entries**: the last one under each key. -/
theorem get?_ofEntries (es : List (String × Value)) (k : String) :
    get? (ofEntries (es.map fun e => (.text e.1, e.2))) k = es.reverse.lookup k := by
  induction es using List.reverseRecOn with
  | nil => rfl
  | append_singleton es e ih =>
    rw [List.map_append, List.map_singleton, ofEntries_concat, get?_put, ih, List.reverse_concat,
      List.lookup_cons]
    by_cases h : e.1 = k
    · simp [h]
    · rw [if_neg fun hc => h (Scalar.text.inj hc), beq_false_of_ne (Ne.symm h)]

/-! ## Distinct keys -/

theorem get?_of_not_mem {m : Mapping} {ks : List String} (hm : m.map Prod.fst = ks.map Scalar.text)
    {k : String} (hk : k ∉ ks) : get? m k = none := by
  refine get?_eq_none_iff.2 fun e he hc => ?_
  have hmem : Scalar.text k ∈ ks.map Scalar.text := by
    rw [← hm, ← hc]
    exact List.mem_map_of_mem he
  obtain ⟨j, hj, hjk⟩ := List.mem_map.1 hmem
  exact hk (Scalar.text.inj hjk ▸ hj)

/-- A mapping with text keys, none of which stands twice, is known by its keys and by what they show. -/
theorem eq_of_keys {m n : Mapping} {ks : List String} (hks : ks.Nodup)
    (hm : m.map Prod.fst = ks.map Scalar.text) (hn : n.map Prod.fst = ks.map Scalar.text)
    (h : ∀ k, get? m k = get? n k) : m = n := by
  induction ks generalizing m n with
  | nil => rw [List.map_eq_nil_iff.1 hm, List.map_eq_nil_iff.1 hn]
  | cons k ks ih =>
    obtain ⟨⟨i, u⟩, m, rfl, rfl, hm'⟩ := List.map_eq_cons_iff.1 hm
    obtain ⟨⟨j, v⟩, n, rfl, hj, hn'⟩ := List.map_eq_cons_iff.1 hn
    cases hj
    obtain ⟨hk, hks⟩ := List.nodup_cons.1 hks
    have hvalue : u = v := by
      have hshown := h k
      rw [get?_cons, get?_cons, if_pos rfl, if_pos rfl] at hshown
      exact Option.some.inj hshown
    have hrest : ∀ j, get? m j = get? n j := by
      intro j
      by_cases hj : k = j
      · rw [get?_of_not_mem hm' (hj ▸ hk), get?_of_not_mem hn' (hj ▸ hk)]
      · have hne : Scalar.text k ≠ .text j := fun hc => hj (Scalar.text.inj hc)
        have hshown := h j
        rwa [get?_cons, get?_cons, if_neg hne, if_neg hne] at hshown
    rw [hvalue, ih hks hm' hn' hrest]

/-- Entries with text keys, none of which stands twice, show alone what they are. -/
theorem get?_overwrittenBy_of_nodup {n : Mapping} {js : List String} (hjs : js.Nodup)
    (hn : n.map Prod.fst = js.map Scalar.text) (m : Mapping) (k : String) :
    get? (m.overwrittenBy n) k = (get? n k).or (get? m k) := by
  induction js generalizing m n with
  | nil =>
    rw [List.map_eq_nil_iff.1 hn]
    rfl
  | cons j js ih =>
    obtain ⟨⟨i, u⟩, n, rfl, rfl, hrest⟩ := List.map_eq_cons_iff.1 hn
    obtain ⟨hj, hjs⟩ := List.nodup_cons.1 hjs
    rw [overwrittenBy_cons, ih hjs hrest, get?_put, get?_cons]
    by_cases hk : j = k
    · have htext : Scalar.text j = .text k := congrArg Scalar.text hk
      rw [if_pos htext, if_pos htext, get?_of_not_mem hrest (hk ▸ hj)]
      rfl
    · have hne : Scalar.text j ≠ .text k := fun hc => hk (Scalar.text.inj hc)
      rw [if_neg hne, if_neg hne]

/-- **To put the entries of a mapping into another one** is to put all those in that it was built from. -/
theorem overwrittenBy_ofEntries {m : Mapping} {ks : List String}
    (hm : m.map Prod.fst = ks.eraseDups.map Scalar.text) (es : List (String × Value)) :
    m.overwrittenBy (ofEntries (es.map fun e => (.text e.1, e.2))) =
      m.overwrittenBy (es.map fun e => (.text e.1, e.2)) := by
  have hbuilt := keys_ofEntries es
  have hes : (es.map fun e => (Scalar.text e.1, e.2)).map Prod.fst = (es.map Prod.fst).map Scalar.text := by
    rw [List.map_map, List.map_map]
    rfl
  refine eq_of_keys (nodup_eraseDups (ks ++ es.map Prod.fst)) ?_ (keys_overwrittenBy hm hes) fun k => ?_
  · rw [keys_overwrittenBy hm hbuilt, eraseDups_append_eraseDups]
  · rw [get?_overwrittenBy_of_nodup (nodup_eraseDups _) hbuilt, get?_overwrittenBy]

end Mapping

end EdgeRig
