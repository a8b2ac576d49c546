import EdgeRig.Proofs.Outcome
import EdgeRig.Schema.Workers

/-!
# What readers accept

* `Reading.both_eq_ok_iff`, `Reading.within_eq_ok_iff` — a reading of a whole succeeds exactly when the
  readings of its parts do, wherever they stand.
* `Reader.Accepts` — a reader finds nothing wrong with a value; `accepts_text`, `accepts_optional`,
  `accepts_listOf` and `accepts_mappingOf` say which values those are.
* `Reader.listOf_map` — a list is read back if its elements are.
* `Reader.Explains` — a reader gives a reason for every value that it refuses, so that a reading without
  problems has come to a result.
* `Reader.optional_text_eq_ok_iff` — an optional text is read from itself only.
* `AssetBlock.read_iff` — an asset block is read from two optional texts.
-/

namespace EdgeRig

namespace Reading

theorem both_eq_ok_iff {α β : Type} {x : Reading α} {y : Reading β} {p : α × β} :
    both x y = .ok p ↔ x = .ok p.1 ∧ y = .ok p.2 := by
  obtain ⟨a, c⟩ := p
  cases x <;> cases y <;> simp [both]

theorem within_eq_ok_iff {α : Type} {x : Reading α} {place : Place} {a : α} :
    x.within place = .ok a ↔ x = .ok a := by
  cases x <;> simp [within]

/-- Many readings succeed together. -/
theorem exists_all_iff {α : Type} {xs : List (Reading α)} :
    (∃ as, all xs = .ok as) ↔ ∀ x ∈ xs, ∃ a, x = .ok a := by
  induction xs with
  | nil => exact ⟨fun _ _ hx => absurd hx List.not_mem_nil, fun _ => ⟨[], rfl⟩⟩
  | cons x xs ih =>
    rw [List.forall_mem_cons, ← ih]
    simp only [all, Except.map_eq_ok_iff, both_eq_ok_iff, Prod.exists]
    constructor
    · rintro ⟨_, a, as, ⟨hx, hxs⟩, -⟩
      exact ⟨⟨a, hx⟩, as, hxs⟩
    · rintro ⟨⟨a, hx⟩, as, hxs⟩
      exact ⟨_, a, as, ⟨hx, hxs⟩, rfl⟩

end Reading

/-! ## Accepted values -/

namespace Reader

/-- The reader finds nothing wrong with the value. -/
def Accepts {α : Type} (r : Reader α) (v : Value) : Prop := ∃ a, r v = .ok a

variable {α : Type} {r : Reader α} {v : Value}

theorem accepts_any (v : Value) : Accepts any v := ⟨v, rfl⟩

theorem accepts_text : Accepts text v ↔ ∃ t, v = .text t := by
  constructor
  · rintro ⟨t, h⟩
    unfold text at h
    split at h
    · exact ⟨_, rfl⟩
    · cases h
  · rintro ⟨t, rfl⟩
    exact ⟨t, rfl⟩

theorem accepts_optional : Accepts (optional r) v ↔ v = .null ∨ Accepts r v := by
  unfold Accepts optional
  constructor
  · rintro ⟨o, h⟩
    split at h
    · rename_i hv
      exact Or.inl (Value.isNull_iff.1 hv)
    · obtain ⟨a, ha, -⟩ := Except.map_eq_ok_iff.1 h
      exact Or.inr ⟨a, ha⟩
  · rintro (rfl | ⟨a, ha⟩)
    · exact ⟨none, rfl⟩
    · split
      · exact ⟨none, rfl⟩
      · exact ⟨some a, by rw [ha]; rfl⟩

theorem accepts_items {vs : List Value} {i : Nat} :
    (∀ x ∈ items r i vs, ∃ a, x = .ok a) ↔ ∀ u ∈ vs, Accepts r u := by
  induction vs generalizing i with
  | nil => simp [items]
  | cons u vs ih => simp [items, ih, Reading.within_eq_ok_iff, Accepts]

theorem accepts_listOf : Accepts (listOf r) v ↔ ∃ vs, v = .list vs ∧ ∀ u ∈ vs, Accepts r u := by
  constructor
  · rintro ⟨as, h⟩
    unfold listOf at h
    split at h
    · rename_i vs
      exact ⟨vs, rfl, accepts_items.1 (Reading.exists_all_iff.1 ⟨as, h⟩)⟩
    · cases h
  · rintro ⟨vs, rfl, hvs⟩
    exact Reading.exists_all_iff.2 (accepts_items.2 hvs)

theorem entryKey_eq_ok_iff {k : Scalar} {s : String} : entryKey k = .ok s ↔ k = .text s := by
  cases k <;> simp [entryKey, Reading.refuse, Reading.within]

theorem accepts_mappingOf : Accepts (mappingOf r) v ↔
    ∃ m, v = .map m ∧ ∀ e ∈ m, (∃ k, e.1 = .text k) ∧ Accepts r e.2 := by
  have hentry : ∀ e : Scalar × Value,
      (∃ p, Reading.both (entryKey e.1) ((r e.2).within (.key e.1)) = .ok p) ↔
        (∃ k, e.1 = .text k) ∧ Accepts r e.2 := by
    intro e
    simp only [Reading.both_eq_ok_iff, Reading.within_eq_ok_iff, entryKey_eq_ok_iff, Prod.exists,
      Accepts, exists_and_left, exists_and_right]
  constructor
  · rintro ⟨as, h⟩
    unfold mappingOf at h
    split at h
    · rename_i m
      refine ⟨m, rfl, fun e he => (hentry e).1 ?_⟩
      exact Reading.exists_all_iff.1 ⟨as, h⟩ _ (List.mem_map_of_mem he)
    · cases h
  · rintro ⟨m, rfl, hm⟩
    refine Reading.exists_all_iff.2 fun x hx => ?_
    obtain ⟨e, he, rfl⟩ := List.mem_map.1 hx
    exact (hentry e).2 (hm e he)

/-- The entry that is found goes by one of the names. -/
theorem mem_of_entry? {m : Mapping} {names : List String} {e : String × Value}
    (h : entry? m names = some e) : e.1 ∈ names := by
  induction names with
  | nil => cases h
  | cons n names ih =>
    unfold entry? at h
    split at h
    · cases h
      exact List.mem_cons_self ..
    · exact List.mem_cons_of_mem _ (ih h)

/-- A list is read back if its elements are. -/
theorem listOf_map {shown : α → Value} {as : List α} (h : ∀ a ∈ as, r (shown a) = .ok a) :
    listOf r (.list (as.map shown)) = .ok as := by
  have hall : ∀ i, Reading.all (items r i (as.map shown)) = .ok as := by
    induction as with
    | nil => exact fun _ => rfl
    | cons a as ih =>
      intro i
      obtain ⟨ha, has⟩ := List.forall_mem_cons.1 h
      rw [List.map_cons, items, ha, Reading.all, ih has]
      rfl
  exact hall 0

end Reader

/-! ## Refusals -/

/-- The reading comes to a result, or there is a problem that stands against it. -/
def Reading.Explained {α : Type} (x : Reading α) : Prop := x.problems = [] → ∃ a, x = .ok a

/-- The reader gives a reason for every value that it refuses. -/
def Reader.Explains {α : Type} (r : Reader α) : Prop := ∀ v, (r v).Explained

namespace Reading

variable {α β : Type} {x : Reading α} {y : Reading β}

theorem explained_ok (a : α) : Explained (.ok a) := fun _ => ⟨a, rfl⟩

theorem explained_refuse (kind : ProblemKind) : (refuse kind : Reading α).Explained := nofun

theorem Explained.map (h : x.Explained) (f : α → β) : Explained (Except.map f x) := by
  cases x with
  | ok a => exact explained_ok (f a)
  | error ps =>
    intro hps
    obtain ⟨a, ha⟩ := h hps
    cases ha

theorem Explained.bind {f : α → Reading β} (h : x.Explained) (hf : ∀ a, (f a).Explained) :
    Explained (x >>= f) := by
  cases x with
  | ok a => exact hf a
  | error ps =>
    intro hps
    obtain ⟨a, ha⟩ := h hps
    cases ha

theorem Explained.within (h : x.Explained) (place : Place) : (x.within place).Explained := by
  cases x with
  | ok a => exact explained_ok a
  | error ps =>
    intro hps
    obtain ⟨a, ha⟩ := h (List.map_eq_nil_iff.1 hps)
    cases ha

theorem Explained.both (hx : x.Explained) (hy : y.Explained) : (Reading.both x y).Explained := by
  have hsum : (Reading.both x y).problems = x.problems ++ y.problems := by
    cases x <;> cases y <;> rfl
  intro hnone
  rw [hsum, List.append_eq_nil_iff] at hnone
  obtain ⟨a, rfl⟩ := hx hnone.1
  obtain ⟨b, rfl⟩ := hy hnone.2
  exact ⟨(a, b), rfl⟩

theorem explained_all {xs : List (Reading α)} (h : ∀ x ∈ xs, x.Explained) : (all xs).Explained := by
  induction xs with
  | nil => exact explained_ok []
  | cons x xs ih =>
    obtain ⟨hx, hxs⟩ := List.forall_mem_cons.1 h
    exact (hx.both (ih hxs)).map _

end Reading

namespace Reader

variable {α : Type} {r : Reader α}

theorem explains_any : Explains any := Reading.explained_ok

theorem explains_text : Explains text := by
  intro v
  unfold text
  split
  · exact Reading.explained_ok _
  · exact Reading.explained_refuse _

theorem explains_truth : Explains truth := by
  have hzeroOne : ∀ n, (ofZeroOne n).Explained := by
    intro n
    unfold ofZeroOne
    split
    · exact Reading.explained_ok _
    · split
      · exact Reading.explained_ok _
      · exact Reading.explained_refuse _
  intro v
  unfold truth
  split
  · exact Reading.explained_ok _
  · split
    · exact hzeroOne _
    · exact Reading.explained_refuse _
  · split
    · exact hzeroOne _
    · exact Reading.explained_refuse _
  · split
    · exact Reading.explained_ok _
    · exact Reading.explained_refuse _
  · exact Reading.explained_refuse _

theorem Explains.optional (h : r.Explains) : Explains (Reader.optional r) := by
  intro v
  unfold Reader.optional
  split
  · exact Reading.explained_ok none
  · exact (h v).map _

theorem Explains.listOf (h : r.Explains) : Explains (Reader.listOf r) := by
  have hitems : ∀ (vs : List Value) (i : Nat), ∀ x ∈ items r i vs, x.Explained := by
    intro vs
    induction vs with
    | nil => exact fun _ _ hx => absurd hx List.not_mem_nil
    | cons v vs ih => exact fun i => List.forall_mem_cons.2 ⟨(h v).within _, ih (i + 1)⟩
  intro v
  unfold Reader.listOf
  split
  · exact Reading.explained_all (hitems _ 0)
  · exact Reading.explained_refuse _

theorem Explains.mappingOf (h : r.Explains) : Explains (Reader.mappingOf r) := by
  have hkey : ∀ k, (entryKey k).Explained := by
    intro k
    cases k with
    | text s => exact Reading.explained_ok s
    | _ => exact ((Reading.explained_refuse _).within _).within _
  intro v
  unfold Reader.mappingOf
  split
  · refine Reading.explained_all fun x hx => ?_
    obtain ⟨e, -, rfl⟩ := List.mem_map.1 hx
    exact (hkey e.1).both ((h e.2).within _)
  · exact Reading.explained_refuse _

theorem explained_field {m : Mapping} {names : List String} {absent : Reading α}
    (habsent : absent.Explained) (h : r.Explains) : (field m names absent r).Explained := by
  unfold field
  split
  · exact habsent
  · exact (h _).within _

theorem explains_record (schema : Schema) : Explains (record schema) := by
  intro v
  unfold record
  split
  · exact Reading.explained_ok _
  · exact Reading.explained_refuse _

end Reader

/-! ## Texts and asset blocks -/

theorem AssetBlock.explains_read : AssetBlock.read.Explains := by
  intro v
  have hfield : ∀ (m : Mapping) (n : String),
      (Reader.field m [n] (.ok none) (Reader.optional Reader.text)).Explained := fun _ _ =>
    Reader.explained_field (Reading.explained_ok none) Reader.explains_text.optional
  exact (Reader.explains_record _ v).bind fun m => ((hfield m _).both (hfield m _)).map _

theorem Reader.run_eq_ok_iff {α : Type} {schema : Schema} {r : Reader α} {v : Value} {a : α} :
    Reader.run schema r v = .ok a ↔ r v = .ok a := by
  unfold Reader.run
  cases r v <;> simp

/-- An optional text is read from itself only. -/
theorem Reader.optional_text_eq_ok_iff {v : Value} {o : Option String} :
    Reader.optional Reader.text v = .ok o ↔ v = Value.ofText? o := by
  constructor
  · intro h
    unfold Reader.optional at h
    cases v with
    | scalar k =>
      cases k with
      | null =>
        cases h
        rfl
      | text t =>
        cases h
        rfl
      | _ => cases h
    | list items => cases h
    | map entries => cases h
  · rintro rfl
    cases o <;> rfl

/-- An asset block is read from two texts, either of which may be missing. -/
theorem AssetBlock.read_iff {x y : Value} {a : AssetBlock} :
    AssetBlock.read (Value.record [("binding", x), ("directory", y)]) = .ok a ↔
      x = Value.ofText? a.binding ∧ y = Value.ofText? a.directory := by
  have hread : AssetBlock.read (Value.record [("binding", x), ("directory", y)]) =
      (Reading.both ((Reader.optional Reader.text x).within (.field "binding"))
        ((Reader.optional Reader.text y).within (.field "directory"))).map
          fun p => AssetBlock.mk p.1 p.2 := rfl
  simp only [hread, Except.map_eq_ok_iff, Reading.both_eq_ok_iff, Reading.within_eq_ok_iff,
    Reader.optional_text_eq_ok_iff, Prod.exists]
  constructor
  · rintro ⟨o, q, ⟨hx, hy⟩, rfl⟩
    exact ⟨hx, hy⟩
  · rintro ⟨hx, hy⟩
    exact ⟨a.binding, a.directory, ⟨hx, hy⟩, rfl⟩

end EdgeRig
