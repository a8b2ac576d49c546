import EdgeRig.Proofs.AssetRouting.Course
import EdgeRig.Proofs.Mapping

/-!
# The parts of routing

What each part of routing does, and when it stops.

* `AssetRouting.checkNames_eq_ok_iff` — the check passes exactly when every name can be looked for and
  none is reserved; `AssetRouting.checkNames_error` names the first worker that it stops at.
* `AssetRouting.Unreserved` — nobody carries a reserved name; so it is once the check has passed.
* `AssetRouting.rebind_of_holds` — a worker with service bindings gets the one that its asset block
  asks for; `AssetRouting.rebind_ok` — and whatever it holds, nothing else of it changes.
* `AssetRouting.Continues` — what the first worker becomes: its asset block is gone, and its service
  bindings are the old ones with the one to the store.
* `AssetRouting.inherit_ok`, `AssetRouting.inherit_error_iff` — handing on the compatibility settings
  writes two fields, and stops exactly at flags that cannot be gone through.
* `AssetRouting.added_ok` — so the router and the store are known up to these two fields.
* `AssetRouting.workers_of_apply` — and with them all workers that routing ends with.
-/

namespace EdgeRig

namespace AssetRouting

/-! ## The check of the names -/

/-- The name of a worker can be looked for and is not reserved. -/
def Passes (w : Worker) : Prop := ∃ k, w.cell .name = .plain (.scalar k) ∧ ∀ n ∈ reserved, k ≠ .text n

/-- What the check does at one worker. -/
theorem checkNames_cons (w : Worker) (ws : List Worker) :
    (Passes w ∧ checkNames (w :: ws) = checkNames ws) ∨
      (∃ n ∈ reserved, w.HasName n ∧
        checkNames (w :: ws) = .error (.failure (.reservedName (.text n)))) ∨
      (∀ k, w.cell .name ≠ .plain (.scalar k)) ∧ checkNames (w :: ws) = .error .unusableKey := by
  rw [checkNames]
  split
  · rename_i n hn
    by_cases hr : reserved.contains n = true
    · rw [if_pos hr]
      exact Or.inr (Or.inl ⟨n, List.contains_iff_mem.1 hr, hn, rfl⟩)
    · rw [if_neg hr]
      refine Or.inl ⟨⟨.text n, hn, fun m hm hc => hr ?_⟩, rfl⟩
      cases hc
      exact List.contains_iff_mem.2 hm
  · rename_i k hk hn
    exact Or.inl ⟨⟨k, hn, fun m _ hc => hk m hc⟩, rfl⟩
  · rename_i hk
    exact Or.inr (Or.inr ⟨fun k hc => hk k hc, rfl⟩)

theorem checkNames_eq_ok_iff {ws : List Worker} : checkNames ws = .ok () ↔ ∀ w ∈ ws, Passes w := by
  induction ws with
  | nil => exact ⟨fun _ w hw => absurd hw List.not_mem_nil, fun _ => rfl⟩
  | cons w ws ih =>
    rw [List.forall_mem_cons, ← ih]
    rcases checkNames_cons w ws with ⟨hp, h⟩ | ⟨n, hr, hn, h⟩ | ⟨hk, h⟩
    · rw [h]
      exact ⟨fun hok => ⟨hp, hok⟩, fun hok => hok.2⟩
    · rw [h]
      refine ⟨fun hc => (by cases hc), fun ⟨⟨k, hk, hne⟩, _⟩ => absurd ?_ (hne n hr)⟩
      have : Cell.plain (.scalar k) = Cell.plain (.text n) := hk.symm.trans hn
      cases this
      rfl
    · rw [h]
      exact ⟨fun hc => (by cases hc), fun ⟨⟨k, hc, _⟩, _⟩ => absurd hc (hk k)⟩

/-- The check stops at the first worker that does not pass. -/
theorem checkNames_error {ws : List Worker} {f : Fault} (h : checkNames ws = .error f) :
    ∃ front w rest, ws = front ++ w :: rest ∧ (∀ v ∈ front, Passes v) ∧
      ((∃ n ∈ reserved, w.HasName n ∧ f = .failure (.reservedName (.text n))) ∨
        (∀ k, w.cell .name ≠ .plain (.scalar k)) ∧ f = .unusableKey) := by
  induction ws with
  | nil => cases h
  | cons w ws ih =>
    rcases checkNames_cons w ws with ⟨hp, hw⟩ | ⟨n, hr, hn, hw⟩ | ⟨hk, hw⟩
    · obtain ⟨front, v, rest, rfl, hfront, hv⟩ := ih (hw ▸ h)
      exact ⟨w :: front, v, rest, rfl, List.forall_mem_cons.2 ⟨hp, hfront⟩, hv⟩
    · cases hw.symm.trans h
      exact ⟨[], w, ws, rfl, fun _ hv => absurd hv List.not_mem_nil, Or.inl ⟨n, hr, hn, rfl⟩⟩
    · cases hw.symm.trans h
      exact ⟨[], w, ws, rfl, fun _ hv => absurd hv List.not_mem_nil, Or.inr ⟨hk, rfl⟩⟩

/-- A worker that passes the check carries neither of the names of the added workers. -/
theorem Passes.ne {v w : Worker} {n : String} (hv : Passes v) (hw : w.HasName n) (hn : n ∈ reserved) :
    w.cell .name ≠ v.cell .name := by
  obtain ⟨k, hk, hne⟩ := hv
  intro hc
  refine hne n hn ?_
  have : Cell.plain (.scalar k) = Cell.plain (.text n) := hk.symm.trans (hc.symm.trans hw)
  cases this
  rfl

/-- No worker carries the name of an added worker. -/
def Unreserved (ws : List Worker) : Prop := ∀ w ∈ ws, ∀ n ∈ reserved, ¬ w.HasName n

theorem unreserved_of_passes {ws : List Worker} (h : ∀ w ∈ ws, Passes w) : Unreserved ws :=
  fun w hw _ hn hc => (h w hw).ne hc hn rfl

theorem originName_ok {w : Worker} {n : String} (h : originName w = .ok n) : w.HasName n := by
  unfold originName at h
  split at h
  · rename_i m hm
    cases h
    exact Worker.isNamed_iff.1 (by rw [Worker.isNamed, hm]; exact beq_self_eq_true _)
  · cases h

/-! ## The binding to the store -/

/-- Service bindings with the one that an asset block asks for.  An empty name binds nothing. -/
def withBlock (m : Mapping) (b : AssetBlock) : Mapping :=
  match b.binding with
  | none => m
  | some n => if n = "" then m else Mapping.put m (.text n) (.text storeName)

theorem mem_withBlock {m : Mapping} {b : AssetBlock} {e : Scalar × Value} (h : e ∈ withBlock m b) :
    e ∈ m ∨ e.2 = .text storeName := by
  unfold withBlock at h
  split at h
  · exact Or.inl h
  · split at h
    · exact Or.inl h
    · exact Mapping.mem_put h

/-- A binding keeps its target, unless the asset block binds the same name. -/
theorem get?_withBlock (m : Mapping) (b : AssetBlock) (k : String) :
    Mapping.get? (withBlock m b) k =
      if b.binding = some k ∧ k ≠ "" then some (.text storeName) else Mapping.get? m k := by
  unfold withBlock
  split
  · rename_i hn
    rw [if_neg (by rw [hn]; simp)]
  · rename_i n hn
    simp only [hn, Option.some.injEq]
    by_cases hk : n = k
    · subst hk
      by_cases he : n = ""
      · rw [if_pos he, if_neg fun hc => hc.2 he]
      · rw [if_neg he, if_pos ⟨rfl, he⟩, Mapping.get?_put, if_pos rfl]
    · simp only [hk, false_and, if_false]
      by_cases he : n = ""
      · rw [if_pos he]
      · rw [if_neg he, Mapping.get?_put, if_neg fun hc => hk (Scalar.text.inj hc)]

/-- The bindings of a worker can be read as a mapping. -/
theorem toMapping_of_holds {w : Worker} {m : Mapping} (h : w.HoldsBindings m) :
    ∃ v, w.cell .serviceBindings = .plain v ∧
      (if v.isTruthy then v else .map []).toMapping = .ok m := by
  rcases h with ⟨hw, rfl⟩ | hw
  · exact ⟨.null, hw, rfl⟩
  · refine ⟨.map m, hw, ?_⟩
    cases m with
    | nil => rfl
    | cons e rest => rfl

theorem unnamed_or_named (b : AssetBlock) :
    (b.binding = none ∨ b.binding = some "") ∨ ∃ k, b.binding = some k ∧ k ≠ "" := by
  cases hb : b.binding with
  | none => exact Or.inl (Or.inl rfl)
  | some k =>
    by_cases hk : k = ""
    · exact Or.inl (Or.inr (congrArg some hk))
    · exact Or.inr ⟨k, rfl, hk⟩

/-- A block without a name leaves the first worker as it is. -/
theorem rebind_unnamed {main : Worker} {b : AssetBlock} (h : b.binding = none ∨ b.binding = some "") :
    rebind main b = .ok main := by
  rcases h with h | h
  · simp only [rebind, h]
  · simp only [rebind, h, if_pos]

/-- A block with a name binds it to the store. -/
theorem rebind_named {main : Worker} {m : Mapping} {b : AssetBlock} {k : String}
    (hm : main.HoldsBindings m) (hb : b.binding = some k) (hk : k ≠ "") :
    rebind main b = .ok (main.set .serviceBindings
      (.plain (.map (Mapping.put m (.text k) (.text storeName))))) := by
  obtain ⟨v, hv, hread⟩ := toMapping_of_holds hm
  simp only [rebind, hb, if_neg hk, withStore, hv, hread]
  rfl

/-- Binding the first worker to the store writes its service bindings and nothing else. -/
theorem rebind_ok {main bound : Worker} {b : AssetBlock} (h : rebind main b = .ok bound) :
    bound.AgreesOutside [.serviceBindings] main ∧ ∀ k, bound.note k = main.note k := by
  unfold rebind at h
  split at h
  · cases h
    exact ⟨fun _ _ => rfl, fun _ => rfl⟩
  · split at h
    · cases h
      exact ⟨fun _ _ => rfl, fun _ => rfl⟩
    · unfold withStore at h
      split at h
      · cases h
      · obtain ⟨m, -, h⟩ := Except.bind_eq_ok_iff.1 h
        cases h
        exact ⟨fun f hf => Worker.cell_set_of_ne _ _ (by simpa using hf), fun _ => rfl⟩

/-- **The first worker gets the binding that its asset block asks for, and nothing else.** -/
theorem rebind_of_holds {main : Worker} {m : Mapping} (b : AssetBlock) (h : main.HoldsBindings m) :
    ∃ bound, rebind main b = .ok bound ∧ bound.HoldsBindings (withBlock m b) ∧
      bound.AgreesOutside [.serviceBindings] main := by
  rcases unnamed_or_named b with hb | ⟨k, hb, hk⟩
  · have hm : withBlock m b = m := by
      rcases hb with hb | hb <;> simp [withBlock, hb]
    exact ⟨main, rebind_unnamed hb, hm.symm ▸ h, fun _ _ => rfl⟩
  · have hm : withBlock m b = Mapping.put m (.text k) (.text storeName) := by simp [withBlock, hb, hk]
    have hbound := rebind_named h hb hk
    exact ⟨_, hbound, hm.symm ▸ Or.inr (Worker.cell_set_self ..), (rebind_ok hbound).1⟩

/-! ## The worker behind the router -/

theorem cell_of_cleared (main : Worker) {f : WorkerField} (hf : f ≠ .assets) :
    (cleared main).cell f = main.cell f := Worker.cell_set_of_ne _ _ hf

theorem name_of_rebind {main bound : Worker} {b : AssetBlock} (h : rebind (cleared main) b = .ok bound) :
    bound.cell .name = main.cell .name :=
  ((rebind_ok h).1 .name (by decide)).trans (cell_of_cleared main (by decide))

/-- A worker that holds bindings takes the binding to the store. -/
theorem rebind_cleared {main : Worker} {m : Mapping} (b : AssetBlock) (h : main.HoldsBindings m) :
    ∃ bound, rebind (cleared main) b = .ok bound ∧ bound.HoldsBindings (withBlock m b) ∧
      bound.cell .assets = .empty ∧ bound.AgreesOutside [.assets, .serviceBindings] main := by
  have hcleared : (cleared main).HoldsBindings m := by
    rwa [Worker.HoldsBindings, cell_of_cleared main (by decide)]
  obtain ⟨bound, hb, hholds, hagrees⟩ := rebind_of_holds b hcleared
  refine ⟨bound, hb, hholds, (hagrees .assets (by decide)).trans (Worker.cell_set_self ..), ?_⟩
  intro f hf
  simp only [List.mem_cons, List.not_mem_nil, or_false, not_or] at hf
  rw [hagrees f (by simpa using hf.2), cell_of_cleared main hf.1]

/-- The asset block of the worker takes a service binding over. -/
def TakesOver (w : Worker) (k : String) : Prop :=
  ∃ b, w.cell .assets = .block b ∧ b.binding = some k ∧ k ≠ ""

/-- The worker `w` is what has become of `head`: it has no asset block, and its service bindings are
those of `head`, apart from the one that the asset block takes over, which leads to the store. -/
structure Continues (w head : Worker) : Prop where
  agrees : w.AgreesOutside [.assets, .serviceBindings] head
  cleared : w.cell .assets = .empty
  binds : ∀ k t, w.Binds k t ↔ TakesOver head k ∧ t = storeName ∨ ¬ TakesOver head k ∧ head.Binds k t

theorem continues_self {w : Worker} (h : w.cell .assets = .empty) : Continues w w where
  agrees := fun _ _ => rfl
  cleared := h
  binds := by
    have hk : ∀ k, ¬ TakesOver w k := by
      rintro k ⟨b, hb, -⟩
      cases h.symm.trans hb
    intro k t
    simp [hk k]

theorem continues_of_rebind {main bound : Worker} {m : Mapping} {b : AssetBlock}
    (hblock : main.cell .assets = .block b) (hm : main.HoldsBindings m)
    (hholds : bound.HoldsBindings (withBlock m b)) (hcleared : bound.cell .assets = .empty)
    (hagrees : bound.AgreesOutside [.assets, .serviceBindings] main) : Continues bound main where
  agrees := hagrees
  cleared := hcleared
  binds := by
    intro k t
    have hk : TakesOver main k ↔ b.binding = some k ∧ k ≠ "" := by
      refine ⟨fun ⟨b', hb', h⟩ => ?_, fun h => ⟨b, hblock, h⟩⟩
      cases hblock.symm.trans hb'
      exact h
    rw [Worker.binds_iff hholds, Worker.binds_iff hm, hk, get?_withBlock]
    by_cases h : b.binding = some k ∧ k ≠ ""
    · rw [if_pos h]
      simp [h, Value.text, eq_comm]
    · rw [if_neg h]
      simp only [h, false_and, not_false_eq_true, true_and, false_or]

/-! ## The compatibility settings -/

/-- The compatibility flags of a worker can be handed on: there are none, or they can be gone
through. -/
def FlagsListed (w : Worker) : Prop :=
  ∃ v, w.cell .compatibilityFlags = .plain v ∧ (v = .null ∨ ∃ flags, v.elements? = some flags)

theorem inherit_ok {main w w' : Worker} (h : inherit main w = .ok w') :
    w'.AgreesOutside [.compatibilityDate, .compatibilityFlags] w := by
  have hdate : ∀ f, f ∉ [WorkerField.compatibilityDate, .compatibilityFlags] →
      (if (main.cell .compatibilityDate).isEmpty then w
        else w.set .compatibilityDate (main.cell .compatibilityDate)).cell f = w.cell f := by
    intro f hf
    simp only [List.mem_cons, List.not_mem_nil, or_false, not_or] at hf
    split
    · rfl
    · exact if_neg hf.1
  intro f hf
  rw [← hdate f hf]
  simp only [List.mem_cons, List.not_mem_nil, or_false, not_or] at hf
  unfold inherit at h
  dsimp only at h
  split at h
  · cases h
    rfl
  · cases h
  · obtain ⟨flags, -, rfl⟩ := Except.map_eq_ok_iff.1 h
    exact if_neg hf.2

theorem elements_eq_error_iff {v : Value} {f : Fault} :
    v.elements = .error f ↔ f = .notIterable ∧ v.elements? = none := by
  unfold Value.elements
  cases v.elements? with
  | some items => simp
  | none => simp [eq_comm]

/-- Handing on the settings stops exactly at flags that cannot be gone through. -/
theorem inherit_error_iff {main w : Worker} {f : Fault} :
    inherit main w = .error f ↔ f = .notIterable ∧ ¬ FlagsListed main := by
  unfold inherit FlagsListed
  dsimp only
  split
  · rename_i hn
    simp [hn]
  · rename_i b hb
    simp [hb, eq_comm]
  · rename_i v hv hp
    rw [Except.map_eq_error_iff, elements_eq_error_iff]
    have hne : v ≠ .null := fun hc => hv hc
    cases he : v.elements? with
    | some items => simp [hp, he]
    | none => simp [hp, he, hne]

theorem inherit_of_added {main t r : Worker} {b : AssetBlock} {origin : String}
    (h : added main b origin = .ok (t, r)) :
    inherit main (store b.directory) = .ok t ∧ inherit main (router origin) = .ok r := by
  obtain ⟨t', ht, h⟩ := Except.bind_eq_ok_iff.1 h
  obtain ⟨r', hr, h⟩ := Except.bind_eq_ok_iff.1 h
  cases h
  exact ⟨ht, hr⟩

theorem added_ok {main store' router' : Worker} {b : AssetBlock} {origin : String}
    (h : added main b origin = .ok (store', router')) :
    store'.AgreesOutside [.compatibilityDate, .compatibilityFlags] (store b.directory) ∧
      router'.AgreesOutside [.compatibilityDate, .compatibilityFlags] (router origin) := by
  obtain ⟨hs, hr⟩ := inherit_of_added h
  exact ⟨inherit_ok hs, inherit_ok hr⟩

theorem added_error {main : Worker} {b : AssetBlock} {origin : String} {f : Fault}
    (h : added main b origin = .error f) : f = .notIterable ∧ ¬ FlagsListed main := by
  rcases Except.bind_eq_error_iff.1 h with hs | ⟨s, -, h⟩
  · exact inherit_error_iff.1 hs
  · rcases Except.bind_eq_error_iff.1 h with hr | ⟨r, -, h⟩
    · exact inherit_error_iff.1 hr
    · cases h

/-! ## The workers afterwards -/

/-- **What becomes of the workers.**  When routing ends well, the first worker goes on and the others
stay; whoever is new is the router, or the store of the directory that the first worker had in its asset
block. -/
theorem workers_of_apply {head : Worker} {others : List Worker} {m : Mapping}
    (hm : head.HoldsBindings m) (hok : (apply (head :: others)).outcome.result = .ok ()) :
    ∃ bound ∈ (apply (head :: others)).workers, Continues bound head ∧
      ∀ w ∈ (apply (head :: others)).workers, w = bound ∨ w ∈ others ∨
        (∃ origin, w.AgreesOutside [.compatibilityDate, .compatibilityFlags] (router origin)) ∨
        ∃ b, head.cell .assets = .block b ∧
          w.AgreesOutside [.compatibilityDate, .compatibilityFlags] (store b.directory) := by
  rcases apply_ok hok with ⟨hnone, hws⟩ | ⟨b, origin, bound, t, r, hblock, -, -, hb, ha, hws⟩
  · rw [hws]
    refine ⟨head, List.mem_cons_self .., continues_self hnone, ?_⟩
    exact List.forall_mem_cons.2 ⟨Or.inl rfl, fun w hw => Or.inr (Or.inl hw)⟩
  · obtain ⟨bound', hb', hholds, hcleared, hagrees⟩ := rebind_cleared b hm
    cases hb.symm.trans hb'
    obtain ⟨ht, hr⟩ := added_ok ha
    rw [hws]
    refine ⟨bound, by simp, continues_of_rebind hblock hm hholds hcleared hagrees, ?_⟩
    intro w hw
    simp only [List.mem_cons] at hw
    rcases hw with rfl | rfl | rfl | hw
    · exact Or.inr (Or.inr (Or.inl ⟨origin, hr⟩))
    · exact Or.inr (Or.inr (Or.inr ⟨b, hblock, ht⟩))
    · exact Or.inl rfl
    · exact Or.inr (Or.inl hw)

end AssetRouting

end EdgeRig
