import EdgeRig.Proofs.AssetRouting.Atomicity
import EdgeRig.WorkerEdit
import Mathlib.Data.List.Induction
import Mathlib.Data.List.Perm.Basic

/-!
# Routing between edits

A caller may edit the workers of a configuration and route them, over and over and in any order.  However
far the edits take the list from what a configuration holds, there is never a second router or a second
store in it, as long as no edit brings one in; and routing that has ended well can be repeated without
effect.

* `AssetRouting.carriers` counts the workers of a name, `AssetRouting.Single` says that each reserved name
  has one at most.
* `AssetRouting.Edit` — the edits of a list, those that no schema checks included;
  `AssetRouting.Edit.Gives` — an edit that gives a worker a name.
* `AssetRouting.carriers_of_edit`, `AssetRouting.single_apply` — what one edit and what routing keeps.
* `AssetRouting.apply_again` — routing once more.
* `AssetRouting.single_after` — a whole run of edits and routing.
-/

namespace EdgeRig

namespace AssetRouting

/-! ## Runs of edits -/

/-- How many workers carry this name? -/
def carriers (ws : List Worker) (n : String) : Nat := ws.countP fun w => w.isNamed n

/-- Each reserved name is carried by one worker at most. -/
def Single (ws : List Worker) : Prop := ∀ n ∈ reserved, carriers ws n ≤ 1

/-- One edit of a list of workers. -/
inductive Edit where
  /-- An edit that takes values. -/
  | listed (e : WorkerEdit)
  /-- Write a cell, without a check of what is written. -/
  | write (index : Int) (f : WorkerField) (c : Cell)
  /-- Insert a worker, without a check of its cells. -/
  | place (index : Int) (w : Worker)
  /-- Take a worker out and insert it elsewhere. -/
  | move (source target : Int)

namespace Edit

def apply (e : Edit) (ws : List Worker) : Except Fault (List Worker) :=
  match e with
  | listed e => e.apply ws
  | write index f c => WorkerEdit.change ws index fun w => .ok (w.set f c)
  | place index w => .ok (ws.insertIdx (WorkerEdit.gap ws.length index) w)
  | move source target =>
      match WorkerEdit.place? ws.length source with
      | none => .error .noSuchWorker
      | some i =>
          match ws[i]? with
          | none => .error .noSuchWorker
          | some w =>
              let rest := ws.eraseIdx i
              .ok (rest.insertIdx (WorkerEdit.gap rest.length target) w)

/-- The edit writes this name, or inserts a worker that carries it. -/
def Bears (e : Edit) (n : String) : Prop :=
  match e with
  | listed (.setField _ field value) => field = WorkerField.name.key ∧ value = .text n
  | listed (.insert _ value) => ∃ w, Reader.run .worker Worker.read value = .ok w ∧ w.HasName n
  | write _ f c => f = .name ∧ c = .plain (.text n)
  | place _ w => w.HasName n
  | _ => False

/-- The edit can be made, and gives a worker this name. -/
def Gives (e : Edit) (ws : List Worker) (n : String) : Prop := (∃ ws', e.apply ws = .ok ws') ∧ e.Bears n

end Edit

/-- One deed of a caller. -/
inductive Deed where
  | route
  | edit (e : Edit)

/-- The workers after a deed.  An edit that fails changes nothing, and routing that fails leaves what it
has done until then. -/
def Deed.apply (d : Deed) (ws : List Worker) : List Worker :=
  match d with
  | route => (AssetRouting.apply ws).workers
  | edit e =>
      match e.apply ws with
      | .ok ws' => ws'
      | .error _ => ws

/-- The workers after a run of deeds. -/
def after (ws : List Worker) (deeds : List Deed) : List Worker := deeds.foldl (fun ws d => d.apply ws) ws

theorem after_concat (ws : List Worker) (deeds : List Deed) (d : Deed) :
    after ws (deeds ++ [d]) = d.apply (after ws deeds) := by
  rw [after, List.foldl_append]
  rfl

/-! ## What an edit does to the number of carriers -/

variable {n : String}

theorem carriers_cons (w : Worker) (ws : List Worker) (n : String) :
    carriers (w :: ws) n = carriers ws n + if w.isNamed n then 1 else 0 := List.countP_cons

theorem carriers_cons_congr {v w : Worker} (ws : List Worker) (h : v.cell .name = w.cell .name) :
    carriers (v :: ws) n = carriers (w :: ws) n := by
  rw [carriers_cons, carriers_cons, Worker.isNamed, Worker.isNamed, h]

theorem carriers_eq_zero {ws : List Worker} (h : ∀ w ∈ ws, ¬ w.HasName n) : carriers ws n = 0 :=
  List.countP_eq_zero.2 fun w hw hc => h w hw (Worker.isNamed_iff.1 hc)

/-- A new worker of another name is not counted. -/
theorem carriers_insertIdx {ws : List Worker} {i : Nat} {w : Worker} (hn : ¬ w.HasName n) :
    carriers (ws.insertIdx i w) n = carriers ws n := by
  by_cases hi : i ≤ ws.length
  · rw [carriers, (List.perm_insertIdx w ws hi).countP_eq, List.countP_cons_of_neg]
    · rfl
    · exact fun hc => hn (Worker.isNamed_iff.1 hc)
  · rw [List.insertIdx_of_length_lt (by omega)]

/-- A worker that is taken out and put back elsewhere is counted once. -/
theorem carriers_move {ws : List Worker} {i j : Nat} {w : Worker} (hi : ws[i]? = some w)
    (hj : j ≤ (ws.eraseIdx i).length) : carriers ((ws.eraseIdx i).insertIdx j w) n = carriers ws n := by
  obtain ⟨hlt, rfl⟩ := List.getElem?_eq_some_iff.1 hi
  exact ((List.perm_insertIdx _ _ hj).trans (List.getElem_cons_eraseIdx_perm hlt)).countP_eq _

/-- A change of one worker that gives it no new name. -/
theorem carriers_of_change {ws ws' : List Worker} {index : Int} {g : Worker → Except Fault Worker}
    (h : WorkerEdit.change ws index g = .ok ws')
    (hg : ∀ w w', g w = .ok w' → w'.HasName n → w.HasName n) : carriers ws' n ≤ carriers ws n := by
  unfold WorkerEdit.change at h
  split at h
  · cases h
  · rename_i i _
    split at h
    · cases h
    · rename_i w hw
      obtain ⟨w', hw', rfl⟩ := Except.map_eq_ok_iff.1 h
      obtain ⟨hlt, rfl⟩ := List.getElem?_eq_some_iff.1 hw
      rw [carriers, List.countP_set hlt]
      by_cases hc : w'.isNamed n = true
      · -- The worker carried the name before, so it was counted before.
        have hold : ws[i].isNamed n = true :=
          Worker.isNamed_iff.2 (hg _ _ hw' (Worker.isNamed_iff.1 hc))
        have hpos : 0 < carriers ws n := List.countP_pos_iff.2 ⟨_, List.getElem_mem hlt, hold⟩
        rw [if_pos hold, if_pos hc]
        exact Nat.le_of_eq (Nat.sub_add_cancel hpos)
      · rw [if_neg hc]
        exact Nat.sub_le _ _

theorem name_of_changeCell {f : WorkerField} {g : Value → Except Fault Value} {w w' : Worker}
    (hf : f ≠ .name) (h : WorkerEdit.changeCell f g w = .ok w') : w'.cell .name = w.cell .name := by
  unfold WorkerEdit.changeCell at h
  split at h
  · obtain ⟨v, -, rfl⟩ := Except.map_eq_ok_iff.1 h
    exact Worker.cell_set_of_ne _ _ hf.symm
  · cases h

/-- A write by name gives the worker a name only if it writes one. -/
theorem hasName_of_writer {field : String} {value : Value} {g : Worker → Except Fault Worker}
    {w w' : Worker} (hg : WorkerEdit.writer field value = .ok g) (h : g w = .ok w') (hn : w'.HasName n) :
    w.HasName n ∨ field = WorkerField.name.key ∧ value = .text n := by
  unfold WorkerEdit.writer at hg
  split at hg
  · obtain ⟨b, -, rfl⟩ := Except.map_eq_ok_iff.1 hg
    cases h
    rw [Worker.HasName, Worker.cell_set_of_ne _ _ (by decide)] at hn
    exact Or.inl hn
  · cases hg
    rw [Worker.HasName, Worker.cell_of_assign h .name] at hn
    split at hn
    · rename_i hfield
      exact Or.inr ⟨hfield.symm, Cell.plain.inj hn⟩
    · exact Or.inl hn

theorem gap_le (count : Nat) (index : Int) : WorkerEdit.gap count index ≤ count := Nat.min_le_right _ _

/-- **An edit adds no carrier of a name that it does not bear.** -/
theorem carriers_of_edit {e : Edit} {ws ws' : List Worker} (h : e.apply ws = .ok ws')
    (hn : ¬ e.Bears n) : carriers ws' n ≤ carriers ws n := by
  cases e with
  | listed e =>
    cases e with
    | setField index field value =>
      obtain ⟨g, hg, hchange⟩ := Except.bind_eq_ok_iff.1 h
      exact carriers_of_change hchange fun w w' hw hc => (hasName_of_writer hg hw hc).resolve_right hn
    | insert index value =>
      obtain ⟨w, hw, rfl⟩ := Except.map_eq_ok_iff.1 h
      exact Nat.le_of_eq (carriers_insertIdx fun hc => hn ⟨w, hw, hc⟩)
    | remove index =>
      simp only [Edit.apply, WorkerEdit.apply] at h
      split at h
      · cases h
      · cases h
        exact (List.eraseIdx_sublist _ _).countP_le
    | pushFlag index flag =>
      refine carriers_of_change h fun w w' hw hc => ?_
      rwa [Worker.HasName, name_of_changeCell (by decide) hw] at hc
    | putService index binding service =>
      refine carriers_of_change h fun w w' hw hc => ?_
      rwa [Worker.HasName, name_of_changeCell (by decide) hw] at hc
  | write index f c =>
    refine carriers_of_change h fun w w' hw hc => ?_
    cases hw
    rw [Worker.HasName, Worker.cell_set] at hc
    split at hc
    · rename_i hf
      exact absurd ⟨hf.symm, hc⟩ hn
    · exact hc
  | place index w =>
    cases h
    exact Nat.le_of_eq (carriers_insertIdx hn)
  | move source target =>
    simp only [Edit.apply] at h
    split at h
    · cases h
    · split at h
      · cases h
      · rename_i hw
        cases h
        exact Nat.le_of_eq (carriers_move hw (gap_le _ _))

/-! ## What routing does to it -/

theorem hasName_of_added {main t r : Worker} {b : AssetBlock} {origin : String}
    (h : added main b origin = .ok (t, r)) : t.HasName storeName ∧ r.HasName routerName := by
  obtain ⟨ht, hr⟩ := added_ok h
  exact ⟨ht .name (by decide), hr .name (by decide)⟩

/-- In front of workers that carry no reserved name a router and a store are the only carriers. -/
theorem single_of_added {t r : Worker} {ws : List Worker} (ht : t.HasName storeName)
    (hr : r.HasName routerName) (hws : Unreserved ws) : Single (r :: t :: ws) := by
  intro n hn
  rw [carriers_cons, carriers_cons, carriers_eq_zero fun w hw => hws w hw n hn]
  by_cases hc : r.isNamed n = true
  · have hne : t.isNamed n ≠ true := by
      intro ht'
      have hstore : storeName = n := ht.unique (Worker.isNamed_iff.1 ht')
      have hrouter : routerName = n := hr.unique (Worker.isNamed_iff.1 hc)
      exact absurd (hstore.trans hrouter.symm) (by decide)
    simp [hc, hne]
  · rw [if_neg hc]
    split <;> omega

/-- **Routing adds no second router and no second store**, whether it ends well or stops on the way. -/
theorem single_apply {ws : List Worker} (h : Single ws) : Single (apply ws).workers := by
  have hcourse := course_apply ws
  generalize apply ws = step at hcourse ⊢
  cases hcourse with
  | none => exact h
  | idle _ => exact h
  | refused _ _ => exact h
  | notBlock _ _ _ | nameless _ _ _ | unbound _ _ _ _ =>
    intro n hn
    rw [carriers_cons_congr _ (cell_of_cleared _ (by decide))]
    exact h n hn
  | unlisted _ _ _ hb _ =>
    intro n hn
    rw [carriers_cons_congr _ (name_of_rebind hb)]
    exact h n hn
  | @routed main bound t r others b origin _ hn _ hb ha =>
    -- The check has found that nobody carries a reserved name, and the first worker keeps its own.
    have hfree : Unreserved (main :: others) := unreserved_of_passes (checkNames_eq_ok_iff.1 hn)
    obtain ⟨hmain, hothers⟩ := List.forall_mem_cons.1 hfree
    obtain ⟨ht, hr⟩ := hasName_of_added ha
    refine single_of_added ht hr (List.forall_mem_cons.2 ⟨fun m hm hc => hmain m hm ?_, hothers⟩)
    rwa [Worker.HasName, name_of_rebind hb] at hc

/-- **Routing once more.**  After routing that has ended well the first worker has no asset block. -/
theorem apply_again {ws : List Worker} (h : (apply ws).outcome.result = .ok ()) :
    apply (apply ws).workers = ⟨(apply ws).workers, .done ()⟩ := by
  have hcourse := course_apply ws
  generalize apply ws = step at hcourse h ⊢
  cases hcourse with
  | none => rfl
  | idle hnone => exact apply_of_cleared hnone
  | refused _ _ | notBlock _ _ _ | nameless _ _ _ | unbound _ _ _ _ | unlisted _ _ _ _ _ => cases h
  | routed _ _ _ _ ha => exact apply_of_cleared ((added_ok ha).2 .assets (by decide))

/-! ## Runs -/

/-- One deed keeps the reserved names single, unless it gives one of them. -/
theorem single_step {d : Deed} {ws : List Worker} (hs : Single ws)
    (hd : ∀ e, d = .edit e → ∀ n ∈ reserved, ¬ e.Gives ws n) : Single (d.apply ws) := by
  cases d with
  | route => exact single_apply hs
  | edit e =>
    simp only [Deed.apply]
    split
    · rename_i ws' hws'
      intro n hn
      have hbears : ¬ e.Bears n := fun hc => hd e rfl n hn ⟨⟨ws', hws'⟩, hc⟩
      exact Nat.le_trans (carriers_of_edit hws' hbears) (hs n hn)
    · exact hs

/-- **Runs of edits and routing.**  Start from workers among which each reserved name has one carrier at
most, and let no edit give a worker such a name.  Then this stays so after every deed, and routing that
ends well, wherever in the run, can be repeated without changing or telling anything. -/
theorem single_after {ws : List Worker} {deeds : List Deed} (hs : Single ws)
    (hgives : ∀ front e back, deeds = front ++ .edit e :: back →
      ∀ n ∈ reserved, ¬ e.Gives (after ws front) n) :
    (∀ front back, deeds = front ++ back → Single (after ws front)) ∧
      ∀ vs, (apply vs).outcome.result = .ok () →
        apply (apply vs).workers = ⟨(apply vs).workers, .done ()⟩ := by
  refine ⟨fun front => ?_, fun _ => apply_again⟩
  -- From the end: the last deed finds what the deeds before it have left.
  induction front using List.reverseRecOn with
  | nil => exact fun _ _ => hs
  | append_singleton front d ih =>
    intro back hdeeds
    rw [List.append_assoc, List.singleton_append] at hdeeds
    rw [after_concat]
    refine single_step (ih _ hdeeds) ?_
    rintro e rfl
    exact hgives front e back hdeeds

/-- A worker with static files. -/
def filed : Worker := (Worker.named "main").set .assets (.block ⟨some "FILES", some "./public"⟩)

/-- The deeds of a caller who takes the store out, gives the router static files of its own, and puts the
router behind a new worker with static files. -/
def untidyDeeds : List Deed :=
  [.route, .edit (.listed (.remove 1)), .edit (.write 0 .assets (.block ⟨none, some "./more"⟩)), .route,
    .edit (.place 0 filed), .route, .edit (.move 0 (-1)), .edit (.listed (.pushFlag 0 (.text "flag"))),
    .edit (.listed (.setField 0 "name" (.text "gate"))), .route]

/-- Routing fails twice on the way, until the router has been given another name. -/
theorem single_after_untidyDeeds :
    (∀ front back, untidyDeeds = front ++ back → Single (after [filed] front)) ∧
      (after [filed] untidyDeeds).map (fun w => (w.cell .name).text?) =
        [some routerName, some storeName, some "gate", some "main", some "main"] ∧
      apply (after [filed] untidyDeeds) = ⟨after [filed] untidyDeeds, .done ()⟩ := by
  have hstart : Single [filed] := by
    intro n hn
    simp only [reserved, List.mem_cons, List.not_mem_nil, or_false] at hn
    rcases hn with rfl | rfl <;> decide
  have hbears : ∀ e, .edit e ∈ untidyDeeds → ∀ n ∈ reserved, ¬ e.Bears n := by
    intro e he n hn
    simp only [reserved, List.mem_cons, List.not_mem_nil, or_false] at hn
    simp only [untidyDeeds, List.mem_cons, List.not_mem_nil, or_false, Deed.edit.injEq, reduceCtorEq,
      false_or] at he
    rcases hn with rfl | rfl <;> rcases he with rfl | rfl | rfl | rfl | rfl | rfl <;>
      simp [Edit.Bears, filed, Worker.HasName, Worker.cell_set, Worker.named, Value.text, routerName,
        storeName]
  have hgives : ∀ front e back, untidyDeeds = front ++ .edit e :: back →
      ∀ n ∈ reserved, ¬ e.Gives (after [filed] front) n :=
    fun front e back hdeeds n hn hc => hbears e (by rw [hdeeds]; simp) n hn hc.2
  obtain ⟨hsingle, hagain⟩ := single_after hstart hgives
  exact ⟨hsingle, rfl, hagain (after [filed] untidyDeeds.dropLast) rfl⟩

end AssetRouting

end EdgeRig
