import EdgeRig.Proofs.WorkerObject
import EdgeRig.Rule

/-!
# Rules of a compiler and rules of objects

The compiler applies rules to workers that hold nothing but fields and notes, and its rules write nothing
else.  This file says that nothing is lost by that: as objects the workers are written in the same way, end
in the same way, and show the same options.

* `Worker.write_object` — one write to a worker and to its object.
* `Rule.performAll_object` — rules in a row at a worker and at its object.
* `Worker.options_object` — the options of a worker and of its object.
-/

namespace EdgeRig

namespace Worker

variable {known : WorkerField → Bool} {key : String}

/-- An object that a worker is can be written under every name that has a place. -/
theorem find_object (w : Worker) (known : WorkerField → Bool) (key : String) :
    (w.object known).find key = .ok () := by
  have htable : (w.object known).note tableKey = none := rfl
  have hfinder : (w.object known).note finderKey = none := rfl
  rw [WorkerObject.find, htable]
  simp [WorkerObject.search, hfinder]

theorem object_set (w : Worker) (known : WorkerField → Bool) (f : WorkerField) (c : Cell) :
    ((w.object known).set f c).learn f = (w.set f c).object fun g => g = f || known g := by
  have howns : ((w.object known).set f c).ownsTable = false := rfl
  simp only [WorkerObject.learn, howns]
  ext1
  · funext g
    by_cases hg : g = f <;> simp [object, set, WorkerObject.set, hg]
  · rfl
  · rfl
  · rfl
  · funext own g
    cases own <;> simp [object, WorkerObject.set]

theorem object_setNote (w : Worker) (known : WorkerField → Bool) (v : Value)
    (hnote : isNoteKey key = true) (hwhole : key ∉ wholeKeys) :
    (w.object known).setNote key v = (w.setNote key v).object known := by
  have htable : key ≠ tableKey := by
    rintro rfl
    exact hwhole (by decide)
  simp only [WorkerObject.setNote, if_neg htable]
  ext1
  · rfl
  · funext k
    by_cases hk : k = key
    · rw [hk]
      simp [object, setNote, hnote, hwhole]
    · simp [object, setNote, hk]
  · rfl
  · rfl
  · rfl

/-- **A write to a worker is one to its object**, unless it goes to what holds the worker as a whole. -/
theorem write_object (w : Worker) (known : WorkerField → Bool) (v : Value)
    (hwhole : key ∉ wholeKeys) : ∃ known',
      Handled.write (w.object known) key v =
        ((Handled.write w key v).1, (Handled.write w key v).2.object known') := by
  simp only [Handled.write, WorkerObject.assign, find_object, Except.ok_bind, assign, if_neg hwhole]
  cases hp : place? key with
  | error e => exact ⟨known, rfl⟩
  | ok p =>
    have hkey := key_of_place? hp
    cases p with
    | field f =>
      exact ⟨fun g => g = f || known g, congrArg (Prod.mk _) (object_set w known f (.plain v))⟩
    | note k =>
      obtain rfl : k = key := hkey
      exact ⟨known, congrArg (Prod.mk _) (object_setNote w known v (isNoteKey_of_place? hp) hwhole)⟩
    | slot s =>
      subst hkey
      cases s <;> exact absurd (by decide) hwhole
    | dictionary =>
      subst hkey
      exact absurd (by decide) hwhole

/-- **A worker and its object show the same options.** -/
theorem options_object (w : Worker) (known : WorkerField → Bool) :
    (w.object known).options = .ok w.options := rfl

end Worker

namespace Rule

/-- A rule is applied to a worker as to its object. -/
theorem perform_object (r : Rule) (d : Value) (w : Worker) (known : WorkerField → Bool)
    (hr : r.target ∉ Worker.wholeKeys) : ∃ known',
      (r.perform d).on (w.object known) =
        (((r.perform d).on w).1, ((r.perform d).on w).2.object known') := by
  rw [on_perform, on_perform]
  cases r.outcome d with
  | error e => exact ⟨known, rfl⟩
  | ok x =>
    cases x with
    | none => exact ⟨known, rfl⟩
    | some v =>
      obtain ⟨known', hwrite⟩ := Worker.write_object w known v hr
      refine ⟨known', ?_⟩
      dsimp only
      rw [hwrite]

/-- **Rules in a row** are applied to a worker as to its object, the ones of the compiler and all others that
write fields and notes. -/
theorem performAll_object (rs : List Rule) (d : Value) (w : Worker) (known : WorkerField → Bool)
    (hrs : ∀ r ∈ rs, r.target ∉ Worker.wholeKeys) : ∃ known',
      (performAll rs d).on (w.object known) =
        (((performAll rs d).on w).1, ((performAll rs d).on w).2.object known') := by
  induction rs generalizing w known with
  | nil => exact ⟨known, rfl⟩
  | cons r rs ih =>
    obtain ⟨hr, hrest⟩ := List.forall_mem_cons.1 hrs
    obtain ⟨known', hobject⟩ := perform_object r d w known hr
    rw [on_performAll_cons, on_performAll_cons, hobject]
    rcases (r.perform d).on w with ⟨e | b, u⟩
    · exact ⟨known', rfl⟩
    · obtain ⟨known'', hobjects⟩ := ih u known' hrest
      dsimp only
      rw [hobjects]
      rcases (performAll rs d).on u with ⟨e | bs, v⟩ <;> exact ⟨known'', rfl⟩

end Rule

end EdgeRig
