import EdgeRig.Proofs.Outcome
import EdgeRig.Proofs.Rule.Frame
import Mathlib.Data.List.Nodup
import Mathlib.Data.List.Perm.Basic

/-!
# The order of rules

What a rule writes is decided by the descriptor, and whether it can be written by the worker and the name of
the target.  Rules with different targets therefore make the same of a worker in any order, unless one of
them has a target that the writing of others depends on.

* `Rule.stroke` — the write that a rule stands for at a worker; `Rule.on_perform_of_ok` and
  `Rule.on_perform_of_error` say that applying the rule makes this write.
* `Rule.stroke_strike` — the write of one rule leaves the writes that rules with other targets stand for.
* `Rule.on_performAll_of_ok`, `Rule.on_performAll_of_error` — rules in a row make all their writes, or are
  stopped.
* `Rule.strike_comm` — the writes of two rules with different targets can be exchanged.
* `Rule.performAll_perm` — rules in one order and in another.
* `Rule.not_perm_of_steeringKeys` — targets for which the order matters.
-/

namespace EdgeRig

open WorkerObject (steeringKeys)

namespace Rule

/-! ## Strokes -/

/-- The write that a rule stands for at a worker, if the descriptor says anything. -/
def stroke (d : Value) (o : WorkerObject) (r : Rule) : Except Fault (Option (Worker.Place × Value)) :=
  match r.outcome d with
  | .error e => .error e
  | .ok none => .ok none
  | .ok (some v) => (o.way r.target).map fun p => some (p, v)

/-- Does a rule find something in the descriptor? -/
def finds (d : Value) (r : Rule) : Bool :=
  match r.outcome d with
  | .ok (some _) => true
  | _ => false

/-- Make the write of a rule. -/
def strike (d : Value) (o : WorkerObject) (r : Rule) : WorkerObject :=
  match stroke d o r with
  | .ok (some (p, v)) => o.put v p
  | _ => o

variable {d : Value} {o : WorkerObject} {r : Rule}

theorem key_of_stroke {p : Worker.Place} {v : Value} (h : stroke d o r = .ok (some (p, v))) :
    p.key = r.target := by
  unfold stroke at h
  split at h
  · cases h
  · cases h
  · obtain ⟨q, hq, heq⟩ := Except.map_eq_ok_iff.1 h
    cases heq
    exact WorkerObject.key_of_way hq

/-- A rule that stands for a write, or for none, can be applied. -/
theorem on_perform_of_ok {x : Option (Worker.Place × Value)} (h : stroke d o r = .ok x)
    (hr : r.target ∉ steeringKeys) : (r.perform d).on o = (.ok (finds d r), strike d o r) := by
  have hdictionary := (WorkerObject.ne_of_not_mem_steeringKeys hr).1
  rw [finds, strike, h, on_perform]
  unfold stroke at h
  cases ho : r.outcome d with
  | error e =>
    rw [ho] at h
    cases h
  | ok y =>
    rw [ho] at h
    cases y with
    | none =>
      cases h
      rfl
    | some v =>
      dsimp only at h ⊢
      obtain ⟨p, hp, rfl⟩ := Except.map_eq_ok_iff.1 h
      simp only [Handled.write, WorkerObject.assign_of_way hp hdictionary]
      rfl

/-- A rule that stands for no write and not for none cannot be applied. -/
theorem on_perform_of_error {e : Fault} (h : stroke d o r = .error e) :
    ∃ u, (r.perform d).on o = (.error e, u) := by
  rw [on_perform]
  unfold stroke at h
  cases ho : r.outcome d with
  | error e' =>
    rw [ho] at h
    cases h
    exact ⟨o, rfl⟩
  | ok y =>
    rw [ho] at h
    cases y with
    | none => cases h
    | some v =>
      dsimp only at h ⊢
      obtain ⟨u, hu⟩ := WorkerObject.assign_of_way_error (Except.map_eq_error_iff.1 h) v
      exact ⟨u, by simp only [Handled.write, hu]; rfl⟩

/-- **The write of a rule leaves the writes that others stand for.** -/
theorem stroke_strike {s : Rule} (hr : r.target ∉ steeringKeys) (hne : r.target ≠ s.target) :
    stroke d (strike d o r) s = stroke d o s := by
  rw [strike]
  split
  · rename_i p v hstroke
    have hkey : p.key = r.target := key_of_stroke hstroke
    rw [← hkey] at hr hne
    unfold stroke
    rw [WorkerObject.way_put hr hne]
  · rfl

/-- **Rules in a row make all their writes**, if each of them stands for a write or for none. -/
theorem on_performAll_of_ok {rs : List Rule} (hsteer : ∀ r ∈ rs, r.target ∉ steeringKeys)
    (hdistinct : (rs.map target).Nodup) (h : ∀ r ∈ rs, ∃ x, stroke d o r = .ok x) :
    (performAll rs d).on o = (.ok (rs.map (finds d)), rs.foldl (strike d) o) := by
  induction rs generalizing o with
  | nil => rfl
  | cons r rs ih =>
    obtain ⟨hr, hrest⟩ := List.forall_mem_cons.1 hsteer
    obtain ⟨hne, hdistinct'⟩ := List.nodup_cons.1 hdistinct
    obtain ⟨⟨x, hx⟩, hrs⟩ := List.forall_mem_cons.1 h
    have hlater : ∀ s ∈ rs, ∃ y, stroke d (strike d o r) s = .ok y := by
      intro s hs
      rw [stroke_strike hr fun hc => hne (List.mem_map.2 ⟨s, hs, hc.symm⟩)]
      exact hrs s hs
    rw [on_performAll_cons, on_perform_of_ok hx hr]
    dsimp only
    rw [ih hrest hdistinct' hlater]
    rfl

/-- **Rules in a row are stopped**, if one of them stands for no write and not for none. -/
theorem on_performAll_of_error {rs : List Rule} (hsteer : ∀ r ∈ rs, r.target ∉ steeringKeys)
    (hdistinct : (rs.map target).Nodup) (h : ∃ r ∈ rs, ∃ e, stroke d o r = .error e) :
    ∃ e u, (performAll rs d).on o = (.error e, u) := by
  induction rs generalizing o with
  | nil =>
    obtain ⟨r, hr, -⟩ := h
    exact absurd hr List.not_mem_nil
  | cons r rs ih =>
    obtain ⟨hr, hrest⟩ := List.forall_mem_cons.1 hsteer
    obtain ⟨hne, hdistinct'⟩ := List.nodup_cons.1 hdistinct
    rw [on_performAll_cons]
    cases hstroke : stroke d o r with
    | error e =>
      obtain ⟨u, hu⟩ := on_perform_of_error hstroke
      exact ⟨e, u, by rw [hu]⟩
    | ok x =>
      have hlater : ∃ s ∈ rs, ∃ e, stroke d (strike d o r) s = .error e := by
        obtain ⟨s, hs, e, he⟩ := h
        rcases List.mem_cons.1 hs with rfl | hs
        · cases hstroke.symm.trans he
        · refine ⟨s, hs, e, ?_⟩
          rwa [stroke_strike hr fun hc => hne (List.mem_map.2 ⟨s, hs, hc.symm⟩)]
      obtain ⟨e, u, hu⟩ := ih hrest hdistinct' hlater
      rw [on_perform_of_ok hstroke hr]
      dsimp only
      rw [hu]
      exact ⟨e, u, rfl⟩

/-! ## Other orders -/

/-- **The writes of rules with different targets can be exchanged.** -/
theorem strike_comm {s : Rule} (hr : r.target ∉ steeringKeys) (hs : s.target ∉ steeringKeys)
    (hne : r.target ≠ s.target) (o : WorkerObject) :
    strike d (strike d o r) s = strike d (strike d o s) r := by
  rw [strike, stroke_strike hr hne, strike.eq_def d (strike d o s) r, stroke_strike hs hne.symm]
  rcases hstroke : stroke d o r with _ | _ | ⟨p, u⟩ <;>
    rcases hstroke' : stroke d o s with _ | _ | ⟨q, v⟩ <;> simp only [strike, hstroke, hstroke']
  have hp : p.key = r.target := key_of_stroke hstroke
  have hq : q.key = s.target := key_of_stroke hstroke'
  rw [← hp] at hr hne
  rw [← hq] at hs hne
  exact WorkerObject.put_comm hr hs hne u v

/-- Rules with different targets make the same of a worker in any order, as far as they stand for writes. -/
theorem foldl_strike_perm {rs rs' : List Rule} (hperm : rs.Perm rs') (hdistinct : (rs.map target).Nodup)
    (hsteer : ∀ r ∈ rs, r.target ∉ steeringKeys) (o : WorkerObject) :
    rs.foldl (strike d) o = rs'.foldl (strike d) o := by
  refine hperm.foldl_eq' (fun r hr s hs u => ?_) o
  by_cases hrs : r = s
  · rw [hrs]
  · have hne : r.target ≠ s.target := fun hc => hrs (List.inj_on_of_nodup_map hdistinct hr hs hc)
    exact strike_comm (hsteer r hr) (hsteer s hs) hne u

/-- **The order of rules makes no difference.**  Rules with different targets, the ones of the compiler and
any others, end well in one order exactly if they do in every other; the worker is then the same in the
end, and so is what each rule says of the descriptor.  The targets that the writing of others depends on are
left out. -/
theorem performAll_perm : (table.map target).Nodup ∧ (∀ r ∈ table, r.target ∉ steeringKeys) ∧
    ∀ (rs rs' : List Rule), rs.Perm rs' → (rs.map target).Nodup →
      (∀ r ∈ rs, r.target ∉ steeringKeys) → ∀ (d : Value) (o : WorkerObject),
        (∃ (flag : Rule → Bool) (u : WorkerObject),
          (performAll rs d).on o = (.ok (rs.map flag), u) ∧
          (performAll rs' d).on o = (.ok (rs'.map flag), u)) ∨
        ∃ e e' u u', (performAll rs d).on o = (.error e, u) ∧
          (performAll rs' d).on o = (.error e', u') := by
  refine ⟨by decide, by decide, fun rs rs' hperm hdistinct hsteer d o => ?_⟩
  have hdistinct' : (rs'.map target).Nodup := (hperm.map target).nodup_iff.1 hdistinct
  have hsteer' : ∀ r ∈ rs', r.target ∉ steeringKeys := fun r hr => hsteer r (hperm.mem_iff.2 hr)
  by_cases hall : ∀ r ∈ rs, ∃ x, stroke d o r = .ok x
  · have hall' : ∀ r ∈ rs', ∃ x, stroke d o r = .ok x := fun r hr => hall r (hperm.mem_iff.2 hr)
    refine Or.inl ⟨finds d, rs.foldl (strike d) o, on_performAll_of_ok hsteer hdistinct hall, ?_⟩
    rw [foldl_strike_perm hperm hdistinct hsteer]
    exact on_performAll_of_ok hsteer' hdistinct' hall'
  · have hstop : ∃ r ∈ rs, ∃ e, stroke d o r = .error e := by
      obtain ⟨r, hr, hnot⟩ : ∃ r ∈ rs, ¬ ∃ x, stroke d o r = .ok x := by
        simpa using hall
      cases hs : stroke d o r with
      | error e => exact ⟨r, hr, e, hs⟩
      | ok x => exact absurd ⟨x, hs⟩ hnot
    have hstop' : ∃ r ∈ rs', ∃ e, stroke d o r = .error e := by
      obtain ⟨r, hr, he⟩ := hstop
      exact ⟨r, hperm.mem_iff.1 hr, he⟩
    obtain ⟨e, u, hu⟩ := on_performAll_of_error hsteer hdistinct hstop
    obtain ⟨e', u', hu'⟩ := on_performAll_of_error hsteer' hdistinct' hstop'
    exact Or.inr ⟨e, e', u, u', hu, hu'⟩

/-- The rules of the compiler and one more, for a note. -/
def extendedTable : List Rule := table ++ [direct "team" "_team"]

/-- A descriptor with a script, two bindings of one namespace list, a queue and a team. -/
def teamDescriptor : Value :=
  let binding (name : String) : Value := Value.record [("binding", .text name)]
  Value.record
    [("main", .text "./worker.js"), ("kv_namespaces", .list [binding "KV", binding "CACHE"]),
     ("queues", Value.record [("producers", .list [binding "OUT"])]), ("team", .text "core")]

/-- From the last rule to the first, they make the same of a worker as from the first to the last. -/
theorem performAll_perm_of_teamDescriptor : extendedTable.reverse.Perm extendedTable ∧
    (extendedTable.map target).Nodup ∧ (∀ r ∈ extendedTable, r.target ∉ steeringKeys) ∧
      ∃ (flag : Rule → Bool) (u : WorkerObject),
        (performAll extendedTable.reverse teamDescriptor).on (freshObject "main") =
            (.ok (extendedTable.reverse.map flag), u) ∧
          (performAll extendedTable teamDescriptor).on (freshObject "main") =
            (.ok (extendedTable.map flag), u) ∧
          u.cell .scriptPath = some (.plain (.text "./worker.js")) ∧
          u.note "_team" = some (.text "core") := by
  have hperm : extendedTable.reverse.Perm extendedTable := extendedTable.reverse_perm
  have hdistinct : (extendedTable.map target).Nodup := by decide
  have hdistinct' : (extendedTable.reverse.map target).Nodup := by decide
  have hsteer : ∀ r ∈ extendedTable, r.target ∉ steeringKeys := by decide
  have hsteer' : ∀ r ∈ extendedTable.reverse, r.target ∉ steeringKeys := by decide
  refine ⟨hperm, hdistinct, hsteer, ?_⟩
  obtain ⟨flags, u, hrun, hscript, hnotes⟩ :
      ∃ flags u, (performAll extendedTable teamDescriptor).on (freshObject "main") = (.ok flags, u) ∧
        u.cell .scriptPath = some (.plain (.text "./worker.js")) ∧
        u.note "_team" = some (.text "core") :=
    ⟨_, _, rfl, rfl, rfl⟩
  rcases performAll_perm.2.2 extendedTable.reverse extendedTable hperm hdistinct' hsteer' teamDescriptor
    (freshObject "main") with ⟨flag, u', hreversed, hstraight⟩ | ⟨e, e', v, v', -, hfail⟩
  · obtain rfl : u' = u := by
      rw [hrun] at hstraight
      cases hstraight
      rfl
    exact ⟨flag, u', hreversed, hstraight, hscript, hnotes⟩
  · rw [hrun] at hfail
    cases hfail

/-- A rule for one of the names that others depend on, and one for the script. -/
def steeredRules (key : String) : List Rule := [direct "state" key, direct "text" "script"]

/-- After the rule for the script the rule for the name ends well, and before it the two do not, or they
leave another worker. -/
def OrderMatters (key : String) : Prop :=
  ((steeredRules key).map target).Nodup ∧
    ∃ flags u, (performAll (steeredRules key).reverse wholeDescriptor).on (freshObject "other") =
        (.ok flags, u) ∧
      ∀ flags', (performAll (steeredRules key) wholeDescriptor).on (freshObject "other") ≠ (.ok flags', u)

/-- For each of these names the order matters. -/
theorem not_perm_of_steeringKeys :
    OrderMatters Worker.dictionaryKey ∧ OrderMatters Slot.record.key ∧
      OrderMatters Worker.tableKey ∧ OrderMatters Worker.finderKey := by
  refine ⟨?_, ?_, ?_, ?_⟩ <;> refine ⟨by decide, _, _, rfl, fun flags' hc => ?_⟩
  · -- The fields that were taken over last have the script that came with them.
    have hscript : some (Cell.plain (.text "export default {}")) = some (Cell.plain (.text "export {}")) :=
      congrArg (fun x => x.2.cell .script) hc
    simp at hscript
  · cases hc
  · cases hc
  · cases hc

end Rule

end EdgeRig
