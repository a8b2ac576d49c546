import EdgeRig.Proofs.Rig.Entries
import EdgeRig.Proofs.Rig.Run
import EdgeRig.Proofs.Setup.Runnable

/-!
# Setups on contexts that are in use

A caller may hand over a context in which an earlier setup, or anything else, has left entries.  This
file compares a setup on it with the same setup on an empty context.

* `Context.overwrittenBy` — a context with all entries of another one written to it;
  `Context.get?_overwrittenBy` says what stands in it, `Context.overwrittenBy_put` that one more write
  to the other context is one more write to the result.
* `Rig.LiesOver` — two rigs differ in that the context of one lies over a context that the other does
  not have; `Rig.LiesOver.setup` says that a setup keeps it so, at whatever stage it stops, and
  `Rig.LiesOver.after` that so does a run of setups.
* `Rig.setup_overwrites` — a setup does not depend on what the context holds, and what it leaves there
  is what the context held, overwritten by what it leaves in an empty one.
-/

namespace EdgeRig

namespace Context

/-- The keys of a context, in order. -/
def keys (c : Context) : List String := c.map (·.1)

/-- The context with all entries of another one written to it, in order. -/
def overwrittenBy (c d : Context) : Context := d.foldl (fun c e => c.put e.1 e.2) c

theorem overwrittenBy_cons (c : Context) (e : String × ContextEntry) (d : Context) :
    c.overwrittenBy (e :: d) = (c.put e.1 e.2).overwrittenBy d := rfl

theorem get?_of_not_mem_keys {c : Context} {k : String} (h : k ∉ c.keys) : get? c k = none := by
  induction c with
  | nil => rfl
  | cons e c ih =>
    obtain ⟨j, x⟩ := e
    obtain ⟨hkj, hc⟩ := List.ne_and_not_mem_of_not_mem_cons h
    rw [get?_cons, if_neg hkj, ih hc]

/-! ## Writes -/

theorem put_cons_self (j : String) (x y : ContextEntry) (c : Context) :
    put ((j, x) :: c) j y = (j, y) :: c := if_pos rfl

theorem put_cons_of_ne {i k : String} (h : i ≠ k) (x y : ContextEntry) (c : Context) :
    put ((i, x) :: c) k y = (i, x) :: put c k y := if_neg h

theorem mem_keys_put {c : Context} {j k : String} {y : ContextEntry} :
    j ∈ (put c k y).keys ↔ j = k ∨ j ∈ c.keys := by
  induction c with
  | nil => simp [put, keys]
  | cons e c ih =>
    obtain ⟨i, x⟩ := e
    unfold keys at ih ⊢
    by_cases hi : i = k
    · rw [hi, put_cons_self]
      simp
    · rw [put_cons_of_ne hi, List.map_cons, List.mem_cons, ih, List.map_cons, List.mem_cons]
      exact or_left_comm

/-- A write makes no key stand twice. -/
theorem nodup_put {c : Context} (h : c.keys.Nodup) (k : String) (y : ContextEntry) :
    (put c k y).keys.Nodup := by
  induction c with
  | nil => exact List.nodup_cons.2 ⟨List.not_mem_nil, List.nodup_nil⟩
  | cons e c ih =>
    obtain ⟨i, x⟩ := e
    obtain ⟨hi, hc⟩ := List.nodup_cons.1 h
    by_cases hik : i = k
    · rw [hik, put_cons_self, ← hik]
      exact h
    · rw [put_cons_of_ne hik]
      refine List.nodup_cons.2 ⟨fun hmem => ?_, ih hc⟩
      exact (mem_keys_put.1 hmem).elim hik hi

/-- A second write under a key undoes the first. -/
theorem put_put (c : Context) (k : String) (x y : ContextEntry) : (c.put k x).put k y = c.put k y := by
  induction c with
  | nil => exact put_cons_self k x y []
  | cons e c ih =>
    obtain ⟨i, z⟩ := e
    by_cases hi : i = k
    · rw [hi, put_cons_self, put_cons_self, put_cons_self]
    · rw [put_cons_of_ne hi, put_cons_of_ne hi, put_cons_of_ne hi, ih]

/-- Writes under two keys can be exchanged if the later of them only replaces an entry. -/
theorem put_comm {c : Context} {j k : String} (hne : j ≠ k) (hk : k ∈ c.keys) (x y : ContextEntry) :
    (c.put j x).put k y = (c.put k y).put j x := by
  induction c with
  | nil => exact absurd hk List.not_mem_nil
  | cons e c ih =>
    obtain ⟨i, z⟩ := e
    by_cases hi : i = k
    · have hij : k ≠ j := hne.symm
      rw [hi, put_cons_of_ne hij, put_cons_self, put_cons_self, put_cons_of_ne hij]
    · have hkc : k ∈ keys c := (List.mem_cons.1 hk).resolve_left fun hc => hi hc.symm
      by_cases hij : i = j
      · rw [hij, put_cons_self, put_cons_of_ne hne, put_cons_of_ne hne, put_cons_self]
      · rw [put_cons_of_ne hij, put_cons_of_ne hi, put_cons_of_ne hi, put_cons_of_ne hij, ih hkc]

/-! ## Overwriting -/

/-- Entries under other keys do not mind one that is replaced first. -/
theorem put_overwrittenBy {c d : Context} {k : String} (hc : k ∈ c.keys) (hd : k ∉ d.keys)
    (y : ContextEntry) : (c.put k y).overwrittenBy d = (c.overwrittenBy d).put k y := by
  induction d generalizing c with
  | nil => rfl
  | cons e d ih =>
    obtain ⟨j, x⟩ := e
    obtain ⟨hjk, hd⟩ := List.ne_and_not_mem_of_not_mem_cons hd
    have hcj : k ∈ (c.put j x).keys := mem_keys_put.2 (Or.inr hc)
    rw [overwrittenBy_cons, overwrittenBy_cons, ← ih hcj hd, put_comm hjk.symm hc]

/-- **One more write** to the context above is one more write to the whole. -/
theorem overwrittenBy_put {d : Context} (hd : d.keys.Nodup) (c : Context) (k : String)
    (y : ContextEntry) : c.overwrittenBy (d.put k y) = (c.overwrittenBy d).put k y := by
  induction d generalizing c with
  | nil => rfl
  | cons e d ih =>
    obtain ⟨j, x⟩ := e
    obtain ⟨hj, hd⟩ := List.nodup_cons.1 hd
    by_cases hjk : j = k
    · subst hjk
      have hmem : j ∈ (c.put j x).keys := mem_keys_put.2 (Or.inl rfl)
      rw [put_cons_self, overwrittenBy_cons, overwrittenBy_cons, ← put_overwrittenBy hmem hj, put_put]
    · rw [put_cons_of_ne hjk, overwrittenBy_cons, overwrittenBy_cons, ih hd]

/-- **What stands in it**: the entry of the context above, or else that of the one below. -/
theorem get?_overwrittenBy {d : Context} (hd : d.keys.Nodup) (c : Context) (k : String) :
    (c.overwrittenBy d).get? k = (d.get? k).or (c.get? k) := by
  induction d generalizing c with
  | nil => rfl
  | cons e d ih =>
    obtain ⟨j, x⟩ := e
    obtain ⟨hj, hd⟩ := List.nodup_cons.1 hd
    rw [overwrittenBy_cons, ih hd, get?_cons]
    by_cases hk : k = j
    · have hnone : get? d k = none := get?_of_not_mem_keys (hk ▸ hj)
      rw [hnone, if_pos hk, hk, get?_put]
      rfl
    · rw [if_neg hk, get?_put_of_ne c x hk]

end Context

namespace Rig

/-! ## Setups -/

/-- The rig `r` is the rig `e` with its context laid over the context `c`. -/
structure LiesOver (c : Context) (e r : Rig) : Prop where
  running : r.running = e.running
  context : r.context = c.overwrittenBy e.context
  distinct : e.context.keys.Nodup

/-- The rig with an empty context. -/
def emptied (r : Rig) : Rig := { r with context := [] }

theorem liesOver_emptied (r : Rig) : LiesOver r.context r.emptied r := ⟨rfl, rfl, List.nodup_nil⟩

theorem nodup_writeAll {n : Nat} {d : Context} {ws : List (RigKey × Setup.Entry)}
    (h : d.keys.Nodup) : (writeAll n d ws).keys.Nodup := by
  induction ws generalizing d with
  | nil => exact h
  | cons w ws ih => exact ih (Context.nodup_put h _ _)

/-- Writing to the context above is writing to the whole. -/
theorem writeAll_overwrittenBy {d : Context} (hd : d.keys.Nodup) (n : Nat) (c : Context)
    (ws : List (RigKey × Setup.Entry)) :
    writeAll n (c.overwrittenBy d) ws = c.overwrittenBy (writeAll n d ws) := by
  induction ws generalizing d with
  | nil => rfl
  | cons w ws ih =>
    rw [writeAll_cons, writeAll_cons, ← Context.overwrittenBy_put hd]
    exact ih (Context.nodup_put hd _ _)

/-- **A setup keeps one context over the other**, at whatever stage it stops. -/
theorem LiesOver.setup {c : Context} {e r : Rig} (h : LiesOver c e r) (around : Surroundings)
    (request : SetupRequest) :
    LiesOver c (e.setup around request).1 (r.setup around request).1 where
  running := congrArg (· ++ _) h.running
  context := by
    show writeAll r.running.length r.context _ = _
    rw [h.running, h.context]
    exact writeAll_overwrittenBy h.distinct _ _ _
  distinct := nodup_writeAll h.distinct

/-- **A run of setups** keeps it, too: a setup may be tried again on the same context. -/
theorem LiesOver.after {c : Context} {e r : Rig} {steps : List Step}
    (hsteps : ∀ st ∈ steps, ∃ request, st.action = .setup request) (h : LiesOver c e r) :
    LiesOver c (e.after steps) (r.after steps) := by
  induction steps generalizing e r with
  | nil => exact h
  | cons st steps ih =>
    obtain ⟨⟨request, hst⟩, hrest⟩ := List.forall_mem_cons.1 hsteps
    have happly : ∀ q : Rig, st.apply q = (q.setup st.around request).1 := by
      intro q
      rw [Step.apply, Step.report, hst]
      rfl
    rw [after_cons, after_cons, happly, happly]
    exact ih hrest (h.setup st.around request)

/-- On this rig, the setup asks its factory for a simulator with these options: with whatever fault the
factory refuses them, the setup ends with that fault. -/
def Asks (r : Rig) (around : Surroundings) (request : SetupRequest) (o : Value) : Prop :=
  ∃ factory, Setup.factoryOf around request = some factory ∧ ∀ f,
    (r.setup around { request with factory := some (Setup.refusing factory o f) }).2.result = .error f

/-- **A setup does not depend on what the context holds.**  It ends in the same way as on an empty
context and tells the same, it asks its factory for the same, and makes the same simulator.  What it
leaves is what the context held, overwritten by what it leaves in an empty context: under each key stands
what it has written there, or else what stood there before. -/
theorem setup_overwrites (r : Rig) (around : Surroundings) (request : SetupRequest) :
    (r.setup around request).2 = (r.emptied.setup around request).2 ∧
      (∀ o, r.Asks around request o ↔ r.emptied.Asks around request o) ∧
      (r.setup around request).1.running = (r.emptied.setup around request).1.running ∧
      (r.setup around request).1.context =
        r.context.overwrittenBy (r.emptied.setup around request).1.context ∧
      ∀ k, (r.setup around request).1.context.get? k =
        ((r.emptied.setup around request).1.context.get? k).or (r.context.get? k) := by
  have hover := (liesOver_emptied r).setup around request
  refine ⟨rfl, fun o => Iff.rfl, hover.running, hover.context, fun k => ?_⟩
  rw [hover.context]
  exact Context.get?_overwrittenBy hover.distinct r.context k

/-- A setup without a factory leaves a URL that an earlier one has written. -/
example : ((Rig.mk [("server_base_url", .plain (.text "http://127.0.0.1:1"))] []).setup
    ⟨⟨.ofText ['/'], []⟩, [], none⟩ ⟨.none, .none, .int 0, none, some .standard⟩).1.context.keys =
      ["server_base_url", "is_server_listening"] := rfl

end Rig

end EdgeRig
