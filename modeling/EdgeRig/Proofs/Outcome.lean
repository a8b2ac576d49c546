import EdgeRig.Outcome

/-!
# Taking results apart

A chain of activities that ends well has come through each of its links.  This file says so for the
two monads of the rig, `Except Fault` and `Outcome`, and turns folds over lists into invariants.

* `Except.bind_eq_ok_iff` — a chain ends well exactly when its first part does and the rest does
  after it.
* `Except.foldlM_invariant` — what holds at the start of a fold and is kept by each of its steps holds
  at its end, together with the list of what was gone through.
* `Except.foldlM_total`, `Except.mapM_total` — a list can be gone through if no step on the way fails.
* `Outcome.result_bind`, `Outcome.result_foldlM` — the result of an outcome is computed by the same
  chain of results, whatever was told on the way.
* `Outcome.notices_bind`, `Outcome.foldlM_invariant` — what a chain tells, and invariants of folds that
  speak of what was told.
* `Outcome.bind_of_error`, `Outcome.foldlM_error` — a fault ends a chain where it occurs; a fold that ends in
  one has come through all elements before the one at which it occurred.
* `Outcome.map` — the same activity with another result; `Outcome.map_bind` and `Outcome.foldlM_map`
  carry it through chains and folds.
-/

namespace EdgeRig

/-! ## Results -/

theorem Except.ok_bind {ε α β : Type} (a : α) (f : α → Except ε β) : (.ok a >>= f) = f a := rfl

theorem Except.error_bind {ε α β : Type} (e : ε) (f : α → Except ε β) :
    (.error e >>= f) = .error e := rfl

theorem Except.bind_eq_ok_iff {ε α β : Type} {x : Except ε α} {f : α → Except ε β} {b : β} :
    (x >>= f) = .ok b ↔ ∃ a, x = .ok a ∧ f a = .ok b := by
  cases x with
  | error e => simp [bind, Except.bind]
  | ok a => simp [bind, Except.bind]

theorem Except.map_eq_ok_iff {ε α β : Type} {x : Except ε α} {f : α → β} {b : β} :
    x.map f = .ok b ↔ ∃ a, x = .ok a ∧ f a = b := by
  cases x with
  | error e => simp [Except.map]
  | ok a => simp [Except.map]

theorem Except.map_eq_error_iff {ε α β : Type} {x : Except ε α} {f : α → β} {e : ε} :
    x.map f = .error e ↔ x = .error e := by
  cases x with
  | error e => simp [Except.map]
  | ok a => simp [Except.map]

/-- A chain ends in a fault exactly when its first part does, or the rest does after it. -/
theorem Except.bind_eq_error_iff {ε α β : Type} {x : Except ε α} {f : α → Except ε β} {e : ε} :
    (x >>= f) = .error e ↔ x = .error e ∨ ∃ a, x = .ok a ∧ f a = .error e := by
  cases x with
  | error e => simp [bind, Except.bind]
  | ok a => simp [bind, Except.bind]

/-- **Invariants of folds.**  `P seen b` speaks of the elements gone through so far and of what was
made of them. -/
theorem Except.foldlM_invariant {ε α β : Type} {f : β → α → Except ε β} {P : List α → β → Prop}
    (step : ∀ seen b a b', P seen b → f b a = .ok b' → P (seen ++ [a]) b') :
    ∀ {xs seen : List α} {b b' : β}, P seen b → xs.foldlM f b = .ok b' → P (seen ++ xs) b' := by
  intro xs
  induction xs with
  | nil =>
    intro seen b b' hP h
    cases h
    simpa using hP
  | cons a xs ih =>
    intro seen b b' hP h
    rw [List.foldlM_cons] at h
    obtain ⟨c, hc, hrest⟩ := Except.bind_eq_ok_iff.1 h
    have := ih (step seen b a c hP hc) hrest
    rwa [List.append_assoc, List.singleton_append] at this

/-- **Folds that never fail.**  If no step fails from where `P` holds, and each keeps `P`, the fold
ends well and in `P`. -/
theorem Except.foldlM_total {ε α β : Type} {f : β → α → Except ε β} {P : β → Prop} {xs : List α}
    (step : ∀ a ∈ xs, ∀ b, P b → ∃ b', f b a = .ok b' ∧ P b') {b : β} (hb : P b) :
    ∃ b', xs.foldlM f b = .ok b' ∧ P b' := by
  induction xs generalizing b with
  | nil => exact ⟨b, rfl, hb⟩
  | cons a xs ih =>
    obtain ⟨hstep, hrest⟩ := List.forall_mem_cons.1 step
    obtain ⟨c, hc, hP⟩ := hstep b hb
    obtain ⟨b', hb', hP'⟩ := ih hrest hP
    exact ⟨b', by rw [List.foldlM_cons, hc, Except.ok_bind, hb'], hP'⟩

/-- A list is gone through if each of its elements can be. -/
theorem Except.mapM_total {ε α β : Type} {f : α → Except ε β} {Q : β → Prop} {xs : List α}
    (h : ∀ a ∈ xs, ∃ b, f a = .ok b ∧ Q b) : ∃ bs, xs.mapM f = .ok bs ∧ ∀ b ∈ bs, Q b := by
  induction xs with
  | nil => exact ⟨[], rfl, fun _ hb => absurd hb List.not_mem_nil⟩
  | cons a xs ih =>
    obtain ⟨ha, hrest⟩ := List.forall_mem_cons.1 h
    obtain ⟨b, hb, hQ⟩ := ha
    obtain ⟨bs, hbs, hall⟩ := ih hrest
    refine ⟨b :: bs, ?_, List.forall_mem_cons.2 ⟨hQ, hall⟩⟩
    rw [List.mapM_cons, hb, Except.ok_bind, hbs]
    rfl

/-! ## Outcomes -/

namespace Outcome

theorem result_bind {α β : Type} (x : Outcome α) (f : α → Outcome β) :
    (x >>= f).result = x.result >>= fun a => (f a).result := by
  obtain ⟨notices, result⟩ := x
  cases result with
  | error e => rfl
  | ok a => rfl

theorem bind_eq_ok_iff {α β : Type} {x : Outcome α} {f : α → Outcome β} {b : β} :
    (x >>= f).result = .ok b ↔ ∃ a, x.result = .ok a ∧ (f a).result = .ok b := by
  rw [result_bind, Except.bind_eq_ok_iff]

theorem result_foldlM {α β : Type} (f : β → α → Outcome β) (xs : List α) (b : β) :
    (xs.foldlM f b).result = xs.foldlM (fun b a => (f b a).result) b := by
  induction xs generalizing b with
  | nil => rfl
  | cons a xs ih =>
    rw [List.foldlM_cons, List.foldlM_cons, result_bind]
    exact congrArg _ (funext ih)

theorem lift_bind {α β : Type} (a : α) (f : α → Outcome β) :
    ((liftM (.ok a : Except Fault α) : Outcome α) >>= f) = f a := rfl

/-- Once the first part has ended well, a chain goes on to tell what the rest tells. -/
theorem notices_bind {α β : Type} {x : Outcome α} {a : α} (h : x.result = .ok a) (f : α → Outcome β) :
    (x >>= f).notices = x.notices ++ (f a).notices := by
  obtain ⟨notices, result⟩ := x
  cases h
  rfl

/-- A fault ends a chain, and what was told until then stays told. -/
theorem bind_of_error {α β : Type} {x : Outcome α} {e : Fault} (h : x.result = .error e)
    (f : α → Outcome β) : (x >>= f) = ⟨x.notices, .error e⟩ := by
  obtain ⟨notices, result⟩ := x
  cases h
  rfl

/-- Two chains are one if they go on in the same way after every result of their first part. -/
theorem bind_congr_ok {α β : Type} {x : Outcome α} {f g : α → Outcome β}
    (h : ∀ a, x.result = .ok a → f a = g a) : (x >>= f) = x >>= g := by
  obtain ⟨notices, result⟩ := x
  cases result with
  | error e => rfl
  | ok a =>
    show Outcome.andThen _ f = Outcome.andThen _ g
    simp only [Outcome.andThen, h a rfl]

/-- **Where a fold is ended.**  A fold that ends in a fault has come through the elements before one at
which the fault occurred, and told of them and of that one. -/
theorem foldlM_error {α β : Type} {f : β → α → Outcome β} {xs : List α} {b : β} {e : Fault}
    (h : (xs.foldlM f b).result = .error e) : ∃ before a after b', xs = before ++ a :: after ∧
      (before.foldlM f b).result = .ok b' ∧ (f b' a).result = .error e ∧
        (xs.foldlM f b).notices = (before.foldlM f b).notices ++ (f b' a).notices := by
  induction xs generalizing b with
  | nil => cases h
  | cons a xs ih =>
    rw [List.foldlM_cons] at h ⊢
    cases ha : (f b a).result with
    | error e' =>
      rw [bind_of_error ha] at h ⊢
      cases h
      exact ⟨[], a, xs, b, rfl, rfl, ha, rfl⟩
    | ok c =>
      rw [result_bind, ha, Except.ok_bind] at h
      obtain ⟨before, a', after, b', rfl, hbefore, ha', hnotices⟩ := ih h
      refine ⟨a :: before, a', after, b', rfl, ?_, ha', ?_⟩
      · rw [List.foldlM_cons, result_bind, ha, Except.ok_bind, hbefore]
      · rw [notices_bind ha, hnotices, List.foldlM_cons, notices_bind ha, List.append_assoc]

/-- **Invariants of folds that tell.**  `P seen told b` speaks of the elements gone through so far, of
what was told on the way and of what was made of them. -/
theorem foldlM_invariant {α β : Type} {f : β → α → Outcome β} {P : List α → List Notice → β → Prop}
    (step : ∀ seen told b a b', P seen told b → (f b a).result = .ok b' →
      P (seen ++ [a]) (told ++ (f b a).notices) b') :
    ∀ {xs seen : List α} {told : List Notice} {b b' : β}, P seen told b →
      (xs.foldlM f b).result = .ok b' → P (seen ++ xs) (told ++ (xs.foldlM f b).notices) b' := by
  intro xs
  induction xs with
  | nil =>
    intro seen told b b' hP h
    cases h
    simpa using hP
  | cons a xs ih =>
    intro seen told b b' hP h
    rw [List.foldlM_cons] at h ⊢
    obtain ⟨c, hc, hrest⟩ := bind_eq_ok_iff.1 h
    have := ih (step seen told b a c hP hc) hrest
    rw [List.append_assoc, List.singleton_append, List.append_assoc] at this
    rwa [notices_bind hc]

/-- The same activity, with something else made of its result. -/
def map {α β : Type} (φ : α → β) (x : Outcome α) : Outcome β := ⟨x.notices, x.result.map φ⟩

variable {α β γ : Type}

theorem map_eq_ok_iff {φ : α → β} {x : Outcome α} {b : β} :
    (x.map φ).result = .ok b ↔ ∃ a, x.result = .ok a ∧ φ a = b := Except.map_eq_ok_iff

theorem map_pure (φ : α → β) (a : α) : (pure a : Outcome α).map φ = pure (φ a) := rfl

/-- What is made of the end of a chain is made by its last link. -/
theorem map_bind (φ : β → γ) (x : Outcome α) (f : α → Outcome β) :
    (x >>= f).map φ = x >>= fun a => (f a).map φ := by
  obtain ⟨notices, result⟩ := x
  cases result with
  | error e => rfl
  | ok a => rfl

theorem bind_map (φ : α → β) (x : Outcome α) (g : β → Outcome γ) :
    (x.map φ >>= g) = x >>= fun a => g (φ a) := by
  obtain ⟨notices, result⟩ := x
  cases result with
  | error e => rfl
  | ok a => rfl

/-- Two folds whose steps go side by side end side by side. -/
theorem foldlM_map {φ : β → γ} {f : β → α → Outcome β} {g : γ → α → Outcome γ}
    (step : ∀ b a, g (φ b) a = (f b a).map φ) (xs : List α) (b : β) :
    xs.foldlM g (φ b) = (xs.foldlM f b).map φ := by
  induction xs generalizing b with
  | nil => rfl
  | cons a xs ih =>
    rw [List.foldlM_cons, List.foldlM_cons, step, bind_map, map_bind]
    exact congrArg _ (funext ih)

end Outcome

end EdgeRig
