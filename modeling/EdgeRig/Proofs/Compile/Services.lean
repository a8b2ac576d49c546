import EdgeRig.Proofs.Compile.Primary
import EdgeRig.Proofs.Mapping

/-!
# The workers of the services

The services of a descriptor are gone through in order, and each makes at most one worker.

* `Compile.serviceWorker_ok` — the worker of a service runs its mock, or the default script.
* `Compile.addService_ok` — a service that is served already makes no worker; another one makes the
  worker of its name.
* `Compile.Served` — the invariant of going through the services: the workers made so far carry the
  names of services gone through, no name twice and never that of the primary worker, and every
  service gone through has its worker.  `Compile.served_serviceWorkers` says that it holds at the end.
-/

namespace EdgeRig

namespace Compile

theorem workerName_ok {k : Scalar} {n : String} (h : workerName k = .ok n) : k = .text n := by
  cases k with
  | text m =>
    cases h
    rfl
  | _ => cases h

/-- The worker of a service runs the mock of the service or, where there is none, the default script. -/
theorem serviceWorker_ok {base : Option String} {s : Settings} {mocks : MockTable} {k : Scalar}
    {w : Worker} (h : (serviceWorker base s mocks k).result = .ok w) : ∃ n, k = .text n ∧
      ((∃ mock m, mocks.find? k = .ok (some mock) ∧ mock.resolve (.scalar k) = .ok m ∧
          w = ofMock base n m) ∨
        mocks.find? k = .ok none ∧ w = ofDefault s n) := by
  obtain ⟨found, hfound, h⟩ := Outcome.bind_eq_ok_iff.1 h
  cases found with
  | some mock =>
    obtain ⟨shown, -, h⟩ := Outcome.bind_eq_ok_iff.1 h
    obtain ⟨-, -, h⟩ := Outcome.bind_eq_ok_iff.1 h
    obtain ⟨m, hm, h⟩ := Outcome.bind_eq_ok_iff.1 h
    obtain ⟨n, hn, h⟩ := Outcome.bind_eq_ok_iff.1 h
    cases h
    exact ⟨n, workerName_ok hn, Or.inl ⟨mock, m, hfound, hm, rfl⟩⟩
  | none =>
    obtain ⟨shown, -, h⟩ := Outcome.bind_eq_ok_iff.1 h
    obtain ⟨-, -, h⟩ := Outcome.bind_eq_ok_iff.1 h
    obtain ⟨n, hn, h⟩ := Outcome.bind_eq_ok_iff.1 h
    cases h
    exact ⟨n, workerName_ok hn, Or.inr ⟨hfound, rfl⟩⟩

/-- Of the worker of a service only the name and the script are known. -/
theorem cell_of_serviceWorker {base : Option String} {s : Settings} {mocks : MockTable} {n : String}
    {w : Worker} (h : (serviceWorker base s mocks (.text n)).result = .ok w) :
    w.AgreesOutside [.script, .scriptPath] (Worker.named n) := by
  obtain ⟨m, hm, h⟩ := serviceWorker_ok h
  cases hm
  intro f hf
  simp only [List.mem_cons, List.not_mem_nil, or_false, not_or] at hf
  rcases h with ⟨_, mock, -, -, rfl⟩ | ⟨-, rfl⟩
  · rw [ofMock, Worker.cell_setText, if_neg hf.2, Worker.cell_setText, if_neg hf.1]
  · rw [ofDefault, Worker.cell_setText, if_neg hf.1]

theorem asKey_ok {v : Value} {k : Scalar} (h : v.asKey = .ok k) : v = .scalar k := by
  cases v with
  | scalar j =>
    cases h
    rfl
  | _ => cases h

theorem addService_ok {base : Option String} {s : Settings} {mocks : MockTable}
    {made made' : List (Scalar × Worker)} {v : Value}
    (h : (addService base s mocks made v).result = .ok made') : ∃ k, v = .scalar k ∧
      (isServed s made k = true ∧ made' = made ∨
        isServed s made k = false ∧ ∃ w, (serviceWorker base s mocks k).result = .ok w ∧
          made' = made ++ [(k, w)]) := by
  obtain ⟨k, hk, h⟩ := Outcome.bind_eq_ok_iff.1 h
  refine ⟨k, asKey_ok hk, ?_⟩
  split at h
  · rename_i hs
    cases h
    exact Or.inl ⟨hs, rfl⟩
  · rename_i hs
    obtain ⟨w, hw, h⟩ := Outcome.bind_eq_ok_iff.1 h
    cases h
    exact Or.inr ⟨Bool.eq_false_iff.2 hs, w, hw, rfl⟩

/-! ## Going through the services -/

/-- The workers `made` of the services `seen`. -/
structure Served (s : Settings) (seen : List Value) (made : List (Scalar × Worker)) : Prop where
  /-- A worker carries the name of its service, which is not that of the primary worker. -/
  named : ∀ e ∈ made, ∃ n, e.1 = .text n ∧ n ≠ s.mainWorkerName ∧
    e.2.AgreesOutside [.script, .scriptPath] (Worker.named n)
  /-- No service has two workers. -/
  distinct : made.Pairwise fun e f => e.1 ≠ f.1
  /-- A service is the primary worker or has a worker. -/
  covered : ∀ v ∈ seen, ∃ n, v = .text n ∧
    (n = s.mainWorkerName ∨ ∃ w, (Scalar.text n, w) ∈ made)

theorem served_nil (s : Settings) : Served s [] [] where
  named := fun _ he => absurd he List.not_mem_nil
  distinct := List.Pairwise.nil
  covered := fun _ hv => absurd hv List.not_mem_nil

/-- A service that needs no worker of its own is the primary worker or has one. -/
theorem Served.covers {s : Settings} {seen : List Value} {made : List (Scalar × Worker)} {k : Scalar}
    (hm : Served s seen made) (h : isServed s made k = true) :
    ∃ n, k = .text n ∧ (n = s.mainWorkerName ∨ ∃ w, (Scalar.text n, w) ∈ made) := by
  rw [isServed, Bool.or_eq_true, List.any_eq_true, beq_iff_eq] at h
  rcases h with ⟨⟨j, w⟩, hmem, hj⟩ | hk
  · obtain ⟨n, hn, -⟩ := hm.named _ hmem
    dsimp only at hn hj
    rw [hn] at hj hmem
    exact ⟨n, Scalar.same_text_left.1 hj, Or.inr ⟨w, hmem⟩⟩
  · exact ⟨_, hk, Or.inl rfl⟩

/-- A service that needs a worker has none, and is not the primary worker. -/
theorem ne_of_not_isServed {s : Settings} {made : List (Scalar × Worker)} {n : String}
    (h : isServed s made (.text n) = false) :
    n ≠ s.mainWorkerName ∧ ∀ e ∈ made, e.1 ≠ .text n := by
  rw [isServed, Bool.or_eq_false_iff, List.any_eq_false, beq_eq_false_iff_ne] at h
  exact ⟨fun hc => h.2 (congrArg Scalar.text hc),
    fun e he hc => h.1 e he (Scalar.same_text_right.2 hc)⟩

/-- **One service keeps the invariant.** -/
theorem Served.add {base : Option String} {s : Settings} {mocks : MockTable} {seen : List Value}
    {made made' : List (Scalar × Worker)} {v : Value} (hm : Served s seen made)
    (h : (addService base s mocks made v).result = .ok made') : Served s (seen ++ [v]) made' := by
  obtain ⟨k, rfl, ⟨hs, rfl⟩ | ⟨hs, w, hw, rfl⟩⟩ := addService_ok h
  · refine ⟨hm.named, hm.distinct, fun x hx => ?_⟩
    rcases List.mem_append.1 hx with hx | hx
    · exact hm.covered x hx
    · obtain ⟨n, rfl, hn⟩ := hm.covers hs
      exact ⟨n, List.mem_singleton.1 hx, hn⟩
  · obtain ⟨n, rfl, -⟩ := serviceWorker_ok hw
    obtain ⟨hmain, hnew⟩ := ne_of_not_isServed hs
    refine ⟨fun e he => ?_, ?_, fun x hx => ?_⟩
    · rcases List.mem_append.1 he with he | he
      · exact hm.named e he
      · rw [List.mem_singleton.1 he]
        exact ⟨n, rfl, hmain, cell_of_serviceWorker hw⟩
    · refine List.pairwise_append.2 ⟨hm.distinct, List.pairwise_singleton .., fun e he f hf => ?_⟩
      rw [List.mem_singleton.1 hf]
      exact hnew e he
    · rcases List.mem_append.1 hx with hx | hx
      · obtain ⟨m, rfl, hcov⟩ := hm.covered x hx
        exact ⟨m, rfl, hcov.imp id fun ⟨u, hu⟩ => ⟨u, List.mem_append_left _ hu⟩⟩
      · exact ⟨n, List.mem_singleton.1 hx,
          Or.inr ⟨w, List.mem_append_right _ (List.mem_singleton_self _)⟩⟩

/-- **The workers of the services.**  Going through all services keeps the invariant. -/
theorem served_serviceWorkers {base : Option String} {s : Settings} {mocks : MockTable}
    {services : List Value} {ws : List Worker}
    (h : (serviceWorkers base s mocks services).result = .ok ws) :
    ∃ made, Served s services made ∧ ws = made.map (·.2) := by
  obtain ⟨made, hmade, h⟩ := Outcome.bind_eq_ok_iff.1 h
  cases h
  rw [Outcome.result_foldlM] at hmade
  have := Except.foldlM_invariant (P := Served s) (fun _ _ _ _ => Served.add) (served_nil s) hmade
  exact ⟨made, this, rfl⟩

end Compile

end EdgeRig
