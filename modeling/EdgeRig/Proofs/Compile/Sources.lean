import EdgeRig.Proofs.Compile.Configuration

/-!
# Where the bodies of workers come from

A worker runs a script that it carries, or one that it names by its path.

* `Worker.HasPath` — the path of a worker's script is a text, or there is none.
* `Worker.RunsText` — a worker has one of the two, and it is a text.
* `Compile.scriptPath_of_primary`, `Compile.script_of_primary` — the primary worker carries no script,
  and its path is what the descriptor says under `main`, seen from the base directory.
* `Compile.standsIn_of_serviceWorkers` — the worker of a service runs a text, whether there is a mock
  for it or not, and has nothing else but its name.
* `Compile.MadeFor` — a worker was made for the service of a name; `Compile.madeFor_of_configuration`
  says that all workers of a configuration were, but for the primary one.
-/

namespace EdgeRig

namespace Worker

/-- The path of the worker's script is a text, or there is none. -/
def HasPath (w : Worker) : Prop := ∃ p : Option String, w.cell .scriptPath = .plain (Value.ofText? p)

/-- The worker carries a script or names the path of one, and not both. -/
def RunsText (w : Worker) : Prop :=
  ∃ t, w.cell .script = .plain (.text t) ∧ w.cell .scriptPath = .empty ∨
    w.cell .script = .empty ∧ w.cell .scriptPath = .plain (.text t)

/-- A worker that stands in for a service: of its fields only the name and the body say something. -/
structure StandsIn (w : Worker) : Prop where
  runsText : w.RunsText
  agrees : ∃ n, w.AgreesOutside [.script, .scriptPath] (Worker.named n)
  unnoted : ∀ k, w.note k = none

theorem RunsText.hasPath {w : Worker} (h : w.RunsText) : w.HasPath := by
  obtain ⟨t, ⟨-, hp⟩ | ⟨-, hp⟩⟩ := h
  · exact ⟨none, hp⟩
  · exact ⟨some t, hp⟩

end Worker

namespace Compile

variable {base : Option String} {s : Settings} {mocks : MockTable} {d : Value}

/-! ## The primary worker -/

/-- A base directory makes no path of nothing, and nothing of no path. -/
theorem rebase_null {path v : Value} (h : rebase base path = .ok v) : v = .null ↔ path = .null := by
  unfold rebase at h
  split at h
  · cases h
    rfl
  · split at h
    · cases h
      simp
    · cases h
      simp
    · cases h

/-- The rules write the path of the script from what stands under `main`. -/
theorem scriptPath_of_table {v w : Worker} (h : Rule.applyAll Rule.table d v = .ok w) :
    w.cell .scriptPath = (d.lookup "main").elim (v.cell .scriptPath) .plain := by
  obtain ⟨p, hp, hrest⟩ := Rule.applyAll_cons_ok h
  have hafter : w.cell .scriptPath = p.1.cell .scriptPath := Rule.cell_of_applyAll hrest (by decide)
  obtain ⟨o, ho, hcell⟩ := Rule.cell_of_apply hp
  have hmain : o = d.lookup "main" := by
    unfold Rule.outcome at ho
    cases hl : d.lookup "main" with
    | none => simpa [Rule.source, hl, eq_comm] using ho
    | some u => simpa [Rule.source, hl, eq_comm] using ho
  rw [hafter, hcell .scriptPath, if_pos (by decide), hmain]

/-- The path of the primary worker's script is what stands under `main`, seen from the base. -/
theorem scriptPath_of_primary {p : Worker} (h : primary base s d = .ok p) :
    ∃ main v, d.peek "main" = .ok main ∧ rebase base main = .ok v ∧
      p.cell .scriptPath = .plain v := by
  obtain ⟨u, v, w, hu, hv, hw, hp⟩ := primary_ok h
  obtain ⟨main, hmain⟩ : ∃ main, d.peek "main" = .ok main := by
    obtain ⟨_, hvars, -⟩ := withVars_ok hu
    obtain ⟨m, rfl⟩ := Value.exists_map_of_peek hvars
    exact ⟨_, rfl⟩
  have hempty : v.cell .scriptPath = .empty := by
    have hvu : v.cell .scriptPath = u.cell .scriptPath := by
      obtain ⟨_, _, ⟨_, rfl⟩ | ⟨_, _, _, rfl⟩⟩ := withAssets_eq_ok_iff.1 hv <;> rfl
    rw [hvu]
    obtain ⟨_, _, ⟨_, rfl⟩ | ⟨_, _, _, rfl⟩⟩ := withVars_ok hu <;> rfl
  have hcell : w.cell .scriptPath = .plain main := by
    rw [scriptPath_of_table hw, hempty, Value.lookup_of_peek (by decide) hmain]
    have hwhole := Value.getD_present? main
    cases hp : main.present? <;> rw [hp] at hwhole <;> exact congrArg Cell.plain hwhole
  unfold withScriptPath at hp
  rw [hcell] at hp
  obtain ⟨x, hx, rfl⟩ := Except.map_eq_ok_iff.1 hp
  exact ⟨main, x, hmain, hx, rfl⟩

theorem script_of_primary {p : Worker} (h : primary base s d = .ok p) : p.cell .script = .empty :=
  cell_of_primary h (f := .script) (by decide) (by decide)

/-! ## The workers of the services -/

theorem standsIn_ofMock (base : Option String) (n : String) (m : ServiceMock) :
    (ofMock base n m).StandsIn where
  runsText := by
    cases m with
    | inline script => exact ⟨script, Or.inl ⟨rfl, rfl⟩⟩
    | file path => exact ⟨_, Or.inr ⟨rfl, rfl⟩⟩
  agrees := by
    refine ⟨n, fun f hf => ?_⟩
    simp only [List.mem_cons, List.not_mem_nil, or_false, not_or] at hf
    simp [ofMock, Worker.cell_setText, hf.1, hf.2]
  unnoted := fun _ => rfl

theorem standsIn_ofDefault (s : Settings) (n : String) : (ofDefault s n).StandsIn where
  runsText := ⟨_, Or.inl ⟨rfl, rfl⟩⟩
  agrees := by
    refine ⟨n, fun f hf => ?_⟩
    simp only [List.mem_cons, List.not_mem_nil, or_false, not_or] at hf
    simp [ofDefault, Worker.cell_setText, hf.1]
  unnoted := fun _ => rfl

theorem standsIn_of_serviceWorker {k : Scalar} {w : Worker}
    (h : (serviceWorker base s mocks k).result = .ok w) : w.StandsIn := by
  obtain ⟨n, -, ⟨_, m, -, -, rfl⟩ | ⟨-, rfl⟩⟩ := serviceWorker_ok h
  · exact standsIn_ofMock base n m
  · exact standsIn_ofDefault s n

/-- The worker was made for the service of this name, which is not the primary worker. -/
def MadeFor (base : Option String) (s : Settings) (mocks : MockTable) (n : String) (w : Worker) :
    Prop := n ≠ s.mainWorkerName ∧ (serviceWorker base s mocks (.text n)).result = .ok w

/-- One more service keeps it so that all workers were made for services. -/
theorem madeFor_of_addService {before after : List (Scalar × Worker)} {v : Value}
    (hbefore : ∀ e ∈ before, ∃ n, MadeFor base s mocks n e.2)
    (h : (addService base s mocks before v).result = .ok after) :
    ∀ e ∈ after, ∃ n, MadeFor base s mocks n e.2 := by
  obtain ⟨k, -, ⟨-, rfl⟩ | ⟨hserved, w, hw, rfl⟩⟩ := addService_ok h
  · exact hbefore
  · obtain ⟨n, rfl, -⟩ := serviceWorker_ok hw
    intro e he
    rcases List.mem_append.1 he with he | he
    · exact hbefore e he
    · rw [List.mem_singleton.1 he]
      exact ⟨n, (ne_of_not_isServed hserved).1, hw⟩

theorem madeFor_of_serviceWorkers {services : List Value} {ws : List Worker}
    (h : (serviceWorkers base s mocks services).result = .ok ws) :
    ∀ w ∈ ws, ∃ n, MadeFor base s mocks n w := by
  obtain ⟨made, hmade, h⟩ := Outcome.bind_eq_ok_iff.1 h
  cases h
  rw [Outcome.result_foldlM] at hmade
  have hall : ∀ e ∈ made, ∃ n, MadeFor base s mocks n e.2 :=
    @Except.foldlM_invariant _ _ _ _ (fun _ made => ∀ e ∈ made, ∃ n, MadeFor base s mocks n e.2)
      (fun _ _ _ _ => madeFor_of_addService) services [] [] made
      (fun _ he => absurd he List.not_mem_nil) hmade
  intro w hw
  obtain ⟨e, he, rfl⟩ := List.mem_map.1 hw
  exact hall e he

/-- The workers of the services stand in for them. -/
theorem standsIn_of_serviceWorkers {services : List Value} {ws : List Worker}
    (h : (serviceWorkers base s mocks services).result = .ok ws) : ∀ w ∈ ws, w.StandsIn := by
  intro w hw
  obtain ⟨n, -, hmade⟩ := madeFor_of_serviceWorkers h w hw
  exact standsIn_of_serviceWorker hmade

/-- The workers of a configuration are the primary worker, with service bindings or without, and
workers that were made for services. -/
theorem madeFor_of_configuration {c : Configuration}
    (h : (configuration d mocks base s).result = .ok c) :
    ∃ p head others, primary base s (effective d) = .ok p ∧ c.workers = head :: others ∧
      head.AgreesOutside [.serviceBindings] p ∧ ∀ w ∈ others, ∃ n, MadeFor base s mocks n w := by
  obtain ⟨p, hp, hws, -⟩ := configuration_ok h
  obtain ⟨_, _, ⟨_, hc⟩ | ⟨_, _, entries, others, _, _, hothers, hc⟩⟩ := withServices_ok hws
  · exact ⟨p, p, [], hp, hc, fun _ _ => rfl, fun _ hw => absurd hw List.not_mem_nil⟩
  · exact ⟨p, _, others, hp, hc, fun f hf => if_neg (by simpa using hf),
      madeFor_of_serviceWorkers hothers⟩

/-- The workers beside the primary one stand in for services. -/
theorem workers_of_configuration {c : Configuration}
    (h : (configuration d mocks base s).result = .ok c) :
    ∃ p head others, primary base s (effective d) = .ok p ∧ c.workers = head :: others ∧
      head.AgreesOutside [.serviceBindings] p ∧ (∀ w ∈ others, w.StandsIn) := by
  obtain ⟨p, head, others, hp, hws, hagrees, hmade⟩ := madeFor_of_configuration h
  refine ⟨p, head, others, hp, hws, hagrees, fun w hw => ?_⟩
  obtain ⟨n, -, hn⟩ := hmade w hw
  exact standsIn_of_serviceWorker hn

end Compile

end EdgeRig
