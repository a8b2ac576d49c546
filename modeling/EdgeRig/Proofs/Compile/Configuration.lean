import EdgeRig.Proofs.Compile.Services

/-!
# Compiled configurations

What a configuration is made of when a descriptor compiles.

* `Compile.withServices_ok` — the primary worker comes first, with the service bindings of the
  descriptor, and the workers of the services follow it.
* `Compile.configuration_ok` — the workers come from there, and the place to listen from the
  development block alone.
* `Compile.head_of_configuration` — the first worker is the primary one, and differs from what the
  other parts of the descriptor make of it in the service bindings at most; these are the ones that
  the descriptor asks for.
-/

namespace EdgeRig

namespace Compile

/-- The descriptor that a value stands for; an empty value says nothing. -/
def effective (d : Value) : Value := if d.isTruthy then d else .map []

/-- A mapping stands for itself. -/
theorem effective_map (m : Mapping) : effective (.map m) = .map m := by
  cases m <;> rfl

variable {base : Option String} {s : Settings} {mocks : MockTable} {d : Value}

/-- The primary worker, then the workers of its services. -/
theorem withServices_ok {p : Worker} {ws : List Worker}
    (h : (withServices base s mocks d p).result = .ok ws) :
    ∃ services, d.peek "services" = .ok services ∧ (services.isNull = true ∧ ws = [p] ∨
      services.isNull = false ∧ ∃ items entries others, services.elements = .ok items ∧
        serviceEntries items = .ok entries ∧
        (serviceWorkers base s mocks (entries.map (·.2))).result = .ok others ∧
        ws = p.set .serviceBindings (.plain (.map (Mapping.ofEntries entries))) :: others) := by
  obtain ⟨services, hservices, h⟩ := Outcome.bind_eq_ok_iff.1 h
  refine ⟨services, hservices, ?_⟩
  split at h
  · rename_i hn
    cases h
    exact Or.inl ⟨hn, rfl⟩
  · rename_i hn
    obtain ⟨items, hitems, h⟩ := Outcome.bind_eq_ok_iff.1 h
    obtain ⟨entries, hentries, h⟩ := Outcome.bind_eq_ok_iff.1 h
    obtain ⟨others, hothers, h⟩ := Outcome.bind_eq_ok_iff.1 h
    cases h
    exact Or.inr ⟨Bool.eq_false_iff.2 hn, items, entries, others, hitems, hentries, hothers, rfl⟩

/-- Once the primary worker is made, the services and the place to listen remain. -/
theorem configuration_of_primary {base : Option String} {p : Worker}
    (hp : primary base s (effective d) = .ok p) : configuration d mocks base s =
      withServices base s mocks (effective d) p >>= fun ws =>
        Outcome.ofExcept (listening s (effective d)).2.written >>= fun _ =>
          pure ⟨ws, (listening s (effective d)).1, (listening s (effective d)).2⟩ := by
  show Outcome.ofExcept (primary base s (effective d)) >>= _ = _
  rw [hp]
  rfl

theorem configuration_ok {c : Configuration} (h : (configuration d mocks base s).result = .ok c) :
    ∃ p, primary base s (effective d) = .ok p ∧
      (withServices base s mocks (effective d) p).result = .ok c.workers ∧
      (c.host, c.port) = listening s (effective d) := by
  obtain ⟨p, hp, h⟩ := Outcome.bind_eq_ok_iff.1 h
  obtain ⟨ws, hws, h⟩ := Outcome.bind_eq_ok_iff.1 h
  obtain ⟨t, -, h⟩ := Outcome.bind_eq_ok_iff.1 h
  cases h
  exact ⟨p, hp, hws, rfl⟩

/-- The service bindings that a descriptor asks for; of entries with one binding the last counts. -/
def AsksFor (d : Value) (m : Mapping) : Prop :=
  ∃ services, d.peek "services" = .ok services ∧ (services.isNull = true ∧ m = [] ∨
    services.isNull = false ∧ ∃ items entries, services.elements = .ok items ∧
      serviceEntries items = .ok entries ∧ m = Mapping.ofEntries entries)

/-- The first worker of a configuration is the primary worker of its descriptor. -/
theorem head_of_configuration {c : Configuration}
    (h : (configuration d mocks base s).result = .ok c) :
    ∃ p head others m, primary base s (effective d) = .ok p ∧ c.workers = head :: others ∧
      head.AgreesOutside [.serviceBindings] p ∧ head.HoldsBindings m ∧ AsksFor (effective d) m := by
  obtain ⟨p, hp, hws, -⟩ := configuration_ok h
  obtain ⟨services, hs, ⟨hn, hc⟩ | ⟨hn, items, entries, others, hi, he, _, hc⟩⟩ := withServices_ok hws
  · exact ⟨p, p, [], [], hp, hc, fun _ _ => rfl, Or.inl ⟨serviceBindings_of_primary hp, rfl⟩,
      services, hs, Or.inl ⟨hn, rfl⟩⟩
  · exact ⟨p, _, others, _, hp, hc, fun f hf => if_neg (by simpa using hf), Or.inr rfl,
      services, hs, Or.inr ⟨hn, items, entries, hi, he, rfl⟩⟩

end Compile

end EdgeRig
