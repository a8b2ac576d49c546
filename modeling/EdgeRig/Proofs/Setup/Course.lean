import EdgeRig.Setup

/-!
# The courses that a setup can take

A setup goes through its stages in a fixed order and may stop at each of them.  The stage decides what
is written: first that nothing listens, then the options and where to listen, then the simulator, and
at last its handles and the fetch helper.

* `Setup.Course` — one constructor for each stage at which a setup can stop, with what was found on the
  way there; `Setup.course_attempt` says that there is no other.
* `Setup.simulator_writes` — a setup writes a simulator exactly when it has made one, and then once,
  under the key for simulators.
* `Setup.made_eq_some_iff` — it has made one exactly when its factory was asked and returned one.
-/

namespace EdgeRig

namespace Setup

/-- The ways that a setup can go. -/
inductive Course (around : Surroundings) (r : SetupRequest) : Attempt → Prop where
  /-- The environment sets the settings to something that they cannot be. -/
  | unsettled {f : Fault} (hs : settingsOf around r = .error f) : Course around r ⟨[], none, .fail f⟩
  /-- There is no factory. -/
  | unequipped {s : Settings} (hs : settingsOf around r = .ok s) (hf : factoryOf around r = none) :
      Course around r ⟨[silent], none, .fail (.failure .noFactory)⟩
  /-- The descriptor describes no options. -/
  | unplanned {s : Settings} {factory : Factory} {f : Fault} (hs : settingsOf around r = .ok s)
      (hf : factoryOf around r = some factory) (hp : (plan around.files r s).result = .error f) :
      Course around r ⟨[silent], none, ⟨(plan around.files r s).notices, .error f⟩⟩
  /-- The place to listen at cannot be written out. -/
  | nowhere {s : Settings} {factory : Factory} {c : Configuration} {f : Fault}
      (hs : settingsOf around r = .ok s) (hf : factoryOf around r = some factory)
      (hp : (plan around.files r s).result = .ok c) (hu : baseUrl c = .error f) :
      Course around r ⟨optionWrites c, none, ⟨(plan around.files r s).notices, .error f⟩⟩
  /-- The factory fails. -/
  | unmade {s : Settings} {factory : Factory} {c : Configuration} {url : Option String} {f : Fault}
      (hs : settingsOf around r = .ok s) (hf : factoryOf around r = some factory)
      (hp : (plan around.files r s).result = .ok c) (hu : baseUrl c = .ok url)
      (hm : factory c.options = .error f) :
      Course around r ⟨optionWrites c ++ listeningWrites url, none,
        ⟨(plan around.files r s).notices, .error f⟩⟩
  /-- The simulator was made and has no handles for the primary worker. -/
  | unbound {s : Settings} {factory : Factory} {c : Configuration} {url : Option String}
      {sim : Simulator} {f : Fault} (hs : settingsOf around r = .ok s)
      (hf : factoryOf around r = some factory) (hp : (plan around.files r s).result = .ok c)
      (hu : baseUrl c = .ok url) (hm : factory c.options = .ok sim)
      (hb : sim.bindings s.mainWorkerName = .error f) :
      Course around r ⟨optionWrites c ++ listeningWrites url ++ [(.simulator, .made)], some sim,
        ⟨(plan around.files r s).notices, .error f⟩⟩
  /-- Nothing fails. -/
  | ready {s : Settings} {factory : Factory} {c : Configuration} {url : Option String}
      {sim : Simulator} {env : Value} (hs : settingsOf around r = .ok s)
      (hf : factoryOf around r = some factory) (hp : (plan around.files r s).result = .ok c)
      (hu : baseUrl c = .ok url) (hm : factory c.options = .ok sim)
      (hb : sim.bindings s.mainWorkerName = .ok env) :
      Course around r
        ⟨optionWrites c ++ listeningWrites url ++ [(.simulator, .made)] ++
            [(.env, .plain env), (.fetch, .fetcher ⟨url, s.notListeningStatus⟩)],
          some sim, ⟨(plan around.files r s).notices ++ listeningNotice url, .ok ()⟩⟩

/-- **There is no other course.** -/
theorem course_attempt (around : Surroundings) (r : SetupRequest) :
    Course around r (attempt around r) := by
  unfold attempt
  split
  · rename_i hs
    exact .unsettled hs
  · rename_i s hs
    split
    · rename_i hf
      exact .unequipped hs hf
    · rename_i factory hf
      dsimp only
      split
      · rename_i hp
        exact .unplanned hs hf hp
      · rename_i c hp
        split
        · rename_i hu
          exact .nowhere hs hf hp hu
        · rename_i url hu
          unfold start
          dsimp only
          split
          · rename_i hm
            exact .unmade hs hf hp hu hm
          · rename_i sim hm
            split
            · rename_i hb
              exact .unbound hs hf hp hu hm hb
            · rename_i env hb
              exact .ready hs hf hp hu hm hb

/-! ## The simulator among the entries -/

/-- No entry is a simulator, and none is written where simulators belong. -/
def WithoutSimulator (ws : List (RigKey × Entry)) : Prop := ∀ w ∈ ws, w.1 ≠ .simulator ∧ w.2 ≠ .made

theorem withoutSimulator_options (c : Configuration) : WithoutSimulator (optionWrites c) := by
  intro w hw
  simp only [optionWrites, silent, List.mem_cons, List.not_mem_nil, or_false] at hw
  rcases hw with rfl | rfl <;> simp

theorem withoutSimulator_listening (c : Configuration) (url : Option String) :
    WithoutSimulator (optionWrites c ++ listeningWrites url) := by
  intro w hw
  rcases List.mem_append.1 hw with hw | hw
  · exact withoutSimulator_options c w hw
  · cases url with
    | none => exact absurd hw List.not_mem_nil
    | some url =>
      simp only [listeningWrites, List.mem_cons, List.not_mem_nil, or_false] at hw
      rcases hw with rfl | rfl <;> simp

/-- **A setup writes the simulator that it has made, once and under its own key.** -/
theorem simulator_writes (around : Surroundings) (r : SetupRequest) :
    (attempt around r).made = none ∧ WithoutSimulator (attempt around r).writes ∨
      ∃ sim before after, (attempt around r).made = some sim ∧
        (attempt around r).writes = before ++ (.simulator, .made) :: after ∧
        WithoutSimulator before ∧ WithoutSimulator after := by
  have hcourse := course_attempt around r
  generalize attempt around r = a at hcourse ⊢
  cases hcourse with
  | unsettled _ => exact Or.inl ⟨rfl, fun w hw => absurd hw List.not_mem_nil⟩
  | unequipped _ _ | unplanned _ _ _ =>
    refine Or.inl ⟨rfl, fun w hw => ?_⟩
    rw [List.mem_singleton.1 hw]
    exact ⟨nofun, nofun⟩
  | nowhere _ _ _ _ => exact Or.inl ⟨rfl, withoutSimulator_options _⟩
  | unmade _ _ _ _ _ => exact Or.inl ⟨rfl, withoutSimulator_listening _ _⟩
  | unbound _ _ _ _ _ _ =>
    exact Or.inr ⟨_, _, [], rfl, rfl, withoutSimulator_listening _ _,
      fun w hw => absurd hw List.not_mem_nil⟩
  | @ready s _ _ url _ env _ _ _ _ _ _ =>
    refine Or.inr ⟨_, _, [(.env, .plain env), (.fetch, .fetcher ⟨url, s.notListeningStatus⟩)], rfl,
      List.append_assoc .., withoutSimulator_listening _ _, fun w hw => ?_⟩
    simp only [List.mem_cons, List.not_mem_nil, or_false] at hw
    rcases hw with rfl | rfl <;> simp

/-- **What a setup has made is what its factory returned** for the options of its descriptor. -/
theorem made_eq_some_iff {around : Surroundings} {r : SetupRequest} {sim : Simulator} :
    (attempt around r).made = some sim ↔ ∃ s factory c url, settingsOf around r = .ok s ∧
      factoryOf around r = some factory ∧ (plan around.files r s).result = .ok c ∧
      baseUrl c = .ok url ∧ factory c.options = .ok sim := by
  have hcourse := course_attempt around r
  generalize attempt around r = a at hcourse ⊢
  constructor
  · intro h
    cases hcourse with
    | unsettled _ => cases h
    | unequipped _ _ => cases h
    | unplanned _ _ _ => cases h
    | nowhere _ _ _ _ => cases h
    | unmade _ _ _ _ _ => cases h
    | unbound hs hf hp hu hm _ | ready hs hf hp hu hm _ =>
      cases h
      exact ⟨_, _, _, _, hs, hf, hp, hu, hm⟩
  · rintro ⟨s, factory, c, url, hs, hf, hp, hu, hm⟩
    cases hcourse with
    | unsettled hs' => cases hs.symm.trans hs'
    | unequipped _ hf' => cases hf.symm.trans hf'
    | unplanned hs' _ hp' =>
      cases hs.symm.trans hs'
      cases hp.symm.trans hp'
    | nowhere hs' _ hp' hu' =>
      cases hs.symm.trans hs'
      cases hp.symm.trans hp'
      cases hu.symm.trans hu'
    | unmade hs' hf' hp' _ hm' =>
      cases hs.symm.trans hs'
      cases hf.symm.trans hf'
      cases hp.symm.trans hp'
      cases hm.symm.trans hm'
    | unbound hs' hf' hp' _ hm' _ | ready hs' hf' hp' _ hm' _ =>
      cases hs.symm.trans hs'
      cases hf.symm.trans hf'
      cases hp.symm.trans hp'
      cases hm.symm.trans hm'
      rfl

end Setup

end EdgeRig
