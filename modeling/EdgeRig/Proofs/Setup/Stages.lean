import EdgeRig.Proofs.Rig.Listening
import EdgeRig.Proofs.Session
import EdgeRig.Proofs.Setup.Runnable

/-!
# How far a setup got

A setup can stop at many places, and leaves a context that was filled in part.  The entries tell how far
it got: the options come before the factory is asked, the simulator before its handles, the helper for
fetching last.  Where to listen is worked out between the options and the factory, from the host and the
port of the same configuration.

* `Setup.Siting` — the options of a configuration name no place, a place that can be written out, or one
  that cannot, since a whole number in it has too many digits.
* `Setup.attempt_of_baseUrl` and its siblings — what a setup does, by the stage that it reaches.
* `Setup.asked_once` — a setup depends on one answer of its factory at most.
* `Setup.whereabouts_setup` — what the flag and the URL are, by the options that stand beside them.
* `Setup.Staged` — what the context and the end of a setup tell of each other; `Setup.staged_setup` says
  that they do after every setup.
-/

namespace EdgeRig

/-- The request with a factory of its own. -/
def SetupRequest.handing (request : SetupRequest) (factory : Factory) : SetupRequest :=
  { request with factory := some factory }

/-- The mapping has an entry under the key. -/
def Value.Shows (v : Value) (key : String) : Prop := ∃ u, v.field key = .ok u

namespace Setup

/-! ## Where to listen -/

/-- The host and the port among the options can be written out, where they are given. -/
def CanBePlaced (o : Value) : Prop :=
  ∀ key ∈ ["host", "port"], ∀ v, o.field key = .ok v → v.isWritable = true

theorem written_of_isWritable {v : Value} (h : v.isWritable = true) : v.written = .ok v.shown := by
  rw [Value.written, Value.shown?, if_pos h]

theorem written_of_not_isWritable {v : Value} (h : v.isWritable = false) :
    v.written = .error .numberTooLong := by
  rw [Value.written, Value.shown?, if_neg (by rw [h]; decide)]

/-- The URL of a host and a port. -/
def urlAt (host port : Value) : String := "http://" ++ host.shown ++ ":" ++ port.shown

/-- What the options of a configuration say about the place to listen at, and what comes of it. -/
inductive Siting (c : Configuration) : Prop where
  | silent (hhost : ¬ c.options.Shows "host") (hport : ¬ c.options.Shows "port")
      (hplaced : CanBePlaced c.options) (hurl : baseUrl c = .ok none)
  | placed (hhost : c.options.field "host" = .ok c.host) (hport : c.options.field "port" = .ok c.port)
      (hplaced : CanBePlaced c.options) (hurl : baseUrl c = .ok (some (urlAt c.host c.port)))
  | unplaced (hhost : c.options.field "host" = .ok c.host)
      (hport : c.options.field "port" = .ok c.port) (hplaced : ¬ CanBePlaced c.options)
      (hurl : baseUrl c = .error .numberTooLong)

/-- **Options and URL come from the same place.** -/
theorem siting (c : Configuration) : Siting c := by
  cases hlistens : c.listens with
  | false =>
    have hoptions : c.options = Value.record [("workers", .list (c.workers.map Worker.options))] := by
      rw [Configuration.options, hlistens]
      rfl
    have hfield : ∀ key ∈ ["host", "port"], c.options.field key = .error (.missingKey key) := by
      simp only [List.forall_mem_cons, hoptions]
      exact ⟨rfl, rfl, fun _ hk => absurd hk List.not_mem_nil⟩
    have hnone : ∀ key ∈ ["host", "port"], ¬ c.options.Shows key := by
      rintro key hkey ⟨v, hv⟩
      cases hv.symm.trans (hfield key hkey)
    refine .silent (hnone "host" (by decide)) (hnone "port" (by decide)) ?_ ?_
    · intro key hkey v hv
      exact absurd ⟨v, hv⟩ (hnone key hkey)
    · rw [baseUrl, hlistens]
      rfl
  | true =>
    have hoptions : c.options = Value.record [("workers", .list (c.workers.map Worker.options)),
        ("host", c.host), ("port", c.port)] := by
      rw [Configuration.options, hlistens]
      rfl
    have hhost : c.options.field "host" = .ok c.host := by
      rw [hoptions]
      rfl
    have hport : c.options.field "port" = .ok c.port := by
      rw [hoptions]
      rfl
    have hurl : baseUrl c = c.host.written >>= fun h => c.port.written >>= fun p =>
        .ok (some ("http://" ++ h ++ ":" ++ p)) := by
      rw [baseUrl, hlistens]
      rfl
    have hplaced : CanBePlaced c.options ↔ c.host.isWritable = true ∧ c.port.isWritable = true := by
      simp [CanBePlaced, hhost, hport]
    cases hh : c.host.isWritable with
    | false =>
      refine .unplaced hhost hport (fun hc => ?_) ?_
      · rw [(hplaced.1 hc).1] at hh
        cases hh
      · rw [hurl, written_of_not_isWritable hh]
        rfl
    | true =>
      cases hp : c.port.isWritable with
      | false =>
        refine .unplaced hhost hport (fun hc => ?_) ?_
        · rw [(hplaced.1 hc).2] at hp
          cases hp
        · rw [hurl, written_of_isWritable hh, written_of_not_isWritable hp]
          rfl
      | true =>
        refine .placed hhost hport (hplaced.2 ⟨hh, hp⟩) ?_
        rw [hurl, written_of_isWritable hh, written_of_isWritable hp]
        rfl

/-- It is known where to listen exactly when the place can be written out. -/
theorem exists_baseUrl_iff {c : Configuration} :
    (∃ url, baseUrl c = .ok url) ↔ CanBePlaced c.options := by
  cases siting c with
  | silent _ _ hplaced hurl | placed _ _ hplaced hurl => exact iff_of_true ⟨_, hurl⟩ hplaced
  | unplaced _ _ hplaced hurl =>
    refine iff_of_false ?_ hplaced
    rintro ⟨url, hok⟩
    cases hok.symm.trans hurl

/-! ## By the stage that is reached -/

section Stages

variable {around : Surroundings} {request : SetupRequest} {s : Settings} {factory : Factory}
  {c : Configuration} {f : Fault}

theorem attempt_of_unsettled (hs : settingsOf around request = .error f) :
    attempt around request = ⟨[], none, .fail f⟩ := by
  simp only [attempt, hs]

theorem attempt_of_unequipped (hs : settingsOf around request = .ok s)
    (hf : factoryOf around request = none) :
    attempt around request = ⟨[silent], none, .fail (.failure .noFactory)⟩ := by
  simp only [attempt, hs, hf]

theorem attempt_of_unplanned (hs : settingsOf around request = .ok s)
    (hf : factoryOf around request = some factory)
    (hp : (plan around.files request s).result = .error f) : attempt around request =
      ⟨[silent], none, ⟨(plan around.files request s).notices, .error f⟩⟩ := by
  simp only [attempt, hs, hf, hp]

theorem attempt_of_nowhere (hs : settingsOf around request = .ok s)
    (hf : factoryOf around request = some factory)
    (hp : (plan around.files request s).result = .ok c) (hu : baseUrl c = .error f) :
    attempt around request =
      ⟨optionWrites c, none, ⟨(plan around.files request s).notices, .error f⟩⟩ := by
  simp only [attempt, hs, hf, hp, hu]

theorem attempt_of_baseUrl {url : Option String} (hs : settingsOf around request = .ok s)
    (hf : factoryOf around request = some factory)
    (hp : (plan around.files request s).result = .ok c) (hu : baseUrl c = .ok url) :
    attempt around request = start factory s (plan around.files request s).notices c url := by
  simp only [attempt, hs, hf, hp, hu]

/-- A factory that is registered counts as one that is given. -/
theorem attempt_handing (hf : factoryOf around request = some factory) :
    attempt around (request.handing factory) = attempt around request := by
  have hsettings : settingsOf around (request.handing factory) = settingsOf around request := rfl
  have hfactory : factoryOf around (request.handing factory) = some factory := rfl
  rw [attempt, attempt, hsettings, hfactory, hf]
  rfl

/-- **A factory is asked once at most.**  What a setup does depends on no factory, or on the answer of the
factory to one request. -/
theorem asked_once (around : Surroundings) (request : SetupRequest) :
    (∃ a, ∀ factory, attempt around (request.handing factory) = a) ∨
      ∃ (o : Value) (next : Except Fault Simulator → Attempt),
        ∀ factory, attempt around (request.handing factory) = next (factory o) := by
  have hsettings : ∀ factory, settingsOf around (request.handing factory) = settingsOf around request :=
    fun _ => rfl
  have hfactory : ∀ factory, factoryOf around (request.handing factory) = some factory := fun _ => rfl
  have hplan : ∀ factory s, plan around.files (request.handing factory) s = plan around.files request s :=
    fun _ _ => rfl
  cases hs : settingsOf around request with
  | error f => exact Or.inl ⟨_, fun factory => attempt_of_unsettled ((hsettings factory).trans hs)⟩
  | ok s =>
    have hs' := fun factory => (hsettings factory).trans hs
    cases hp : (plan around.files request s).result with
    | error f =>
      exact Or.inl ⟨⟨[silent], none, ⟨(plan around.files request s).notices, .error f⟩⟩,
        fun factory => attempt_of_unplanned (hs' factory) (hfactory factory) hp⟩
    | ok c =>
      cases hu : baseUrl c with
      | error f =>
        exact Or.inl ⟨⟨optionWrites c, none, ⟨(plan around.files request s).notices, .error f⟩⟩,
          fun factory => attempt_of_nowhere (hs' factory) (hfactory factory) hp hu⟩
      | ok url =>
        refine Or.inr ⟨c.options, fun answer =>
          start (fun _ => answer) s (plan around.files request s).notices c url, fun factory => ?_⟩
        rw [attempt_of_baseUrl (hs' factory) (hfactory factory) hp hu, hplan]
        rfl

/-! ## What the entries tell -/

variable {r : Rig}

/-- What a setup leaves under a key that was not held before is what it writes there. -/
theorem get?_setup (h : r.Unheld) (around : Surroundings) (request : SetupRequest) (key : RigKey) :
    (r.setup around request).1.context.get? key.text =
      (Rig.writeAll r.running.length [] (attempt around request).writes).get? key.text := by
  refine (Rig.get?_writeAll ..).trans ?_
  rw [h key, Option.or_none]

/-- The options, the flag and the URL are written before the factory answers, and not again. -/
theorem get?_start (n : Nat) (notices : List Notice) (url : Option String) {key : RigKey}
    (hkey : key ∈ [.options, .isListening, .baseUrl]) :
    (Rig.writeAll n [] (start factory s notices c url).writes).get? key.text =
      (Rig.writeAll n [] (optionWrites c ++ listeningWrites url)).get? key.text := by
  have hlater : ∀ later : List (RigKey × Entry),
      (∀ w ∈ later, w.1 ∉ [RigKey.options, .isListening, .baseUrl]) →
      (Rig.writeAll n [] (optionWrites c ++ listeningWrites url ++ later)).get? key.text =
        (Rig.writeAll n [] (optionWrites c ++ listeningWrites url)).get? key.text := by
    intro later hnot
    rw [Rig.writeAll_append, Rig.get?_writeAll_of_ne]
    intro w hw hc
    exact hnot w hw (by rw [RigKey.text_injective hc]; exact hkey)
  unfold start
  dsimp only
  cases factory c.options with
  | error f => rfl
  | ok sim =>
    dsimp only
    cases sim.bindings s.mainWorkerName with
    | error f => exact hlater _ (List.forall_mem_singleton.2 (by decide))
    | ok env =>
      dsimp only
      rw [List.append_assoc]
      refine hlater _ ?_
      simp only [List.singleton_append, List.forall_mem_cons]
      exact ⟨by decide, by decide, by decide, nofun⟩

/-- **The options stand in the context exactly when there is a plan**, and are those of the plan. -/
theorem get?_options_setup (h : r.Unheld) {e : ContextEntry} :
    (r.setup around request).1.context.get? RigKey.options.text = some e ↔
      ∃ s factory c, settingsOf around request = .ok s ∧ factoryOf around request = some factory ∧
        (plan around.files request s).result = .ok c ∧ e = .plain c.options := by
  rw [get?_setup h]
  constructor
  · have hcourse := course_attempt around request
    generalize attempt around request = a at hcourse ⊢
    intro he
    cases hcourse with
    | unsettled _ => cases he
    | unequipped _ _ => cases he
    | unplanned _ _ _ => cases he
    | nowhere hs hf hp _ =>
      cases he
      exact ⟨_, _, _, hs, hf, hp, rfl⟩
    | @unmade _ _ _ url _ hs hf hp _ _ =>
      cases url <;> cases he <;> exact ⟨_, _, _, hs, hf, hp, rfl⟩
    | @unbound _ _ _ url _ _ hs hf hp _ _ _ | @ready _ _ _ url _ _ hs hf hp _ _ _ =>
      cases url <;> cases he <;> exact ⟨_, _, _, hs, hf, hp, rfl⟩
  · rintro ⟨s, factory, c, hs, hf, hp, rfl⟩
    cases hu : baseUrl c with
    | error f =>
      rw [attempt_of_nowhere hs hf hp hu]
      rfl
    | ok url =>
      rw [attempt_of_baseUrl hs hf hp hu, get?_start _ _ _ (by decide)]
      cases url <;> rfl

/-- **The helper for fetching stands in the context exactly when nothing failed.** -/
theorem get?_fetch_setup (h : r.Unheld) :
    (r.setup around request).2.result = .ok () ↔
      ∃ e, (r.setup around request).1.context.get? RigKey.fetch.text = some e := by
  rw [get?_setup h]
  show (attempt around request).outcome.result = .ok () ↔ _
  have hcourse := course_attempt around request
  generalize attempt around request = a at hcourse ⊢
  cases hcourse with
  | unsettled _ | unequipped _ _ | unplanned _ _ _ | nowhere _ _ _ _ => exact iff_of_false nofun nofun
  | @unmade _ _ _ url _ _ _ _ _ _ | @unbound _ _ _ url _ _ _ _ _ _ _ _ =>
    cases url <;> exact iff_of_false nofun nofun
  | @ready _ _ _ url _ _ _ _ _ _ _ _ => cases url <;> exact iff_of_true rfl ⟨_, rfl⟩

/-- **The simulator stands in the context exactly when the factory was asked and made one.** -/
theorem get?_simulator_setup_iff (h : r.Unheld) :
    (∃ e, (r.setup around request).1.context.get? RigKey.simulator.text = some e) ↔
      ∃ factory o sim, factoryOf around request = some factory ∧ Asks around request o ∧
        factory o = .ok sim := by
  constructor
  · rintro ⟨e, he⟩
    cases hmade : (attempt around request).made with
    | none =>
      rw [Rig.get?_simulator_setup_of_none hmade, h .simulator] at he
      cases he
    | some sim =>
      obtain ⟨s, factory, c, url, hs, hf, hp, hu, hm⟩ := made_eq_some_iff.1 hmade
      exact ⟨factory, c.options, sim, hf, asks_iff.2 ⟨s, factory, c, url, hs, hf, hp, hu, rfl⟩, hm⟩
  · rintro ⟨factory, o, sim, hf, hasks, hm⟩
    obtain ⟨s, factory', c, url, hs, hf', hp, hu, rfl⟩ := asks_iff.1 hasks
    cases hf.symm.trans hf'
    exact ⟨_, Rig.get?_simulator_setup (made_eq_some_iff.2 ⟨s, factory, c, url, hs, hf, hp, hu, hm⟩)⟩

/-- Once it is known where to listen, the flag and the URL stand in the context, whatever the factory
does. -/
theorem listening_setup {url : Option String} (h : r.Unheld) (hs : settingsOf around request = .ok s)
    (hf : factoryOf around request = some factory)
    (hp : (plan around.files request s).result = .ok c) (hu : baseUrl c = .ok url) :
    (r.setup around request).1.context.get? RigKey.isListening.text =
        some (.plain (.bool url.isSome)) ∧
      (r.setup around request).1.context.get? RigKey.baseUrl.text =
        url.map fun u => .plain (.text u) := by
  rw [get?_setup h, get?_setup h, attempt_of_baseUrl hs hf hp hu, get?_start _ _ _ (by decide),
    get?_start _ _ _ (by decide)]
  cases url <;> exact ⟨rfl, rfl⟩

/-- Where the place to listen at cannot be written out, the setup ends with nothing but the options and a
flag that is not set. -/
theorem nowhere_setup (h : r.Unheld) (hs : settingsOf around request = .ok s)
    (hf : factoryOf around request = some factory)
    (hp : (plan around.files request s).result = .ok c) (hu : baseUrl c = .error f) :
    (r.setup around request).1.context.get? RigKey.isListening.text = some (.plain (.bool false)) ∧
      (r.setup around request).1.context.get? RigKey.baseUrl.text = none ∧
      (r.setup around request).2.result = .error f := by
  have hresult : (r.setup around request).2 = (attempt around request).outcome := rfl
  rw [get?_setup h, get?_setup h, hresult, attempt_of_nowhere hs hf hp hu]
  exact ⟨rfl, rfl, rfl⟩

/-- What the options of a setup say about the place to listen at, and what the rest of its context says. -/
inductive Whereabouts (o : Value) (context : Context) (result : Except Fault Unit) : Prop where
  | silent (hhost : ¬ o.Shows "host") (hport : ¬ o.Shows "port") (hplaced : CanBePlaced o)
      (hflag : ¬ context.SaysListening) (hurl : context.get? RigKey.baseUrl.text = none)
  | placed (host port : Value) (hhost : o.field "host" = .ok host) (hport : o.field "port" = .ok port)
      (hplaced : CanBePlaced o) (hflag : context.SaysListening)
      (hurl : context.get? RigKey.baseUrl.text = some (.plain (.text (urlAt host port))))
  | unplaced (hhost : o.Shows "host") (hport : o.Shows "port") (hplaced : ¬ CanBePlaced o)
      (hflag : ¬ context.SaysListening) (hurl : context.get? RigKey.baseUrl.text = none)
      (hresult : result = .error .numberTooLong)

/-- **Flag and URL follow the options that stand beside them.** -/
theorem whereabouts_setup {o : Value} (h : r.Unheld)
    (ho : (r.setup around request).1.context.get? RigKey.options.text = some (.plain o)) :
    Whereabouts o (r.setup around request).1.context (r.setup around request).2.result := by
  obtain ⟨s, factory, c, hs, hf, hp, he⟩ := (get?_options_setup h).1 ho
  cases he
  cases siting c with
  | silent hhost hport hplaced hurl =>
    obtain ⟨hflag, hbase⟩ := listening_setup h hs hf hp hurl
    exact .silent hhost hport hplaced (Context.not_saysListening hflag) hbase
  | placed hhost hport hplaced hurl =>
    obtain ⟨hflag, hbase⟩ := listening_setup h hs hf hp hurl
    exact .placed c.host c.port hhost hport hplaced hflag hbase
  | unplaced hhost hport hplaced hurl =>
    obtain ⟨hflag, hbase, hresult⟩ := nowhere_setup h hs hf hp hurl
    exact .unplaced ⟨_, hhost⟩ ⟨_, hport⟩ hplaced (Context.not_saysListening hflag) hbase hresult

end Stages

/-! ## The whole -/

/-- What the context and the end of a setup tell of each other. -/
structure Staged (around : Surroundings) (request : SetupRequest) (context : Context)
    (result : Except Fault Unit) : Prop where
  /-- The factory is asked once at most; a registered one counts as a given one. -/
  once : ((∃ a, ∀ factory, attempt around (request.handing factory) = a) ∨
      ∃ (o : Value) (next : Except Fault Simulator → Attempt),
        ∀ factory, attempt around (request.handing factory) = next (factory o)) ∧
    ∀ factory, factoryOf around request = some factory →
      attempt around (request.handing factory) = attempt around request
  /-- A fault of the settings comes first: nothing is written, and nothing is asked for. -/
  unsettled : ∀ f, settingsOf around request = .error f →
    result = .error f ∧ (∀ key : RigKey, context.get? key.text = none) ∧ ∀ o, ¬ Asks around request o
  /-- Without a factory the setup says so, whatever the descriptor. -/
  unequipped : ∀ s, settingsOf around request = .ok s → factoryOf around request = none →
    result = .error (.failure .noFactory)
  /-- A fault on the way to the options comes before the factory is asked. -/
  unplanned : ∀ s factory f, settingsOf around request = .ok s →
    factoryOf around request = some factory → (plan around.files request s).result = .error f →
    result = .error f ∧ ∀ o, ¬ Asks around request o
  /-- The factory is asked for what stands in the context as the options, if it is known where to
  listen. -/
  asks : ∀ o, Asks around request o ↔
    context.get? RigKey.options.text = some (.plain o) ∧ CanBePlaced o
  /-- What stands there is a value. -/
  plain : ∀ e, context.get? RigKey.options.text = some e → ∃ o, e = .plain o
  /-- The simulator is there if the factory has made one. -/
  made : (∃ e, context.get? RigKey.simulator.text = some e) ↔
    ∃ factory o sim, factoryOf around request = some factory ∧ Asks around request o ∧
      factory o = .ok sim
  /-- The helper for fetching is there if the setup ends well. -/
  ready : result = .ok () ↔ ∃ e, context.get? RigKey.fetch.text = some e
  /-- Host, port, flag and URL come together, if the place can be written out. -/
  listens : ∀ o, context.get? RigKey.options.text = some (.plain o) → CanBePlaced o →
    (o.Shows "host" ↔ o.Shows "port") ∧ (o.Shows "port" ↔ context.SaysListening) ∧
      (context.SaysListening ↔ context.HasUrl)
  /-- The URL is that of the host and the port. -/
  url : ∀ o host port, context.get? RigKey.options.text = some (.plain o) → CanBePlaced o →
    o.field "host" = .ok host → o.field "port" = .ok port →
    context.get? RigKey.baseUrl.text = some (.plain (.text (urlAt host port)))
  /-- If it cannot, the setup ends there: host and port are among the options, and there is no URL. -/
  unplaced : ∀ o, context.get? RigKey.options.text = some (.plain o) → ¬ CanBePlaced o →
    o.Shows "host" ∧ o.Shows "port" ∧ ¬ context.SaysListening ∧ ¬ context.HasUrl ∧
      result = .error .numberTooLong

/-- **The stages of a setup.**  After every setup of a context without entries of the rig, the entries and
the end of the setup tell how far it got.  The factory is asked once at most, and for what stands among
the entries as the options; faults of the settings, of the descriptor and of the workers come before that,
and so does a missing factory.  The options have a host and a port exactly when the flag is set and the URL
stands in the context — but for a host or a port that cannot be written out, at which the setup ends after
the options were written, and the factory is not asked. -/
theorem staged_setup (r : Rig) (around : Surroundings) (request : SetupRequest) (h : r.Unheld) :
    Staged around request (r.setup around request).1.context (r.setup around request).2.result where
  once := ⟨asked_once around request, fun _ => attempt_handing⟩
  unsettled := by
    intro f hs
    refine ⟨congrArg (·.outcome.result) (attempt_of_unsettled hs), fun key => ?_, fun o hasks => ?_⟩
    · rw [get?_setup h, attempt_of_unsettled hs]
      rfl
    · obtain ⟨s, _, _, _, hs', -⟩ := asks_iff.1 hasks
      cases hs.symm.trans hs'
  unequipped := fun s hs hf => congrArg (·.outcome.result) (attempt_of_unequipped hs hf)
  unplanned := by
    intro s factory f hs hf hp
    refine ⟨congrArg (·.outcome.result) (attempt_of_unplanned hs hf hp), fun o hasks => ?_⟩
    obtain ⟨s', _, _, _, hs', -, hp', -⟩ := asks_iff.1 hasks
    cases hs.symm.trans hs'
    cases hp.symm.trans hp'
  asks := by
    intro o
    rw [asks_iff, get?_options_setup h]
    constructor
    · rintro ⟨s, factory, c, url, hs, hf, hp, hu, rfl⟩
      exact ⟨⟨s, factory, c, hs, hf, hp, rfl⟩, exists_baseUrl_iff.1 ⟨url, hu⟩⟩
    · rintro ⟨⟨s, factory, c, hs, hf, hp, he⟩, hplaced⟩
      cases he
      obtain ⟨url, hu⟩ := exists_baseUrl_iff.2 hplaced
      exact ⟨s, factory, c, url, hs, hf, hp, hu, rfl⟩
  plain := by
    intro e he
    obtain ⟨_, _, c, -, -, -, rfl⟩ := (get?_options_setup h).1 he
    exact ⟨c.options, rfl⟩
  made := get?_simulator_setup_iff h
  ready := get?_fetch_setup h
  listens := by
    intro o ho hplaced
    cases whereabouts_setup h ho with
    | silent hhost hport _ hflag hurl =>
      exact ⟨iff_of_false hhost hport, iff_of_false hport hflag, iff_of_false hflag fun hc => hc hurl⟩
    | placed host port hhost hport _ hflag hurl =>
      exact ⟨iff_of_true ⟨host, hhost⟩ ⟨port, hport⟩, iff_of_true ⟨port, hport⟩ hflag,
        iff_of_true hflag (Context.hasUrl_of_get? hurl)⟩
    | unplaced _ _ hnot _ _ _ => exact absurd hplaced hnot
  url := by
    intro o host port ho hplaced hhost hport
    cases whereabouts_setup h ho with
    | silent hnone _ _ _ _ => exact absurd ⟨host, hhost⟩ hnone
    | placed host' port' hhost' hport' _ _ hurl =>
      cases hhost.symm.trans hhost'
      cases hport.symm.trans hport'
      exact hurl
    | unplaced _ _ hnot _ _ _ => exact absurd hplaced hnot
  unplaced := by
    intro o ho hnot
    cases whereabouts_setup h ho with
    | silent _ _ hplaced _ _ => exact absurd hplaced hnot
    | placed _ _ _ _ hplaced _ _ => exact absurd hplaced hnot
    | unplaced hhost hport _ hflag hurl hresult =>
      exact ⟨hhost, hport, hflag, fun hc => hc hurl, hresult⟩

theorem unheld_fresh : Rig.fresh.Unheld := fun _ => rfl

/-- A request for nothing but a port, which an offset moves. -/
def portRequest (port offset : Int) (factory : Factory) : SetupRequest :=
  ⟨.given (Value.record [("dev", Value.record [("port", .int port)])]), .none, .int offset,
    some factory, some .standard⟩

/-- A setup whose simulator has no handles still says where it listens. -/
theorem staged_of_handlelessRequest :
    Rig.fresh.Unheld ∧
      Staged nothingAround (portRequest 8787 1 Sample.withoutBindings)
        (Rig.fresh.setup nothingAround (portRequest 8787 1 Sample.withoutBindings)).1.context
        (Rig.fresh.setup nothingAround (portRequest 8787 1 Sample.withoutBindings)).2.result ∧
      (Rig.fresh.setup nothingAround
        (portRequest 8787 1 Sample.withoutBindings)).1.context.SaysListening :=
  ⟨unheld_fresh, staged_setup Rig.fresh _ _ unheld_fresh, by decide +kernel⟩

/-- The largest port that can be written out, and a step further. -/
def farRequest : SetupRequest :=
  portRequest (Scale.decimal Scalar.digitLimit - 1 : Nat) 1 Sample.working

/-- A setup can write options with a port and then neither set the flag nor ask its factory. -/
theorem not_listening_of_farRequest :
    ∃ o, (Rig.fresh.setup nothingAround farRequest).1.context.get? RigKey.options.text =
        some (.plain o) ∧ o.Shows "port" ∧ ¬ Asks nothingAround farRequest o ∧
      ¬ (Rig.fresh.setup nothingAround farRequest).1.context.SaysListening := by
  have hrun : ((plan nothingAround.files farRequest .standard).result >>= fun c =>
      (c.options.field "port").map Value.isWritable) = .ok false := by
    decide +kernel
  obtain ⟨c, hc, hport⟩ := Except.bind_eq_ok_iff.1 hrun
  obtain ⟨port, hport, hlong⟩ := Except.map_eq_ok_iff.1 hport
  have hnot : ¬ CanBePlaced c.options := by
    intro hplaced
    rw [hplaced "port" (by decide) port hport] at hlong
    cases hlong
  cases siting c with
  | silent _ _ hplaced _ | placed _ _ hplaced _ => exact absurd hplaced hnot
  | unplaced _ _ _ hurl =>
    obtain ⟨hflag, -⟩ := nowhere_setup unheld_fresh rfl rfl hc hurl
    refine ⟨c.options, (get?_options_setup unheld_fresh).2 ⟨.standard, _, c, rfl, rfl, hc, rfl⟩,
      ⟨port, hport⟩, fun hasks => ?_, Context.not_saysListening hflag⟩
    obtain ⟨s, _, c', url, hs, -, hc', hurl', -⟩ := asks_iff.1 hasks
    cases hs
    cases hc.symm.trans hc'
    cases hurl.symm.trans hurl'

end Setup

end EdgeRig
