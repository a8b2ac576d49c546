import EdgeRig.Proofs.Rig.Overwriting
import EdgeRig.Proofs.Setup.Stages
import Mathlib.Data.List.Forall2

/-!
# The port offset

An offset moves the port of a descriptor, and with it what is made of the port: the one among the options,
the URL, and the helper that fetches from there.  This file compares two setups that differ in the offset
and in nothing else.

* `Value.SameBut` — two mappings differ under one key at most; `Factory.IgnoresPort` says that a factory
  makes the same of options that differ in the port.
* `Setup.configuredPort` — the port of a descriptor; `Setup.plan_eq_map` says that the plan of a setup is
  the unmoved one with the moved port.
* `Setup.Shifted` — what stands in the context of the one setup and of the other under a key;
  `Setup.moved_start` says that all stages from the start of the simulator keep to it.
* `Setup.early_or_planned`, `Setup.moved_of_plans` — a setup ends before its options whatever the offset, or
  has the options of a plan; two setups with plans that differ in the port end in the same way.
* `Setup.setup_offsetBy` — the two setups side by side.
-/

namespace EdgeRig

/-- The request with another port offset. -/
def SetupRequest.offsetBy (request : SetupRequest) (offset : Value) : SetupRequest :=
  { request with portOffset := offset }

/-- The configuration with another port. -/
def Configuration.atPort (port : Value) (c : Configuration) : Configuration := { c with port := port }

namespace Value

/-- Two mappings have the same keys in the same order, and the same values but for the one under `key`. -/
def SameBut (key : String) (v w : Value) : Prop :=
  ∃ m n : Mapping, v = .map m ∧ w = .map n ∧
    List.Forall₂ (fun e f => e.1 = f.1 ∧ (e.1 = .text key ∨ e.2 = f.2)) m n

theorem SameBut.peek {key : String} {v w : Value} (h : SameBut key v w) {k : String} (hk : k ≠ key) :
    v.peek k = w.peek k := by
  obtain ⟨m, n, rfl, rfl, hsame⟩ := h
  have hget : Mapping.get? m k = Mapping.get? n k := by
    induction hsame with
    | nil => rfl
    | @cons e f _ _ hef _ ih =>
      obtain ⟨i, u⟩ := e
      obtain ⟨j, t⟩ := f
      obtain ⟨rfl, hvalue⟩ := hef
      rw [Mapping.get?_cons, Mapping.get?_cons, ih]
      by_cases hi : i = .text k
      · have hut : u = t := hvalue.resolve_left fun hc => hk (Scalar.text.inj (hi.symm.trans hc))
        rw [if_pos hi, if_pos hi, hut]
      · rw [if_neg hi, if_neg hi]
  rw [Value.peek, Value.peek, hget]

end Value

/-- The factory makes the same of options that differ in the port only. -/
def Factory.IgnoresPort (factory : Factory) : Prop :=
  ∀ v w, Value.SameBut "port" v w → factory v = factory w

namespace Setup

/-! ## The plan -/

section Plan

variable {files : FileTree} {request : SetupRequest} {s : Settings}

/-- The port that a descriptor gives, if it can be loaded and gives one. -/
def configuredPort (files : FileTree) (config : ConfigSource) : Option Value :=
  match descriptor files config with
  | .ok (d, _) => d.lookup "dev.port"
  | .error _ => none

/-- The plan of a setup as it is before the port is moved. -/
def unmoved (files : FileTree) (request : SetupRequest) (s : Settings) : Outcome Configuration := do
  let (d, base) ← descriptor files request.config
  let c ← Compile.configuration d request.mocks base s
  let routed := AssetRouting.apply c.workers
  routed.outcome
  pure ⟨withStub s routed.workers, c.host, c.port⟩

/-- A descriptor that says nothing gives no port. -/
theorem lookup_effective (d : Value) :
    (Compile.effective d).lookup "dev.port" = d.lookup "dev.port" := by
  unfold Compile.effective
  by_cases hd : d.isTruthy = true
  · rw [if_pos hd]
  · rw [if_neg hd]
    cases d with
    | scalar _ | list _ => rfl
    | map m =>
      cases m with
      | nil => rfl
      | cons _ _ => exact absurd rfl hd

theorem port_of_configuration {d : Value} {mocks : MockTable} {base : Option String} {c : Configuration}
    (h : (Compile.configuration d mocks base s).result = .ok c) :
    c.port = (d.lookup "dev.port").getD .null := by
  obtain ⟨_, -, -, hplace⟩ := Compile.configuration_ok h
  have hport : c.port = (Compile.listening s (Compile.effective d)).2 := congrArg Prod.snd hplace
  rw [hport, Compile.listening, lookup_effective]
  cases d.lookup "dev.port" <;> rfl

/-- **The plan is the unmoved one at the moved port.** -/
theorem plan_eq_map {port : Value}
    (h : movePort request.portOffset ((configuredPort files request.config).getD .null) = .ok port) :
    plan files request s = (unmoved files request s).map (Configuration.atPort port) := by
  rw [plan, unmoved, Outcome.map_bind]
  refine Outcome.bind_congr_ok fun ⟨d, base⟩ hd => ?_
  have hd' : descriptor files request.config = .ok (d, base) := hd
  rw [configuredPort, hd'] at h
  dsimp only at h ⊢
  rw [Outcome.map_bind]
  refine Outcome.bind_congr_ok fun c hc => ?_
  rw [port_of_configuration hc, h, Outcome.lift_bind, Outcome.map_bind]
  rfl

/-- Where no port is configured there is none in the plan, whatever the offset. -/
theorem plan_offsetBy_of_none (h : configuredPort files request.config = none) (offset : Value)
    (s : Settings) : plan files (request.offsetBy offset) s =
      (unmoved files request s).map (Configuration.atPort .null) := by
  have hmove : movePort offset ((configuredPort files request.config).getD .null) = .ok .null := by
    rw [h]
    rfl
  exact plan_eq_map hmove

/-- Where a whole number is configured, the plan has the sum of it and the offset. -/
theorem plan_offsetBy {v offset : Value} {p k : Int} (h : configuredPort files request.config = some v)
    (hp : v.wholeNumber? = some p) (hk : offset.wholeNumber? = some k) (s : Settings) :
    plan files (request.offsetBy offset) s =
      (unmoved files request s).map (Configuration.atPort (.int (p + k))) := by
  have hsays : v.isNull = false := by
    refine Bool.eq_false_iff.2 fun hc => ?_
    rw [Value.isNull_iff.1 hc] at hp
    cases hp
  have hmove : movePort offset ((configuredPort files request.config).getD .null) =
      .ok (.int (p + k)) := by
    rw [h]
    simp [movePort, hsays, Value.plus, hp, hk]
  exact plan_eq_map hmove

end Plan

/-! ## Side by side -/

/-- What stands under a key of two contexts, one for the port `m` and one for the port `n`: the same, or
what differs in the port. -/
inductive Shifted (m n : Int) : String → ContextEntry → ContextEntry → Prop where
  | same (key : String) (e : ContextEntry) : Shifted m n key e e
  | options {v w : Value} (hsame : v.SameBut "port" w) (hv : v.field "port" = .ok (.int m))
      (hw : w.field "port" = .ok (.int n)) : Shifted m n RigKey.options.text (.plain v) (.plain w)
  | url (host : Value) : Shifted m n RigKey.baseUrl.text (.plain (.text (urlAt host (.int m))))
      (.plain (.text (urlAt host (.int n))))
  /-- The helper fetches from the URL. -/
  | fetcher (host : Value) (status : Int) : Shifted m n RigKey.fetch.text
      (.fetcher ⟨some (urlAt host (.int m)), status⟩) (.fetcher ⟨some (urlAt host (.int n)), status⟩)

/-- Two contexts have the same keys in the same order, and under them the same but for the port. -/
def ShiftedContext (m n : Int) (c d : Context) : Prop :=
  List.Forall₂ (fun e f => e.1 = f.1 ∧ Shifted m n e.1 e.2 f.2) c d

/-- Two setups write the same but for the port. -/
def ShiftedWrites (m n : Int) (ws vs : List (RigKey × Entry)) : Prop :=
  List.Forall₂ (fun w v => w.1 = v.1 ∧ ∀ i, Shifted m n w.1.text (Rig.entryOf i w.2) (Rig.entryOf i v.2))
    ws vs

variable {m n : Int}

theorem shiftedContext_refl (m n : Int) (c : Context) : ShiftedContext m n c c :=
  List.forall₂_same.2 fun e _ => ⟨rfl, .same e.1 e.2⟩

theorem shiftedWrites_refl (m n : Int) (ws : List (RigKey × Entry)) : ShiftedWrites m n ws ws :=
  List.forall₂_same.2 fun w _ => ⟨rfl, fun i => .same w.1.text (Rig.entryOf i w.2)⟩

theorem ShiftedWrites.append {ws vs ws' vs' : List (RigKey × Entry)} (h : ShiftedWrites m n ws vs)
    (h' : ShiftedWrites m n ws' vs') : ShiftedWrites m n (ws ++ ws') (vs ++ vs') :=
  List.rel_append h h'

/-- One write keeps two contexts side by side. -/
theorem ShiftedContext.put {c d : Context} (h : ShiftedContext m n c d) {key : String}
    {e f : ContextEntry} (he : Shifted m n key e f) : ShiftedContext m n (c.put key e) (d.put key f) := by
  induction h with
  | nil => exact .cons ⟨rfl, he⟩ .nil
  | @cons a b c d hab hcd ih =>
    obtain ⟨i, x⟩ := a
    obtain ⟨j, y⟩ := b
    obtain ⟨hij, hxy⟩ := hab
    cases hij
    by_cases hi : i = key
    · subst hi
      rw [Context.put_cons_self, Context.put_cons_self]
      exact .cons ⟨rfl, he⟩ hcd
    · rw [Context.put_cons_of_ne hi, Context.put_cons_of_ne hi]
      exact .cons ⟨rfl, hxy⟩ ih

/-- So do all writes of a setup. -/
theorem ShiftedContext.writeAll {ws vs : List (RigKey × Entry)} (hw : ShiftedWrites m n ws vs) (i : Nat)
    {c d : Context} (h : ShiftedContext m n c d) :
    ShiftedContext m n (Rig.writeAll i c ws) (Rig.writeAll i d vs) := by
  induction hw generalizing c d with
  | nil => exact h
  | @cons w v ws vs hwv _ ih =>
    rw [Rig.writeAll_cons, Rig.writeAll_cons, ← hwv.1]
    exact ih (h.put (hwv.2 i))

/-- Two attempts did the same, but for the port in what they write. -/
structure MovedAttempt (m n : Int) (a b : Attempt) : Prop where
  writes : ShiftedWrites m n a.writes b.writes
  made : a.made = b.made
  result : a.outcome.result = b.outcome.result

/-! ## From the options on -/

section Start

variable {c : Configuration}

theorem options_atPort (c : Configuration) (k : Int) : (c.atPort (.int k)).options =
    Value.record [("workers", .list (c.workers.map Worker.options)), ("host", c.host),
      ("port", .int k)] := rfl

/-- The options at two ports differ in the port, which is the one that they were moved to. -/
theorem shifted_options (m n : Int) (c : Configuration) :
    (c.atPort (.int m)).options.SameBut "port" (c.atPort (.int n)).options ∧
      (c.atPort (.int m)).options.field "port" = .ok (.int m) ∧
      (c.atPort (.int n)).options.field "port" = .ok (.int n) := by
  rw [options_atPort, options_atPort]
  refine ⟨⟨_, _, rfl, rfl, ?_⟩, rfl, rfl⟩
  exact .cons ⟨rfl, .inr rfl⟩ (.cons ⟨rfl, .inr rfl⟩ (.cons ⟨rfl, .inl rfl⟩ .nil))

/-- A moved port is written out with its host, where both can be. -/
theorem baseUrl_atPort (c : Configuration) (k : Int) : baseUrl (c.atPort (.int k)) =
    if c.host.isWritable && (Value.int k).isWritable then .ok (some (urlAt c.host (.int k)))
    else .error .numberTooLong := by
  have hurl : baseUrl (c.atPort (.int k)) = c.host.written >>= fun h =>
      (Value.int k).written >>= fun p => .ok (some ("http://" ++ h ++ ":" ++ p)) := rfl
  rw [hurl]
  cases hhost : c.host.isWritable with
  | false =>
    rw [written_of_not_isWritable hhost]
    rfl
  | true =>
    rw [written_of_isWritable hhost]
    cases hport : (Value.int k).isWritable with
    | false =>
      rw [written_of_not_isWritable hport]
      rfl
    | true =>
      rw [written_of_isWritable hport]
      rfl

theorem shiftedWrites_options (m n : Int) (c : Configuration) :
    ShiftedWrites m n (optionWrites (c.atPort (.int m))) (optionWrites (c.atPort (.int n))) := by
  obtain ⟨hsame, hv, hw⟩ := shifted_options m n c
  exact .cons ⟨rfl, fun _ => .same _ _⟩ (.cons ⟨rfl, fun _ => .options hsame hv hw⟩ .nil)

theorem shiftedWrites_listening (m n : Int) (host : Value) :
    ShiftedWrites m n (listeningWrites (some (urlAt host (.int m))))
      (listeningWrites (some (urlAt host (.int n)))) :=
  .cons ⟨rfl, fun _ => .same _ _⟩ (.cons ⟨rfl, fun _ => .url host⟩ .nil)

/-- **From the start of the simulator on** the port is in the entries only. -/
theorem moved_start {factory : Factory} (hignores : factory.IgnoresPort) (s : Settings)
    (notices : List Notice) (c : Configuration) (m n : Int) :
    MovedAttempt m n
      (start factory s notices (c.atPort (.int m)) (some (urlAt c.host (.int m))))
      (start factory s notices (c.atPort (.int n)) (some (urlAt c.host (.int n)))) := by
  have hsame : factory (c.atPort (.int m)).options = factory (c.atPort (.int n)).options :=
    hignores _ _ (shifted_options m n c).1
  have hwrites := (shiftedWrites_options m n c).append (shiftedWrites_listening m n c.host)
  unfold start
  dsimp only
  rw [hsame]
  cases factory (c.atPort (.int n)).options with
  | error f => exact ⟨hwrites, rfl, rfl⟩
  | ok sim =>
    have hmade := hwrites.append (shiftedWrites_refl m n [(.simulator, .made)])
    dsimp only
    cases sim.bindings s.mainWorkerName with
    | error f => exact ⟨hmade, rfl, rfl⟩
    | ok env =>
      refine ⟨hmade.append ?_, rfl, rfl⟩
      exact .cons ⟨rfl, fun _ => .same _ _⟩ (.cons ⟨rfl, fun _ => .fetcher c.host _⟩ .nil)

end Start

/-! ## Two setups -/

section Setups

variable {r : Rig} {around : Surroundings} {request : SetupRequest} {s : Settings} {factory : Factory}
  {c : Configuration}

/-- A setup that ended before it had options to write. -/
def EndedEarly (r : Rig) (x : Rig × Outcome Unit) : Prop :=
  (∃ f, x.2.result = .error f) ∧
    x.1.context.get? RigKey.options.text = r.context.get? RigKey.options.text

/-- Two setups wrote options that are the same but for the port, which is `m` in the one and `n` in the
other. -/
def HaveOptions (m n : Int) (x y : Rig × Outcome Unit) : Prop :=
  ∃ v w, x.1.context.get? RigKey.options.text = some (.plain v) ∧
    y.1.context.get? RigKey.options.text = some (.plain w) ∧ v.SameBut "port" w ∧
    v.field "port" = .ok (.int m) ∧ w.field "port" = .ok (.int n)

/-- Two setups ended in the same way, with the same simulators and contexts that differ in the port. -/
structure Moved (m n : Int) (x y : Rig × Outcome Unit) : Prop where
  context : ShiftedContext m n x.1.context y.1.context
  running : x.1.running = y.1.running
  result : x.2.result = y.2.result
  /-- Each has the URL of its port, unless the host cannot be written out. -/
  url : x.2.result = .error .numberTooLong ∨
    ∃ host, x.1.context.get? RigKey.baseUrl.text = some (.plain (.text (urlAt host (.int m)))) ∧
      y.1.context.get? RigKey.baseUrl.text = some (.plain (.text (urlAt host (.int n))))

/-- The options of a plan stand in the context, whatever comes after. -/
theorem get?_options_of_plan (r : Rig) (hs : settingsOf around request = .ok s)
    (hf : factoryOf around request = some factory) (hp : (plan around.files request s).result = .ok c) :
    (r.setup around request).1.context.get? RigKey.options.text = some (.plain c.options) := by
  refine (Rig.get?_writeAll ..).trans ?_
  cases hu : baseUrl c with
  | error f =>
    rw [attempt_of_nowhere hs hf hp hu]
    rfl
  | ok url =>
    rw [attempt_of_baseUrl hs hf hp hu, get?_start _ _ _ (by decide)]
    cases url <;> rfl

/-- So does the URL, once it is known where to listen. -/
theorem get?_baseUrl_of_plan (r : Rig) {url : String} (hs : settingsOf around request = .ok s)
    (hf : factoryOf around request = some factory) (hp : (plan around.files request s).result = .ok c)
    (hu : baseUrl c = .ok (some url)) :
    (r.setup around request).1.context.get? RigKey.baseUrl.text = some (.plain (.text url)) := by
  refine (Rig.get?_writeAll ..).trans ?_
  rw [attempt_of_baseUrl hs hf hp hu, get?_start _ _ _ (by decide)]
  rfl

/-- A setup whose port is too long after it was moved ends after the options. -/
theorem result_of_isTooLong (r : Rig) {k : Int} (hs : settingsOf around request = .ok s)
    (hf : factoryOf around request = some factory)
    (hp : (plan around.files request s).result = .ok (c.atPort (.int k))) (hk : Scalar.IsTooLong k) :
    (r.setup around request).2.result = .error .numberTooLong := by
  have hu : baseUrl (c.atPort (.int k)) = .error .numberTooLong := by
    rw [baseUrl_atPort, Value.isWritable_int.2 hk, Bool.and_false]
    rfl
  rw [Rig.setup, attempt_of_nowhere hs hf hp hu]

/-- **Setups with plans that differ in the port** differ in the port, if it can be written out in both or
in none. -/
theorem moved_of_plans (r : Rig) {request' : SetupRequest} {told : List Notice}
    (hs : settingsOf around request = .ok s) (hs' : settingsOf around request' = .ok s)
    (hf : factoryOf around request = some factory) (hf' : factoryOf around request' = some factory)
    (hp : plan around.files request s = ⟨told, .ok (c.atPort (.int m))⟩)
    (hp' : plan around.files request' s = ⟨told, .ok (c.atPort (.int n))⟩)
    (hignores : factory.IgnoresPort) (hlong : Scalar.IsTooLong m ↔ Scalar.IsTooLong n) :
    Moved m n (r.setup around request) (r.setup around request') := by
  have hwritable : (Value.int m).isWritable = (Value.int n).isWritable := by
    rw [← Value.isWritable_int, ← Value.isWritable_int] at hlong
    exact Bool.eq_iff_iff.2 (by simpa using not_congr hlong)
  have hc : (plan around.files request s).result = .ok (c.atPort (.int m)) := by rw [hp]
  have hc' : (plan around.files request' s).result = .ok (c.atPort (.int n)) := by rw [hp']
  have hcarry : ∀ {a b : Attempt}, MovedAttempt m n a b →
      ShiftedContext m n (r.carryOut a).context (r.carryOut b).context ∧
        (r.carryOut a).running = (r.carryOut b).running := by
    intro a b h
    refine ⟨(shiftedContext_refl m n r.context).writeAll h.writes r.running.length, ?_⟩
    rw [Rig.carryOut, Rig.carryOut, h.made]
  have hu := baseUrl_atPort c m
  have hu' := baseUrl_atPort c n
  rw [← hwritable] at hu'
  cases hboth : c.host.isWritable && (Value.int m).isWritable with
  | false =>
    rw [hboth] at hu hu'
    have hmoved : MovedAttempt m n (attempt around request) (attempt around request') := by
      rw [attempt_of_nowhere hs hf hc hu, attempt_of_nowhere hs' hf' hc' hu']
      exact ⟨shiftedWrites_options m n c, rfl, rfl⟩
    refine ⟨(hcarry hmoved).1, (hcarry hmoved).2, hmoved.result, Or.inl ?_⟩
    rw [Rig.setup, attempt_of_nowhere hs hf hc hu]
  | true =>
    rw [hboth] at hu hu'
    have hmoved : MovedAttempt m n (attempt around request) (attempt around request') := by
      rw [attempt_of_baseUrl hs hf hc hu, attempt_of_baseUrl hs' hf' hc' hu', hp, hp']
      exact moved_start hignores s told c m n
    exact ⟨(hcarry hmoved).1, (hcarry hmoved).2, hmoved.result, Or.inr ⟨c.host,
      get?_baseUrl_of_plan r hs hf hc hu, get?_baseUrl_of_plan r hs' hf' hc' hu'⟩⟩

/-- What a setup does depends on the offset by way of its plan. -/
theorem attempt_congr {offset offset' : Value} (h : ∀ s, plan around.files (request.offsetBy offset) s =
      plan around.files (request.offsetBy offset') s) :
    attempt around (request.offsetBy offset) = attempt around (request.offsetBy offset') := by
  have hsettings : settingsOf around (request.offsetBy offset) =
      settingsOf around (request.offsetBy offset') := rfl
  have hfactory : factoryOf around (request.offsetBy offset) =
      factoryOf around (request.offsetBy offset') := rfl
  simp only [attempt, hsettings, hfactory, h]

/-- A setup has a plan, or it ends before the options and does so at every port. -/
theorem early_or_planned (r : Rig) (around : Surroundings) (request : SetupRequest) :
    (∃ x, EndedEarly r x ∧ ∀ offset port,
        (∀ s, plan around.files (request.offsetBy offset) s =
          (unmoved around.files request s).map (Configuration.atPort port)) →
        r.setup around (request.offsetBy offset) = x) ∨
      ∃ s factory c, settingsOf around request = .ok s ∧ factoryOf around request = some factory ∧
        (unmoved around.files request s).result = .ok c := by
  have hearly : ∀ (ws : List (RigKey × Entry)) (o : Outcome Unit),
      (∃ f, o.result = .error f) → (∀ w ∈ ws, w.1.text ≠ RigKey.options.text) →
      EndedEarly r (r.carryOut ⟨ws, none, o⟩, o) :=
    fun ws o ho hws => ⟨ho, Rig.get?_writeAll_of_ne hws⟩
  have hsilent : ∀ w ∈ [silent], w.1.text ≠ RigKey.options.text :=
    List.forall_mem_singleton.2 (by decide)
  cases hs : settingsOf around request with
  | error f =>
    refine Or.inl ⟨_, hearly [] (.fail f) ⟨f, rfl⟩ (fun _ hw => absurd hw List.not_mem_nil), ?_⟩
    intro offset port _
    have hs' : settingsOf around (request.offsetBy offset) = .error f := hs
    rw [Rig.setup, attempt_of_unsettled hs']
  | ok s =>
    have hs' : ∀ offset, settingsOf around (request.offsetBy offset) = .ok s := fun _ => hs
    cases hf : factoryOf around request with
    | none =>
      refine Or.inl ⟨_, hearly [silent] (.fail (.failure .noFactory)) ⟨_, rfl⟩ hsilent, ?_⟩
      intro offset port _
      have hf' : factoryOf around (request.offsetBy offset) = none := hf
      rw [Rig.setup, attempt_of_unequipped (hs' offset) hf']
    | some factory =>
      cases hc : (unmoved around.files request s).result with
      | ok c => exact Or.inr ⟨s, factory, c, rfl, rfl, hc⟩
      | error f =>
        refine Or.inl ⟨_, hearly [silent] ⟨(unmoved around.files request s).notices, .error f⟩ ⟨f, rfl⟩
          hsilent, ?_⟩
        intro offset port hplan
        have hp : (plan around.files (request.offsetBy offset) s).result = .error f := by
          rw [hplan, Outcome.map, hc]
          rfl
        have hf' : factoryOf around (request.offsetBy offset) = some factory := hf
        rw [Rig.setup, attempt_of_unplanned (hs' offset) hf' hp, hplan]
        rfl

/-- The ways in which two setups at the ports `m` and `n` can go. -/
inductive Paired (r : Rig) (m n : Int) (x y : Rig × Outcome Unit) : Prop where
  | early (hsame : x = y) (hearly : EndedEarly r x)
  /-- A setup ends at a port that is too long; if one port is and the other is not, the setups part there. -/
  | planned (hoptions : HaveOptions m n x y)
      (hmoved : (Scalar.IsTooLong m ↔ Scalar.IsTooLong n) → Moved m n x y)
      (hleft : Scalar.IsTooLong m → x.2.result = .error .numberTooLong)
      (hright : Scalar.IsTooLong n → y.2.result = .error .numberTooLong)

/-- **The port offset moves the port and nothing else.**  Let two setups of a rig differ in the offset, and
let the factory make the same of options that differ in the port.  If no port is configured, the setups are
one and the same.  If a whole number is, they both end in the same way before there are options, or both
write options that are the same but for the port, which is the configured one and the offset; and they then
end in the same way, with the same simulators, and leave contexts that are the same but for the port in the
options and the URL — unless one of the moved ports can be written out and the other cannot, at which a
setup ends. -/
theorem setup_offsetBy (r : Rig) (around : Surroundings) (request : SetupRequest)
    (hignores : ∀ factory, factoryOf around request = some factory → factory.IgnoresPort) :
    (configuredPort around.files request.config = none → ∀ offset offset' : Value,
        r.setup around (request.offsetBy offset) = r.setup around (request.offsetBy offset')) ∧
      ∀ (v : Value) (p : Int), configuredPort around.files request.config = some v →
        v.wholeNumber? = some p →
        ∀ (offset offset' : Value) (k k' : Int), offset.wholeNumber? = some k →
          offset'.wholeNumber? = some k' →
          Paired r (p + k) (p + k') (r.setup around (request.offsetBy offset))
            (r.setup around (request.offsetBy offset')) := by
  constructor
  · intro hnone offset offset'
    rw [Rig.setup, Rig.setup, attempt_congr fun s =>
      (plan_offsetBy_of_none hnone offset s).trans (plan_offsetBy_of_none hnone offset' s).symm]
  · intro v p hport hp offset offset' k k' hk hk'
    rcases early_or_planned r around request with ⟨x, hx, hall⟩ | ⟨s, factory, c, hs, hf, hc⟩
    · have hsame := hall offset _ (plan_offsetBy hport hp hk)
      have hsame' := hall offset' _ (plan_offsetBy hport hp hk')
      exact .early (hsame.trans hsame'.symm) (hsame ▸ hx)
    · have hplan : ∀ {o : Value} {j : Int}, o.wholeNumber? = some j →
          plan around.files (request.offsetBy o) s =
            ⟨(unmoved around.files request s).notices, .ok (c.atPort (.int (p + j)))⟩ := by
        intro o j ho
        rw [plan_offsetBy hport hp ho, Outcome.map, hc]
        rfl
      have hresult : ∀ {o : Value} {j : Int}, o.wholeNumber? = some j →
          (plan around.files (request.offsetBy o) s).result = .ok (c.atPort (.int (p + j))) := by
        intro o j ho
        rw [hplan ho]
      have hs' : ∀ o, settingsOf around (request.offsetBy o) = .ok s := fun _ => hs
      have hf' : ∀ o, factoryOf around (request.offsetBy o) = some factory := fun _ => hf
      refine .planned ?_ ?_ ?_ ?_
      · exact ⟨_, _, get?_options_of_plan r (hs' _) (hf' _) (hresult hk),
          get?_options_of_plan r (hs' _) (hf' _) (hresult hk'), shifted_options ..⟩
      · exact moved_of_plans r (hs' _) (hs' _) (hf' _) (hf' _) (hplan hk) (hplan hk')
          (hignores factory hf)
      · exact result_of_isTooLong r (hs' _) (hf' _) (hresult hk)
      · exact result_of_isTooLong r (hs' _) (hf' _) (hresult hk')

end Setups

end Setup

/-- The sample simulators look at the workers among the options only. -/
theorem Sample.ignoresPort_working : Sample.working.IgnoresPort := by
  intro v w hsame
  have hworkers : v.peek "workers" = w.peek "workers" := hsame.peek (by decide)
  simp only [Sample.working, Sample.plain, Sample.bindingsIn, hworkers]

namespace Setup

/-- Two offsets, the second of which moves the port below zero: both setups end well, each with its own
port among the options. -/
theorem setup_offsetBy_of_portRequest :
    Sample.working.IgnoresPort ∧
      HaveOptions 8788 (-13)
        (Rig.fresh.setup nothingAround ((portRequest 8787 0 Sample.working).offsetBy (.bool true)))
        (Rig.fresh.setup nothingAround ((portRequest 8787 0 Sample.working).offsetBy (.int (-8800)))) ∧
      Moved 8788 (-13)
        (Rig.fresh.setup nothingAround ((portRequest 8787 0 Sample.working).offsetBy (.bool true)))
        (Rig.fresh.setup nothingAround ((portRequest 8787 0 Sample.working).offsetBy (.int (-8800)))) := by
  have hignores : ∀ factory, factoryOf nothingAround (portRequest 8787 0 Sample.working) = some factory →
      factory.IgnoresPort := by
    intro factory hf
    cases hf
    exact Sample.ignoresPort_working
  have hshort : ∀ k : Int, k.natAbs < Scale.decimal 4 → ¬ Scalar.IsTooLong k := by
    intro k hk hlong
    have hdigits : Scale.decimal 4 ≤ Scale.decimal Scalar.digitLimit := Scale.decimal_mono (by decide)
    exact absurd (Nat.lt_of_lt_of_le hk hdigits) (Nat.not_lt.2 hlong)
  have hwell : (Rig.fresh.setup nothingAround
      ((portRequest 8787 0 Sample.working).offsetBy (.bool true))).2.result.isOk = true := by
    decide +kernel
  cases (setup_offsetBy Rig.fresh nothingAround (portRequest 8787 0 Sample.working) hignores).2
      (.int 8787) 8787 rfl rfl (.bool true) (.int (-8800)) 1 (-8800) rfl rfl with
  | early _ hearly =>
    obtain ⟨⟨f, hf⟩, -⟩ := hearly
    rw [hf] at hwell
    cases hwell
  | planned hoptions hmoved _ _ =>
    refine ⟨Sample.ignoresPort_working, hoptions, hmoved (iff_of_false ?_ ?_)⟩
    · exact hshort _ (by decide)
    · exact hshort _ (by decide)

/-- The largest port that can be written out is one that an offset of one spoils: the setup with no offset
ends well, the other one does not. -/
theorem not_alike_of_farthestPort :
    let p : Int := (Scale.decimal Scalar.digitLimit - 1 : Nat)
    let request := portRequest p 0 Sample.working
    (∀ factory, factoryOf nothingAround request = some factory → factory.IgnoresPort) ∧
      configuredPort nothingAround.files request.config = some (.int p) ∧
      (Rig.fresh.setup nothingAround (request.offsetBy (.int 0))).2.result = .ok () ∧
      (Rig.fresh.setup nothingAround (request.offsetBy (.int 1))).2.result = .error .numberTooLong := by
  intro p request
  have hport : configuredPort nothingAround.files request.config = some (.int p) := by rfl
  have hrun : (unmoved nothingAround.files request .standard).result.map (·.host.isWritable) =
      .ok true := by
    decide +kernel
  obtain ⟨c, hc, hhost⟩ := Except.map_eq_ok_iff.1 hrun
  have hresult : ∀ k : Int, (plan nothingAround.files (request.offsetBy (.int k)) .standard).result =
      .ok (c.atPort (.int (p + k))) := by
    intro k
    rw [plan_offsetBy hport rfl rfl, Outcome.map, hc]
    rfl
  have hpos : 0 < Scale.decimal Scalar.digitLimit :=
    Nat.lt_of_lt_of_le (by decide : 0 < Scale.decimal 0) (Scale.decimal_mono (Nat.zero_le _))
  have hshort : ¬ Scalar.IsTooLong (p + 0) := by
    unfold Scalar.IsTooLong
    omega
  have hlong : Scalar.IsTooLong (p + 1) := by
    unfold Scalar.IsTooLong
    omega
  have hu : baseUrl (c.atPort (.int (p + 0))) = .ok (some (urlAt c.host (.int (p + 0)))) := by
    have hwritable : (Value.int (p + 0)).isWritable = true := by
      rw [← Bool.not_eq_false, Value.isWritable_int]
      exact hshort
    rw [baseUrl_atPort, hwritable, hhost]
    rfl
  refine ⟨?_, hport, ?_, result_of_isTooLong Rig.fresh rfl rfl (hresult 1) hlong⟩
  · intro factory hf
    cases hf
    exact Sample.ignoresPort_working
  · rw [Rig.setup, attempt_of_baseUrl rfl rfl (hresult 0) hu]
    rfl

end Setup

end EdgeRig
