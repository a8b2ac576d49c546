import EdgeRig.Lab
import EdgeRig.Sample

/-!
# Rigs side by side

A lab holds many rigs, and what is done with one of them may be mixed with what is done with the others.
All that they share is the registered factory and the environment, and a setup that is given a factory and
settings looks at neither.  This file draws the conclusion: whoever works with one rig cannot tell whether
the others are there.

* `SetupRequest.IsEquipped` — the setup is given a factory and settings; `Setup.attempt_of_isEquipped` says
  that it takes no notice of the registered factory and of the environment.
* `Lab.Event` — a task for one rig, or the registration of a factory; `Lab.after` and `Lab.reports` are
  what a run of events leaves and what it shows at one rig.
* `Lab.SameFor` — two labs that cannot be told apart at one rig; `Lab.SameFor.perform`,
  `Lab.SameFor.perform_of_ne` and `Lab.SameFor.register` say that one event keeps them so, and
  `Lab.SameFor.run` that a run does.
* `Lab.AsAlone` — at one rig a run goes as if there were no other; `Lab.asAlone_own` for any number of
  rigs, `Lab.asAlone_of_interleaves` for the tasks of two rigs mixed in any way.
-/

namespace EdgeRig

/-! ## Names -/

theorem lookup_assignName_self {α : Type} (xs : List (String × α)) (n : String) (a : α) :
    (assignName xs n a).lookup n = some a := by
  induction xs with
  | nil => simp [assignName]
  | cons x xs ih =>
    obtain ⟨m, b⟩ := x
    by_cases h : m = n
    · simp [assignName, h]
    · simp [assignName, h, List.lookup_cons, beq_false_of_ne (Ne.symm h), ih]

theorem lookup_assignName_of_ne {α : Type} (xs : List (String × α)) {m n : String} (a : α) (h : m ≠ n) :
    (assignName xs n a).lookup m = xs.lookup m := by
  induction xs with
  | nil => simp [assignName, List.lookup_cons, beq_false_of_ne h]
  | cons x xs ih =>
    obtain ⟨k, b⟩ := x
    by_cases hk : k = n
    · simp [assignName, hk, List.lookup_cons, beq_false_of_ne h]
    · simp [assignName, hk, List.lookup_cons, ih]

/-! ## Setups that bring everything along -/

/-- The setup is given a factory and settings. -/
def SetupRequest.IsEquipped (r : SetupRequest) : Prop := r.factory.isSome = true ∧ r.settings.isSome = true

/-- A setup that is given a factory and settings does not look for any. -/
theorem Setup.attempt_of_isEquipped {request : SetupRequest} (h : request.IsEquipped) (files : FileTree)
    (environment environment' : List (String × String)) (factory factory' : Option Factory) :
    attempt ⟨files, environment, factory⟩ request = attempt ⟨files, environment', factory'⟩ request := by
  obtain ⟨own, hown⟩ := Option.isSome_iff_exists.1 h.1
  obtain ⟨s, hs⟩ := Option.isSome_iff_exists.1 h.2
  simp only [attempt, settingsOf, factoryOf, hs, hown, Option.some_or]

/-- The action is no setup, or its setup is given a factory and settings. -/
def Action.IsEquipped : Action → Prop
  | .setup request => request.IsEquipped
  | .openSession request => request.IsEquipped
  | _ => True

/-- The request of the session that an action opens. -/
def Action.opened? : Action → Option SetupRequest
  | .openSession request => some request
  | _ => none

theorem Action.IsEquipped.opened {a : Action} (ha : a.IsEquipped) {request : SetupRequest}
    (h : a.opened? = some request) : request.IsEquipped := by
  cases a with
  | openSession _ =>
    cases h
    exact ha
  | _ => cases h

namespace Lab

/-- So an action shows the same, whatever is registered. -/
theorem report_of_isEquipped {a : Action} {session : Option SetupRequest} (ha : a.IsEquipped)
    (hsession : ∀ request, session = some request → request.IsEquipped) (files : FileTree)
    (environment environment' : List (String × String)) (factory factory' : Option Factory)
    (transport : Transport) (name : String) (r : Rig) :
    report ⟨files, environment, factory⟩ transport name session r a =
      report ⟨files, environment', factory'⟩ transport name session r a := by
  have hsetup : ∀ request : SetupRequest, request.IsEquipped →
      r.setup ⟨files, environment, factory⟩ request =
        r.setup ⟨files, environment', factory'⟩ request := by
    intro request h
    rw [Rig.setup, Setup.attempt_of_isEquipped h files environment environment' factory factory']
    rfl
  cases a with
  | setup request => simp only [report, hsetup request ha]
  | enterSession =>
    cases session with
    | none => rfl
    | some request => simp only [report, Session.enter, Rig.enter, hsetup request (hsession request rfl)]
  | _ => rfl

/-! ## Runs -/

/-- What is done with a rig, and the files and the server that are there for it. -/
structure Task where
  files : FileTree
  transport : Transport
  action : Action

/-- What happens in a lab.  A task finds an environment, and a factory if one is registered. -/
inductive Event where
  | task (name : String) (environment : List (String × String)) (t : Task)
  | register (factory : Option Factory)

/-- The lab after a task, and what the task shows. -/
def performTask (l : Lab) (name : String) (environment : List (String × String)) (t : Task) :
    Lab × Report := l.perform t.files environment t.transport name t.action

/-- The lab after an event. -/
def next (l : Lab) : Event → Lab
  | .task name environment t => (l.performTask name environment t).1
  | .register factory => (l.register factory).1

/-- The lab after a run. -/
def after (l : Lab) (es : List Event) : Lab := es.foldl next l

/-- What a run shows at the rig of a name: each task for it, with the rig as the task leaves it. -/
def reports (name : String) (l : Lab) : List Event → List Report
  | [] => []
  | .task n environment t :: es =>
      let (l', shown) := l.performTask n environment t
      if n = name then shown :: reports name l' es else reports name l' es
  | .register factory :: es => reports name (l.register factory).1 es

/-- The tasks for the rig of a name. -/
def own (name : String) : List Event → List Task
  | [] => []
  | .task n _ t :: es => if n = name then t :: own name es else own name es
  | .register _ :: es => own name es

section Equations

variable (name : String) (environment : List (String × String)) (t : Task) (l : Lab) (es : List Event)

theorem own_task_self : own name (.task name environment t :: es) = t :: own name es := if_pos rfl

theorem own_task_of_ne {n : String} (h : n ≠ name) :
    own name (.task n environment t :: es) = own name es := if_neg h

theorem reports_task_self : l.reports name (.task name environment t :: es) =
    (l.performTask name environment t).2 :: (l.performTask name environment t).1.reports name es :=
  if_pos rfl

theorem reports_task_of_ne {n : String} (h : n ≠ name) :
    l.reports name (.task n environment t :: es) = (l.performTask n environment t).1.reports name es :=
  if_neg h

theorem own_append (es fs : List Event) : own name (es ++ fs) = own name es ++ own name fs := by
  induction es with
  | nil => rfl
  | cons e es ih =>
    cases e with
    | task n environment t =>
      by_cases h : n = name
      · subst h
        rw [List.cons_append, own_task_self, own_task_self, ih]
        rfl
      · rw [List.cons_append, own_task_of_ne _ _ _ _ h, own_task_of_ne _ _ _ _ h, ih]
    | register factory => exact ih

end Equations

/-- Tasks for the rig of a name, one after the other and with nothing between them. -/
def alone (name : String) (environment : List (String × String)) (ts : List Task) : List Event :=
  ts.map (.task name environment)

/-! ## Labs that cannot be told apart at one rig -/

/-- Two labs that have the same rig and the same session under a name.  The session's setup is given a
factory and settings. -/
structure SameFor (name : String) (l l' : Lab) : Prop where
  rig : l.rig name = l'.rig name
  session : l.sessions.lookup name = l'.sessions.lookup name
  equipped : ∀ request, l.sessions.lookup name = some request → request.IsEquipped

variable {name : String} {l l' : Lab}

theorem rig_performTask_self (l : Lab) (name : String) (environment : List (String × String)) (t : Task) :
    (l.performTask name environment t).1.rig name = (l.performTask name environment t).2.rig := by
  show ((assignName l.rigs name _).lookup name).getD .fresh = _
  rw [lookup_assignName_self]
  rfl

theorem rig_performTask_of_ne (l : Lab) {n : String} (h : name ≠ n) (environment : List (String × String))
    (t : Task) : (l.performTask n environment t).1.rig name = l.rig name := by
  show ((assignName l.rigs n _).lookup name).getD .fresh = _
  rw [lookup_assignName_of_ne _ _ h]
  rfl

theorem session_performTask_self (l : Lab) (name : String) (environment : List (String × String))
    (t : Task) : (l.performTask name environment t).1.sessions.lookup name =
      t.action.opened?.or (l.sessions.lookup name) := by
  obtain ⟨files, transport, action⟩ := t
  cases action with
  | openSession request => exact lookup_assignName_self ..
  | _ => rfl

theorem session_performTask_of_ne (l : Lab) {n : String} (h : name ≠ n)
    (environment : List (String × String)) (t : Task) :
    (l.performTask n environment t).1.sessions.lookup name = l.sessions.lookup name := by
  obtain ⟨files, transport, action⟩ := t
  cases action with
  | openSession request => exact lookup_assignName_of_ne _ _ h
  | _ => rfl

/-- **A task for the rig** shows the same in both labs, and the labs stay the same. -/
theorem SameFor.perform (h : SameFor name l l') {t : Task} (ht : t.action.IsEquipped)
    (environment environment' : List (String × String)) :
    (l.performTask name environment t).2 = (l'.performTask name environment' t).2 ∧
      SameFor name (l.performTask name environment t).1 (l'.performTask name environment' t).1 := by
  have hreport : (l.performTask name environment t).2 = (l'.performTask name environment' t).2 := by
    show report _ _ _ (l.sessions.lookup name) (l.rig name) _ =
      report _ _ _ (l'.sessions.lookup name) (l'.rig name) _
    rw [← h.rig, ← h.session]
    exact report_of_isEquipped ht h.equipped ..
  refine ⟨hreport, ?_, ?_, ?_⟩
  · rw [rig_performTask_self, rig_performTask_self, hreport]
  · rw [session_performTask_self, session_performTask_self, h.session]
  · intro request hrequest
    rw [session_performTask_self] at hrequest
    cases hopened : t.action.opened? with
    | none =>
      rw [hopened] at hrequest
      exact h.equipped request hrequest
    | some request' =>
      rw [hopened] at hrequest
      cases hrequest
      exact ht.opened hopened

/-- **A task for another rig** changes nothing here. -/
theorem SameFor.perform_of_ne (h : SameFor name l l') {n : String} (hn : name ≠ n)
    (environment : List (String × String)) (t : Task) :
    SameFor name (l.performTask n environment t).1 l' where
  rig := (rig_performTask_of_ne l hn environment t).trans h.rig
  session := (session_performTask_of_ne l hn environment t).trans h.session
  equipped := fun request hrequest =>
    h.equipped request ((session_performTask_of_ne l hn environment t).symm.trans hrequest)

/-- **The registration of a factory** changes nothing either. -/
theorem SameFor.register (h : SameFor name l l') (factory : Option Factory) :
    SameFor name (l.register factory).1 l' := ⟨h.rig, h.session, h.equipped⟩

/-- **One rig among others.**  What a run shows at a rig, and the rig that it leaves, is what the tasks for
that rig show and leave alone.  They may find another environment there, and nothing is registered. -/
theorem SameFor.run (h : SameFor name l l') (environment : List (String × String)) {es : List Event}
    (hes : ∀ t ∈ own name es, t.action.IsEquipped) :
    l.reports name es = l'.reports name (alone name environment (own name es)) ∧
      SameFor name (l.after es) (l'.after (alone name environment (own name es))) := by
  induction es generalizing l l' with
  | nil => exact ⟨rfl, h⟩
  | cons e es ih =>
    cases e with
    | task n environment' t =>
      by_cases hn : n = name
      · subst hn
        rw [own_task_self] at hes ⊢
        obtain ⟨ht, hrest⟩ := List.forall_mem_cons.1 hes
        obtain ⟨hreport, hsame⟩ := h.perform ht environment' environment
        obtain ⟨hreports, hafter⟩ := ih hsame hrest
        refine ⟨?_, hafter⟩
        rw [reports_task_self, hreport, hreports]
        exact (reports_task_self ..).symm
      · rw [own_task_of_ne _ _ _ _ hn] at hes ⊢
        obtain ⟨hreports, hafter⟩ := ih (h.perform_of_ne (Ne.symm hn) environment' t) hes
        exact ⟨(reports_task_of_ne _ _ _ _ _ hn).trans hreports, hafter⟩
    | register factory => exact ih (h.register factory) hes

/-! ## Two rigs -/

/-- The events are the tasks `xs` for the rig `a` and the tasks `ys` for the rig `b`, each in their order,
in any environments, and registrations of factories between them. -/
inductive Interleaves (a b : String) : List Task → List Task → List Event → Prop where
  | nil : Interleaves a b [] [] []
  | left {xs ys : List Task} {es : List Event} (environment : List (String × String)) (t : Task)
      (h : Interleaves a b xs ys es) : Interleaves a b (t :: xs) ys (.task a environment t :: es)
  | right {xs ys : List Task} {es : List Event} (environment : List (String × String)) (t : Task)
      (h : Interleaves a b xs ys es) : Interleaves a b xs (t :: ys) (.task b environment t :: es)
  | register {xs ys : List Task} {es : List Event} (factory : Option Factory)
      (h : Interleaves a b xs ys es) : Interleaves a b xs ys (.register factory :: es)

theorem Interleaves.own {a b : String} (hab : a ≠ b) {xs ys : List Task} {es : List Event}
    (h : Interleaves a b xs ys es) : Lab.own a es = xs ∧ Lab.own b es = ys := by
  induction h with
  | nil => exact ⟨rfl, rfl⟩
  | left environment t _ ih =>
    rw [own_task_self, own_task_of_ne _ _ _ _ hab, ih.1, ih.2]
    exact ⟨rfl, rfl⟩
  | right environment t _ ih =>
    rw [own_task_self, own_task_of_ne _ _ _ _ hab.symm, ih.1, ih.2]
    exact ⟨rfl, rfl⟩
  | register factory _ ih => exact ih

/-- A session that was opened under the name is given a factory and settings. -/
def Equips (l : Lab) (name : String) : Prop :=
  ∀ request, l.sessions.lookup name = some request → request.IsEquipped

/-- At the rig of a name a run goes as the tasks `ts` go alone, in any environment: each of them shows the
same, and at every moment the rig is the one that those of them leave that have been done. -/
structure AsAlone (l : Lab) (name : String) (ts : List Task) (es : List Event) : Prop where
  reports : ∀ environment, l.reports name es = l.reports name (alone name environment ts)
  rig : ∀ environment front back, es = front ++ back → (l.after front).rig name =
    (l.after (alone name environment (ts.take (own name front).length))).rig name

/-- **One rig among others** goes as it goes alone. -/
theorem asAlone_own (h : l.Equips name) {es : List Event}
    (hes : ∀ t ∈ own name es, t.action.IsEquipped) : l.AsAlone name (own name es) es := by
  have hsame : SameFor name l l := ⟨rfl, rfl, h⟩
  refine ⟨fun environment => (hsame.run environment hes).1, ?_⟩
  rintro environment front back rfl
  rw [own_append] at hes ⊢
  rw [List.take_left]
  exact (hsame.run environment fun t ht => hes t (List.mem_append_left _ ht)).2.rig

/-- **Two rigs side by side.**  Mix the tasks of two rigs in any way, register any factories in between,
and let every setup be given its factory and its settings.  Then each rig goes as it goes alone: its tasks
have the same results, notices and requests, and its context is the same after each of them. -/
theorem asAlone_of_interleaves {a b : String} (hab : a ≠ b) {l : Lab} (ha : l.Equips a)
    (hb : l.Equips b) {xs ys : List Task} (hxs : ∀ t ∈ xs, t.action.IsEquipped)
    (hys : ∀ t ∈ ys, t.action.IsEquipped) {es : List Event} (h : Interleaves a b xs ys es) :
    l.AsAlone a xs es ∧ l.AsAlone b ys es := by
  obtain ⟨rfl, rfl⟩ := h.own hab
  exact ⟨asAlone_own ha hxs, asAlone_own hb hys⟩

/-- A setup of a server that listens, with a factory of its own. -/
def servingRequest (factory : Factory) : SetupRequest where
  config := .given (Value.record [("dev", Value.record [("port", .int 8787)])])
  mocks := .none
  portOffset := .int 0
  factory := some factory
  settings := some .standard

/-- A task with nothing around it but the sample server. -/
def task (a : Action) : Task := ⟨⟨FilePath.ofText ['/'], []⟩, Sample.server, a⟩

/-- A setup that fails halfway, a setup that is used, and a fetch that comes too late. -/
def leftTasks : List Task :=
  [task (.setup (servingRequest Sample.withoutBindings)), task (.put "note" (.int 1)), task .teardown,
    task (.setup (servingRequest Sample.working)), task (.fetch "GET" "/test" ""), task .teardown,
    task (.fetch "GET" "/test" "")]

/-- A session whose simulator cannot be disposed of. -/
def rightTasks : List Task :=
  [task (.openSession (servingRequest Sample.withoutDisposal)), task .enterSession,
    task (.fetch "GET" "/redirect" ""), task .exitSession]

/-- Their tasks, among factories that come and go. -/
def mixedEvents : List Event :=
  let left := leftTasks.map (Event.task "left" [])
  let right := rightTasks.map (Event.task "right" [("HARNESS_DEFAULT_HOST", "0.0.0.0")])
  [.register (some Sample.failing)] ++ left.take 2 ++ right.take 2 ++ [.register none] ++
    (left.drop 2).take 2 ++ (right.drop 2).take 1 ++ [.register (some Sample.working)] ++
    (left.drop 4).take 2 ++ right.drop 3 ++ left.drop 6

/-- Failures on either side stay there. -/
theorem asAlone_of_mixedEvents :
    Interleaves "left" "right" leftTasks rightTasks mixedEvents ∧
      empty.AsAlone "left" leftTasks mixedEvents ∧ empty.AsAlone "right" rightTasks mixedEvents ∧
      (empty.reports "left" mixedEvents).map (fun r => r.outcome.result.toBool) =
        [false, true, true, true, true, true, false] ∧
      (empty.reports "right" mixedEvents).map (fun r => r.outcome.result.toBool) =
        [true, true, true, false] := by
  have hequips : ∀ name, empty.Equips name := by
    intro name request hrequest
    cases hrequest
  have hleft : ∀ t ∈ leftTasks, t.action.IsEquipped := by
    simp [leftTasks, task, Action.IsEquipped, SetupRequest.IsEquipped, servingRequest]
  have hright : ∀ t ∈ rightTasks, t.action.IsEquipped := by
    simp [rightTasks, task, Action.IsEquipped, SetupRequest.IsEquipped, servingRequest]
  have hmixed : Interleaves "left" "right" leftTasks rightTasks mixedEvents :=
    .register _ <| .left _ _ <| .left _ _ <| .right _ _ <| .right _ _ <| .register _ <| .left _ _ <|
      .left _ _ <| .right _ _ <| .register _ <| .left _ _ <| .left _ _ <| .right _ _ <| .left _ _ .nil
  obtain ⟨ha, hb⟩ :=
    asAlone_of_interleaves (by decide) (hequips "left") (hequips "right") hleft hright hmixed
  refine ⟨hmixed, ha, hb, ?_, ?_⟩
  · decide +kernel
  · decide +kernel

end Lab

end EdgeRig
