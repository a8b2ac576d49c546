import EdgeRig.Proofs.Compile.Configuration
import Mathlib.Data.List.Forall2

/-!
# The stand-ins of a configuration

A configuration holds the primary worker and the workers that stand in for its services.  This file says
which services these are, what each stand-in is made of, what the compiler tells of it, and where the
service bindings of the primary worker lead.

* `Compile.toServe` — the services that get a worker, each once and in order of first appearance.
* `Compile.StandsFor` — what the worker of a service is, and what is told of it.
* `Compile.Told` — the invariant of going through the services; `Compile.Told.add` says that one service
  keeps it, `Compile.told_serviceWorkers` that it holds at the end.
* `Compile.standIns_of_configuration` — the whole.
-/

namespace EdgeRig

namespace Compile

/-- The services that get a worker of their own. -/
def toServe (s : Settings) (names : List String) : List String :=
  names.eraseDups.filter fun n => n != s.mainWorkerName

/-- A worker of this name with a script and the path of one, and with nothing else. -/
structure IsStandIn (n : String) (script path : Value) (w : Worker) : Prop where
  agrees : w.AgreesOutside [.script, .scriptPath] (Worker.named n)
  unnoted : ∀ k, w.note k = none
  script : w.cell .script = .plain script
  scriptPath : w.cell .scriptPath = .plain path

/-- The worker that stands in for the service of name `n`, and what is told of it. -/
inductive StandsFor (base : Option String) (s : Settings) (mocks : MockTable) (n : String) :
    Worker → Notice → Prop where
  /-- There is a mock: its script is run, or its path as it is seen from the base. -/
  | mocked {mock : Mock} {m : ServiceMock} {path : Value} {w : Worker} {t : Notice}
      (hfind : mocks.find? (.text n) = .ok (some mock)) (hm : mock.resolve (.text n) = .ok m)
      (hpath : rebase base (Value.ofText? m.scriptPath?) = .ok path)
      (hw : IsStandIn n (Value.ofText? m.script?) path w) (ht : t = .mocked n) (hlevel : t.level = .info) :
      StandsFor base s mocks n w t
  /-- There is none: the default script is run. -/
  | defaulted {w : Worker} {t : Notice} (hfind : mocks.find? (.text n) = .ok none)
      (hw : IsStandIn n
        (.text (Script.defaultMock n (String.ofList (Numeral.ofInt s.defaultMockStatus)))) .null w)
      (ht : t = .defaulted n) (hlevel : t.level = .warning) : StandsFor base s mocks n w t

variable {base : Option String} {s : Settings} {mocks : MockTable} {d : Value}

/-! ## One service -/

theorem mem_toServe {names : List String} {n : String} :
    n ∈ toServe s names ↔ n ∈ names ∧ n ≠ s.mainWorkerName := by
  rw [toServe, List.mem_filter, List.mem_eraseDups, bne_iff_ne]

/-- One more service gets a worker unless it has one or is the primary worker. -/
theorem toServe_concat (s : Settings) (names : List String) (n : String) :
    toServe s (names ++ [n]) =
      if n ∈ names ∨ n = s.mainWorkerName then toServe s names else toServe s names ++ [n] := by
  rw [toServe, toServe, Mapping.eraseDups_concat]
  by_cases hn : n ∈ names
  · rw [if_pos hn, if_pos (Or.inl hn)]
  · rw [if_neg hn, List.filter_append]
    by_cases hm : n = s.mainWorkerName <;> simp [hn, hm]

theorem scriptPath_ofMock (base : Option String) (n : String) (m : ServiceMock) :
    ∃ path, rebase base (Value.ofText? m.scriptPath?) = .ok path ∧
      (ofMock base n m).cell .scriptPath = .plain path := by
  refine ⟨_, ?_, rfl⟩
  cases base <;> cases m <;> rfl

theorem written_text (n : String) : (Value.text n).written = .ok n := by
  simp [Value.written, Value.shown?, Value.isWritable, Scalar.isWritable, Value.shown, Scalar.shown]

/-- **The worker of one service**, and the one thing that is told of it. -/
theorem standsFor_of_serviceWorker {n : String} {w : Worker}
    (h : (serviceWorker base s mocks (.text n)).result = .ok w) :
    ∃ t, (serviceWorker base s mocks (.text n)).notices = [t] ∧ StandsFor base s mocks n w t := by
  obtain ⟨n', hn, ⟨mock, m, hfind, hm, rfl⟩ | ⟨hfind, rfl⟩⟩ := serviceWorker_ok h
  · cases hn
    obtain ⟨path, hpath, hcell⟩ := scriptPath_ofMock base n m
    have hw : IsStandIn n (Value.ofText? m.script?) path (ofMock base n m) :=
      ⟨cell_of_serviceWorker h, fun _ => rfl, rfl, hcell⟩
    refine ⟨.mocked n, ?_, .mocked hfind hm hpath hw rfl rfl⟩
    simp only [serviceWorker, hfind, written_text, hm, Outcome.lift_bind, Outcome.tell_bind]
    rfl
  · cases hn
    refine ⟨.defaulted n, ?_, .defaulted hfind ⟨cell_of_serviceWorker h, fun _ => rfl, rfl, rfl⟩ rfl rfl⟩
    simp only [serviceWorker, hfind, written_text, Outcome.lift_bind, Outcome.tell_bind]
    rfl

/-! ## Going through the services -/

/-- What stands after going through the services of these names: the workers that were made, by service,
and what was told. -/
structure Told (base : Option String) (s : Settings) (mocks : MockTable) (names : List String)
    (pairs : List (Worker × Notice)) (told : List Notice) (made : List (Scalar × Worker)) : Prop where
  keys : made.map Prod.fst = (toServe s names).map Scalar.text
  workers : made.map Prod.snd = pairs.map Prod.fst
  notices : told = pairs.map Prod.snd
  standFor : List.Forall₂ (fun n p => StandsFor base s mocks n p.1 p.2) (toServe s names) pairs

theorem told_nil (base : Option String) (s : Settings) (mocks : MockTable) :
    Told base s mocks [] [] [] [] := ⟨rfl, rfl, rfl, .nil⟩

/-- A service needs no worker if it has been gone through or is the primary worker. -/
theorem isServed_iff {names : List String} {made : List (Scalar × Worker)} {k : Scalar}
    (hkeys : made.map Prod.fst = (toServe s names).map Scalar.text) :
    isServed s made k = true ↔ ∃ n, k = .text n ∧ (n ∈ names ∨ n = s.mainWorkerName) := by
  have hany : (made.any fun e => e.1.same k) = true ↔ ∃ n ∈ toServe s names, k = .text n := by
    have hmap : (made.any fun e => e.1.same k) = (made.map Prod.fst).any fun j => j.same k := by
      rw [List.any_map]
      rfl
    rw [hmap, hkeys, List.any_map, List.any_eq_true]
    simp only [Function.comp_apply, Scalar.same_text_left]
  rw [isServed, Bool.or_eq_true, hany, beq_iff_eq]
  constructor
  · rintro (⟨n, hn, rfl⟩ | rfl)
    · exact ⟨n, rfl, Or.inl (mem_toServe.1 hn).1⟩
    · exact ⟨_, rfl, Or.inr rfl⟩
  · rintro ⟨n, rfl, hn⟩
    by_cases hmain : n = s.mainWorkerName
    · exact Or.inr (congrArg Scalar.text hmain)
    · exact Or.inl ⟨n, mem_toServe.2 ⟨hn.resolve_right hmain, hmain⟩, rfl⟩

theorem addService_text (made : List (Scalar × Worker)) (n : String) :
    addService base s mocks made (.text n) =
      if isServed s made (.text n) then pure made
      else serviceWorker base s mocks (.text n) >>= fun w => pure (made ++ [(.text n, w)]) := rfl

/-- **One service keeps the invariant.** -/
theorem Told.add {names : List String} {pairs : List (Worker × Notice)} {told : List Notice}
    {made made' : List (Scalar × Worker)} {v : Value} (hm : Told base s mocks names pairs told made)
    (h : (addService base s mocks made v).result = .ok made') : ∃ n pairs', v = .text n ∧
      Told base s mocks (names ++ [n]) pairs' (told ++ (addService base s mocks made v).notices) made' := by
  obtain ⟨k, rfl, ⟨hs, rfl⟩ | ⟨hs, w, hw, rfl⟩⟩ := addService_ok h
  · obtain ⟨n, rfl, hn⟩ := (isServed_iff hm.keys).1 hs
    refine ⟨n, pairs, rfl, ?_⟩
    rw [addService_text, if_pos hs, Outcome.pure_eq, List.append_nil]
    have hsame : toServe s (names ++ [n]) = toServe s names := by rw [toServe_concat, if_pos hn]
    exact ⟨hsame ▸ hm.keys, hm.workers, hm.notices, hsame ▸ hm.standFor⟩
  · obtain ⟨n, rfl, -⟩ := serviceWorker_ok hw
    obtain ⟨t, ht, hstands⟩ := standsFor_of_serviceWorker hw
    have hmore : toServe s (names ++ [n]) = toServe s names ++ [n] := by
      rw [toServe_concat, if_neg fun hc => ?_]
      exact Bool.eq_false_iff.1 hs ((isServed_iff hm.keys).2 ⟨n, rfl, hc⟩)
    refine ⟨n, pairs ++ [(w, t)], rfl, ?_⟩
    rw [addService_text, if_neg (Bool.eq_false_iff.1 hs), Outcome.notices_bind hw, ht, Outcome.pure_eq,
      List.append_nil]
    refine ⟨?_, ?_, ?_, ?_⟩
    · rw [hmore, List.map_append, List.map_append, hm.keys]
      rfl
    · rw [List.map_append, List.map_append, hm.workers]
      rfl
    · rw [List.map_append, hm.notices]
      rfl
    · rw [hmore]
      exact List.rel_append hm.standFor (.cons hstands .nil)

/-- The invariant holds of services that were gone through without a fault. -/
theorem told_foldlM {services : List Value} {made : List (Scalar × Worker)}
    (h : (services.foldlM (addService base s mocks) []).result = .ok made) :
    ∃ names pairs, services = names.map Value.text ∧
      Told base s mocks names pairs (services.foldlM (addService base s mocks) []).notices made :=
  Outcome.foldlM_invariant
    (P := fun seen told made => ∃ names pairs, seen = names.map Value.text ∧
      Told base s mocks names pairs told made)
    (fun seen told made v made' ⟨names, pairs, hseen, hm⟩ hadd => by
      obtain ⟨n, pairs', rfl, hm'⟩ := hm.add hadd
      exact ⟨names ++ [n], pairs', by rw [List.map_append, hseen]; rfl, hm'⟩)
    ⟨[], [], rfl, told_nil base s mocks⟩ h

/-- **The workers of the services**, and all that is told of them. -/
theorem told_serviceWorkers {services : List Value} {ws : List Worker}
    (h : (serviceWorkers base s mocks services).result = .ok ws) :
    ∃ names pairs, services = names.map Value.text ∧ ws = pairs.map Prod.fst ∧
      (serviceWorkers base s mocks services).notices = pairs.map Prod.snd ∧
      List.Forall₂ (fun n p => StandsFor base s mocks n p.1 p.2) (toServe s names) pairs := by
  obtain ⟨made, hmade, hws⟩ := Outcome.bind_eq_ok_iff.1 h
  cases hws
  obtain ⟨names, pairs, hseen, hm⟩ := told_foldlM hmade
  refine ⟨names, pairs, hseen, hm.workers, ?_, hm.standFor⟩
  rw [serviceWorkers, Outcome.notices_bind hmade, Outcome.pure_eq, List.append_nil]
  exact hm.notices

/-! ## The whole -/

/-- The binding and the service of an entry are these texts. -/
def EntryIs (v : Value) (e : String × String) : Prop :=
  v.field "binding" = .ok (.text e.1) ∧ v.field "service" = .ok (.text e.2)

/-- The texts of entries are determined by the entries. -/
theorem rightUnique_entryIs : Relator.RightUnique EntryIs := by
  rintro v ⟨b, n⟩ ⟨b', n'⟩ ⟨hb, hn⟩ ⟨hb', hn'⟩
  cases hb.symm.trans hb'
  cases hn.symm.trans hn'
  rfl

theorem serviceEntry_ok {v : Value} {e : Scalar × Value} (h : serviceEntry v = .ok e) :
    v.field "binding" = .ok (.scalar e.1) ∧ v.field "service" = .ok e.2 := by
  obtain ⟨binding, hbinding, h⟩ := Except.bind_eq_ok_iff.1 h
  obtain ⟨target, htarget, h⟩ := Except.bind_eq_ok_iff.1 h
  obtain ⟨k, hk, h⟩ := Except.bind_eq_ok_iff.1 h
  cases h
  rw [asKey_ok hk] at hbinding
  exact ⟨hbinding, htarget⟩

/-- Entries with texts for bindings and services are pairs of texts. -/
theorem texts_of_serviceEntries {items : List Value} {es : List (Scalar × Value)} {names : List String}
    (h : serviceEntries items = .ok es)
    (hbindings : ∀ v ∈ items, ∃ b, v.field "binding" = .ok (.text b))
    (hservices : es.map Prod.snd = names.map Value.text) :
    ∃ entries : List (String × String), List.Forall₂ EntryIs items entries ∧
      es = entries.map (fun e => (.text e.1, .text e.2)) ∧ names = entries.map Prod.snd := by
  induction items generalizing es names with
  | nil =>
    cases h
    cases names with
    | nil => exact ⟨[], .nil, rfl, rfl⟩
    | cons _ _ => cases hservices
  | cons v items ih =>
    rw [serviceEntries, List.mapM_cons] at h
    obtain ⟨e, he, h⟩ := Except.bind_eq_ok_iff.1 h
    obtain ⟨rest, hrest, h⟩ := Except.bind_eq_ok_iff.1 h
    cases h
    cases names with
    | nil => cases hservices
    | cons n names =>
      obtain ⟨hn, hnames⟩ := List.cons.inj hservices
      obtain ⟨⟨b, hb⟩, hbs⟩ := List.forall_mem_cons.1 hbindings
      obtain ⟨entries, hentries, rfl, rfl⟩ := ih hrest hbs hnames
      obtain ⟨hbinding, hservice⟩ := serviceEntry_ok he
      obtain ⟨k, target⟩ := e
      cases hb.symm.trans hbinding
      cases hn
      exact ⟨(b, n) :: entries, .cons ⟨hbinding, hservice⟩ hentries, rfl, rfl⟩

theorem withServices_of_entries {items : List Value} {es : List (Scalar × Value)}
    (hs : d.peek "services" = .ok (.list items)) (he : serviceEntries items = .ok es) (p : Worker) :
    withServices base s mocks d p = serviceWorkers base s mocks (es.map (·.2)) >>= fun others =>
      pure (p.set .serviceBindings (.plain (.map (Mapping.ofEntries es))) :: others) := by
  have hitems : (Value.list items).elements = .ok items := rfl
  simp only [withServices, hs, hitems, he, Outcome.lift_bind, Value.isNull]
  rfl

/-- Writing the port tells nothing. -/
theorem notices_configuration {c : Configuration} (h : (configuration d mocks base s).result = .ok c) :
    ∃ p, primary base s (effective d) = .ok p ∧
      (withServices base s mocks (effective d) p).result = .ok c.workers ∧
      (configuration d mocks base s).notices =
        (withServices base s mocks (effective d) p).notices := by
  obtain ⟨p, hp, hws, -⟩ := configuration_ok h
  refine ⟨p, hp, hws, ?_⟩
  rw [configuration_of_primary hp] at h ⊢
  obtain ⟨ws, hws', hrest⟩ := Outcome.bind_eq_ok_iff.1 h
  obtain ⟨t, ht, -⟩ := Outcome.bind_eq_ok_iff.1 hrest
  rw [Outcome.notices_bind hws', Outcome.notices_bind ht]
  exact List.append_nil _

/-- **The stand-ins of a configuration.**  Let the services of a compiled descriptor be a list of entries
whose bindings are texts.  Their services are then texts as well, and the workers after the primary one
stand in for the services that need a worker, one each and in order of first appearance; of each of them
one thing is told, in that order, and nothing else is told.  The primary worker has the bindings of the
entries and no other, and each leads to the service of the last entry that has it. -/
theorem standIns_of_configuration {items : List Value} {c : Configuration}
    (hc : (configuration d mocks base s).result = .ok c) (hs : d.peek "services" = .ok (.list items))
    (hbindings : ∀ v ∈ items, ∃ b, v.field "binding" = .ok (.text b)) :
    ∃ (entries : List (String × String)) (head : Worker) (pairs : List (Worker × Notice)) (m : Mapping),
      List.Forall₂ EntryIs items entries ∧
      c.workers = head :: pairs.map Prod.fst ∧
      (configuration d mocks base s).notices = pairs.map Prod.snd ∧
      List.Forall₂ (fun n p => StandsFor base s mocks n p.1 p.2) (toServe s (entries.map Prod.snd)) pairs ∧
      head.HasName s.mainWorkerName ∧ head.cell .serviceBindings = .plain (.map m) ∧
      m.map Prod.fst = (entries.map Prod.fst).eraseDups.map Scalar.text ∧
      ∀ b, Mapping.get? m b = (entries.reverse.lookup b).map Value.text := by
  have heffective : effective d = d := by
    obtain ⟨m, rfl⟩ := Value.exists_map_of_peek hs
    exact effective_map m
  obtain ⟨p, hp, hws, hnotices⟩ := notices_configuration hc
  rw [heffective] at hp hws hnotices
  obtain ⟨_, hs', ⟨hnull, -⟩ | ⟨-, _, es, others, hitems, hes, hothers, hworkers⟩⟩ := withServices_ok hws
  · cases hs.symm.trans hs'
    cases hnull
  · cases hs.symm.trans hs'
    cases hitems
    obtain ⟨names, pairs, hnames, hpairs, htold, hstand⟩ := told_serviceWorkers hothers
    obtain ⟨entries, hentries, rfl, rfl⟩ := texts_of_serviceEntries hes hbindings hnames
    refine ⟨entries, _, pairs, _, hentries, hpairs ▸ hworkers, ?_, hstand, ?_,
      Worker.cell_set_self .., ?_, fun b => ?_⟩
    · rw [hnotices, withServices_of_entries hs hes, Outcome.notices_bind hothers, htold]
      exact List.append_nil _
    · rw [Worker.HasName, Worker.cell_set_of_ne _ _ (by decide)]
      exact hasName_of_primary hp
    · have hkeys := Mapping.keys_ofEntries (entries.map fun e => (e.1, Value.text e.2))
      simpa [Function.comp_def] using hkeys
    · have hget := Mapping.get?_ofEntries (entries.map fun e => (e.1, Value.text e.2)) b
      rw [← List.map_reverse, Mapping.lookup_map] at hget
      simpa [Function.comp_def] using hget

/-- Bindings and services of which one repeats each, and one binds the primary worker itself. -/
def sharedEntries : List (String × String) :=
  [("API", "api"), ("SELF", "main"), ("BACKUP", "api"), ("LOG", "log"), ("API", "log")]

def sharedItems : List Value :=
  sharedEntries.map fun e => Value.record [("binding", .text e.1), ("service", .text e.2)]

set_option maxRecDepth 10000 in
/-- There are two stand-ins, one of which runs a mock, and the repeated binding leads to the second. -/
theorem standIns_of_sharedItems :
    let d := Value.record [("services", .list sharedItems)]
    let mocks := MockTable.entries [(.text "api", .ready (.file "mocks/api.js"))]
    ∃ c head pairs m, (configuration d mocks (some "/proj") .standard).result = .ok c ∧
      c.workers = head :: pairs.map Prod.fst ∧
      (configuration d mocks (some "/proj") .standard).notices = pairs.map Prod.snd ∧
      pairs.map Prod.snd = [.mocked "api", .defaulted "log"] ∧
      List.Forall₂ (fun n p => StandsFor (some "/proj") .standard mocks n p.1 p.2) ["api", "log"] pairs ∧
      head.cell .serviceBindings = .plain (.map m) ∧
      m.map Prod.fst = [.text "API", .text "SELF", .text "BACKUP", .text "LOG"] ∧
      Mapping.get? m "API" = some (.text "log") := by
  intro d mocks
  have hrun : ((configuration d mocks (some "/proj") .standard).result.map fun _ => ()) = .ok () := rfl
  obtain ⟨c, hc, -⟩ := Except.map_eq_ok_iff.1 hrun
  have hbindings : ∀ v ∈ sharedItems, ∃ b, v.field "binding" = .ok (.text b) := by
    intro v hv
    obtain ⟨e, -, rfl⟩ := List.mem_map.1 hv
    exact ⟨e.1, rfl⟩
  obtain ⟨entries, head, pairs, m, hentries, hws, hnotices, hstand, -, hm, hkeys, hget⟩ :=
    standIns_of_configuration hc rfl hbindings
  have hshared : List.Forall₂ EntryIs sharedItems sharedEntries := by
    exact List.forall₂_map_left_iff.2 (List.forall₂_same.2 fun _ _ => ⟨rfl, rfl⟩)
  cases rightUnique_entryIs.forall₂ hentries hshared
  exact ⟨c, head, pairs, m, hc, hws, hnotices, hnotices.symm.trans rfl, hstand, hm, hkeys, hget "API"⟩

end Compile

end EdgeRig
