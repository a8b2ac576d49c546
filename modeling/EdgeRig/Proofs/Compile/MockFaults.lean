import EdgeRig.Proofs.Compile.StandIns
import EdgeRig.Proofs.Compile.Total

/-!
# Faulty mocks

The mocks of a caller are read one at a time, when the compiler comes to a service that needs one.  This
file says which of them stops a compilation, what has been told by then, and what else can stop it.

* `Descriptor.serviceNames` — the services that a descriptor binds, in order and with repetitions.
* `Compile.Refused` — a service that needs a worker and has a mock that cannot be read;
  `Compile.FirstRefused` — the first one of them.
* `Compile.serviceWorkers_cases` — going through the services ends well, or at the first refused one.
* `Compile.configuration_cases` — so does a compilation, unless its port cannot be written out.
* `Compile.mockFault_of_configuration` — when there is a fault of a mock, of which service it speaks, and
  what was told before.
-/

namespace EdgeRig

/-! ## Bound services -/

namespace Descriptor

/-- The service that an entry binds. -/
def serviceName? (entry : Value) : Option String :=
  match entry.field "service" with
  | .ok (.scalar (.text n)) => some n
  | _ => none

/-- The services that a descriptor binds, in order. -/
def serviceNames (d : Value) : List String :=
  match d.lookup "services" with
  | some (.list items) => items.filterMap serviceName?
  | _ => []

end Descriptor

namespace MockTable

/-- Is there a mock of the service that says something? -/
def supplies (mocks : MockTable) (n : String) : Bool :=
  match mocks.find? (.text n) with
  | .ok (some _) => true
  | _ => false

/-- What is told of a service that gets a worker. -/
def announcement (mocks : MockTable) (n : String) : Notice :=
  if mocks.supplies n then .mocked n else .defaulted n

/-- A mock is told as information, and a missing one as a warning. -/
theorem level_announcement (mocks : MockTable) (n : String) :
    (mocks.announcement n).level = if mocks.supplies n then .info else .warning := by
  rw [announcement]
  split <;> rfl

theorem announcement_of_some {mocks : MockTable} {n : String} {mock : Mock}
    (h : mocks.find? (.text n) = .ok (some mock)) : mocks.announcement n = .mocked n := by
  rw [announcement, supplies, h]
  rfl

theorem announcement_of_none {mocks : MockTable} {n : String} (h : mocks.find? (.text n) = .ok .none) :
    mocks.announcement n = .defaulted n := by
  rw [announcement, supplies, h]
  rfl

end MockTable

namespace Compile

open Descriptor

variable {base : Option String} {s : Settings} {mocks : MockTable} {es : List (Scalar × Mock)} {d : Value}

/-! ## Refused mocks -/

/-- A service that needs a worker of its own, and whose mock says something, was not read before and
cannot be read: this is what is wrong with it. -/
structure Refused (s : Settings) (es : List (Scalar × Mock)) (n : String) (ps : List Problem) : Prop where
  needed : n ≠ s.mainWorkerName
  unreadable : ∃ k v, es.find? (fun e => e.1.same (.text n)) = some (k, .described v) ∧ v ≠ .null ∧
    ServiceMock.read v = .error ps

/-- The first of the services that is refused, with the services before it. -/
structure FirstRefused (s : Settings) (es : List (Scalar × Mock)) (names before : List String) (n : String)
    (ps : List Problem) : Prop where
  found : ∃ after, names = before ++ n :: after
  refused : Refused s es n ps
  first : ∀ m ∈ before, ∀ ps', ¬ Refused s es m ps'

theorem FirstRefused.mem {names before : List String} {n : String} {ps : List Problem}
    (h : FirstRefused s es names before n ps) : n ∈ names := by
  obtain ⟨after, rfl⟩ := h.found
  exact List.mem_append_right _ (List.mem_cons_self ..)

/-- A refused mock is found, and stands for no script. -/
theorem Refused.resolve {n : String} {ps : List Problem} (h : Refused s es n ps) :
    ∃ mock, (MockTable.entries es).find? (.text n) = .ok (some mock) ∧
      mock.resolve (.text n) = .error (.failure (.invalidMock (.text n) ps)) := by
  obtain ⟨k, v, hfind, hnull, hread⟩ := h.unreadable
  have hsays : v.isNull = false := Bool.eq_false_iff.2 fun hc => hnull (Value.isNull_iff.1 hc)
  refine ⟨.described v, ?_, ?_⟩
  · simp [MockTable.find?, hfind, Mock.isAbsent, hsays]
  · simp [Mock.resolve, hread, Value.text]

/-- The mock of a service that needs one is valid or refused. -/
theorem validFor_or_refused {n : String} (hn : n ≠ s.mainWorkerName) :
    (MockTable.entries es).ValidFor n ∨ ∃ ps, Refused s es n ps := by
  cases hfind : es.find? (fun e => e.1.same (.text n)) with
  | none => exact Or.inl ⟨none, by simp [MockTable.find?, hfind], nofun⟩
  | some e =>
    obtain ⟨k, mock⟩ := e
    cases mock with
    | ready m =>
      refine Or.inl ⟨some (.ready m), by simp [MockTable.find?, hfind, Mock.isAbsent], ?_⟩
      rintro mock hmock
      cases hmock
      exact ⟨m, rfl⟩
    | described v =>
      by_cases hnull : v = .null
      · exact Or.inl ⟨none, by simp [MockTable.find?, hfind, Mock.isAbsent, hnull, Value.isNull], nofun⟩
      · cases hread : ServiceMock.read v with
        | error ps => exact Or.inr ⟨ps, hn, k, v, hfind, hnull, hread⟩
        | ok m =>
          have hsays : v.isNull = false := Bool.eq_false_iff.2 fun hc => hnull (Value.isNull_iff.1 hc)
          refine Or.inl ⟨some (.described v), by simp [MockTable.find?, hfind, Mock.isAbsent, hsays], ?_⟩
          rintro mock hmock
          cases hmock
          exact ⟨m, by simp [Mock.resolve, hread]⟩

/-- No worker stands in for a refused service. -/
theorem StandsFor.unrefused {n : String} {w : Worker} {t : Notice}
    (h : StandsFor base s (.entries es) n w t) (ps : List Problem) : ¬ Refused s es n ps := by
  intro hr
  obtain ⟨mock, hfind, hresolve⟩ := hr.resolve
  cases h with
  | mocked hfind' hm =>
    cases hfind.symm.trans hfind'
    cases hresolve.symm.trans hm
  | defaulted hfind' => cases hfind.symm.trans hfind'

theorem StandsFor.announced {n : String} {w : Worker} {t : Notice} (h : StandsFor base s mocks n w t) :
    t = mocks.announcement n := by
  cases h with
  | mocked hfind _ _ _ ht => rw [MockTable.announcement_of_some hfind, ht]
  | defaulted hfind _ ht => rw [MockTable.announcement_of_none hfind, ht]

/-! ## Going through the services -/

section

variable {names : List String} {pairs : List (Worker × Notice)} {told : List Notice}
  {made : List (Scalar × Worker)}

/-- What was told are the announcements of the services that got a worker. -/
theorem Told.announced (h : Told base s mocks names pairs told made) :
    told = (toServe s names).map mocks.announcement := by
  have hpairs : List.Forall₂ (· = ·) ((toServe s names).map mocks.announcement) (pairs.map Prod.snd) :=
    List.forall₂_map_left_iff.2 <| List.forall₂_map_right_iff.2 <|
      h.standFor.imp fun _ _ hstands => hstands.announced.symm
  rw [List.forall₂_eq_eq_eq] at hpairs
  rw [h.notices, hpairs]

/-- None of the services that were gone through is refused. -/
theorem Told.unrefused (h : Told base s (.entries es) names pairs told made) {n : String} (hn : n ∈ names)
    (ps : List Problem) : ¬ Refused s es n ps := by
  intro hr
  have hall := (List.forall₂_and_left (p := fun n => ∀ ps, ¬ Refused s es n ps) _ _).1
    (h.standFor.imp fun _ _ hstands => ⟨hstands.unrefused, hstands⟩)
  exact hall.1 n (mem_toServe.2 ⟨hn, hr.needed⟩) ps hr

end

/-- A refused service is announced and ends the compilation. -/
theorem serviceWorker_of_refused {n : String} {ps : List Problem} (h : Refused s es n ps) :
    serviceWorker base s (.entries es) (.text n) =
      ⟨[(MockTable.entries es).announcement n], .error (.failure (.invalidMock (.text n) ps))⟩ := by
  obtain ⟨mock, hfind, hresolve⟩ := h.resolve
  have hresolve' : mock.resolve (.scalar (.text n)) = .error (.failure (.invalidMock (.text n) ps)) := hresolve
  rw [MockTable.announcement_of_some hfind]
  simp only [serviceWorker, hfind, written_text, hresolve', Outcome.lift_bind, Outcome.tell_bind]
  rfl

/-- The worker of a service can be missing for one reason only. -/
theorem refused_of_addService {made : List (Scalar × Worker)} {n : String} {e : Fault}
    (h : (addService base s (.entries es) made (.text n)).result = .error e) :
    isServed s made (.text n) = false ∧ ∃ ps, Refused s es n ps := by
  rw [addService_text] at h
  by_cases hs : isServed s made (.text n) = true
  · rw [if_pos hs] at h
    cases h
  · have hs' := Bool.eq_false_iff.2 hs
    refine ⟨hs', (validFor_or_refused (ne_of_not_isServed hs').1).resolve_left fun hvalid => ?_⟩
    obtain ⟨w, hw⟩ := @serviceWorker_total base s (.entries es) n hvalid
    rw [if_neg hs, Outcome.result_bind, hw] at h
    cases h

/-- **Going through the services** ends well if none of them is refused, and else at the first one that
is. -/
theorem serviceWorkers_cases (base : Option String) (s : Settings) (es : List (Scalar × Mock))
    (names : List String) :
    ((∀ n ∈ names, ∀ ps, ¬ Refused s es n ps) ∧
        ∃ ws, (serviceWorkers base s (.entries es) (names.map Value.text)).result = .ok ws) ∨
      ∃ before n ps, FirstRefused s es names before n ps ∧
        serviceWorkers base s (.entries es) (names.map Value.text) =
          ⟨(toServe s (before ++ [n])).map (MockTable.entries es).announcement,
            .error (.failure (.invalidMock (.text n) ps))⟩ := by
  rw [serviceWorkers]
  cases hfold : ((names.map Value.text).foldlM (addService base s (.entries es)) []).result with
  | ok made =>
    refine Or.inl ⟨fun n hn ps => ?_, _, Outcome.bind_eq_ok_iff.2 ⟨made, hfold, rfl⟩⟩
    obtain ⟨names', pairs, hnames, htold⟩ := told_foldlM hfold
    obtain rfl : names = names' := List.map_injective_iff.2 (fun _ _ h => by cases h; rfl) hnames
    exact htold.unrefused hn ps
  | error e =>
    refine Or.inr ?_
    obtain ⟨seen, v, rest, made, hsplit, hseen, hadd, hnotices⟩ := Outcome.foldlM_error hfold
    obtain ⟨before, after', rfl, rfl, hafter⟩ := List.map_eq_append_iff.1 hsplit
    obtain ⟨n, after, rfl, rfl, rfl⟩ := List.map_eq_cons_iff.1 hafter
    obtain ⟨before', pairs, hbefore, htold⟩ := told_foldlM hseen
    obtain rfl : before = before' := List.map_injective_iff.2 (fun _ _ h => by cases h; rfl) hbefore
    obtain ⟨hserved, ps, hrefused⟩ := refused_of_addService hadd
    have hmore : toServe s (before ++ [n]) = toServe s before ++ [n] := by
      rw [toServe_concat, if_neg fun hc => ?_]
      exact Bool.eq_false_iff.1 hserved ((isServed_iff htold.keys).2 ⟨n, rfl, hc⟩)
    rw [addService_text, if_neg (Bool.eq_false_iff.1 hserved), serviceWorker_of_refused hrefused,
      Outcome.bind_of_error rfl] at hadd hnotices
    cases hadd
    refine ⟨before, n, ps, ⟨⟨after, rfl⟩, hrefused, fun m hm ps' => htold.unrefused hm ps'⟩, ?_⟩
    rw [Outcome.bind_of_error hfold, hnotices, htold.announced, hmore, List.map_append]
    rfl

/-! ## The compilation -/

/-- The entries of a well-shaped list bind the services of these names. -/
theorem serviceEntries_of_texts {items : List Value}
    (h : ∀ e ∈ items, ∀ k ∈ ["binding", "service"], ∃ t, e.field k = .ok (.text t)) :
    ∃ entries, serviceEntries items = .ok entries ∧
      entries.map (·.2) = (items.filterMap serviceName?).map Value.text := by
  induction items with
  | nil => exact ⟨[], rfl, rfl⟩
  | cons e items ih =>
    obtain ⟨he, hrest⟩ := List.forall_mem_cons.1 h
    obtain ⟨k, hk⟩ := he "binding" (by simp)
    obtain ⟨n, hn⟩ := he "service" (by simp)
    obtain ⟨entries, hentries, hnames⟩ := ih hrest
    have hentry : serviceEntry e = .ok (.text k, .text n) := by
      rw [serviceEntry, hk, Except.ok_bind, hn]
      rfl
    have hname : serviceName? e = some n := by rw [serviceName?, hn]
    refine ⟨(.text k, .text n) :: entries, ?_, ?_⟩
    · rw [serviceEntries] at hentries
      rw [serviceEntries, List.mapM_cons, hentry, Except.ok_bind, hentries]
      rfl
    · rw [List.filterMap_cons, hname, List.map_cons, List.map_cons, hnames]

/-- The services of a well-shaped descriptor are gone through, in order. -/
theorem withServices_of_isWellShaped (base : Option String) (s : Settings) (mocks : MockTable)
    (hd : isWellShaped d = true) (p : Worker) : ∃ q : Worker,
      withServices base s mocks d p =
        serviceWorkers base s mocks ((serviceNames d).map Value.text) >>= fun others =>
          pure (q :: others) := by
  obtain ⟨services, hpeek, hservices⟩ := peek_of_isWellShaped hd "services"
    (.entries ["binding", "service"]) (by simp [documented]) (by decide)
  have hlookup := Value.lookup_of_peek (by decide) hpeek
  rcases hservices with rfl | hservices
  · have hnames : serviceNames d = [] := by rw [serviceNames, hlookup]; rfl
    refine ⟨p, ?_⟩
    simp only [withServices, hpeek, Outcome.lift_bind, hnames]
    rfl
  · obtain ⟨items, rfl, hitems⟩ := Shape.exists_entries_of_accepts hservices
    obtain ⟨entries, hentries, hsame⟩ := serviceEntries_of_texts hitems
    have hnames : serviceNames d = items.filterMap serviceName? := by rw [serviceNames, hlookup]; rfl
    rw [withServices_of_entries hpeek hentries, hsame, hnames]
    exact ⟨_, rfl⟩

/-- The port of the descriptor cannot be written out. -/
def HasLongPort (d : Value) : Prop :=
  ∃ port, d.lookup "dev.port" = some (.int port) ∧ Scalar.IsTooLong port

/-- The port of a well-shaped descriptor is written out unless it has too many digits. -/
theorem written_of_isWellShaped (s : Settings) (hd : isWellShaped d = true) :
    HasLongPort d ∧ (listening s d).2.written = .error .numberTooLong ∨
      ¬ HasLongPort d ∧ ∃ t, (listening s d).2.written = .ok t := by
  rcases listening_of_isWellShaped s hd with ⟨hport, hlisten⟩ | ⟨host, port, hport, hlisten⟩
  · refine Or.inr ⟨?_, _, by rw [hlisten]; rfl⟩
    rintro ⟨port, hport', -⟩
    cases hport.symm.trans hport'
  · rw [hlisten]
    by_cases hlong : Scalar.IsTooLong port
    · exact Or.inl ⟨⟨port, hport, hlong⟩, (written_int port).2 hlong⟩
    · refine Or.inr ⟨?_, (written_int port).1 (Nat.not_le.1 hlong)⟩
      rintro ⟨port', hport', hlong'⟩
      cases hport.symm.trans hport'
      exact hlong hlong'

/-- **How the compilation of a well-shaped descriptor ends.** -/
theorem configuration_cases (base : Option String) (s : Settings) (es : List (Scalar × Mock))
    (hd : isWellShaped (effective d) = true) :
    (∃ before n ps, FirstRefused s es (serviceNames (effective d)) before n ps ∧
        configuration d (.entries es) base s =
          ⟨(toServe s (before ++ [n])).map (MockTable.entries es).announcement,
            .error (.failure (.invalidMock (.text n) ps))⟩) ∨
      (∀ n ∈ serviceNames (effective d), ∀ ps, ¬ Refused s es n ps) ∧
        (HasLongPort (effective d) ∧
            (configuration d (.entries es) base s).result = .error .numberTooLong ∨
          ¬ HasLongPort (effective d) ∧ ∃ c, (configuration d (.entries es) base s).result = .ok c) := by
  obtain ⟨p, hp, -⟩ := primary_total base s hd
  obtain ⟨q, hq⟩ := withServices_of_isWellShaped base s (.entries es) hd p
  rw [configuration_of_primary hp, hq]
  rcases serviceWorkers_cases base s es (serviceNames (effective d)) with
    ⟨hnone, others, hothers⟩ | ⟨before, n, ps, hfirst, hstop⟩
  · refine Or.inr ⟨hnone, ?_⟩
    simp only [Outcome.result_bind, hothers, Except.ok_bind]
    rcases written_of_isWellShaped s hd with ⟨hlong, hwritten⟩ | ⟨hshort, t, hwritten⟩
    · exact Or.inl ⟨hlong, by simp only [Outcome.ofExcept, hwritten]; rfl⟩
    · exact Or.inr ⟨hshort, _, by simp only [Outcome.ofExcept, hwritten]; rfl⟩
  · refine Or.inl ⟨before, n, ps, hfirst, ?_⟩
    rw [hstop]
    rfl

/-- **Faults of mocks.**  A well-shaped descriptor is stopped by a mock exactly if one of the services that
it binds is refused.  The fault speaks of the first such service; told by then are all services up to it,
each once, a mock as information and a missing one as a warning.  Nothing else stops the compilation, but
for a port that has too many digits to be written out. -/
theorem mockFault_of_configuration (d : Value) (es : List (Scalar × Mock)) (base : Option String)
    (s : Settings) (hd : isWellShaped (effective d) = true) :
    ((∃ service ps, (configuration d (.entries es) base s).result =
          .error (.failure (.invalidMock service ps))) ↔
        ∃ n ∈ serviceNames (effective d), ∃ ps, Refused s es n ps) ∧
      (∀ service ps, (configuration d (.entries es) base s).result =
          .error (.failure (.invalidMock service ps)) →
        ∃ before n, FirstRefused s es (serviceNames (effective d)) before n ps ∧ service = .text n ∧
          (configuration d (.entries es) base s).notices =
            (toServe s (before ++ [n])).map (MockTable.entries es).announcement ∧
          (configuration d (.entries es) base s).notices.map Notice.level =
            (toServe s (before ++ [n])).map fun m =>
              if (MockTable.entries es).supplies m then .info else .warning) ∧
      (∀ e, (configuration d (.entries es) base s).result = .error e →
        (∃ service ps, e = .failure (.invalidMock service ps)) ∨ e = .numberTooLong) ∧
      ((configuration d (.entries es) base s).result = .error .numberTooLong ↔
        HasLongPort (effective d) ∧ ∀ n ∈ serviceNames (effective d), ∀ ps, ¬ Refused s es n ps) := by
  rcases configuration_cases base s es hd with
    ⟨before, n, ps, hfirst, hstop⟩ | ⟨hnone, ⟨hlong, hstop⟩ | ⟨hshort, c, hc⟩⟩
  · rw [hstop]
    refine ⟨⟨fun _ => ⟨n, hfirst.mem, ps, hfirst.refused⟩, fun _ => ⟨_, _, rfl⟩⟩, fun service ps' h => ?_,
      fun e h => ?_, fun h => ?_, fun h => ?_⟩
    · cases h
      refine ⟨before, n, hfirst, rfl, rfl, ?_⟩
      rw [List.map_map]
      exact List.map_congr_left fun m _ => MockTable.level_announcement _ m
    · cases h
      exact Or.inl ⟨_, _, rfl⟩
    · cases h
    · exact absurd hfirst.refused (h.2 n hfirst.mem ps)
  · rw [hstop]
    refine ⟨⟨fun ⟨_, _, h⟩ => ?_, fun ⟨n, hn, ps, hr⟩ => absurd hr (hnone n hn ps)⟩, fun _ _ h => ?_,
      fun e h => ?_, fun _ => ⟨hlong, hnone⟩, fun _ => rfl⟩
    · cases h
    · cases h
    · cases h
      exact Or.inr rfl
  · rw [hc]
    refine ⟨⟨fun ⟨_, _, h⟩ => ?_, fun ⟨n, hn, ps, hr⟩ => absurd hr (hnone n hn ps)⟩, fun _ _ h => ?_,
      fun e h => ?_, fun h => ?_, fun h => absurd h.1 hshort⟩
    · cases h
    · cases h
    · cases h
    · cases h

/-- A descriptor that binds these services, and listens at this port. -/
def boundDescriptor (services : List String) (port : Int) : Value :=
  Value.record
    [("services", .list (services.map fun n =>
        Value.record [("binding", .text n), ("service", .text n)])),
     ("dev", Value.record [("port", .int port)])]

/-- A mock that was read before, a faulty one of the primary worker, one that says nothing, one that is
described in two ways, and one that is a number. -/
def spoiltMocks : List (Scalar × Mock) :=
  [(.text "api", .ready (.file "mocks/api.js")), (.text "main", .described (.int 5)),
   (.text "log", .described .null),
   (.text "auth", .described (Value.record [("script", .text ""), ("scriptPath", .text "a.js")])),
   (.text "mail", .described (.int 5))]

set_option maxRecDepth 10000 in
/-- The first refused service is the fifth that is bound; the faulty mock of the primary worker is never
read, and the repeated service is told of once. -/
theorem mockFault_of_spoiltMocks :
    let d := boundDescriptor ["api", "main", "log", "api", "auth", "mail"] 8787
    isWellShaped (effective d) = true ∧ ∃ ps before,
      (configuration d (.entries spoiltMocks) none .standard).result =
        .error (.failure (.invalidMock (.text "auth") ps)) ∧
      FirstRefused .standard spoiltMocks ["api", "main", "log", "api", "auth", "mail"] before "auth" ps ∧
      (configuration d (.entries spoiltMocks) none .standard).notices =
        [.mocked "api", .defaulted "log", .mocked "auth"] := by
  intro d
  have hshape : isWellShaped (effective d) = true := rfl
  obtain ⟨ps, hps⟩ : ∃ ps, (configuration d (.entries spoiltMocks) none .standard).result =
      .error (.failure (.invalidMock (.text "auth") ps)) := ⟨_, rfl⟩
  obtain ⟨before, n, hfirst, hn, hnotices, -⟩ :=
    (mockFault_of_configuration d spoiltMocks none .standard hshape).2.1 _ ps hps
  cases hn
  exact ⟨hshape, ps, before, hps, hfirst, rfl⟩

/-- A port with too many digits stops the compilation although there is no mock that could be refused. -/
theorem not_mockFault_of_longPort :
    let d := boundDescriptor ["api"] (Scale.decimal Scalar.digitLimit)
    isWellShaped (effective d) = true ∧
      (∀ n ∈ serviceNames (effective d), ∀ ps, ¬ Refused .standard [] n ps) ∧
      ∃ e, (configuration d (.entries []) none .standard).result = .error e ∧
        ∀ service ps, e ≠ .failure (.invalidMock service ps) := by
  intro d
  have hshape : isWellShaped (effective d) = true := rfl
  have hnone : ∀ n ∈ serviceNames (effective d), ∀ ps, ¬ Refused .standard [] n ps := by
    rintro n - ps ⟨-, k, v, hfind, -⟩
    cases hfind
  have hlong : HasLongPort (effective d) := ⟨_, rfl, Nat.le_of_eq (Int.natAbs_natCast _).symm⟩
  refine ⟨hshape, hnone, .numberTooLong, ?_, fun _ _ h => by cases h⟩
  rcases configuration_cases none .standard [] hshape with
    ⟨_, n, ps, hfirst, -⟩ | ⟨-, ⟨-, hstop⟩ | ⟨hshort, -⟩⟩
  · exact absurd hfirst.refused (hnone n hfirst.mem ps)
  · exact hstop
  · exact absurd hlong hshort

end Compile

end EdgeRig
