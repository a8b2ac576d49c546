import EdgeRig.Compile
import EdgeRig.Proofs.Mapping
import EdgeRig.Proofs.Schema.Reading

/-!
# The forms of a mock

A caller describes a mock by a record whose path goes by either of two names, or hands over what was read
from such a record before.

* `ServiceMock.IsRecord` — the grammar of the records that describe a mock.
* `ServiceMock.Describes`, `ServiceMock.read_eq_ok_iff` — which mock a record is read as.
* `Mapping.respelled` — a record with the other spelling of its path; `ServiceMock.Describes.respelled`
  says that it describes the same mock.
* `Mock.Alike` — two forms of one mock; `MockTable.find?_alike` says that tables of like mocks answer alike.
* `Compile.mockForms` — a record is a mock exactly if it follows the grammar, and the forms of a mock can
  take each other's place in a compilation.
-/

namespace EdgeRig

namespace ServiceMock

open Mapping (get?)

variable {m : Mapping} {k : ServiceMock} {v : Value}

/-! ## The grammar of a record -/

/-- The names of the fields, the path under both of its names. -/
def fieldNames : List String := "script" :: pathNames

/-- What the record says under a name; nothing, where it has no such entry. -/
def said (m : Mapping) (n : String) : Value := (get? m n).getD .null

/-- The grammar of the records that describe a mock. -/
structure IsRecord (m : Mapping) : Prop where
  /-- Every key is the name of a field. -/
  known : ∀ e ∈ m, ∃ n ∈ fieldNames, e.1 = .text n
  /-- The path goes by one of its names only. -/
  oneSpelling : get? m "scriptPath" = none ∨ get? m "script_path" = none
  /-- Each field says nothing or is a text. -/
  texts : ∀ n ∈ fieldNames, said m n = .null ∨ ∃ t, said m n = .text t
  /-- Exactly one field says something; the empty text is something. -/
  oneSource : ∃! n, n ∈ fieldNames ∧ said m n ≠ .null

theorem mem_fieldNames {n : String} :
    n ∈ fieldNames ↔ n = "script" ∨ n = "scriptPath" ∨ n = "script_path" := by
  simp [fieldNames, pathNames]

/-! ## Reading a record -/

/-- What the record says under either name of the path. -/
def pathEntry (m : Mapping) : Value := ((get? m "scriptPath").or (get? m "script_path")).getD .null

/-- The record says, field by field, what the mock is. -/
structure Describes (m : Mapping) (k : ServiceMock) : Prop where
  known : ∀ e ∈ m, ∃ n ∈ fieldNames, e.1 = .text n
  oneSpelling : get? m "scriptPath" = none ∨ get? m "script_path" = none
  script : said m "script" = Value.ofText? k.script?
  path : pathEntry m = Value.ofText? k.scriptPath?

theorem entry?_pathNames : Reader.entry? m pathNames =
    ((get? m "scriptPath").map ("scriptPath", ·)).or
      ((get? m "script_path").map ("script_path", ·)) := by
  simp only [pathNames, Reader.entry?]
  cases get? m "scriptPath" <;> cases get? m "script_path" <;> rfl

theorem isUsed_iff {j : Scalar} : isUsed m j = true ↔
    j = .text "script" ∨ ∃ e, Reader.entry? m pathNames = some e ∧ j = .text e.1 := by
  rw [isUsed, Bool.or_eq_true, beq_iff_eq, beq_iff_eq, Option.map_eq_some_iff]
  simp only [eq_comm (b := j)]

/-- No entry is left over exactly if each has the name of a field, and the path one name. -/
theorem extras_eq_nil_iff : extras m = [] ↔ (∀ e ∈ m, ∃ n ∈ fieldNames, e.1 = .text n) ∧
    (get? m "scriptPath" = none ∨ get? m "script_path" = none) := by
  have hused : extras m = [] ↔ ∀ e ∈ m, isUsed m e.1 = true := by
    simp [extras, List.filter_eq_nil_iff]
  rw [hused]
  constructor
  · intro h
    refine ⟨fun e he => ?_, ?_⟩
    · rcases isUsed_iff.1 (h e he) with hkey | ⟨f, hf, hkey⟩
      · exact ⟨_, List.mem_cons_self .., hkey⟩
      · exact ⟨_, List.mem_cons_of_mem _ (Reader.mem_of_entry? hf), hkey⟩
    · -- If both spellings were there, the entry of the second one would be left over.
      by_contra hboth
      obtain ⟨hcamel, hsnake⟩ := not_or.1 hboth
      obtain ⟨u, hu⟩ := Option.ne_none_iff_exists'.1 hcamel
      obtain ⟨e, he, hkey⟩ : ∃ e ∈ m, e.1 = .text "script_path" := by
        by_contra hnone
        exact hsnake (Mapping.get?_eq_none_iff.2 fun e he hkey => hnone ⟨e, he, hkey⟩)
      rcases isUsed_iff.1 (h e he) with hscript | ⟨f, hf, hpath⟩
      · rw [hkey] at hscript
        exact absurd hscript (by decide)
      · rw [entry?_pathNames, hu] at hf
        cases hf
        rw [hkey] at hpath
        exact absurd (Scalar.text.inj hpath) (by simp)
  · rintro ⟨hknown, hone⟩ e he
    obtain ⟨n, hn, hkey⟩ := hknown e he
    have hthere : get? m n ≠ none := fun hnone => Mapping.get?_eq_none_iff.1 hnone e he hkey
    rw [isUsed_iff, hkey, entry?_pathNames]
    rcases mem_fieldNames.1 hn with rfl | rfl | rfl
    · exact Or.inl rfl
    · obtain ⟨u, hu⟩ := Option.ne_none_iff_exists'.1 hthere
      exact Or.inr ⟨("scriptPath", u), by rw [hu]; rfl, rfl⟩
    · obtain ⟨u, hu⟩ := Option.ne_none_iff_exists'.1 hthere
      exact Or.inr ⟨("script_path", u), by rw [hone.resolve_right hthere, hu]; rfl, rfl⟩

theorem field_eq_ok_iff {names : List String} {o : Option String} :
    Reader.field m names (.ok none) (Reader.optional Reader.text) = .ok o ↔
      ((Reader.entry? m names).map (·.2)).getD .null = Value.ofText? o := by
  unfold Reader.field
  cases Reader.entry? m names with
  | none => cases o <;> simp [Value.ofText?]
  | some e => exact Reading.within_eq_ok_iff.trans Reader.optional_text_eq_ok_iff

theorem ofSources_eq_ok_iff {script path : Option String} :
    ofSources script path = .ok k ↔ script = k.script? ∧ path = k.scriptPath? := by
  cases script <;> cases path <;> cases k <;> simp [ofSources, Reading.refuse, script?, scriptPath?]

/-- A record is read as the mock that it describes. -/
theorem read_map_eq_ok_iff : read (.map m) = .ok k ↔ Describes m k := by
  have hscript : ((Reader.entry? m ["script"]).map (·.2)).getD .null = said m "script" := by
    simp only [Reader.entry?, said]
    cases get? m "script" <;> rfl
  have hpath : ((Reader.entry? m pathNames).map (·.2)).getD .null = pathEntry m := by
    rw [entry?_pathNames, pathEntry]
    cases get? m "scriptPath" <;> cases get? m "script_path" <;> rfl
  have hrecord : Reader.record .serviceMock (.map m) = .ok m := rfl
  simp only [read, hrecord, Except.ok_bind]
  constructor
  · intro h
    split at h
    · rename_i s p hfields hextras
      obtain ⟨hs, hp⟩ := Reading.both_eq_ok_iff.1 hfields
      obtain ⟨rfl, rfl⟩ := ofSources_eq_ok_iff.1 h
      obtain ⟨hknown, hone⟩ := extras_eq_nil_iff.1 hextras
      exact ⟨hknown, hone, hscript.symm.trans (field_eq_ok_iff.1 hs),
        hpath.symm.trans (field_eq_ok_iff.1 hp)⟩
    · cases h
  · rintro ⟨hknown, hone, hs, hp⟩
    rw [extras_eq_nil_iff.2 ⟨hknown, hone⟩, field_eq_ok_iff.2 (hscript.trans hs),
      field_eq_ok_iff.2 (hpath.trans hp)]
    exact ofSources_eq_ok_iff.2 ⟨rfl, rfl⟩

/-- Only records are read. -/
theorem read_eq_ok_iff : read v = .ok k ↔ ∃ m, v = .map m ∧ Describes m k := by
  cases v with
  | map m =>
    rw [read_map_eq_ok_iff]
    constructor
    · intro h
      exact ⟨m, rfl, h⟩
    · rintro ⟨_, hm, h⟩
      cases hm
      exact h
  | scalar j => exact ⟨nofun, nofun⟩
  | list items => exact ⟨nofun, nofun⟩

/-! ## The grammar is what is read -/

/-- Of two spellings of the path, one says what the record says of the path, and the other nothing. -/
theorem exists_pathName (h : get? m "scriptPath" = none ∨ get? m "script_path" = none) :
    ∃ used other, (∀ n, n ∈ fieldNames ↔ n = "script" ∨ n = used ∨ n = other) ∧ used ≠ "script" ∧
      said m used = pathEntry m ∧ said m other = .null := by
  rcases h with hcamel | hsnake
  · refine ⟨"script_path", "scriptPath", fun n => ?_, by simp, ?_, ?_⟩
    · rw [mem_fieldNames, or_comm (a := n = "script_path")]
    · simp [said, pathEntry, hcamel]
    · simp [said, hcamel]
  · refine ⟨"scriptPath", "script_path", fun n => mem_fieldNames, by simp, ?_, ?_⟩
    · simp [said, pathEntry, hsnake]
    · simp [said, hsnake]

/-- A record one of whose fields is a text, while the others say nothing, follows the grammar. -/
theorem isRecord_of_source {source t : String} (hknown : ∀ e ∈ m, ∃ n ∈ fieldNames, e.1 = .text n)
    (hone : get? m "scriptPath" = none ∨ get? m "script_path" = none) (hsource : source ∈ fieldNames)
    (htext : said m source = .text t) (hrest : ∀ n ∈ fieldNames, n ≠ source → said m n = .null) :
    IsRecord m where
  known := hknown
  oneSpelling := hone
  texts := by
    intro n hn
    by_cases h : n = source
    · exact Or.inr ⟨t, h ▸ htext⟩
    · exact Or.inl (hrest n hn h)
  oneSource := by
    refine ⟨source, ⟨hsource, by simp [htext]⟩, ?_⟩
    rintro n ⟨hn, hsays⟩
    by_contra h
    exact hsays (hrest n hn h)

/-- A record that describes a mock follows the grammar. -/
theorem Describes.isRecord (h : Describes m k) : IsRecord m := by
  obtain ⟨hknown, hone, hscript, hpath⟩ := h
  obtain ⟨used, other, hnames, hne, hused, hother⟩ := exists_pathName hone
  rw [← hused] at hpath
  cases k with
  | inline t =>
    refine isRecord_of_source hknown hone ((hnames _).2 (Or.inl rfl)) hscript fun n hn hn' => ?_
    rcases (hnames n).1 hn with rfl | rfl | rfl
    · exact absurd rfl hn'
    · exact hpath
    · exact hother
  | file p =>
    refine isRecord_of_source hknown hone ((hnames _).2 (Or.inr (Or.inl rfl))) hpath fun n hn hn' => ?_
    rcases (hnames n).1 hn with rfl | rfl | rfl
    · exact hscript
    · exact absurd rfl hn'
    · exact hother

/-- A record that follows the grammar describes a mock. -/
theorem IsRecord.exists_describes (h : IsRecord m) : ∃ k, Describes m k := by
  obtain ⟨used, other, hnames, hne, hused, hother⟩ := exists_pathName h.oneSpelling
  obtain ⟨source, ⟨hsource, hsays⟩, hunique⟩ := h.oneSource
  obtain ⟨t, ht⟩ := (h.texts source hsource).resolve_left hsays
  have hrest : ∀ n ∈ fieldNames, n ≠ source → said m n = .null := by
    intro n hn hn'
    by_contra hc
    exact hn' (hunique n ⟨hn, hc⟩)
  rcases (hnames source).1 hsource with rfl | rfl | rfl
  · have hpath : said m used = .null := hrest used ((hnames used).2 (Or.inr (Or.inl rfl))) hne
    exact ⟨.inline t, h.known, h.oneSpelling, ht, hused.symm.trans hpath⟩
  · have hscript : said m "script" = .null := hrest "script" ((hnames _).2 (Or.inl rfl)) hne.symm
    exact ⟨.file t, h.known, h.oneSpelling, hscript, hused.symm.trans ht⟩
  · exact absurd hother hsays

theorem isRecord_iff : IsRecord m ↔ ∃ k, Describes m k :=
  ⟨IsRecord.exists_describes, fun ⟨_, h⟩ => h.isRecord⟩

end ServiceMock

/-! ## The other spelling -/

namespace Mapping

/-- The name of the path under its other spelling; every other name stays. -/
def respell (n : String) : String :=
  if n = "scriptPath" then "script_path" else if n = "script_path" then "scriptPath" else n

/-- The mapping with the other spelling of its path. -/
def respelled (m : Mapping) : Mapping :=
  m.map fun e => (match e.1 with
    | .text n => .text (respell n)
    | k => k, e.2)

theorem respell_respell (n : String) : respell (respell n) = n := by
  unfold respell
  split_ifs <;> simp_all

theorem respell_eq_iff {n p : String} : respell n = p ↔ n = respell p := by
  constructor
  · rintro rfl
    exact (respell_respell n).symm
  · rintro rfl
    exact respell_respell p

/-- A name finds in the respelled mapping what its other spelling finds in the mapping. -/
theorem get?_respelled (m : Mapping) (n : String) : get? (respelled m) n = get? m (respell n) := by
  induction m with
  | nil => rfl
  | cons e m ih =>
    obtain ⟨k, v⟩ := e
    rw [respelled, List.map_cons, get?_cons, get?_cons, ← respelled, ih]
    cases k with
    | text p => simp only [Scalar.text.injEq, respell_eq_iff]
    | _ => rfl

end Mapping

namespace ServiceMock

variable {m : Mapping} {k : ServiceMock}

/-- A record and its respelling describe the same mock. -/
theorem Describes.respelled (h : Describes m k) : Describes (Mapping.respelled m) k where
  known := by
    intro e he
    obtain ⟨f, hf, rfl⟩ := List.mem_map.1 he
    obtain ⟨n, hn, hkey⟩ := h.known f hf
    refine ⟨Mapping.respell n, ?_, by rw [hkey]⟩
    rcases mem_fieldNames.1 hn with rfl | rfl | rfl <;> decide
  oneSpelling := by
    rw [Mapping.get?_respelled, Mapping.get?_respelled]
    exact h.oneSpelling.symm
  script := by
    rw [said, Mapping.get?_respelled]
    exact h.script
  path := by
    have hswap : pathEntry (Mapping.respelled m) = pathEntry m := by
      rw [pathEntry, pathEntry, Mapping.get?_respelled, Mapping.get?_respelled]
      rcases h.oneSpelling with hnone | hnone <;> simp [Mapping.respell, hnone]
    exact hswap.trans h.path

end ServiceMock

/-! ## Forms of a mock -/

namespace Mock

/-- Two forms of one mock: the second is the first, or what was read from it, or the record with the other
spelling of its path. -/
inductive Alike : Mock → Mock → Prop
  | same (mock : Mock) : Alike mock mock
  | ready {v : Value} {k : ServiceMock} (h : ServiceMock.read v = .ok k) :
      Alike (.described v) (.ready k)
  | respelled {m : Mapping} {k : ServiceMock} (h : ServiceMock.read (.map m) = .ok k) :
      Alike (.described (.map m)) (.described (.map m.respelled))

variable {mock mock' : Mock}

/-- What says something says something in every form. -/
theorem Alike.isAbsent_eq (h : Alike mock mock') : mock.isAbsent = mock'.isAbsent := by
  cases h with
  | same => rfl
  | ready h =>
    obtain ⟨m, rfl, -⟩ := ServiceMock.read_eq_ok_iff.1 h
    rfl
  | respelled h => rfl

/-- All forms of a mock stand for the same script. -/
theorem Alike.resolve_eq (h : Alike mock mock') (service : Value) :
    mock.resolve service = mock'.resolve service := by
  cases h with
  | same => rfl
  | ready h => simp [resolve, h]
  | respelled h =>
    have hother : ServiceMock.read (.map (Mapping.respelled _)) = .ok _ :=
      ServiceMock.read_map_eq_ok_iff.2 (ServiceMock.read_map_eq_ok_iff.1 h).respelled
    simp [resolve, h, hother]

end Mock

namespace MockTable

/-- The same services in the same order, each with a form of the same mock. -/
def Alike (es es' : List (Scalar × Mock)) : Prop :=
  List.Forall₂ (fun e e' => e.1 = e'.1 ∧ e.2.Alike e'.2) es es'

/-- Tables of like mocks have like mocks of each service, or none. -/
theorem find?_alike {es es' : List (Scalar × Mock)} (h : Alike es es') (service : Scalar) :
    ∃ found found', (entries es).find? service = .ok found ∧ (entries es').find? service = .ok found' ∧
      Option.Rel Mock.Alike found found' := by
  refine ⟨_, _, rfl, rfl, ?_⟩
  induction h with
  | nil => exact .none
  | @cons e e' es es' he hes ih =>
    obtain ⟨hkey, hmock⟩ := he
    rw [List.find?_cons, List.find?_cons, ← hkey]
    cases e.1.same service with
    | true =>
      simp only [Option.map_some, Option.filter_some, ← hmock.isAbsent_eq]
      split
      · exact .some hmock
      · exact .none
    | false => exact ih

end MockTable

namespace Compile

variable {es es' : List (Scalar × Mock)}

/-- A service gets the same worker from any form of its mock, and the same is told of it. -/
theorem serviceWorker_alike (h : MockTable.Alike es es') (base : Option String) (s : Settings) :
    serviceWorker base s (.entries es) = serviceWorker base s (.entries es') := by
  funext service
  obtain ⟨found, found', hfound, hfound', hrel⟩ := MockTable.find?_alike h service
  rw [serviceWorker, serviceWorker, hfound, hfound']
  cases hrel with
  | none => rfl
  | some hmock =>
    rw [Outcome.lift_bind, Outcome.lift_bind]
    simp only [hmock.resolve_eq]

/-- So does a whole descriptor. -/
theorem configuration_alike (h : MockTable.Alike es es') (d : Value) (base : Option String) (s : Settings) :
    configuration d (.entries es) base s = configuration d (.entries es') base s := by
  have hadd : addService base s (.entries es) = addService base s (.entries es') := by
    funext made service
    simp only [addService, serviceWorker_alike h]
  simp only [configuration, withServices, serviceWorkers, hadd]

/-- **The forms of a mock.**  A value is read as a mock exactly if it is a record that follows the grammar.
What was read from a record, and the record with the other spelling of its path, can take its place in a
table of mocks: a compilation comes to the same configuration or fault, and tells the same. -/
theorem mockForms :
    (∀ v, (∃ k, ServiceMock.read v = .ok k) ↔ ∃ m, v = .map m ∧ ServiceMock.IsRecord m) ∧
    ∀ (d : Value) (base : Option String) (s : Settings) (es es' : List (Scalar × Mock)),
      MockTable.Alike es es' →
        configuration d (.entries es) base s = configuration d (.entries es') base s := by
  refine ⟨fun v => ?_, fun d base s es es' h => configuration_alike h d base s⟩
  simp only [ServiceMock.read_eq_ok_iff, ServiceMock.isRecord_iff]
  constructor
  · rintro ⟨k, m, hv, hk⟩
    exact ⟨m, hv, k, hk⟩
  · rintro ⟨m, hv, k, hk⟩
    exact ⟨k, m, hv, hk⟩

/-- An empty script, a path beside a script that says nothing, another path, and nothing. -/
def describedMocks : List (Scalar × Mock) :=
  [(.text "api", .described (Value.record [("script", .text "")])),
   (.text "auth", .described (Value.record [("script_path", .text "a.js"), ("script", .null)])),
   (.text "mail", .described (Value.record [("scriptPath", .text "m.js")])),
   (.text "log", .described .null)]

/-- The same mocks; the first one was read before, and the others are spelled the other way. -/
def mixedMocks : List (Scalar × Mock) :=
  [(.text "api", .ready (.inline "")),
   (.text "auth", .described (Value.record [("scriptPath", .text "a.js"), ("script", .null)])),
   (.text "mail", .described (Value.record [("script_path", .text "m.js")])),
   (.text "log", .described .null)]

/-- Three of the services are mocked, and the fourth gets the default script. -/
theorem configuration_of_mixedMocks :
    let d := Value.record [("services", .list (["api", "auth", "mail", "log"].map fun n =>
      Value.record [("binding", .text n), ("service", .text n)]))]
    MockTable.Alike describedMocks mixedMocks ∧
      configuration d (.entries describedMocks) (some "/base") .standard =
        configuration d (.entries mixedMocks) (some "/base") .standard ∧
      (configuration d (.entries mixedMocks) (some "/base") .standard).notices =
        [.mocked "api", .mocked "auth", .mocked "mail", .defaulted "log"] := by
  intro d
  have hapi : ServiceMock.read (Value.record [("script", .text "")]) = .ok (.inline "") := by rfl
  have hauth : ServiceMock.read (Value.record [("script_path", .text "a.js"), ("script", .null)]) =
      .ok (.file "a.js") := by rfl
  have hmail : ServiceMock.read (Value.record [("scriptPath", .text "m.js")]) = .ok (.file "m.js") := by rfl
  have h : MockTable.Alike describedMocks mixedMocks :=
    .cons ⟨rfl, .ready hapi⟩ <| .cons ⟨rfl, .respelled hauth⟩ <| .cons ⟨rfl, .respelled hmail⟩ <|
      .cons ⟨rfl, .same _⟩ .nil
  exact ⟨h, mockForms.2 d (some "/base") .standard describedMocks mixedMocks h, rfl⟩

end Compile

end EdgeRig
