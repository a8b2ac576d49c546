import EdgeRig.Proofs.Loading
import EdgeRig.Proofs.Text

/-!
# The names of descriptor files

Which format a file is in is told by its name alone, before anything is read.  This file says which path
texts name a format, and that all others are refused as they are, whatever the files are.

* `FilePath.lastSegment` — the last segment of a path text, said without reading the text as a path;
  `FilePath.name_ofText` says that it is the name of the path.
* `FilePath.extensionOf_eq_iff` — a name has an extension exactly when something stands before it.
* `Loading.NamesFormat` — a path text ends in a name with one of the two extensions.
* `FileTree.read_ne_failure` — reading a file ends in no failure of the rig.
* `Loading.formatFailure_iff` — the path texts that are refused for their extension.
-/

namespace EdgeRig

/-! ## Names -/

namespace FilePath

/-- The last segment of a path text that is neither empty nor the current directory; empty when there is
none. -/
def lastSegment (s : List Char) : List Char :=
  ((s.splitOn '/').filter fun p => decide (p ≠ [] ∧ p ≠ ['.'])).getLast?.getD []

theorem name_ofText (s : List Char) : (ofText s).name = lastSegment s := by
  rw [name, segments_ofText, lastSegment]

/-- **A name has an extension** exactly when something stands before it. -/
theorem extensionOf_eq_iff {file ending : List Char} (hdot : '.' ∉ ending) (hne : ending ≠ []) :
    extensionOf file = '.' :: ending ↔ ∃ stem, stem ≠ [] ∧ file = stem ++ '.' :: ending := by
  constructor
  · intro h
    unfold extensionOf at h
    rcases Text.cutLast_cases '.' file with ⟨-, hcut⟩ | ⟨front, tail, rfl, -, hcut⟩
    · rw [hcut] at h
      cases h
    · rw [hcut] at h
      cases front with
      | nil => cases h
      | cons a front =>
        cases tail with
        | nil => cases h
        | cons c tail => exact ⟨a :: front, List.cons_ne_nil a front, by rw [← h]⟩
  · rintro ⟨stem, hstem, rfl⟩
    obtain ⟨a, stem, rfl⟩ := List.exists_cons_of_ne_nil hstem
    obtain ⟨c, ending, rfl⟩ := List.exists_cons_of_ne_nil hne
    rw [extensionOf, Text.cutLast_append hdot]

end FilePath

/-! ## Failures of reading -/

namespace FileTree

/-- Following a path ends in no failure of the rig. -/
theorem walk_ne_failure (t : FileTree) (place ps : List Text.Piece) (f : Failure) :
    t.walk place ps ≠ .error (.failure f) := by
  induction ps generalizing place with
  | nil => nofun
  | cons p ps ih =>
    unfold walk
    split
    · nofun
    · nofun
    · split
      · nofun
      · exact ih _

/-- **Reading a file ends in no failure of the rig.** -/
theorem read_ne_failure (t : FileTree) (p : FilePath) (f : Failure) :
    t.read p ≠ .error (.failure f) := by
  unfold read
  split
  · nofun
  · split
    · nofun
    · intro h
      rcases Except.bind_eq_error_iff.1 h with hwalk | ⟨place, -, hentry⟩
      · exact walk_ne_failure t _ _ f hwalk
      · split at hentry <;> cases hentry

end FileTree

/-! ## Formats -/

namespace Loading

/-- The last segment of the path text is one of the two extensions with something before it. -/
def NamesFormat (path : String) : Prop :=
  ∃ stem, stem ≠ [] ∧
    (FilePath.lastSegment path.toList = stem ++ ".toml".toList ∨
      FilePath.lastSegment path.toList = stem ++ ".jsonc".toList)

/-- Loading failed because of the extension. -/
def IsFormatFailure (x : Except Fault Mapping) : Prop :=
  ∃ text path, x = .error (.failure (.descriptor .format text path))

/-- **The extensions that stand for a format.** -/
theorem ofExtension?_eq_some_iff {extension : List Char} :
    (∃ f, DescriptorFormat.ofExtension? extension = some f) ↔ extension ∈ extensions := by
  refine ⟨?_, exists_format⟩
  rintro ⟨f, hf⟩
  unfold DescriptorFormat.ofExtension? at hf
  split at hf
  · rename_i htable
    rw [htable]
    exact List.mem_cons_self ..
  · split at hf
    · rename_i hobject
      rw [hobject]
      exact List.mem_cons_of_mem _ (List.mem_cons_self ..)
    · cases hf

/-- A path text names a format exactly when its extension stands for one. -/
theorem namesFormat_iff {path : String} :
    NamesFormat path ↔ (FilePath.ofText path.toList).extension ∈ extensions := by
  have htable := @FilePath.extensionOf_eq_iff (FilePath.lastSegment path.toList) "toml".toList
    (by decide) (by decide)
  have hobject := @FilePath.extensionOf_eq_iff (FilePath.lastSegment path.toList) "jsonc".toList
    (by decide) (by decide)
  rw [FilePath.extension, FilePath.name_ofText, extensions, List.mem_cons, List.mem_singleton]
  show _ ↔ _ = '.' :: "toml".toList ∨ _ = '.' :: "jsonc".toList
  rw [htable, hobject]
  constructor
  · rintro ⟨stem, hstem, h | h⟩
    · exact Or.inl ⟨stem, hstem, h⟩
    · exact Or.inr ⟨stem, hstem, h⟩
  · rintro (⟨stem, hstem, h⟩ | ⟨stem, hstem, h⟩)
    · exact ⟨stem, hstem, Or.inl h⟩
    · exact ⟨stem, hstem, Or.inr h⟩

instance (path : String) : Decidable (NamesFormat path) := decidable_of_iff _ namesFormat_iff.symm

/-- A path without a format is refused before anything is read. -/
theorem load_of_not_namesFormat {path : String} (h : ¬ NamesFormat path) (files : FileTree) :
    load files (.ofText path.toList) = .error (.failure
      (.unknownExtension (FilePath.ofText path.toList).extension (.ofText path.toList))) := by
  have hnone : DescriptorFormat.ofExtension? (FilePath.ofText path.toList).extension = none := by
    cases hf : DescriptorFormat.ofExtension? (FilePath.ofText path.toList).extension with
    | none => rfl
    | some f => exact absurd (namesFormat_iff.2 (ofExtension?_eq_some_iff.1 ⟨f, hf⟩)) h
  rw [load, formatOf, hnone]
  rfl

/-- **Which path texts are refused for their extension.**  Whatever the files are, loading fails because
of the extension exactly when the last segment of the path text is not a name followed by one of the two
extensions.  How it fails then depends on the path text alone: no file is looked at. -/
theorem formatFailure_iff (path : String) (files : FileTree) :
    (IsFormatFailure (load files (.ofText path.toList)) ↔ ¬ NamesFormat path) ∧
      (¬ NamesFormat path → ∀ files' : FileTree,
        load files' (.ofText path.toList) = load files (.ofText path.toList)) := by
  refine ⟨⟨?_, fun h => ?_⟩, fun h files' => ?_⟩
  · rintro ⟨text, p, hfail⟩ hnames
    have hcourse := course_load files (.ofText path.toList)
    rw [hfail] at hcourse
    cases hcourse with
    | unknown hf =>
      obtain ⟨f, hf'⟩ := ofExtension?_eq_some_iff.2 (namesFormat_iff.1 hnames)
      cases hf.symm.trans hf'
    | unread _ hr => exact FileTree.read_ne_failure _ _ _ hr
  · exact ⟨_, _, load_of_not_namesFormat h files⟩
  · rw [load_of_not_namesFormat h, load_of_not_namesFormat h]

/-- A hidden file is refused although it is there, and its name is all of an extension; one more dot in
front of it would be a stem. -/
theorem formatFailure_of_hiddenTable :
    ¬ NamesFormat "../srv/.toml/./" ∧ NamesFormat "../srv/..toml//" ∧
      IsFormatFailure (load (treeOf strayByte) (.ofText "../srv/.toml/./".toList)) ∧
      ¬ IsFormatFailure (load (treeOf strayByte) (.ofText "../srv/..toml//".toList)) ∧
      load (treeOf "port = 1".toUTF8) (.ofText "../srv/.toml/./".toList) =
        load (treeOf strayByte) (.ofText "../srv/.toml/./".toList) := by
  have hhidden : ¬ NamesFormat "../srv/.toml/./" := by decide +kernel
  have hnamed : NamesFormat "../srv/..toml//" := by decide +kernel
  obtain ⟨hrefused, hsame⟩ := formatFailure_iff "../srv/.toml/./" (treeOf strayByte)
  obtain ⟨hloaded, -⟩ := formatFailure_iff "../srv/..toml//" (treeOf strayByte)
  exact ⟨hhidden, hnamed, hrefused.2 hhidden, fun hc => hloaded.1 hc hnamed, hsame hhidden _⟩

end Loading

end EdgeRig
