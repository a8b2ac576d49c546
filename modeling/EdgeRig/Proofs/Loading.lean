import EdgeRig.Loading
import EdgeRig.Proofs.FilePath
import EdgeRig.Proofs.Outcome

/-!
# How loading a descriptor ends

The name of a descriptor file is looked at first; then its bytes are read, turned into text, and the
text is parsed.  Loading may stop at each of these stages.

* `FileTree.stands_of_read` — the file that is read stands at the resolved path.
* `Loading.Course` — one constructor for each stage at which loading can stop;
  `Loading.course_load` says that there is no other.
* `Loading.load_eq_ok_iff` — what is loaded is what the text of the file describes.
* `Loading.Surfaces` — loading ends as callers are told, with a mapping or with a parse failure that
  names the file.
* `Loading.surfaces_iff_of_read` — a file of a known format that can be read surfaces so exactly when
  its bytes are text; if they are not, the fault is no descriptor failure.
* `Loading.isHome_of_load` — the directory of a descriptor that was loaded and the last segment of its
  path lead to the file that was read.
-/

namespace EdgeRig

/-! ## Reading files -/

namespace FileTree

open FilePath

variable {t : FileTree}

/-- A way that can be gone to its end leads where its segments say. -/
theorem walk_ok {place place' ps : List Text.Piece} (h : t.walk place ps = .ok place') :
    place' = ps.foldl goTo place := by
  induction ps generalizing place with
  | nil => exact (Except.ok.inj h).symm
  | cons p ps ih =>
    unfold walk at h
    split at h
    · cases h
    · cases h
    · split at h
      · cases h
      · exact ih h

/-- A file is read at the place that its path leads to. -/
theorem read_ok {p : FilePath} {bytes : ByteArray} (h : t.read p = .ok bytes) :
    ∃ place, t.walk (t.start p) p.segments = .ok place ∧ t.entry? place = some (.file bytes) := by
  unfold read at h
  split at h
  · cases h
  · split at h
    · cases h
    · obtain ⟨place, hwalk, h⟩ := Except.bind_eq_ok_iff.1 h
      refine ⟨place, hwalk, ?_⟩
      split at h
      · cases h
      · cases h
      · rename_i hentry
        cases h
        exact hentry

/-- From a working directory without `..`, every way leads to the resolved path. -/
theorem foldl_goTo_start (hw : IsSettled t.working.segments) (p : FilePath) :
    p.segments.foldl goTo (t.start p) = (resolve t.working p).segments := by
  rw [segments_resolve]
  cases ha : p.isAbsolute with
  | true => rw [start, if_pos ha, join, if_pos ha, collapse_eq]
  | false =>
    rw [(join_of_isRelative t.working ha).2, collapse_append hw, start,
      if_neg (Bool.eq_false_iff.1 ha)]

/-- **The file that is read stands at the resolved path**, and the way there is what the path says. -/
theorem stands_of_read (hw : IsSettled t.working.segments) {p : FilePath} {bytes : ByteArray}
    (h : t.read p = .ok bytes) :
    t.walk (t.start p) p.segments = .ok (resolve t.working p).segments ∧
      t.entry? (resolve t.working p).segments = some (.file bytes) := by
  obtain ⟨place, hwalk, hentry⟩ := read_ok h
  have hplace : place = (resolve t.working p).segments :=
    (walk_ok hwalk).trans (foldl_goTo_start hw p)
  exact ⟨hplace ▸ hwalk, hplace ▸ hentry⟩

end FileTree

/-! ## The stages of loading -/

namespace Loading

variable {files : FileTree} {path : FilePath}

/-- The ways that loading a descriptor can go. -/
inductive Course (files : FileTree) (path : FilePath) : Except Fault Mapping → Prop where
  /-- The name of the file says nothing about its format. -/
  | unknown (hf : DescriptorFormat.ofExtension? path.extension = none) :
      Course files path (.error (.failure (.unknownExtension path.extension path)))
  /-- The file cannot be read. -/
  | unread {f : DescriptorFormat} {fault : Fault}
      (hf : DescriptorFormat.ofExtension? path.extension = some f)
      (hr : files.read path = .error fault) : Course files path (.error fault)
  /-- The bytes are no text. -/
  | undecoded {f : DescriptorFormat} {bytes : ByteArray}
      (hf : DescriptorFormat.ofExtension? path.extension = some f)
      (hr : files.read path = .ok bytes) (hs : String.fromUTF8? bytes = none) :
      Course files path (.error .notUtf8)
  /-- The text does not follow the grammar of the format. -/
  | unparsed {f : DescriptorFormat} {bytes : ByteArray} {s : String}
      (hf : DescriptorFormat.ofExtension? path.extension = some f)
      (hr : files.read path = .ok bytes) (hs : String.fromUTF8? bytes = some s)
      (hp : f.parse (Text.unifyLines s.toList) = none) :
      Course files path (.error (.failure (.unparsable path)))
  /-- The text describes something else than a table. -/
  | untabled {f : DescriptorFormat} {bytes : ByteArray} {s : String} {v : Value}
      (hf : DescriptorFormat.ofExtension? path.extension = some f)
      (hr : files.read path = .ok bytes) (hs : String.fromUTF8? bytes = some s)
      (hp : f.parse (Text.unifyLines s.toList) = some v) (hv : ∀ m, v ≠ .map m) :
      Course files path (.error (.failure (.notTable path)))
  /-- Nothing fails. -/
  | loaded {f : DescriptorFormat} {bytes : ByteArray} {s : String} {m : Mapping}
      (hf : DescriptorFormat.ofExtension? path.extension = some f)
      (hr : files.read path = .ok bytes) (hs : String.fromUTF8? bytes = some s)
      (hp : f.parse (Text.unifyLines s.toList) = some (.map m)) : Course files path (.ok m)

/-- **There is no other course.** -/
theorem course_load (files : FileTree) (path : FilePath) : Course files path (load files path) := by
  unfold load formatOf
  split
  · rename_i f hf
    rw [Except.ok_bind]
    cases hr : files.read path with
    | error fault => exact .unread hf hr
    | ok bytes =>
      rw [Except.ok_bind, decode]
      split
      · rename_i s hs
        rw [Except.ok_bind, interpret]
        split
        · rename_i hp
          exact .unparsed hf hr hs hp
        · rename_i m hp
          exact .loaded hf hr hs hp
        · rename_i v hv hp
          exact .untabled hf hr hs hp hv
      · rename_i hs
        exact .undecoded hf hr hs
  · rename_i hf
    exact .unknown hf

/-- **What is loaded** is what the text of the file describes, in the format of its name. -/
theorem load_eq_ok_iff {m : Mapping} : load files path = .ok m ↔
    ∃ f bytes s, DescriptorFormat.ofExtension? path.extension = some f ∧
      files.read path = .ok bytes ∧ String.fromUTF8? bytes = some s ∧
      f.parse (Text.unifyLines s.toList) = some (.map m) := by
  constructor
  · intro h
    have hcourse := course_load files path
    rw [h] at hcourse
    cases hcourse with
    | loaded hf hr hs hp => exact ⟨_, _, _, hf, hr, hs, hp⟩
  · rintro ⟨f, bytes, s, hf, hr, hs, hp⟩
    simp only [load, formatOf, hf, hr, decode, hs, interpret, hp, Except.ok_bind]

/-! ## What callers see -/

/-- Loading ends as callers are told: with a mapping, or with a parse failure that names the file. -/
def Surfaces (path : FilePath) (x : Except Fault Mapping) : Prop :=
  (∃ m, x = .ok m) ∨ ∃ text, x = .error (.failure (.descriptor .parse text (some path)))

theorem not_surfaces_notUtf8 (path : FilePath) : ¬ Surfaces path (.error .notUtf8) := by
  rintro (⟨m, h⟩ | ⟨text, h⟩) <;> cases h

/-- Whatever a text is, parsing it and looking for a table surfaces. -/
theorem surfaces_interpret (path : FilePath) (f : DescriptorFormat) (s : List Char) :
    Surfaces path (interpret path f s) := by
  unfold interpret
  split
  · exact Or.inr ⟨_, rfl⟩
  · exact Or.inl ⟨_, rfl⟩
  · exact Or.inr ⟨_, rfl⟩

/-- The extensions of descriptor files. -/
def extensions : List (List Char) := [".toml".toList, ".jsonc".toList]

theorem exists_format {extension : List Char} (h : extension ∈ extensions) :
    ∃ f, DescriptorFormat.ofExtension? extension = some f := by
  simp only [extensions, List.mem_cons, List.not_mem_nil, or_false] at h
  rcases h with rfl | rfl
  · exact ⟨.table, rfl⟩
  · exact ⟨.object, rfl⟩

/-- **How a descriptor file surfaces.**  Take a file that can be read and whose name ends as those of
descriptor files do.  If its bytes are text, loading returns the mapping that the text describes, or
fails with a parse failure that names the file.  If they are not, loading ends in a fault that is no
failure of the rig, and this is the only way for it to do so. -/
theorem surfaces_iff_of_read {bytes : ByteArray} (he : path.extension ∈ extensions)
    (hr : files.read path = .ok bytes) :
    (Surfaces path (load files path) ↔ ∃ s, String.fromUTF8? bytes = some s) ∧
      (String.fromUTF8? bytes = none → load files path = .error .notUtf8) ∧
      ∃ f, DescriptorFormat.ofExtension? path.extension = some f ∧
        ∀ m, load files path = .ok m ↔ ∃ s, String.fromUTF8? bytes = some s ∧
          f.parse (Text.unifyLines s.toList) = some (.map m) := by
  obtain ⟨f, hf⟩ := exists_format he
  have hload : load files path = decode bytes >>= interpret path f := by
    rw [load, formatOf, hf, Except.ok_bind, hr, Except.ok_bind]
  refine ⟨?_, fun hs => ?_, f, hf, fun m => ?_⟩
  · rw [hload, decode]
    cases hs : String.fromUTF8? bytes with
    | none => simpa [Except.error_bind] using not_surfaces_notUtf8 path
    | some s => simpa [Except.ok_bind] using surfaces_interpret path f _
  · rw [hload, decode, hs, Except.error_bind]
  · rw [load_eq_ok_iff]
    constructor
    · rintro ⟨f', bytes', s, hf', hr', hs, hp⟩
      cases hf.symm.trans hf'
      cases hr.symm.trans hr'
      exact ⟨s, hs, hp⟩
    · rintro ⟨s, hs, hp⟩
      exact ⟨f, bytes, s, hf, hr, hs, hp⟩

/-- A directory that holds one file. -/
def treeOf (bytes : ByteArray) : FileTree :=
  ⟨FilePath.ofText "/srv".toList, [(["srv".toList, "w.toml".toList], .file bytes)]⟩

/-- The path of this file, seen from its directory. -/
def tablePath : FilePath := FilePath.ofText "w.toml".toList

theorem surfaces_of_shortTable :
    tablePath.extension ∈ extensions ∧
      (treeOf "port = 1".toUTF8).read tablePath = .ok "port = 1".toUTF8 ∧
      Surfaces tablePath (load (treeOf "port = 1".toUTF8) tablePath) ∧
      load (treeOf "port = 1".toUTF8) tablePath = .ok [(.text "port", .int 1)] := by
  have he : tablePath.extension ∈ extensions := by decide
  have hr : (treeOf "port = 1".toUTF8).read tablePath = .ok "port = 1".toUTF8 := rfl
  have hs : String.fromUTF8? "port = 1".toUTF8 = some "port = 1" := by decide +kernel
  obtain ⟨hsurfaces, -, f, hf, hload⟩ := surfaces_iff_of_read he hr
  cases hf
  exact ⟨he, hr, hsurfaces.2 ⟨_, hs⟩, (hload _).2 ⟨_, hs, by decide +kernel⟩⟩

/-- One byte that starts no character. -/
def strayByte : ByteArray := ⟨#[0xff]⟩

/-- **A file that is no text does not surface.** -/
theorem not_surfaces_of_strayByte :
    tablePath.extension ∈ extensions ∧ (treeOf strayByte).read tablePath = .ok strayByte ∧
      load (treeOf strayByte) tablePath = .error .notUtf8 ∧
      ¬ Surfaces tablePath (load (treeOf strayByte) tablePath) := by
  have hload : load (treeOf strayByte) tablePath = .error .notUtf8 := rfl
  refine ⟨by decide, rfl, hload, ?_⟩
  rw [hload]
  exact not_surfaces_notUtf8 tablePath

/-! ## The directory of a descriptor -/

/-- The directory that a descriptor file at a path is in: going on by the name of the file leads to the
very file that is read. -/
structure IsHome (files : FileTree) (path base : FilePath) : Prop where
  absolute : base.isAbsolute = true
  plain : ∀ q ∈ base.segments, q ≠ ['.'] ∧ q ≠ ['.', '.']
  joined : base.join (.ofText path.name) = FilePath.resolve files.working path
  walked : files.walk (files.start path) path.segments =
    .ok (base.join (.ofText path.name)).segments
  read : ∃ bytes, files.read path = .ok bytes ∧
    files.entry? (base.join (.ofText path.name)).segments = some (.file bytes)

/-- What was loaded was read, from a file whose name has an extension. -/
theorem read_of_load {m : Mapping} (h : load files path = .ok m) :
    path.extension ≠ [] ∧ ∃ bytes, files.read path = .ok bytes := by
  obtain ⟨f, bytes, s, hf, hr, -, -⟩ := load_eq_ok_iff.1 h
  refine ⟨fun hc => ?_, bytes, hr⟩
  rw [hc] at hf
  cases hf

/-- **The directory of a descriptor.**  A descriptor that was loaded, whatever the spelling of its path,
is in the directory that its relative paths are seen from. -/
theorem isHome_of_load (hw : FilePath.IsSettled files.working.segments) {m : Mapping}
    (h : load files path = .ok m) : IsHome files path (baseDirectory files path) := by
  obtain ⟨hext, bytes, hr⟩ := read_of_load h
  obtain ⟨hname, hback⟩ := FilePath.name_of_extension hext
  have hjoin : (baseDirectory files path).join (.ofText path.name) =
      FilePath.resolve files.working path := FilePath.parent_join_name files.working hname hback
  obtain ⟨hwalk, hentry⟩ := FileTree.stands_of_read hw hr
  have hsettled : FilePath.IsSettled (baseDirectory files path).segments :=
    FilePath.isSettled_parent (FilePath.isSettled_resolve files.working path)
  constructor
  · rfl
  · intro q hq
    constructor
    · rintro rfl
      exact absurd ((baseDirectory files path).proper _ hq) (by decide)
    · rintro rfl
      exact hsettled hq
  · exact hjoin
  · rwa [hjoin]
  · exact ⟨bytes, hr, by rwa [hjoin]⟩

end Loading

end EdgeRig
