import EdgeRig.FilePath
import EdgeRig.Proofs.Text

/-!
# Resolved paths

A path is resolved by going along its segments from a working directory, one directory back at every
`..`.  This file says what comes out of that, for paths of any spelling.

* `FilePath.goTo` — one segment further; `FilePath.collapse` goes along all of them, and what it ends
  with holds no `..`, as `FilePath.isSettled_collapse` says.
* `FilePath.segments_ofText`, `FilePath.isAbsolute_ofText_iff` — what a path text is read as.
* `FilePath.isSettled_resolve` — so a resolved path holds none, and neither does its directory.
* `FilePath.parent_join_name` — a resolved path is the last segment of the path that was resolved, seen
  from its directory, unless this segment leads back.
* `FilePath.rebase_text` — a text that is moved below a written directory is the path that it is seen
  from there, or itself where it is anchored; `FilePath.isAbsolute_seenFrom` — and it is absolute if the
  directory is.
-/

namespace EdgeRig

namespace FilePath

/-- The segment that leads back to the directory before. -/
def back : Text.Piece := ['.', '.']

/-- No segment leads back. -/
def IsSettled (ps : List Text.Piece) : Prop := back ∉ ps

instance (ps : List Text.Piece) : Decidable (IsSettled ps) := inferInstanceAs (Decidable (back ∉ ps))

/-- The place that one more segment leads to; there is nothing before the root. -/
def goTo (place : List Text.Piece) (p : Text.Piece) : List Text.Piece :=
  if p = back then place.dropLast else place ++ [p]

theorem collapse_eq (ps : List Text.Piece) : collapse ps = ps.foldl goTo [] := rfl

/-- Segments that do not lead back are gone along one after the other. -/
theorem foldl_goTo_of_isSettled {ps : List Text.Piece} (h : IsSettled ps) (place : List Text.Piece) :
    ps.foldl goTo place = place ++ ps := by
  induction ps generalizing place with
  | nil => exact (List.append_nil place).symm
  | cons p ps ih =>
    rw [IsSettled, List.mem_cons, not_or] at h
    obtain ⟨hp, hps⟩ := h
    have hstep : goTo place p = place ++ [p] := if_neg (Ne.symm hp)
    rw [List.foldl_cons, hstep, ih hps, List.append_assoc, List.singleton_append]

/-- A working directory that does not lead back is where the rest of the way starts. -/
theorem collapse_append {ps : List Text.Piece} (h : IsSettled ps) (qs : List Text.Piece) :
    collapse (ps ++ qs) = qs.foldl goTo ps := by
  rw [collapse_eq, List.foldl_append, foldl_goTo_of_isSettled h, List.nil_append]

/-- One more segment that does not lead back stands at the end. -/
theorem collapse_concat {n : Text.Piece} (hn : n ≠ back) (ps : List Text.Piece) :
    collapse (ps ++ [n]) = collapse ps ++ [n] := by
  rw [collapse_eq, List.foldl_append]
  exact if_neg hn

/-- What a step ends with was there before, or is the segment of the step. -/
theorem mem_goTo {place : List Text.Piece} {p q : Text.Piece} (h : q ∈ goTo place p) :
    q ∈ place ∨ q = p ∧ p ≠ back := by
  unfold goTo at h
  split at h
  · exact Or.inl (List.dropLast_subset _ h)
  · rename_i hp
    exact (List.mem_append.1 h).imp id fun hq => ⟨List.mem_singleton.1 hq, hp⟩

theorem mem_foldl_goTo {ps place : List Text.Piece} {q : Text.Piece} (h : q ∈ ps.foldl goTo place) :
    q ∈ place ∨ q ∈ ps ∧ q ≠ back := by
  induction ps generalizing place with
  | nil => exact Or.inl h
  | cons p ps ih =>
    rcases ih h with hq | ⟨hq, hne⟩
    · refine (mem_goTo hq).imp id ?_
      rintro ⟨rfl, hne⟩
      exact ⟨List.mem_cons_self .., hne⟩
    · exact Or.inr ⟨List.mem_cons_of_mem p hq, hne⟩

/-- **No segment of what comes out leads back.** -/
theorem isSettled_collapse (ps : List Text.Piece) : IsSettled (collapse ps) := by
  intro h
  rcases mem_foldl_goTo h with h | ⟨-, hne⟩
  · exact List.not_mem_nil h
  · exact hne rfl

/-! ## Reading -/

/-- **The segments of a path text** are what stands between its slashes and is neither empty nor the current
directory. -/
theorem segments_ofText (s : List Char) :
    (ofText s).segments = (s.splitOn '/').filter fun p => decide (p ≠ [] ∧ p ≠ ['.']) := by
  rw [← Text.pieces_eq_splitOn]
  refine List.filter_congr fun p hp => ?_
  have hslash := Text.notMem_of_mem_pieces hp
  rw [Bool.eq_iff_iff]
  simp [isSegment, hslash]

/-- The absolute path texts are those that start with a slash. -/
theorem isAbsolute_ofText_iff {s : List Char} :
    (ofText s).isAbsolute = true ↔ s.head? = some '/' := by
  cases s with
  | nil => exact iff_of_false (by decide) nofun
  | cons c s =>
    rw [List.head?_cons, Option.some.injEq]
    by_cases hc : c = '/'
    · have hcount : leadingSlashes (c :: s) = leadingSlashes s + 1 := by
        simp [leadingSlashes, hc]
      refine iff_of_true ?_ hc
      rw [isAbsolute, ofText, hcount, ofSegments]
      rcases leadingSlashes s with _ | _ | n <;> rfl
    · have hcount : leadingSlashes (c :: s) = 0 := by
        simp [leadingSlashes, hc]
      refine iff_of_false ?_ hc
      rw [isAbsolute, ofText, hcount]
      exact Bool.false_ne_true

/-! ## Resolving -/

/-- All segments that come out are proper ones, so none is dropped when the path is made of them. -/
theorem segments_resolve (working p : FilePath) :
    (resolve working p).segments = collapse (join working p).segments := by
  refine List.filter_eq_self.2 fun q hq => ?_
  rcases mem_foldl_goTo hq with hq | ⟨hq, -⟩
  · exact absurd hq List.not_mem_nil
  · exact (join working p).proper q hq

theorem segments_parent (p : FilePath) : p.parent.segments = p.segments.dropLast :=
  List.filter_eq_self.2 fun q hq => p.proper q (List.dropLast_subset _ hq)

theorem isSettled_resolve (working p : FilePath) : IsSettled (resolve working p).segments := by
  rw [segments_resolve]
  exact isSettled_collapse _

theorem isSettled_parent {p : FilePath} (h : IsSettled p.segments) : IsSettled p.parent.segments := by
  rw [segments_parent]
  exact fun hc => h (List.dropLast_subset _ hc)

/-- A proper segment is read as the relative path of this one segment. -/
theorem ofText_segment {q : Text.Piece} (h : isSegment q = true) :
    (ofText q).anchor = .relative ∧ (ofText q).segments = [q] := by
  have hproper : ∀ p ∈ [q], isSegment p = true := fun p hp => by rwa [List.mem_singleton.1 hp]
  have hread : ofText q = ⟨.relative, [q], hproper⟩ := ofText_text ⟨.relative, [q], hproper⟩
  rw [hread]
  exact ⟨rfl, rfl⟩

/-- The name of a path stands at its end, unless the path has no segment. -/
theorem segments_eq_concat_name {p : FilePath} (h : p.name ≠ []) :
    ∃ front, p.segments = front ++ [p.name] := by
  unfold name at h ⊢
  cases hlast : p.segments.getLast? with
  | none =>
    rw [hlast] at h
    exact absurd rfl h
  | some n => exact List.getLast?_eq_some_iff.1 hlast

/-- A relative path continues the base. -/
theorem join_of_isRelative (base : FilePath) {p : FilePath} (h : p.isAbsolute = false) :
    (base.join p).anchor = base.anchor ∧ (base.join p).segments = base.segments ++ p.segments := by
  rw [join, if_neg (Bool.eq_false_iff.1 h)]
  exact ⟨rfl, rfl⟩

/-- Seen from anywhere, a path ends as it is written. -/
theorem exists_segments_join (working : FilePath) {p : FilePath} {front : List Text.Piece}
    {n : Text.Piece} (h : p.segments = front ++ [n]) :
    ∃ before, (working.join p).segments = before ++ [n] := by
  cases ha : p.isAbsolute with
  | true => exact ⟨front, by rw [join, if_pos ha, h]⟩
  | false =>
    refine ⟨working.segments ++ front, ?_⟩
    rw [(join_of_isRelative working ha).2, h, List.append_assoc]

/-- **A resolved path is the last segment, seen from its directory.** -/
theorem parent_join_name (working : FilePath) {p : FilePath} (hne : p.name ≠ [])
    (hback : p.name ≠ back) :
    (resolve working p).parent.join (ofText p.name) = resolve working p := by
  obtain ⟨front, hfront⟩ := segments_eq_concat_name hne
  obtain ⟨hanchor, hsegment⟩ := ofText_segment (p.proper p.name (by rw [hfront]; simp))
  obtain ⟨before, hbefore⟩ := exists_segments_join working hfront
  have hwhole : (resolve working p).segments = collapse before ++ [p.name] := by
    rw [segments_resolve, hbefore, collapse_concat hback]
  have hrel : (ofText p.name).isAbsolute = false := by
    rw [isAbsolute, hanchor]
    rfl
  obtain ⟨ha, hs⟩ := join_of_isRelative (resolve working p).parent hrel
  refine ext_of ha ?_
  rw [hs, segments_parent, hsegment, hwhole, List.dropLast_concat]

/-- A path with an extension has a name, which does not lead back. -/
theorem name_of_extension {p : FilePath} (h : p.extension ≠ []) : p.name ≠ [] ∧ p.name ≠ back := by
  constructor
  · intro hc
    exact h (by rw [extension, hc]; rfl)
  · intro hc
    exact h (by rw [extension, hc]; rfl)

/-! ## Seen from a directory -/

/-- What a path text means in a directory: an anchored text stands for itself, as it is written, and
any other for the path that it continues. -/
def seenFrom (base : FilePath) (t : String) : String :=
  if (ofText t.toList).isAbsolute then t else String.ofList (base.join (ofText t.toList)).text

/-- Below a directory that is given by its text, a path text means the same. -/
theorem rebase_text (base : FilePath) (t : String) :
    rebase t (String.ofList base.text) = base.seenFrom t := by
  unfold rebase seenFrom
  rw [String.toList_ofList, ofText_text]

/-- **What is seen from an absolute directory is absolute.** -/
theorem isAbsolute_seenFrom {base : FilePath} (h : base.isAbsolute = true) (t : String) :
    (ofText (base.seenFrom t).toList).isAbsolute = true := by
  unfold seenFrom
  split
  · rename_i ht
    exact ht
  · rename_i ht
    rw [String.toList_ofList, ofText_text, join, if_neg ht]
    exact h

end FilePath

end EdgeRig
