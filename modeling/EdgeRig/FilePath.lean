import EdgeRig.Text.Pieces

/-!
# File paths

A path text is read as an anchor and a list of segments; empty segments and `.` are dropped and
`..` is kept.  The type holds only proper segments, so a path and its text determine each other:
`ofText_text` says that a written path reads back as itself.

* `FilePath.join` appends a relative path and lets an anchored one win.
* `FilePath.rebase` joins path texts; an anchored text is left exactly as it was written.
* `FilePath.extension` is the end of the last segment, from its last dot on.
* `FilePath.resolve` makes a path absolute and works off every `..`.
-/

namespace EdgeRig

/-- Where a path starts.  Two leading slashes name a place of their own; any other number of them
is the root. -/
inductive Anchor where
  | relative
  | root
  | share
  deriving DecidableEq, Repr

namespace Anchor

/-- The anchor named by a number of leading slashes. -/
def ofCount : Nat → Anchor
  | 0 => relative
  | 2 => share
  | _ => root

def text : Anchor → List Char
  | relative => []
  | root => ['/']
  | share => ['/', '/']

end Anchor

/-- A segment that is kept: it is not empty, not the current directory, and holds no slash. -/
def isSegment (p : Text.Piece) : Bool := !(p == []) && !(p == ['.']) && !p.contains '/'

/-- A file path. -/
structure FilePath where
  anchor : Anchor
  segments : List Text.Piece
  proper : ∀ p ∈ segments, isSegment p = true
  deriving DecidableEq

namespace FilePath

/-- A path made of the proper segments among the given ones. -/
def ofSegments (anchor : Anchor) (ps : List Text.Piece) : FilePath where
  anchor := anchor
  segments := ps.filter isSegment
  proper := fun _ hp => (List.mem_filter.1 hp).2

/-- The number of slashes at the start of a text. -/
def leadingSlashes (s : List Char) : Nat := (s.takeWhile (· == '/')).length

/-- Read a path text. -/
def ofText (s : List Char) : FilePath :=
  ofSegments (Anchor.ofCount (leadingSlashes s)) (Text.pieces '/' s)

/-- Write a path; a relative path without segments is the current directory. -/
def text (p : FilePath) : List Char :=
  if p.anchor = .relative ∧ p.segments = [] then ['.']
  else p.anchor.text ++ Text.glue '/' p.segments

def isAbsolute (p : FilePath) : Bool := p.anchor != .relative

/-- A relative path continues the base; an anchored path replaces it. -/
def join (base p : FilePath) : FilePath :=
  if p.isAbsolute then p
  else
    { anchor := base.anchor
      segments := base.segments ++ p.segments
      proper := fun q hq => (List.mem_append.1 hq).elim (base.proper q) (p.proper q) }

/-- The last segment, empty when there is none. -/
def name (p : FilePath) : Text.Piece := p.segments.getLast?.getD []

/-- The end of a file name from its last dot on, when text stands on both sides of that dot. -/
def extensionOf (file : Text.Piece) : List Char :=
  match Text.cutLast '.' file with
  | (some (_ :: _), c :: tail) => '.' :: c :: tail
  | _ => []

def extension (p : FilePath) : List Char := extensionOf p.name

/-- Work off every `..` by dropping the segment before it; the root has no parent. -/
def collapse (ps : List Text.Piece) : List Text.Piece :=
  ps.foldl (fun front p => if p = ['.', '.'] then front.dropLast else front ++ [p]) []

/-- The absolute path that a path names, seen from a working directory. -/
def resolve (working p : FilePath) : FilePath :=
  ofSegments .root (collapse (join working p).segments)

/-- The directory of a path. -/
def parent (p : FilePath) : FilePath := ofSegments p.anchor p.segments.dropLast

/-- Seen from a base, a relative path text is continued and normalised; an anchored one is left
as it is written. -/
def rebase (path base : String) : String :=
  let p := ofText path.toList
  if p.isAbsolute then path else String.ofList (join (ofText base.toList) p).text

/-! ## Laws -/

theorem ext_of {p q : FilePath} (ha : p.anchor = q.anchor) (hs : p.segments = q.segments) :
    p = q := by
  cases p; cases q; simp_all

/-- The glued segments of a path start with no slash. -/
theorem leadingSlashes_glue (ps : List Text.Piece) (h : ∀ p ∈ ps, isSegment p = true) :
    leadingSlashes (Text.glue '/' ps) = 0 := by
  cases ps with
  | nil => rfl
  | cons p rest =>
    have hp := h p (by simp)
    cases p with
    | nil => simp [isSegment] at hp
    | cons c cs =>
      have hc : c ≠ '/' := by
        intro e
        simp [isSegment, e] at hp
      cases rest <;> simp [Text.glue, leadingSlashes, hc]

/-- Cutting glued segments gives them back, up to one empty piece where there are none. -/
theorem filter_pieces_glue (ps : List Text.Piece) (h : ∀ p ∈ ps, isSegment p = true) :
    (Text.pieces '/' (Text.glue '/' ps)).filter isSegment = ps := by
  by_cases hne : ps = []
  · subst hne; rfl
  · rw [Text.pieces_glue hne]
    · exact List.filter_eq_self.2 h
    · intro p hp
      have := h p hp
      simp [isSegment] at this
      exact this.2

/-- A written path reads back as itself. -/
theorem ofText_text (p : FilePath) : ofText p.text = p := by
  obtain ⟨a, ps, h⟩ := p
  apply ext_of
  · cases a with
    | relative =>
      by_cases hps : ps = []
      · subst hps; rfl
      · simp only [text, hps, and_false, if_false, ofText, ofSegments, Anchor.text,
          List.nil_append, leadingSlashes_glue ps h, Anchor.ofCount]
    | root =>
      have := leadingSlashes_glue ps h
      simp only [leadingSlashes] at this
      simp [text, ofText, ofSegments, Anchor.text, leadingSlashes, this, Anchor.ofCount]
    | share =>
      have := leadingSlashes_glue ps h
      simp only [leadingSlashes] at this
      simp [text, ofText, ofSegments, Anchor.text, leadingSlashes, this, Anchor.ofCount]
  · cases a with
    | relative =>
      by_cases hps : ps = []
      · subst hps; rfl
      · simpa [text, hps, ofText, ofSegments, Anchor.text] using filter_pieces_glue ps h
    | root =>
      simpa [text, ofText, ofSegments, Anchor.text, Text.pieces, isSegment] using
        filter_pieces_glue ps h
    | share =>
      simpa [text, ofText, ofSegments, Anchor.text, Text.pieces, isSegment] using
        filter_pieces_glue ps h

end FilePath

end EdgeRig
