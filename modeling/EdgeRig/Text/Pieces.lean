/-!
# Cutting text at a separator

Dotted names, file paths and URL paths are all texts cut at one character.  Text is handled as
a list of characters here; `String` stays at the edges.

* `Text.pieces sep s` cuts `s` at every `sep` and keeps empty pieces, so the result is never
  empty and holds one piece more than `s` has separators.
* `Text.glue sep ps` puts the separator between the pieces; `glue_pieces` says that gluing undoes
  cutting, `pieces_glue` that cutting undoes gluing when no piece holds the separator.
-/

namespace EdgeRig

namespace Text

/-- A stretch of text between two separators. -/
abbrev Piece := List Char

/-- Cut at every separator, keeping empty pieces. -/
def pieces (sep : Char) : List Char → List Piece
  | [] => [[]]
  | c :: rest =>
      if c = sep then [] :: pieces sep rest
      else
        match pieces sep rest with
        | [] => [[c]]
        | p :: ps => (c :: p) :: ps

/-- Put the separator between the pieces. -/
def glue (sep : Char) : List Piece → List Char
  | [] => []
  | [p] => p
  | p :: q :: ps => p ++ sep :: glue sep (q :: ps)

/-- Cut at the first separator: the text before it and, if there is one, the text after it. -/
def cut (sep : Char) : List Char → List Char × Option (List Char)
  | [] => ([], none)
  | c :: rest =>
      if c = sep then ([], some rest)
      else
        let p := cut sep rest
        (c :: p.1, p.2)

/-- Cut at the last separator: the text before it, if there is one, and the text after it. -/
def cutLast (sep : Char) (s : List Char) : Option (List Char) × List Char :=
  match cut sep s.reverse with
  | (tail, none) => (none, tail.reverse)
  | (tail, some front) => (some front.reverse, tail.reverse)

/-- The text after `front`, when the text starts with it. -/
def after? : (front s : List Char) → Option (List Char)
  | [], s => some s
  | _ :: _, [] => none
  | a :: front, b :: s => if a = b then after? front s else none

/-! ## Laws -/

theorem pieces_ne_nil (sep : Char) (s : List Char) : pieces sep s ≠ [] := by
  induction s with
  | nil => simp [pieces]
  | cons c rest ih =>
    unfold pieces
    split
    · simp
    · split <;> simp

/-- Gluing undoes cutting. -/
theorem glue_pieces (sep : Char) (s : List Char) : glue sep (pieces sep s) = s := by
  induction s with
  | nil => rfl
  | cons c rest ih =>
    unfold pieces
    cases h : pieces sep rest with
    | nil => exact absurd h (pieces_ne_nil sep rest)
    | cons p ps =>
      rw [h] at ih
      split
      · next hc => simp [glue, ih, hc]
      · cases ps <;> simp_all [glue]

theorem pieces_of_not_mem {sep : Char} {s : List Char} (h : sep ∉ s) : pieces sep s = [s] := by
  induction s with
  | nil => rfl
  | cons c rest ih =>
    have hc : c ≠ sep := fun e => h (by simp [e])
    have hr : sep ∉ rest := fun e => h (by simp [e])
    simp [pieces, hc, ih hr]

theorem pieces_append_sep {sep : Char} {p : Piece} (h : sep ∉ p) (s : List Char) :
    pieces sep (p ++ sep :: s) = p :: pieces sep s := by
  induction p with
  | nil => simp [pieces]
  | cons c rest ih =>
    have hc : c ≠ sep := fun e => h (by simp [e])
    have hr : sep ∉ rest := fun e => h (by simp [e])
    simp [pieces, hc, ih hr]

/-- Cutting undoes gluing, for pieces that do not hold the separator. -/
theorem pieces_glue {sep : Char} {ps : List Piece} (hne : ps ≠ []) (h : ∀ p ∈ ps, sep ∉ p) :
    pieces sep (glue sep ps) = ps := by
  induction ps with
  | nil => exact absurd rfl hne
  | cons p rest ih =>
    cases rest with
    | nil => simpa [glue] using pieces_of_not_mem (h p (by simp))
    | cons q qs =>
      have hq : ∀ r ∈ q :: qs, sep ∉ r := fun r hr => h r (by simp [hr])
      rw [glue, pieces_append_sep (h p (by simp)), ih (by simp) hq]

end Text

end EdgeRig
