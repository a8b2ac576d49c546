import EdgeRig.Text.Pieces
import Mathlib.Data.List.TakeWhile

/-!
# Cut texts

A text that was put together around a mark is found again when it is cut at that mark.

* `Text.cut_of_not_mem`, `Text.cut_append` — a cut falls at the first mark; `Text.cut_isPrefix` — the part
  before it starts the text; `Text.span_append` — a front of characters of one kind is found again.
* `Text.cutLast_of_not_mem`, `Text.cutLast_append` — and a last cut at the last mark.
* `Text.pieces_eq_splitOn` — the pieces of a text are those that it is split into; none holds the mark.
-/

namespace EdgeRig

namespace Text

theorem cut_of_not_mem {sep : Char} {s : List Char} (h : sep ∉ s) : cut sep s = (s, none) := by
  induction s with
  | nil => rfl
  | cons c rest ih =>
    obtain ⟨hc, hrest⟩ := not_or.1 (mt List.mem_cons.2 h)
    rw [cut, if_neg (Ne.symm hc), ih hrest]

theorem cut_append {sep : Char} {front : List Char} (h : sep ∉ front) (rest : List Char) :
    cut sep (front ++ sep :: rest) = (front, some rest) := by
  induction front with
  | nil => rw [List.nil_append, cut, if_pos rfl]
  | cons c front ih =>
    obtain ⟨hc, hfront⟩ := not_or.1 (mt List.mem_cons.2 h)
    rw [List.cons_append, cut, if_neg (Ne.symm hc), ih hfront]

/-- A text is cut at its first separator, or holds none. -/
theorem cut_cases (sep : Char) (s : List Char) :
    (sep ∉ s ∧ cut sep s = (s, none)) ∨
      ∃ front rest, s = front ++ sep :: rest ∧ sep ∉ front ∧ cut sep s = (front, some rest) := by
  by_cases h : sep ∈ s
  · obtain ⟨front, rest, hs, hfront⟩ := List.eq_append_cons_of_mem h
    exact Or.inr ⟨front, rest, hs, hfront, by rw [hs, cut_append hfront]⟩
  · exact Or.inl ⟨h, cut_of_not_mem h⟩

/-- What comes before the first separator starts the text. -/
theorem cut_isPrefix (sep : Char) (s : List Char) : (cut sep s).1 <+: s := by
  rcases cut_cases sep s with ⟨-, h⟩ | ⟨front, rest, hs, -, h⟩
  · simp [h]
  · rw [h, hs]
    exact List.prefix_append front _

/-- A front of characters of one kind ends where the first character of another kind stands. -/
theorem span_append {p : Char → Bool} {front rest : List Char} (hfront : ∀ c ∈ front, p c = true)
    (hrest : ∀ c, rest.head? = some c → p c = false) :
    (front ++ rest).takeWhile p = front ∧ (front ++ rest).dropWhile p = rest := by
  rw [List.takeWhile_append_of_pos hfront, List.dropWhile_append_of_pos hfront]
  cases rest with
  | nil => exact ⟨List.append_nil front, rfl⟩
  | cons c rest =>
    have hc : ¬ p c = true := by rw [hrest c rfl]; exact Bool.false_ne_true
    rw [List.takeWhile_cons, List.dropWhile_cons, if_neg hc, if_neg hc]
    exact ⟨List.append_nil front, rfl⟩

theorem cutLast_of_not_mem {sep : Char} {s : List Char} (h : sep ∉ s) :
    cutLast sep s = (none, s) := by
  have hreverse : sep ∉ s.reverse := fun hc => h (List.mem_reverse.1 hc)
  rw [cutLast, cut_of_not_mem hreverse]
  dsimp only
  rw [List.reverse_reverse]

theorem cutLast_append {sep : Char} {tail : List Char} (h : sep ∉ tail) (front : List Char) :
    cutLast sep (front ++ sep :: tail) = (some front, tail) := by
  have hreverse : (front ++ sep :: tail).reverse = tail.reverse ++ sep :: front.reverse := by simp
  have htail : sep ∉ tail.reverse := fun hc => h (List.mem_reverse.1 hc)
  rw [cutLast, hreverse, cut_append htail]
  dsimp only
  rw [List.reverse_reverse, List.reverse_reverse]

/-- A text is cut at its last separator, or holds none. -/
theorem cutLast_cases (sep : Char) (s : List Char) :
    (sep ∉ s ∧ cutLast sep s = (none, s)) ∨
      ∃ front tail, s = front ++ sep :: tail ∧ sep ∉ tail ∧ cutLast sep s = (some front, tail) := by
  by_cases h : sep ∈ s
  · obtain ⟨tail, front, hs, htail⟩ := List.eq_append_cons_of_mem (List.mem_reverse.2 h)
    have hsplit : s = front.reverse ++ sep :: tail.reverse := by
      rw [← List.reverse_reverse s, hs]
      simp
    have hnot : sep ∉ tail.reverse := fun hc => htail (List.mem_reverse.1 hc)
    exact Or.inr ⟨_, _, hsplit, hnot, by rw [hsplit, cutLast_append hnot]⟩
  · exact Or.inl ⟨h, cutLast_of_not_mem h⟩

/-! ## Pieces -/

/-- A character other than the separator goes to the front of the first piece. -/
theorem pieces_cons_of_ne {sep c : Char} (h : c ≠ sep) (s : List Char) :
    pieces sep (c :: s) = (pieces sep s).modifyHead (List.cons c) := by
  rw [pieces, if_neg h]
  cases hs : pieces sep s with
  | nil => exact absurd hs (pieces_ne_nil sep s)
  | cons p ps => rfl

/-- **The pieces of a text** are what it is split into at the separator. -/
theorem pieces_eq_splitOn (sep : Char) (s : List Char) : pieces sep s = s.splitOn sep := by
  rw [List.splitOn_eq_splitOnP]
  induction s with
  | nil => rfl
  | cons c s ih =>
    rw [List.splitOnP_cons_eq_if_modifyHead, ← ih]
    by_cases hc : c = sep
    · rw [if_pos (beq_iff_eq.2 hc), pieces, if_pos hc]
    · rw [if_neg (mt beq_iff_eq.1 hc), pieces_cons_of_ne hc]

/-- No piece holds the separator. -/
theorem notMem_of_mem_pieces {sep : Char} {s : List Char} {p : Piece} (h : p ∈ pieces sep s) :
    sep ∉ p := by
  induction s generalizing p with
  | nil =>
    rw [pieces, List.mem_singleton] at h
    rw [h]
    exact List.not_mem_nil
  | cons c s ih =>
    by_cases hc : c = sep
    · rw [pieces, if_pos hc] at h
      rcases List.mem_cons.1 h with rfl | h
      · exact List.not_mem_nil
      · exact ih h
    · rw [pieces_cons_of_ne hc] at h
      cases hs : pieces sep s with
      | nil => exact absurd hs (pieces_ne_nil sep s)
      | cons q qs =>
        rw [hs, List.modifyHead_cons] at h
        rcases List.mem_cons.1 h with rfl | h
        · rw [List.mem_cons, not_or]
          exact ⟨Ne.symm hc, ih (hs ▸ List.mem_cons_self ..)⟩
        · exact ih (hs ▸ List.mem_cons_of_mem q h)

end Text

end EdgeRig
