import Mathlib.Data.List.TakeWhile
import EdgeRig.Url.Basic

/-!
# Plain hosts

A plain host is written with letters, digits, hyphens, full stops and underscores of ASCII, as names of
machines and IPv4 addresses are.  It is kept in lower case, and what is kept is read as itself.

* `Host.isPlainChar`, `Host.IsPlain` — the characters and the hosts.
* `Host.read_of_isPlain` — a plain host is kept in lower case, if it is kept at all; `Host.read_kept` — and
  reading it again changes nothing.
-/

namespace EdgeRig

namespace Host

/-- A character of a plain host. -/
def isPlainChar (c : Char) : Bool := c.isAlphanum || c == '-' || c == '.' || c == '_'

/-- The host is a name or an IPv4 address written in ASCII. -/
def IsPlain (s : List Char) : Prop := s ≠ [] ∧ ∀ c ∈ s, isPlainChar c = true

instance (s : List Char) : Decidable (IsPlain s) :=
  decidable_of_iff ((!s.isEmpty && s.all isPlainChar) = true) (by simp [IsPlain])

/-- The form in which a plain host is kept. -/
def kept (s : List Char) : List Char := s.map Char.toLower

/-! ## Characters -/

/-- Plain characters are characters of ASCII. -/
theorem toNat_lt_of_isPlainChar {c : Char} (h : isPlainChar c = true) : c.toNat < 128 := by
  have hkinds : (((decide ('A'.val ≤ c.val ∧ c.val ≤ 'Z'.val) ||
      (decide ('a'.val ≤ c.val) && decide (c.val ≤ 'z'.val))) ||
      (decide ('0'.val ≤ c.val) && decide (c.val ≤ '9'.val))) ||
      c == '-' || c == '.' || c == '_') = true := h
  simp only [Bool.or_eq_true, Bool.and_eq_true, decide_eq_true_eq, beq_iff_eq,
    UInt32.le_iff_toNat_le] at hkinds
  have hvalue : c.toNat = c.val.toNat := rfl
  have hupper : 'Z'.val.toNat = 90 := rfl
  have hlower : 'z'.val.toNat = 122 := rfl
  have hdigit : '9'.val.toNat = 57 := rfl
  rcases hkinds with ((hletter | rfl) | rfl) | rfl
  · omega
  all_goals decide

/-- What holds of the plain characters of ASCII holds of all. -/
theorem forall_isPlainChar {P : Char → Prop}
    (h : ∀ n ∈ List.range 128, isPlainChar (Char.ofNat n) = true → P (Char.ofNat n)) {c : Char}
    (hc : isPlainChar c = true) : P c := by
  have hP := h c.toNat (List.mem_range.2 (toNat_lt_of_isPlainChar hc))
  rw [Char.ofNat_toNat] at hP
  exact hP hc

/-- Plain characters are no marks between the parts of a URL. -/
theorem notMem_marks_of_isPlainChar {c : Char} (h : isPlainChar c = true) :
    c ∉ ['/', '?', '#', '@', ':', '['] :=
  forall_isPlainChar (P := fun c => c ∉ ['/', '?', '#', '@', ':', '[']) (by decide +kernel) h

/-- The lower case of a plain character is plain and stands for itself. -/
theorem isPlainChar_toLower {c : Char} (h : isPlainChar c = true) :
    isPlainChar c.toLower = true ∧ Percent.isHostChar c.toLower = true ∧
      c.toLower.toLower = c.toLower :=
  forall_isPlainChar (P := fun c => isPlainChar c.toLower = true ∧
    Percent.isHostChar c.toLower = true ∧ c.toLower.toLower = c.toLower) (by decide +kernel) h

/-- A character of an IPv4 address has no case, and is the lower case of none but itself. -/
theorem toLower_of_isDigit {c : Char} (h : isPlainChar c = true)
    (hd : (c = '.' ∨ Numeral.isDigit c = true) ∨ c.toLower = '.' ∨ Numeral.isDigit c.toLower = true) :
    c.toLower = c :=
  forall_isPlainChar (P := fun c => (c = '.' ∨ Numeral.isDigit c = true) ∨
    c.toLower = '.' ∨ Numeral.isDigit c.toLower = true → c.toLower = c) (by decide +kernel) h hd

theorem IsPlain.kept {s : List Char} (h : IsPlain s) : IsPlain (kept s) := by
  refine ⟨fun hc => h.1 (List.map_eq_nil_iff.1 hc), fun c hc => ?_⟩
  obtain ⟨d, hd, rfl⟩ := List.mem_map.1 hc
  exact (isPlainChar_toLower (h.2 d hd)).1

theorem kept_kept {s : List Char} (h : IsPlain s) : kept (kept s) = kept s := by
  unfold Host.kept
  rw [List.map_map]
  exact List.map_congr_left fun c hc => (isPlainChar_toLower (h.2 c hc)).2.2

/-! ## Addresses -/

/-- What is glued together holds the separator and what the pieces hold. -/
theorem mem_glue {sep c : Char} {ps : List Text.Piece} (h : c ∈ Text.glue sep ps) :
    c = sep ∨ ∃ p ∈ ps, c ∈ p := by
  induction ps with
  | nil => exact absurd h List.not_mem_nil
  | cons p rest ih =>
    cases rest with
    | nil => exact Or.inr ⟨p, List.mem_cons_self .., h⟩
    | cons q qs =>
      rcases List.mem_append.1 h with hp | hrest
      · exact Or.inr ⟨p, List.mem_cons_self .., hp⟩
      · rcases List.mem_cons.1 hrest with rfl | hrest
        · exact Or.inl rfl
        · obtain hsep | ⟨r, hr, hc⟩ := ih hrest
          · exact Or.inl hsep
          · exact Or.inr ⟨r, List.mem_cons_of_mem _ hr, hc⟩

/-- What looks like an IPv4 address holds digits and full stops only. -/
theorem mem_of_looksIPv4 {s : List Char} (h : looksIPv4 s = true) {c : Char} (hc : c ∈ s) :
    c = '.' ∨ Numeral.isDigit c = true := by
  have hparts := (Bool.and_eq_true_iff.1 h).2
  rw [← Text.glue_pieces '.' s] at hc
  refine (mem_glue hc).imp_right ?_
  rintro ⟨p, hp, hcp⟩
  have hdigits := (Bool.and_eq_true_iff.1 (List.all_eq_true.1 hparts p hp)).2
  exact List.all_eq_true.1 hdigits c hcp

/-- What looks like an IPv4 address is in lower case, and so is what looks like one in lower case. -/
theorem kept_of_looksIPv4 {s : List Char} (hs : IsPlain s)
    (h : looksIPv4 s = true ∨ looksIPv4 (kept s) = true) : kept s = s := by
  refine (List.map_congr_left fun c hc => ?_).trans (List.map_id s)
  refine toLower_of_isDigit (hs.2 c hc) ?_
  rcases h with h | h
  · exact Or.inl (mem_of_looksIPv4 h hc)
  · exact Or.inr (mem_of_looksIPv4 h (List.mem_map_of_mem hc))

/-! ## Reading -/

/-- A plain host that does not look like an address is kept in lower case. -/
theorem read_of_not_looksIPv4 {s : List Char} (hs : IsPlain s) (h : looksIPv4 s = false) :
    read s = some (kept s) := by
  have hbracket : isBracketed s = false := by
    cases s with
    | nil => rfl
    | cons c rest =>
      have hc := notMem_marks_of_isPlainChar (hs.2 c (List.mem_cons_self ..))
      have hne : c ≠ '[' := fun e => hc (by rw [e]; decide)
      simp [isBracketed, hne]
  have hascii : Label.isAscii s = true :=
    List.all_eq_true.2 fun c hc => decide_eq_true (toNat_lt_of_isPlainChar (hs.2 c hc))
  have hsafe : ∀ c ∈ kept s, Percent.isHostChar c = true := by
    intro c hc
    obtain ⟨d, hd, rfl⟩ := List.mem_map.1 hc
    exact (isPlainChar_toLower (hs.2 d hd)).2.1
  have hne : s.isEmpty = false := by simpa using hs.1
  rw [read, hne, h, hbracket, hascii]
  simp only [Bool.false_eq_true, if_false, if_true]
  rw [← kept, Percent.encode_of_safe hsafe]

/-- **A plain host is kept in lower case**, if it is kept at all: it may look like an IPv4 address and be
none. -/
theorem read_of_isPlain {s h : List Char} (hs : IsPlain s) (hread : read s = some h) : h = kept s := by
  cases hlooks : looksIPv4 s with
  | false => exact Option.some.inj (hread.symm.trans (read_of_not_looksIPv4 hs hlooks))
  | true =>
    have hne : s.isEmpty = false := by simpa using hs.1
    rw [read, hne, hlooks] at hread
    simp only [Bool.false_eq_true, if_false, if_true] at hread
    split at hread
    · rw [kept_of_looksIPv4 hs (Or.inl hlooks)]
      exact (Option.some.inj hread).symm
    · cases hread

/-- **What is kept of a plain host is read as itself.** -/
theorem read_kept {s h : List Char} (hs : IsPlain s) (hread : read s = some h) :
    read (kept s) = some (kept s) := by
  cases hlooks : looksIPv4 (kept s) with
  | false => rw [read_of_not_looksIPv4 hs.kept hlooks, kept_kept hs]
  | true =>
    rw [kept_of_looksIPv4 hs (Or.inr hlooks), hread, read_of_isPlain hs hread,
      kept_of_looksIPv4 hs (Or.inr hlooks)]

end Host

end EdgeRig
