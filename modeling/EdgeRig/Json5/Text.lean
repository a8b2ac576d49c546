import EdgeRig.Number.Numeral
import EdgeRig.Text.Halves
import EdgeRig.Unicode.Letters

/-!
# Texts and names in object files

An object file writes texts between single or double quotes and may write the keys of objects as
bare names.

* `Json5.escape` reads what follows a backslash in a text; an escaped line end stands for nothing.
* `Json5.quotedText` reads a text after its opening quote.
* `Json5.name` reads a bare name.
-/

namespace EdgeRig

namespace Json5

def isLineEnd (c : Char) : Bool := c == '\n' || c == '\r' || Unicode.lineSeparators.holds c

/-- Characters between tokens: blanks, line ends and the byte order mark. -/
def isSpace (c : Char) : Bool :=
  c == ' ' || c == '\t' || c == '\x0b' || c == '\x0c' || c.toNat == 0xfeff || isLineEnd c ||
    Unicode.spaceSeparators.holds c

/-! ## Codes -/

/-- The number written with hexadecimal digits. -/
def coded (width : Nat) (s : List Char) : Option (Nat × List Char) :=
  if width ≤ s.length then
    (Numeral.read? Numeral.hexDigit? 16 (s.take width)).map fun n => (n, s.drop width)
  else none

theorem coded_shorter {width n : Nat} {s r : List Char} (h : coded width s = some (n, r)) :
    r.length ≤ s.length := by
  unfold coded at h
  split at h
  · cases hr : Numeral.read? Numeral.hexDigit? 16 (s.take width) with
    | none => rw [hr] at h; cases h
    | some m =>
      rw [hr] at h
      simp only [Option.map_some, Option.some.injEq, Prod.mk.injEq] at h
      rw [← h.2, List.length_drop]
      omega
  · cases h

/-- The character of a code of four digits.  Two codes are two characters, even when they are halves
of one. -/
def codedChar (s : List Char) : Option (Char × List Char) :=
  (coded 4 s).map fun p => (Half.ofCode p.1, p.2)

theorem codedChar_shorter {s r : List Char} {c : Char} (h : codedChar s = some (c, r)) :
    r.length ≤ s.length := by
  obtain ⟨p, hp, he⟩ := Option.map_eq_some_iff.1 h
  simp only [Prod.mk.injEq] at he
  exact he.2 ▸ coded_shorter (n := p.1) (r := p.2) hp

/-! ## Texts -/

/-- The control character that a letter after a backslash stands for. -/
def letterEscape? (c : Char) : Option Char :=
  match c with
  | 'b' => some '\x08'
  | 'f' => some '\x0c'
  | 'n' => some '\n'
  | 'r' => some '\r'
  | 't' => some '\t'
  | 'v' => some '\x0b'
  | _ => none

/-- The rest after a line end that has just been read but for a line feed after a return. -/
def afterLineEnd (c : Char) (rest : List Char) : List Char :=
  match rest with
  | '\n' :: more => if c = '\r' then more else rest
  | _ => rest

/-- The characters that the text after a backslash stands for: one, or none for a line end. -/
def escape (s : List Char) : Option (List Char × List Char) :=
  match s with
  | [] => none
  | c :: rest =>
      if c = 'x' then (coded 2 rest).map fun p => ([Char.ofNat p.1], p.2)
      else if c = 'u' then (codedChar rest).map fun p => ([p.1], p.2)
      else if c = '0' then
        if Numeral.startsWithDigit Numeral.digit? rest then none else some (['\x00'], rest)
      else if Numeral.isDigit c then none
      else if isLineEnd c then some ([], afterLineEnd c rest)
      else some ([(letterEscape? c).getD c], rest)

theorem afterLineEnd_shorter (c : Char) (rest : List Char) :
    (afterLineEnd c rest).length ≤ rest.length := by
  unfold afterLineEnd
  split
  · split <;> simp
  · exact Nat.le_refl _

theorem escape_shorter {s r p : List Char} (h : escape s = some (p, r)) : r.length < s.length := by
  cases s with
  | nil => cases h
  | cons c rest =>
    simp only [escape] at h
    split at h
    · cases hc : coded 2 rest with
      | none => rw [hc] at h; cases h
      | some q =>
        have := coded_shorter hc
        rw [hc] at h
        simp only [Option.map_some, Option.some.injEq, Prod.mk.injEq] at h
        rw [← h.2]
        simp; omega
    · split at h
      · cases hc : codedChar rest with
        | none => rw [hc] at h; cases h
        | some q =>
          have := codedChar_shorter hc
          rw [hc] at h
          simp only [Option.map_some, Option.some.injEq, Prod.mk.injEq] at h
          rw [← h.2]
          simp; omega
      · have hl := afterLineEnd_shorter c rest
        split at h
        · split at h
          · cases h
          · simp only [Option.some.injEq, Prod.mk.injEq] at h
            rw [← h.2]; simp
        · split at h
          · cases h
          · split at h
            · simp only [Option.some.injEq, Prod.mk.injEq] at h
              rw [← h.2]; simp; omega
            · simp only [Option.some.injEq, Prod.mk.injEq] at h
              rw [← h.2]; simp

/-- A text after its opening quote.  A line of the file may not end inside it, unless the line end
is escaped. -/
def quotedText (quote : Char) (s : List Char) : Option (List Char × List Char) :=
  match s with
  | [] => none
  | c :: rest =>
      if c = quote then some ([], rest)
      else if c = '\\' then
        match h : escape rest with
        | none => none
        | some (piece, after) =>
            have := escape_shorter h
            (quotedText quote after).map fun p => (piece ++ p.1, p.2)
      else if c = '\n' ∨ c = '\r' then none
      else (quotedText quote rest).map fun p => (c :: p.1, p.2)
termination_by s.length
decreasing_by all_goals simp_all <;> omega

/-! ## Names -/

/-- A character that a name may start with. -/
def isNameStart (c : Char) : Bool :=
  c.isAlpha || c == '$' || c == '_' || Unicode.letters.holds c

/-- A character that a name may go on with. -/
def isNamePart (c : Char) : Bool :=
  isNameStart c || c.isDigit || Unicode.joiners.holds c || c.toNat == 0x200c || c.toNat == 0x200d

/-- An escaped character of a name. -/
def nameEscape (s : List Char) : Option (Char × List Char) :=
  match s with
  | '\\' :: 'u' :: rest => codedChar rest
  | _ => none

theorem nameEscape_shorter {s r : List Char} {c : Char} (h : nameEscape s = some (c, r)) :
    r.length < s.length := by
  unfold nameEscape at h
  split at h
  · have := codedChar_shorter h
    simp; omega
  · cases h

/-- Put a character in front of a name and what follows it. -/
def consName (c : Char) (p : List Char × List Char) : List Char × List Char := (c :: p.1, p.2)

/-- The characters of a name after its first. -/
def nameRest (s : List Char) : List Char × List Char :=
  match h : nameEscape s with
  | some (c, after) =>
      have := nameEscape_shorter h
      consName c (nameRest after)
  | none =>
      match s with
      | [] => ([], [])
      | c :: rest =>
          if isNamePart c then consName c (nameRest rest) else ([], c :: rest)
termination_by s.length

/-- A bare name. -/
def name (s : List Char) : Option (List Char × List Char) :=
  match nameEscape s with
  | some (c, after) => some (consName c (nameRest after))
  | none =>
      match s with
      | [] => none
      | c :: rest =>
          if isNameStart c then some (consName c (nameRest rest)) else none

end Json5

end EdgeRig
