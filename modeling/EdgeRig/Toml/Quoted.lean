import EdgeRig.Number.Numeral

/-!
# Quoted texts in tables

A table file knows four kinds of quoted text.  Double quotes allow escapes, single quotes do not;
three quotes allow line feeds, drop one that follows at once, and may be preceded by up to two
quotes that belong to the text.

* `Toml.escape` reads what follows a backslash.
* `Toml.lineText` reads a text on one line, `Toml.quotedText` a text of any kind.  Both take the
  text with its quotes and give back what follows it.
-/

namespace EdgeRig

namespace Toml

/-- A reader of the start of a text: what it read, and the rest. -/
abbrev Scan (α : Type) := List Char → Option (α × List Char)

/-- Control characters other than the tab. -/
def isControl (c : Char) : Bool :=
  (decide (c.toNat < 32) && c != '\t') || c.toNat == 127

def isBlank (c : Char) : Bool := c == ' ' || c == '\t'

def isBlankOrFeed (c : Char) : Bool := isBlank c || c == '\n'

/-- Drop blanks. -/
def skipBlanks (s : List Char) : List Char := s.dropWhile isBlank

/-! ## Escapes -/

/-- The character of a code written with hexadecimal digits. -/
def coded (width : Nat) (s : List Char) : Option (Char × List Char) :=
  if width ≤ s.length then
    match Numeral.read? Numeral.hexDigit? 16 (s.take width) with
    | some n => if n.isValidChar then some (Char.ofNat n, s.drop width) else none
    | none => none
  else none

/-- The character that a letter after a backslash stands for. -/
def letterEscape? (c : Char) : Option Char :=
  match c with
  | 'b' => some '\x08'
  | 't' => some '\t'
  | 'n' => some '\n'
  | 'f' => some '\x0c'
  | 'r' => some '\r'
  | '"' => some '"'
  | '\\' => some '\\'
  | _ => none

/-- The character that the text after a backslash stands for. -/
def escape : Scan Char
  | [] => none
  | c :: rest =>
      if c = 'u' then coded 4 rest
      else if c = 'U' then coded 8 rest
      else (letterEscape? c).map (·, rest)

theorem coded_shorter {width : Nat} {s r : List Char} {c : Char}
    (h : coded width s = some (c, r)) : r.length ≤ s.length := by
  unfold coded at h
  split at h
  · split at h
    · split at h
      · simp only [Option.some.injEq, Prod.mk.injEq] at h
        rw [← h.2, List.length_drop]
        omega
      · cases h
    · cases h
  · cases h

theorem escape_shorter {s r : List Char} {c : Char} (h : escape s = some (c, r)) :
    r.length < s.length := by
  cases s with
  | nil => cases h
  | cons d rest =>
    simp only [escape] at h
    split at h
    · have := coded_shorter h
      simp; omega
    · split at h
      · have := coded_shorter h
        simp; omega
      · cases hd : letterEscape? d with
        | none => rw [hd] at h; cases h
        | some e =>
          rw [hd] at h
          simp only [Option.map_some, Option.some.injEq, Prod.mk.injEq] at h
          rw [← h.2]
          simp

/-- A backslash at the end of a line: blanks, the line end, and all blanks and line ends after
it. -/
def foldLine (s : List Char) : Option (List Char) :=
  match skipBlanks s with
  | [] => some []
  | '\n' :: rest => some (rest.dropWhile isBlankOrFeed)
  | _ => none

theorem length_dropWhile_le (p : Char → Bool) (s : List Char) :
    (s.dropWhile p).length ≤ s.length :=
  (List.dropWhile_suffix p).length_le

theorem foldLine_shorter {s r : List Char} (h : foldLine s = some r) : r.length ≤ s.length := by
  have hs := length_dropWhile_le isBlank s
  unfold foldLine skipBlanks at h
  split at h
  · simp only [Option.some.injEq] at h
    simp [← h]
  · next rest heq =>
    simp only [Option.some.injEq] at h
    have := length_dropWhile_le isBlankOrFeed rest
    rw [heq] at hs
    simp only [List.length_cons] at hs
    rw [← h]
    omega
  · cases h

/-! ## Texts -/

/-- Put a character in front of what was read. -/
def consRead (c : Char) (x : Option (List Char × List Char)) : Option (List Char × List Char) :=
  x.map fun p => (c :: p.1, p.2)

/-- A text with escapes on one line, after its opening quote. -/
def basic (s : List Char) : Option (List Char × List Char) :=
  match s with
  | [] => none
  | c :: rest =>
      if c = '"' then some ([], rest)
      else if c = '\\' then
        match h : escape rest with
        | none => none
        | some (d, after) =>
            have := escape_shorter h
            consRead d (basic after)
      else if isControl c then none
      else consRead c (basic rest)
termination_by s.length
decreasing_by all_goals simp_all <;> omega

/-- A text without escapes on one line, after its opening quote. -/
def literal : Scan (List Char)
  | [] => none
  | c :: rest =>
      if c = '\'' then some ([], rest)
      else if isControl c then none
      else consRead c (literal rest)

/-- Up to two quotes after the closing ones belong to the text. -/
def extraQuotes (quote : Char) : List Char → List Char × List Char
  | [] => ([], [])
  | [c] => if c = quote then ([c], []) else ([], [c])
  | c :: d :: rest =>
      if c = quote then if d = quote then ([c, d], rest) else ([c], d :: rest)
      else ([], c :: d :: rest)

/-- The rest after three quotes. -/
def afterClosing? (quote : Char) : List Char → Option (List Char)
  | a :: b :: c :: rest => if a = quote ∧ b = quote ∧ c = quote then some rest else none
  | _ => none

/-- A text with escapes on several lines, after its opening quotes. -/
def basicLines (s : List Char) : Option (List Char × List Char) :=
  match afterClosing? '"' s with
  | some rest => some (extraQuotes '"' rest)
  | none =>
      match s with
      | [] => none
      | c :: rest =>
          if c = '\\' then
            if (rest.head?.map isBlankOrFeed).getD false then
              match h : foldLine rest with
              | none => none
              | some after =>
                  have := foldLine_shorter h
                  basicLines after
            else
              match h : escape rest with
              | none => none
              | some (d, after) =>
                  have := escape_shorter h
                  consRead d (basicLines after)
          else if isControl c && c != '\n' then none
          else consRead c (basicLines rest)
termination_by s.length
decreasing_by all_goals simp_all <;> omega

/-- A text without escapes on several lines, after its opening quotes. -/
def literalLines (s : List Char) : Option (List Char × List Char) :=
  match afterClosing? '\'' s with
  | some rest => some (extraQuotes '\'' rest)
  | none =>
      match s with
      | [] => none
      | c :: rest => if isControl c && c != '\n' then none else consRead c (literalLines rest)

/-- A line feed right after the opening quotes does not count. -/
def dropFeed : List Char → List Char
  | '\n' :: rest => rest
  | s => s

/-- A text on one line. -/
def lineText : Scan (List Char)
  | '"' :: rest => basic rest
  | '\'' :: rest => literal rest
  | _ => none

/-- A text of any kind. -/
def quotedText : Scan (List Char) := fun s =>
  match afterClosing? '"' s, afterClosing? '\'' s with
  | some rest, _ => basicLines (dropFeed rest)
  | none, some rest => literalLines (dropFeed rest)
  | none, none => lineText s

end Toml

end EdgeRig
