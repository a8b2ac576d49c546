import EdgeRig.Number.Numeral
import EdgeRig.Text.Pieces

/-!
# Host labels beyond ASCII

A label with characters beyond ASCII is written with ASCII characters alone: those of its characters
that are in ASCII come first, then the places and codes of all others as numbers of variable length.
`Punycode.encode` writes a label so, and `Punycode.decode?` reads it.
-/

namespace EdgeRig

namespace Punycode

/-- The character of a digit below 36. -/
def digit (n : Nat) : Char :=
  if n < 26 then Char.ofNat ('a'.toNat + n) else Char.ofNat ('0'.toNat + (n - 26))

/-- How far the thresholds of the next number are moved for a distance. -/
def spread (delta : Nat) : Nat :=
  if 455 < delta then 36 + spread (delta / 35) else 36 * delta / (delta + 38)
termination_by delta

/-- The move of the thresholds after a number; `count` characters are written. -/
def nextBias (isFirst : Bool) (delta count : Nat) : Nat :=
  let d := if isFirst then delta / 700 else delta / 2
  spread (d + d / count)

/-- The threshold of a digit: at least 1 and at most 26. -/
def threshold (k bias : Nat) : Nat := max 1 (min 26 (k - bias))

theorem threshold_le (k bias : Nat) : threshold k bias ≤ 26 := by
  unfold threshold
  omega

theorem one_le_threshold (k bias : Nat) : 1 ≤ threshold k bias := by
  unfold threshold
  omega

/-- A number; its last digit is the first one below its threshold. -/
def number (bias k q : Nat) : List Char :=
  let t := threshold k bias
  if q < t then [digit q]
  else digit (t + (q - t) % (36 - t)) :: number bias (k + 36) ((q - t) / (36 - t))
termination_by q
decreasing_by
  have h1 := threshold_le k bias
  have h2 := one_le_threshold k bias
  have h3 : (q - threshold k bias) / (36 - threshold k bias) ≤ q - threshold k bias :=
    Nat.div_le_self _ _
  omega

/-- A label that is being written. -/
structure Draft where
  written : List Char
  delta : Nat
  bias : Nat
  count : Nat
  code : Nat

/-- Pass over a character on the way to the characters of the current code, or write its place. -/
def Draft.pass (basics : Nat) (d : Draft) (c : Char) : Draft :=
  if c.toNat < d.code then { d with delta := d.delta + 1 }
  else if c.toNat = d.code then
    { d with
      written := d.written ++ number d.bias 36 d.delta
      bias := nextBias (d.count == basics) d.delta (d.count + 1)
      delta := 0
      count := d.count + 1 }
  else d

/-- Write the places of all characters of a code. -/
def Draft.add (label : List Char) (basics : Nat) (d : Draft) (code : Nat) : Draft :=
  let start := { d with delta := d.delta + (code - d.code) * (d.count + 1), code := code }
  let done := label.foldl (Draft.pass basics) start
  { done with delta := done.delta + 1, code := code + 1 }

/-- The ASCII form of a label. -/
def encode (label : List Char) : List Char :=
  let basics := label.filter fun c => decide (c.toNat < 128)
  let codes := ((label.map Char.toNat).filter fun n => decide (128 ≤ n)).eraseDups.mergeSort
  let written := if basics.isEmpty then [] else basics ++ ['-']
  (codes.foldl (Draft.add label basics.length) ⟨written, 0, 72, basics.length, 128⟩).written

/-! ## Reading -/

/-- The value of a digit, in either case of letters. -/
def digit? (c : Char) : Option Nat :=
  if c.isLower then some (c.toNat - 'a'.toNat)
  else if c.isUpper then some (c.toNat - 'A'.toNat)
  else (Numeral.digit? c).map (· + 26)

/-- A number and the text after it.  `n` has been read so far, and the next digit counts
`weight`. -/
def number? (bias k weight n : Nat) : List Char → Option (Nat × List Char)
  | [] => none
  | c :: rest =>
      match digit? c with
      | none => none
      | some d =>
          let t := threshold k bias
          let m := n + d * weight
          if d < t then some (m, rest) else number? bias (k + 36) (weight * (36 - t)) m rest

theorem number?_shorter {bias k weight n m : Nat} {s rest : List Char}
    (h : number? bias k weight n s = some (m, rest)) : rest.length < s.length := by
  induction s generalizing k weight n with
  | nil => simp [number?] at h
  | cons c s ih =>
    unfold number? at h
    split at h
    · simp at h
    · simp only at h
      split at h
      · simp only [Option.some.injEq, Prod.mk.injEq] at h
        simp [h.2]
      · have := ih h
        simp only [List.length_cons]
        omega

theorem digit?_digit {n : Nat} (h : n < 36) : digit? (digit n) = some n := by
  have all : ∀ m ∈ List.range 36, digit? (digit m) = some m := by decide
  exact all n (List.mem_range.2 h)

/-- A number is read as it was written, whatever follows it. -/
theorem number?_number (bias k weight n q : Nat) (rest : List Char) :
    number? bias k weight n (number bias k q ++ rest) = some (n + q * weight, rest) := by
  induction q using Nat.strongRecOn generalizing k weight n with
  | _ q ih =>
    have low := one_le_threshold k bias
    have high := threshold_le k bias
    rw [number]
    split
    · next h =>
      have hd : digit? (digit q) = some q := digit?_digit (by omega)
      simp [number?, hd, h]
    · next h =>
      have hr := Nat.mod_lt (q - threshold k bias) (show 0 < 36 - threshold k bias by omega)
      have hd := digit?_digit
        (show threshold k bias + (q - threshold k bias) % (36 - threshold k bias) < 36 by omega)
      have hq : (q - threshold k bias) / (36 - threshold k bias) < q :=
        Nat.lt_of_le_of_lt (Nat.div_le_self _ _) (by omega)
      have hn : ¬ threshold k bias + (q - threshold k bias) % (36 - threshold k bias) <
          threshold k bias := by omega
      rw [List.cons_append, number?]
      simp only [hd, hn, if_false]
      rw [ih _ hq]
      have hs := Nat.mod_add_div (q - threshold k bias) (36 - threshold k bias)
      congr 2
      generalize (q - threshold k bias) % (36 - threshold k bias) = r at hs ⊢
      generalize (q - threshold k bias) / (36 - threshold k bias) = d at hs ⊢
      have hw : q = threshold k bias + r + (36 - threshold k bias) * d := by omega
      have hc : d * (weight * (36 - threshold k bias)) =
          (36 - threshold k bias) * d * weight := by ac_rfl
      rw [hc, hw]
      simp only [Nat.add_mul, Nat.add_assoc]

/-- Is there a character of the code? -/
def isCharCode (n : Nat) : Bool :=
  decide (n < 0xd800) || (decide (0xdfff < n) && decide (n < 0x110000))

/-- Put the characters in their places.  `place` counts from the start of the label, and goes on
with the next character where it passes the end. -/
def fill (bias code place : Nat) (isFirst : Bool) (label s : List Char) : Option (List Char) :=
  if s.isEmpty then some label
  else
    match _h : number? bias 36 1 0 s with
    | none => none
    | some (delta, rest) =>
        let count := label.length + 1
        let code := code + (place + delta) / count
        let place := (place + delta) % count
        if isCharCode code then
          fill (nextBias isFirst delta count) code (place + 1) false
            (label.take place ++ Char.ofNat code :: label.drop place) rest
        else none
termination_by s.length
decreasing_by exact number?_shorter _h

/-- The label of an ASCII form. -/
def decode? (s : List Char) : Option (List Char) :=
  let (basics, rest) := Text.cutLast '-' s
  fill 72 128 0 true (basics.getD []) rest

end Punycode

end EdgeRig
