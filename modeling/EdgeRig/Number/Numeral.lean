/-!
# Numerals

Writing and reading whole numbers in a base.

* `Numeral.ofNat` / `Numeral.ofInt` write decimal numerals.
* `Numeral.value base ds` is the number that a list of digit values stands for.
* `Numeral.groupedDigits` reads digits among which single underscores may stand between two digits.
* `Numeral.value_digits` says that the digits of a number stand for it.
-/

namespace EdgeRig

namespace Numeral

/-! ## Digits -/

/-- The value of a decimal digit, among the ten ASCII digits. -/
def digit? (c : Char) : Option Nat :=
  if '0' ≤ c ∧ c ≤ '9' then some (c.toNat - '0'.toNat) else none

/-- The value of a hexadecimal digit in either case. -/
def hexDigit? (c : Char) : Option Nat :=
  if '0' ≤ c ∧ c ≤ '9' then some (c.toNat - '0'.toNat)
  else if 'a' ≤ c ∧ c ≤ 'f' then some (c.toNat - 'a'.toNat + 10)
  else if 'A' ≤ c ∧ c ≤ 'F' then some (c.toNat - 'A'.toNat + 10)
  else none

def isDigit (c : Char) : Bool := (digit? c).isSome

/-- The character of a decimal digit. -/
def digitChar (d : Nat) : Char := Char.ofNat ('0'.toNat + d)

/-- The character of a hexadecimal digit, letters in upper case. -/
def upperHexChar (d : Nat) : Char :=
  if d < 10 then digitChar d else Char.ofNat ('A'.toNat + (d - 10))

/-- The character of a hexadecimal digit, letters in lower case. -/
def lowerHexChar (d : Nat) : Char :=
  if d < 10 then digitChar d else Char.ofNat ('a'.toNat + (d - 10))

/-- The number that digit values stand for, most significant first. -/
def value (base : Nat) (ds : List Nat) : Nat := ds.foldl (fun n d => base * n + d) 0

/-! ## Writing -/

/-- The decimal digits of a number, without leading zeros. -/
def digits (n : Nat) : List Nat :=
  if n < 10 then [n] else digits (n / 10) ++ [n % 10]

def ofNat (n : Nat) : List Char := (digits n).map digitChar

def ofInt (n : Int) : List Char :=
  if n < 0 then '-' :: ofNat n.natAbs else ofNat n.natAbs

/-- A number written with at least `width` digits. -/
def padded (width n : Nat) : List Char :=
  let ds := ofNat n
  List.replicate (width - ds.length) '0' ++ ds

/-- A number written with `width` hexadecimal digits, the least significant ones. -/
def hex (digitOf : Nat → Char) : (width n : Nat) → List Char
  | 0, _ => []
  | width + 1, n => hex digitOf width (n / 16) ++ [digitOf (n % 16)]

/-! ## Reading -/

/-- Read a stretch of digits; there must be at least one. -/
def read? (digitOf : Char → Option Nat) (base : Nat) (s : List Char) : Option Nat :=
  if s.isEmpty then none else (s.mapM digitOf).map (value base)

/-- Does the text start with a digit? -/
def startsWithDigit (digitOf : Char → Option Nat) : List Char → Bool
  | [] => false
  | c :: _ => (digitOf c).isSome

/-- The digits that start a text, among which single underscores may stand between two digits, and
the rest of the text.  `afterDigit` says whether a digit has just been read. -/
def groupedDigits (digitOf : Char → Option Nat) (afterDigit : Bool) :
    List Char → List Nat × List Char
  | [] => ([], [])
  | c :: rest =>
      match digitOf c with
      | some d =>
          let next := groupedDigits digitOf true rest
          (d :: next.1, next.2)
      | none =>
          if afterDigit && c == '_' && startsWithDigit digitOf rest then
            groupedDigits digitOf false rest
          else ([], c :: rest)

/-- The digits that start a text and the rest of the text. -/
def plainDigits (digitOf : Char → Option Nat) : List Char → List Nat × List Char
  | [] => ([], [])
  | c :: rest =>
      match digitOf c with
      | none => ([], c :: rest)
      | some d =>
          let next := plainDigits digitOf rest
          (d :: next.1, next.2)

/-- An optional sign: whether it is a minus, and the rest of the text. -/
def sign : List Char → Bool × List Char
  | '-' :: rest => (true, rest)
  | '+' :: rest => (false, rest)
  | rest => (false, rest)

def applySign (minus : Bool) (n : Nat) : Int := if minus then -(n : Int) else n

/-- A whole number: an optional sign and digits, with single underscores between digits. -/
def integer? (digitOf : Char → Option Nat) (s : List Char) : Option Int :=
  let (minus, unsigned) := sign s
  match groupedDigits digitOf false unsigned with
  | ([], _) => none
  | (ds, []) => some (applySign minus (value 10 ds))
  | _ => none

/-! ## Facts about written numerals -/

theorem digits_ne_nil (n : Nat) : digits n ≠ [] := by
  unfold digits
  split <;> simp

theorem digits_lt (n : Nat) : ∀ d ∈ digits n, d < 10 := by
  induction n using Nat.strongRecOn with
  | _ n ih =>
    intro d hd
    unfold digits at hd
    split at hd
    · next h => simp at hd; omega
    · next h =>
      rcases List.mem_append.1 hd with h1 | h1
      · exact ih (n / 10) (by omega) d h1
      · simp at h1; omega

theorem ofNat_ne_nil (n : Nat) : ofNat n ≠ [] := by
  simp [ofNat, digits_ne_nil]

/-- The digits of a number stand for it. -/
theorem value_digits (n : Nat) : value 10 (digits n) = n := by
  induction n using Nat.strongRecOn with
  | _ n ih =>
    unfold digits
    split
    · simp [value]
    · next h =>
      have := ih (n / 10) (by omega)
      simp only [value, List.foldl_append, List.foldl_cons, List.foldl_nil] at this ⊢
      rw [this]
      omega

end Numeral

end EdgeRig
