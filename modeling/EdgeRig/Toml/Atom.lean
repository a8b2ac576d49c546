import EdgeRig.Calendar
import EdgeRig.Number.Binary64
import EdgeRig.Toml.Quoted
import EdgeRig.Value

/-!
# Numbers, dates and truth values in tables

`Toml.atom` reads the longest atom that a text starts with; what may follow an atom is decided by
the grammar around it.  Whole numbers have any size, but a decimal one may not have more than
`Toml.digitLimit` digits.
-/

namespace EdgeRig

namespace Toml

/-- The largest number of digits of a decimal whole number. -/
def digitLimit : Nat := 4300

/-- A digit below a base. -/
def digitBelow (base : Nat) (c : Char) : Option Nat :=
  (Numeral.hexDigit? c).filter fun d => decide (d < base)

/-- Digits of a base, among which single underscores may stand between two digits. -/
def digitRun (base : Nat) (s : List Char) : Option (List Nat × List Char) :=
  match Numeral.groupedDigits (digitBelow base) false s with
  | ([], _) => none
  | run => some run

/-- A whole number in the base of a letter. -/
def based (letter : Char) (s : List Char) : Option (Scalar × List Char) := do
  let base ← if letter = 'x' then some 16 else if letter = 'o' then some 8
    else if letter = 'b' then some 2 else none
  let (ds, rest) ← digitRun base s
  some (.int (Numeral.value base ds), rest)

/-- The digits before the point: a zero alone, or digits that start with another one. -/
def wholePart (s : List Char) : Option (List Nat × List Char) :=
  match s with
  | '0' :: rest => some ([0], rest)
  | _ => digitRun 10 s

/-- A point and digits, if both are there. -/
def fractionPart (s : List Char) : Option (List Nat × List Char) :=
  match s with
  | '.' :: rest => digitRun 10 rest
  | _ => none

/-- A mark, an optional sign and digits, if they are there. -/
def exponentPart (s : List Char) : Option (Int × List Char) :=
  match s with
  | c :: rest =>
      if c = 'e' ∨ c = 'E' then
        let (minus, unsigned) := Numeral.sign rest
        (digitRun 10 unsigned).map fun run =>
          (Numeral.applySign minus (Numeral.value 10 run.1), run.2)
      else none
  | [] => none

/-- A decimal number: a whole number, or a floating-point one when it has a fraction or an
exponent. -/
def decimal (minus : Bool) (s : List Char) : Option (Scalar × List Char) := do
  let (whole, rest) ← wholePart s
  match fractionPart rest, exponentPart ((fractionPart rest).elim rest (·.2)) with
  | none, none =>
      if whole.length ≤ digitLimit then
        some (.int (Numeral.applySign minus (Numeral.value 10 whole)), rest)
      else none
  | fraction, power =>
      let part := fraction.elim [] (·.1)
      let after := fraction.elim rest (·.2)
      let n := Numeral.value 10 (whole ++ part)
      some (.float (Binary64.ofDecimal minus n (power.elim 0 (·.1) - part.length)),
        power.elim after (·.2))

/-- The infinity, or "not a number". -/
def special (minus : Bool) (s : List Char) : Option (Scalar × List Char) :=
  match s with
  | 'i' :: 'n' :: 'f' :: rest => some (.float (Binary64.infinity minus), rest)
  | 'n' :: 'a' :: 'n' :: rest => some (.float Binary64.nan, rest)
  | _ => none

/-- A number. -/
def number (s : List Char) : Option (Scalar × List Char) :=
  let (minus, unsigned) := Numeral.sign s
  let signed := (decimal minus unsigned).orElse fun _ => special minus unsigned
  match s with
  | '0' :: letter :: rest => (based letter rest).orElse fun _ => signed
  | _ => signed

/-- A date, and a time when one follows after `T` or a blank. -/
def dated (s : List Char) : Option (Scalar × List Char) := do
  let ((year, month, day), rest) ← Calendar.dateParts s
  let date ← Date.ofParts? year month day
  match rest with
  | c :: after =>
      if c = 'T' ∨ c = 't' ∨ c = ' ' then
        match Calendar.clock after with
        | some ((time, offset), rest) => some (.moment ⟨date, time, offset⟩, rest)
        | none => some (.date date, rest)
      else some (.date date, rest)
  | [] => some (.date date, rest)

/-- A value without parts that is no text. -/
def atom : Scan Scalar := fun s =>
  match s with
  | 't' :: 'r' :: 'u' :: 'e' :: rest => some (.bool true, rest)
  | 'f' :: 'a' :: 'l' :: 's' :: 'e' :: rest => some (.bool false, rest)
  | _ =>
      if (Calendar.dateParts s).isSome then dated s
      else ((Calendar.timeOfDay s).map fun p => (Scalar.time p.1, p.2)).orElse fun _ => number s

end Toml

end EdgeRig
