import EdgeRig.Number.Binary64
import EdgeRig.Number.Numeral
import EdgeRig.Value

/-!
# Numbers in object files

`Json5.number` reads an optional sign and a number: a hexadecimal whole number, the infinity, "not a
number", or a decimal number.  A decimal number with a point or an exponent is a floating-point one;
digits may be missing on one side of the point.
-/

namespace EdgeRig

namespace Json5

/-- The largest number of digits of a decimal whole number. -/
def digitLimit : Nat := 4300

/-- The digits before the point: none, a zero alone, or digits that start with another one. -/
def wholePart (s : List Char) : Option (List Nat × List Char) :=
  match s with
  | '0' :: rest =>
      if Numeral.startsWithDigit Numeral.digit? rest then none else some ([0], rest)
  | _ => some (Numeral.plainDigits Numeral.digit? s)

/-- A point and the digits after it, if there is a point. -/
def fractionPart (s : List Char) : Option (List Nat) × List Char :=
  match s with
  | '.' :: rest =>
      let p := Numeral.plainDigits Numeral.digit? rest
      (some p.1, p.2)
  | _ => (none, s)

/-- The exponent, if there is one; it needs digits. -/
def exponentPart (s : List Char) : Option (Option Int × List Char) :=
  match s with
  | c :: rest =>
      if c = 'e' ∨ c = 'E' then
        let (minus, unsigned) := Numeral.sign rest
        match Numeral.plainDigits Numeral.digit? unsigned with
        | ([], _) => none
        | (ds, rest) => some (some (Numeral.applySign minus (Numeral.value 10 ds)), rest)
      else some (none, s)
  | [] => some (none, s)

/-- A decimal number. -/
def decimal (minus : Bool) (s : List Char) : Option (Scalar × List Char) := do
  let (whole, rest) ← wholePart s
  let (fraction, rest) := fractionPart rest
  let (power, rest) ← exponentPart rest
  let part := fraction.getD []
  if whole.isEmpty && part.isEmpty then none
  else if fraction.isNone && power.isNone then
    if whole.length ≤ digitLimit then
      some (.int (Numeral.applySign minus (Numeral.value 10 whole)), rest)
    else none
  else
    let n := Numeral.value 10 (whole ++ part)
    some (.float (Binary64.ofDecimal minus n (power.getD 0 - part.length)), rest)

/-- A hexadecimal whole number after its mark. -/
def hexadecimal (minus : Bool) (s : List Char) : Option (Scalar × List Char) :=
  match Numeral.plainDigits Numeral.hexDigit? s with
  | ([], _) => none
  | (ds, rest) => some (.int (Numeral.applySign minus (Numeral.value 16 ds)), rest)

/-- The text after a word, if it starts with the word. -/
def afterWord? (word : String) (s : List Char) : Option (List Char) :=
  if word.toList.isPrefixOf s then some (s.drop word.toList.length) else none

/-- A number after its sign. -/
def unsigned (minus : Bool) (s : List Char) : Option (Scalar × List Char) :=
  match afterWord? "Infinity" s, afterWord? "NaN" s with
  | some rest, _ => some (.float (Binary64.infinity minus), rest)
  | none, some rest => some (.float Binary64.nan, rest)
  | none, none =>
      match s with
      | '0' :: c :: rest =>
          if c = 'x' ∨ c = 'X' then hexadecimal minus rest else decimal minus s
      | _ => decimal minus s

/-- A number. -/
def number (s : List Char) : Option (Scalar × List Char) :=
  let (minus, rest) := Numeral.sign s
  unsigned minus rest

end Json5

end EdgeRig
