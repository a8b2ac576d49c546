import EdgeRig.Number.Binary64
import EdgeRig.Number.Numeral
import EdgeRig.Text.Pieces
import EdgeRig.Unicode.Ranges

/-!
# Numbers and truth values written as text

Settings often arrive as text.  Blank characters around the text do not count, and digits are the
ten of ASCII.

* `Written.whole` reads a whole number.  Its plain form has no leading zeros and no sign but a
  minus; a text that is not plain is made so first, by taking off a plus, leading zeros, a fraction
  of zeros, and the underscores between digits.
* `Written.number?` reads a decimal number, with or without a point and an exponent, and the names
  of the infinities and of "not a number".
* `Written.truth?` reads the usual words for true and false.
-/

namespace EdgeRig

namespace Written

/-- The text without its underscores, if they only separate: none stands at an end and no two stand
side by side.  A text without underscores has none to take off. -/
def withoutSeparators? (s : List Char) : Option (List Char) :=
  let doubled := (s.zip (s.drop 1)).any fun p => p.1 == '_' && p.2 == '_'
  if s.contains '_' && s.head? != some '_' && s.getLast? != some '_' && !doubled then
    some (s.filter (· != '_'))
  else none

/-! ## Whole numbers -/

/-- What a text says about a whole number. -/
inductive Whole where
  | number (n : Int)
  /-- The text has too many digits. -/
  | oversized
  | unreadable
  deriving DecidableEq

/-- The largest number of characters of a whole number. -/
def integerLimit : Nat := 4300

/-- A whole number in its plain form: an optional minus and digits without leading zeros.  Too many
digits are noticed before what may follow them. -/
def plain (s : List Char) : Whole :=
  let minus := s.head? == some '-'
  let (ds, rest) := Numeral.plainDigits Numeral.digit? (if minus then s.drop 1 else s)
  if ds.isEmpty || (ds.head? == some 0 && decide (1 < ds.length)) then .unreadable
  else if integerLimit < ds.length + (if minus then 1 else 0) then .oversized
  else if rest.isEmpty then .number (Numeral.applySign minus (Numeral.value 10 ds))
  else .unreadable

/-- The text without a plus in front; a second sign may not follow. -/
def withoutPlus? : List Char → Option (List Char)
  | '+' :: '-' :: _ => none
  | '+' :: rest => some rest
  | s => some s

/-- The text after zeros and underscores, the last of which is given.  It stays where nothing or a
point follows. -/
def afterZeros? (last : Char) : List Char → Option (List Char)
  | [] => some [last]
  | c :: rest =>
      if c = '0' ∨ c = '_' then afterZeros? c rest
      else if c = '.' then some (last :: c :: rest)
      else if c = '-' ∨ Numeral.isDigit c = true then some (c :: rest)
      else none

/-- The text without leading zeros. -/
def withoutZeros? : List Char → Option (List Char)
  | [] => none
  | c :: rest =>
      if c = '0' then afterZeros? c rest
      else if c = '-' ∨ Numeral.isDigit c = true then some (c :: rest)
      else none

/-- The text without a fraction of zeros. -/
def withoutZeroFraction (s : List Char) : List Char :=
  match Text.cut '.' s with
  | (front, some zeros) => if !zeros.isEmpty && zeros.all (· == '0') then front else s
  | _ => s

/-- The plain form of a text that is none itself. -/
def cleaned? (s : List Char) : Option (List Char) := do
  let s ← withoutPlus? s
  let s ← withoutZeros? s
  let s := withoutZeroFraction s
  some ((withoutSeparators? s).getD s)

/-- Read a whole number. -/
def whole (s : String) : Whole :=
  let body := Unicode.trim s.toList
  match plain body with
  | .unreadable =>
      match cleaned? body with
      | some t => plain t
      | none => .unreadable
  | w => w

/-! ## Numbers -/

/-- Lower case of the letters of ASCII. -/
def lower (s : List Char) : List Char := s.map Char.toLower

/-- The exponent that ends a number: no text at all, or a mark, an optional sign and digits. -/
def exponent? : List Char → Option Int
  | [] => some 0
  | c :: rest =>
      if c = 'e' ∨ c = 'E' then
        let (minus, unsigned) := Numeral.sign rest
        match Numeral.plainDigits Numeral.digit? unsigned with
        | ([], _) => none
        | (ds, []) => some (Numeral.applySign minus (Numeral.value 10 ds))
        | _ => none
      else none

/-- The digits after a point, if there is one, and the text after them. -/
def fraction : List Char → List Nat × List Char
  | '.' :: rest => Numeral.plainDigits Numeral.digit? rest
  | rest => ([], rest)

/-- An unsigned decimal number. -/
def decimal? (minus : Bool) (s : List Char) : Option Binary64 :=
  let (front, rest) := Numeral.plainDigits Numeral.digit? s
  let (part, rest) := fraction rest
  if front.isEmpty && part.isEmpty then none
  else
    (exponent? rest).map fun power =>
      Binary64.ofDecimal minus (Numeral.value 10 (front ++ part)) (power - part.length)

/-- An unsigned number: a name or a decimal number. -/
def unsigned? (minus : Bool) (s : List Char) : Option Binary64 :=
  let word := String.ofList (lower s)
  if word = "inf" ∨ word = "infinity" then some (Binary64.infinity minus)
  else if word = "nan" then some Binary64.nan
  else decimal? minus s

/-- A number without blanks and underscores. -/
def signed? (s : List Char) : Option Binary64 :=
  let (minus, unsigned) := Numeral.sign s
  unsigned? minus unsigned

/-- Read a number.  Blanks may stand around it or underscores in it, but not both. -/
def number? (s : String) : Option Binary64 :=
  (signed? (Unicode.trim s.toList)).or ((withoutSeparators? s.toList).bind signed?)

/-! ## Truth values -/

/-- The words for true and for false, in any case of letters. -/
def truth? (s : String) : Option Bool :=
  let word := String.ofList (lower s.toList)
  if ["1", "on", "t", "true", "y", "yes"].contains word then some true
  else if ["0", "off", "f", "false", "n", "no"].contains word then some false
  else none

end Written

end EdgeRig
