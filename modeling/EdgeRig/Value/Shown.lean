import EdgeRig.Number.Shortest
import EdgeRig.Text.Halves
import EdgeRig.Unicode.Printable
import EdgeRig.Value

/-!
# Values in running text

`Value.shown` is the text of a value inside a message, a script or an address.  A text stands for
itself; inside a list or a mapping it is quoted, so that the end of each element can be seen.

* `Text.quoted` chooses the quote that needs no escape and escapes what cannot be printed.
* `Value.literal` writes an element, `Value.shown` a value that stands alone.
* `Value.shown?` gives no text for a value that holds a whole number of too many digits.
-/

namespace EdgeRig

namespace Text

/-- One character between quotes. -/
def escaped (quote c : Char) : List Char :=
  if c = quote ∨ c = '\\' then ['\\', c]
  else if c = '\n' then ['\\', 'n']
  else if c = '\r' then ['\\', 'r']
  else if c = '\t' then ['\\', 't']
  else if Unicode.isPrintable c then [c]
  else if Half.isHalf c then
    '\\' :: 'u' :: Numeral.hex Numeral.lowerHexChar 4 ((Half.code? c).getD 0)
  else if c.toNat < 256 then '\\' :: 'x' :: Numeral.hex Numeral.lowerHexChar 2 c.toNat
  else if c.toNat < 65536 then '\\' :: 'u' :: Numeral.hex Numeral.lowerHexChar 4 c.toNat
  else '\\' :: 'U' :: Numeral.hex Numeral.lowerHexChar 8 c.toNat

/-- A text between single quotes, or between double ones when it holds single ones only. -/
def quoted (s : List Char) : List Char :=
  let quote := if s.contains '\'' && !s.contains '"' then '"' else '\''
  quote :: (s.flatMap (escaped quote) ++ [quote])

/-- Words with a comma and a space between them. -/
def listed : List (List Char) → List Char
  | [] => []
  | [w] => w
  | w :: v :: ws => w ++ ',' :: ' ' :: listed (v :: ws)

/-- A name applied to words. -/
def applied (name : String) (ws : List (List Char)) : List Char :=
  name.toList ++ '(' :: (listed ws ++ [')'])

end Text

namespace TimeOfDay

/-- The parts of a time that are written out: seconds and microseconds only where needed. -/
def neededParts (t : TimeOfDay) : List Nat :=
  if t.micros ≠ 0 then [t.hour, t.minute, t.second, t.micros]
  else if t.second ≠ 0 then [t.hour, t.minute, t.second]
  else [t.hour, t.minute]

end TimeOfDay

namespace Moment

/-- An offset as a length of time; one west of the meridian counts back from a whole day. -/
def offsetLiteral (minutes : Int) : List Char :=
  if minutes = 0 then "datetime.timezone.utc".toList
  else
    let days : List (List Char) := if minutes < 0 then ["days=-1".toList] else []
    let seconds := (minutes * 60).emod 86400
    Text.applied "datetime.timezone"
      [Text.applied "datetime.timedelta" (days ++ ["seconds=".toList ++ Numeral.ofInt seconds])]

end Moment

namespace Scalar

/-- A value without parts as an element of a list or mapping. -/
def literal : Scalar → List Char
  | .null => "None".toList
  | .bool b => (if b then "True" else "False").toList
  | .int n => Numeral.ofInt n
  | .float x => x.text
  | .text s => Text.quoted s.toList
  | .date d => Text.applied "datetime.date" ([d.year, d.month, d.day].map Numeral.ofNat)
  | .time t => Text.applied "datetime.time" (t.neededParts.map Numeral.ofNat)
  | .moment m =>
      let parts := [m.date.year, m.date.month, m.date.day] ++ m.time.neededParts
      let zone := match m.offset with
        | none => []
        | some minutes => ["tzinfo=".toList ++ Moment.offsetLiteral minutes]
      Text.applied "datetime.datetime" (parts.map Numeral.ofNat ++ zone)

/-- The largest number of digits of a whole number that is written out. -/
def digitLimit : Nat := 4300

/-- Does a whole number have few enough digits to be written out? -/
def isWritable : Scalar → Bool
  | .int n => decide (n.natAbs < Scale.decimal digitLimit)
  | _ => true

/-- A whole number has too many digits to be written out. -/
def IsTooLong (n : Int) : Prop := Scale.decimal digitLimit ≤ n.natAbs

/-- A value without parts that stands alone. -/
def shown : Scalar → List Char
  | .text s => s.toList
  | .date d => d.text
  | .time t => t.text
  | .moment m => m.textWith ' '
  | s => s.literal

end Scalar

namespace Value

mutual

/-- A value as an element of a list or mapping. -/
def literal : Value → List Char
  | .scalar s => s.literal
  | .list items => '[' :: (Text.listed (literals items) ++ [']'])
  | .map entries => '\x7b' :: (Text.listed (entryLiterals entries) ++ ['\x7d'])

def literals : List Value → List (List Char)
  | [] => []
  | v :: vs => v.literal :: literals vs

def entryLiterals : List (Scalar × Value) → List (List Char)
  | [] => []
  | (k, v) :: es => (k.literal ++ ':' :: ' ' :: v.literal) :: entryLiterals es

end

/-- A value that stands alone. -/
def shown : Value → String
  | .scalar s => String.ofList s.shown
  | v => String.ofList v.literal

mutual

/-- Does every whole number in a value have few enough digits to be written out? -/
def isWritable : Value → Bool
  | .scalar s => s.isWritable
  | .list items => areWritable items
  | .map entries => areEntriesWritable entries

def areWritable : List Value → Bool
  | [] => true
  | v :: vs => v.isWritable && areWritable vs

def areEntriesWritable : List (Scalar × Value) → Bool
  | [] => true
  | (k, v) :: es => k.isWritable && v.isWritable && areEntriesWritable es

end

theorem isWritable_int {n : Int} : (Value.int n).isWritable = false ↔ Scalar.IsTooLong n := by
  have hwritable : (Value.int n).isWritable = decide (n.natAbs < Scale.decimal Scalar.digitLimit) := rfl
  rw [hwritable, decide_eq_false_iff_not, Nat.not_lt, Scalar.IsTooLong]

/-- The text of a value that can be written out. -/
def shown? (v : Value) : Option String := if v.isWritable then some v.shown else none

end Value

end EdgeRig
