import EdgeRig.Number.Numeral
import EdgeRig.Number.Scale

/-!
# Dates, times of day and moments

Descriptors may hold calendar values.  A `Date` exists in the proleptic Gregorian calendar from
year 1 to year 9999, a `TimeOfDay` counts microseconds and knows no leap second, and a `Moment` is
a date and a time with or without an offset from universal time.

* `Date.ofParts?`, `TimeOfDay.ofParts?` build valid values only; validity is a field of the type.
* `Moment.same` compares two moments with offsets by the instant they name.
* `text` functions write the extended ISO form, with a fraction of six digits when it is not zero.
-/

namespace EdgeRig

/-! ## Dates -/

/-- Leap years of the Gregorian calendar. -/
def isLeapYear (year : Nat) : Bool :=
  year % 4 == 0 && (year % 100 != 0 || year % 400 == 0)

/-- The number of days in a month. -/
def daysInMonth (year month : Nat) : Nat :=
  if month == 2 then if isLeapYear year then 29 else 28
  else if month == 4 || month == 6 || month == 9 || month == 11 then 30
  else 31

/-- Does the calendar have this day? -/
def isDay (year month day : Nat) : Bool :=
  decide (1 ≤ year ∧ year ≤ 9999 ∧ 1 ≤ month ∧ month ≤ 12 ∧ 1 ≤ day ∧ day ≤ daysInMonth year month)

/-- A day of the calendar. -/
structure Date where
  year : Nat
  month : Nat
  day : Nat
  exists_day : isDay year month day = true
  deriving DecidableEq

namespace Date

def ofParts? (year month day : Nat) : Option Date :=
  if h : isDay year month day = true then some ⟨year, month, day, h⟩ else none

/-- The days in the months of a year before the given one. -/
def daysBeforeMonth (year : Nat) : (month : Nat) → Nat
  | 0 => 0
  | m + 1 => daysBeforeMonth year m + if m = 0 then 0 else daysInMonth year m

/-- The number of the day, counted from the first day of year 1. -/
def ordinal (d : Date) : Nat :=
  let y := d.year - 1
  365 * y + y / 4 - y / 100 + y / 400 + daysBeforeMonth d.year d.month + d.day

def text (d : Date) : List Char :=
  Numeral.padded 4 d.year ++ '-' :: (Numeral.padded 2 d.month ++ '-' :: Numeral.padded 2 d.day)

end Date

/-! ## Times of day -/

/-- Does the clock show this time? -/
def isTime (hour minute second micros : Nat) : Bool :=
  decide (hour < 24 ∧ minute < 60 ∧ second < 60 ∧ micros < 1000000)

/-- A time of day. -/
structure TimeOfDay where
  hour : Nat
  minute : Nat
  second : Nat
  micros : Nat
  exists_time : isTime hour minute second micros = true
  deriving DecidableEq

namespace TimeOfDay

def ofParts? (hour minute second micros : Nat) : Option TimeOfDay :=
  if h : isTime hour minute second micros = true then some ⟨hour, minute, second, micros, h⟩
  else none

/-- Microseconds since midnight. -/
def sinceMidnight (t : TimeOfDay) : Nat :=
  ((t.hour * 60 + t.minute) * 60 + t.second) * 1000000 + t.micros

def text (t : TimeOfDay) : List Char :=
  let whole := Numeral.padded 2 t.hour ++ ':' ::
    (Numeral.padded 2 t.minute ++ ':' :: Numeral.padded 2 t.second)
  if t.micros = 0 then whole else whole ++ '.' :: Numeral.padded 6 t.micros

end TimeOfDay

/-! ## Moments -/

/-- A date and a time of day, with the offset from universal time in minutes if one is given. -/
structure Moment where
  date : Date
  time : TimeOfDay
  offset : Option Int
  deriving DecidableEq

namespace Moment

/-- Microseconds since the start of the calendar, read on the moment's own clock. -/
def onOwnClock (m : Moment) : Int := m.date.ordinal * 86400000000 + m.time.sinceMidnight

/-- Moments with offsets are the same when they name one instant; a moment with an offset is never
the same as one without. -/
def same (a b : Moment) : Bool :=
  match a.offset, b.offset with
  | none, none => a == b
  | some p, some q => a.onOwnClock - p * 60000000 == b.onOwnClock - q * 60000000
  | _, _ => false

/-- The text of an offset. -/
def offsetText (minutes : Int) : List Char :=
  let n := minutes.natAbs
  (if minutes < 0 then '-' else '+') ::
    (Numeral.padded 2 (n / 60) ++ ':' :: Numeral.padded 2 (n % 60))

/-- Date, separator, time and offset. -/
def textWith (separator : Char) (m : Moment) : List Char :=
  m.date.text ++ separator :: (m.time.text ++
    match m.offset with
    | none => []
    | some minutes => offsetText minutes)

def text (m : Moment) : List Char := m.textWith 'T'

end Moment

/-! ## Reading -/

namespace Calendar

/-- A number of exactly `width` digits at the start of a text, and the rest. -/
def fixed (width : Nat) (s : List Char) : Option (Nat × List Char) :=
  let front := s.take width
  if front.length = width then
    (front.mapM Numeral.digit?).map fun ds => (Numeral.value 10 ds, s.drop width)
  else none

/-- The rest of a text that starts with the given character. -/
def mark (c : Char) : List Char → Option (List Char)
  | d :: rest => if d = c then some rest else none
  | [] => none

/-- The parts of a date at the start of a text: `YYYY-MM-DD`. -/
def dateParts (s : List Char) : Option ((Nat × Nat × Nat) × List Char) := do
  let (year, s) ← fixed 4 s
  let s ← mark '-' s
  let (month, s) ← fixed 2 s
  let s ← mark '-' s
  let (day, s) ← fixed 2 s
  some ((year, month, day), s)

/-- The microseconds that the digits of a fraction name; digits after the sixth are cut off. -/
def micros (ds : List Nat) : Nat :=
  let six := ds.take 6
  Numeral.value 10 six * Scale.decimal (6 - six.length)

/-- A time of day at the start of a text: `HH:MM:SS` and an optional fraction. -/
def timeOfDay (s : List Char) : Option (TimeOfDay × List Char) := do
  let (hour, s) ← fixed 2 s
  let s ← mark ':' s
  let (minute, s) ← fixed 2 s
  let s ← mark ':' s
  let (second, s) ← fixed 2 s
  let whole ← TimeOfDay.ofParts? hour minute second 0
  match s with
  | '.' :: rest =>
      match Numeral.plainDigits Numeral.digit? rest with
      | ([], _) => some (whole, s)
      | (ds, rest) => (TimeOfDay.ofParts? hour minute second (micros ds)).map (·, rest)
  | _ => some (whole, s)

/-- An offset at the start of a text: `Z`, or a sign and `HH:MM` below 24 hours. -/
def offset (s : List Char) : Option (Int × List Char) :=
  match s with
  | c :: rest =>
      if c = 'Z' ∨ c = 'z' then some (0, rest)
      else if c = '+' ∨ c = '-' then do
        let (hour, rest) ← fixed 2 rest
        let rest ← mark ':' rest
        let (minute, rest) ← fixed 2 rest
        if hour < 24 ∧ minute < 60 then
          some (Numeral.applySign (c == '-') (hour * 60 + minute), rest)
        else none
      else none
  | [] => none

/-- A time and, if one follows, an offset. -/
def clock (s : List Char) : Option ((TimeOfDay × Option Int) × List Char) := do
  let (time, s) ← timeOfDay s
  match offset s with
  | some (minutes, rest) => some ((time, some minutes), rest)
  | none => some ((time, none), s)

/-- Read a whole text as a date. -/
def date? (s : List Char) : Option Date :=
  match dateParts s with
  | some ((year, month, day), []) => Date.ofParts? year month day
  | _ => none

/-- Read a whole text as a time of day. -/
def time? (s : List Char) : Option TimeOfDay :=
  match timeOfDay s with
  | some (time, []) => some time
  | _ => none

/-- Read a whole text as a moment. -/
def moment? (s : List Char) : Option Moment := do
  let ((year, month, day), s) ← dateParts s
  let date ← Date.ofParts? year month day
  let s ← mark 'T' s
  match clock s with
  | some ((time, minutes), []) => some ⟨date, time, minutes⟩
  | _ => none

end Calendar

end EdgeRig
