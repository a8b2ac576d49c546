import EdgeRig.Number.Binary64
import EdgeRig.Number.Numeral

/-!
# The fewest decimal digits that read back

A double stands for every real number that rounds to it.  `Shortest.ofMagnitude` finds the decimal
with the fewest digits among those reals, and of two with equally many digits the nearer one.  All
tests are exact comparisons of integers.

`Binary64.text` writes the digits: positionally while the point stays within sixteen places to the
right and three to the left of the first digit, and with an exponent of at least two digits
otherwise; whole numbers end in `.0`.
-/

namespace EdgeRig

/-- Decimal digits and the place of the point: `0.d₁d₂… · 10^point`. -/
structure DecimalDigits where
  digits : Nat
  point : Int

namespace Shortest

/-- The reals that round to a double, as numerators over one denominator, and whether the two ends
belong to them. -/
structure Interval where
  low : Nat
  mid : Nat
  high : Nat
  den : Nat
  closed : Bool

/-- The interval of `m · 2^q`.  The gap below a power of two is half the gap above it, except at
the bottom of the range. -/
def Interval.ofMagnitude (m : Nat) (q : Int) : Interval :=
  let below := if m = Binary64.hidden ∧ -1074 < q then 1 else 2
  let up := if 2 ≤ q then Scale.binary (q - 2).toNat else 1
  let den := if 2 ≤ q then 1 else Scale.binary (2 - q).toNat
  { low := (4 * m - below) * up, mid := 4 * m * up, high := (4 * m + 2) * up, den := den,
    closed := m % 2 == 0 }

/-- Does `num / den` belong to the interval? -/
def Interval.holds (i : Interval) (num den : Nat) : Bool :=
  let a := num * i.den
  if i.closed then decide (i.low * den ≤ a) && decide (a ≤ i.high * den)
  else decide (i.low * den < a) && decide (a < i.high * den)

/-- The place of the point of `num / den`: `10^(p-1) ≤ num / den < 10^p`. -/
def pointPlace (num den : Nat) : Int :=
  let guess : Int := ((Numeral.digits num).length : Int) - (Numeral.digits den).length
  let reached : Bool :=
    if 0 ≤ guess then decide (den * Scale.decimal guess.toNat ≤ num)
    else decide (den ≤ num * Scale.decimal (-guess).toNat)
  if reached then guess + 1 else guess

/-- The nearest of the two points around the middle of the interval on the grid with `count`
digits, if one of them belongs to the interval. -/
def onGrid (i : Interval) (point : Int) (count : Nat) : Option DecimalDigits :=
  let step : Int := point - count
  let up := Scale.decimal step.toNat
  let down := Scale.decimal (-step).toNat
  let d := i.mid * down / (i.den * up)
  let lower := i.holds (d * up) down
  let upper := i.holds ((d + 1) * up) down
  let below := i.mid * down - d * (i.den * up)
  let above := (d + 1) * (i.den * up) - i.mid * down
  let pick : Option Nat :=
    if lower && upper then
      some (if below < above || (below == above && d % 2 == 0) then d else d + 1)
    else if lower then some d
    else if upper then some (d + 1)
    else none
  pick.map fun n => { digits := n, point := step }

/-- The first grid, coarsest first, that has a point in the interval.  Seventeen digits always
have one. -/
def search (i : Interval) (point : Int) : (count left : Nat) → DecimalDigits
  | count, 0 => { digits := i.mid / i.den, point := point - count }
  | count, left + 1 =>
      match onGrid i point count with
      | some d => d
      | none => search i point (count + 1) left

/-- The shortest decimal `digits · 10^point` that reads back as `m · 2^q`. -/
def ofMagnitude (m : Nat) (q : Int) : DecimalDigits :=
  let i := Interval.ofMagnitude m q
  search i (pointPlace i.mid i.den) 1 17

end Shortest

namespace Binary64

/-- Drop the zeros that end a digit list, counting them. -/
def stripZeros : List Nat → List Nat × Nat
  | [] => ([], 0)
  | d :: ds =>
      match stripZeros ds with
      | ([], n) => if d = 0 then ([], n + 1) else ([d], n)
      | (e :: es, n) => (d :: e :: es, n)

/-- The text of a positive finite number. -/
def positiveText (m : Nat) (q : Int) : List Char :=
  let shortest := Shortest.ofMagnitude m q
  let (ds, zeros) := stripZeros (Numeral.digits shortest.digits)
  let cs := ds.map Numeral.digitChar
  let point : Int := shortest.point + zeros + ds.length
  if -4 < point ∧ point ≤ 16 then
    if point ≤ 0 then '0' :: '.' :: (List.replicate (-point).toNat '0' ++ cs)
    else if ds.length ≤ point.toNat then
      cs ++ List.replicate (point.toNat - ds.length) '0' ++ ['.', '0']
    else cs.take point.toNat ++ '.' :: cs.drop point.toNat
  else
    let power := point - 1
    let mantissa := match cs with
      | c :: d :: rest => c :: '.' :: d :: rest
      | _ => cs
    let mark := if power < 0 then '-' else '+'
    mantissa ++ 'e' :: mark :: Numeral.padded 2 power.natAbs

/-- The text of a number: the fewest digits that read back. -/
def text (x : Binary64) : List Char :=
  if x.isNaN then ['n', 'a', 'n']
  else
    let unsigned := match x.magnitude with
      | none => ['i', 'n', 'f']
      | some (0, _) => ['0', '.', '0']
      | some (m, q) => positiveText m q
    if x.negative then '-' :: unsigned else unsigned

end Binary64

end EdgeRig
