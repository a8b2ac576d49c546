import EdgeRig.Number.Scale

/-!
# Double-precision numbers

A floating-point number is held as its 64 bits, so that equality of numbers as data is equality
of bit patterns, and every operation is defined by exact integer arithmetic.

* `Binary64.magnitude` reads a finite number as `m · 2^q`.
* `Binary64.ofRatio` rounds a quotient to the nearest double, an exact half to the even
  neighbour; `Binary64.ofDecimal` and `Binary64.ofInt` are instances of it.
* `Binary64.add` is the rounded exact sum.
-/

namespace EdgeRig

/-- A double-precision number, held as its bit pattern. -/
structure Binary64 where
  bits : UInt64
  deriving DecidableEq, Repr, Inhabited

namespace Binary64

/-- One bit above the fraction field. -/
def hidden : Nat := Scale.binary 52

/-- The sign bit. -/
def signBit : Nat := Scale.binary 63

/-- The bit pattern of positive infinity. -/
def infinityBits : Nat := 2047 * hidden

/-- The only pattern kept for "not a number". -/
def nan : Binary64 := ⟨0x7ff8000000000000⟩

/-- The number with the given sign and the given pattern of the other 63 bits. -/
def signed (negative : Bool) (pattern : Nat) : Binary64 :=
  ⟨UInt64.ofNat (if negative then signBit + pattern else pattern)⟩

def infinity (negative : Bool) : Binary64 := signed negative infinityBits

def zero (negative : Bool) : Binary64 := signed negative 0

/-! ## Reading the pattern -/

def negative (x : Binary64) : Bool := decide (signBit ≤ x.bits.toNat)

/-- The pattern without its sign. -/
def pattern (x : Binary64) : Nat := x.bits.toNat % signBit

def isNaN (x : Binary64) : Bool := decide (infinityBits < x.pattern)

def isInfinite (x : Binary64) : Bool := decide (x.pattern = infinityBits)

def isZero (x : Binary64) : Bool := decide (x.pattern = 0)

/-- A number above zero: not zero, not negative, not "not a number". -/
def isPositive (x : Binary64) : Bool := !x.negative && !x.isZero && !x.isNaN

/-- All patterns of "not a number" are one. -/
def ofBits (bits : UInt64) : Binary64 :=
  if (Binary64.mk bits).isNaN then nan else ⟨bits⟩

/-- The size of a finite number as `m · 2^q`. -/
def magnitude (x : Binary64) : Option (Nat × Int) :=
  let field := x.pattern / hidden
  let fraction := x.pattern % hidden
  if field = 2047 then none
  else if field = 0 then some (fraction, -1074)
  else some (hidden + fraction, (field : Int) - 1075)

/-- The integer a number is equal to, if it is one. -/
def toInt? (x : Binary64) : Option Int :=
  match x.magnitude with
  | none => none
  | some (m, q) =>
      let size : Option Nat :=
        if 0 ≤ q then some (m * Scale.binary q.toNat)
        else if m % Scale.binary (-q).toNat = 0 then some (m / Scale.binary (-q).toNat) else none
      size.map fun n => if x.negative then -(n : Int) else n

/-- Equality of numbers: zero has two patterns, and "not a number" differs from itself. -/
def same (x y : Binary64) : Bool :=
  !x.isNaN && (x == y || (x.isZero && y.isZero))

/-! ## Rounding -/

/-- Round a positive quotient to the nearest integer, a half to the even neighbour. -/
def roundDiv (num den : Nat) : Nat :=
  let q := num / den
  let r := num % den
  if 2 * r > den || (2 * r == den && q % 2 == 1) then q + 1 else q

/-- The power `q` at which `num / den` has 53 binary digits, but never below that of the smallest
doubles. -/
def rangePower (num den : Nat) : Int :=
  let guess : Int := (Nat.log2 num : Int) - Nat.log2 den - 53
  let tooBig : Bool :=
    if 0 ≤ guess then decide (2 * hidden * den * Scale.binary guess.toNat ≤ num)
    else decide (2 * hidden * den ≤ num * Scale.binary (-guess).toNat)
  max (if tooBig then guess + 1 else guess) (-1074)

/-- The double nearest to `num / den`. -/
def ofRatio (negative : Bool) (num den : Nat) : Binary64 :=
  if num = 0 then zero negative
  else
    let q := rangePower num den
    let m := if 0 ≤ q then roundDiv num (den * Scale.binary q.toNat)
      else roundDiv (num * Scale.binary (-q).toNat) den
    signed negative (min ((q + 1074).toNat * hidden + m) infinityBits)

/-- The double nearest to `digits · 10^power`.  Powers far outside the range are settled by size,
without computing them. -/
def ofDecimal (negative : Bool) (digits : Nat) (power : Int) : Binary64 :=
  if digits = 0 then zero negative
  else if 400 < power then infinity negative
  else if power < -400 - (Nat.log2 digits : Int) then zero negative
  else if 0 ≤ power then ofRatio negative (digits * Scale.decimal power.toNat) 1
  else ofRatio negative digits (Scale.decimal (-power).toNat)

/-- The double nearest to an integer. -/
def ofInt (n : Int) : Binary64 := ofRatio (decide (n < 0)) n.natAbs 1

/-! ## Addition -/

/-- The rounded sum.  Opposite infinities have none, and a sum of two zeros is negative only when
both are. -/
def add (x y : Binary64) : Binary64 :=
  if x.isNaN || y.isNaN then nan
  else
    match x.magnitude, y.magnitude with
    | none, none => if x.negative == y.negative then x else nan
    | none, some _ => x
    | some _, none => y
    | some (m, p), some (n, q) =>
        let low := min p q
        let a : Int := (m * Scale.binary (p - low).toNat : Nat)
        let b : Int := (n * Scale.binary (q - low).toNat : Nat)
        let sum := (if x.negative then -a else a) + (if y.negative then -b else b)
        if sum = 0 then zero (x.negative && y.negative)
        else if 0 ≤ low then ofRatio (decide (sum < 0)) (sum.natAbs * Scale.binary low.toNat) 1
        else ofRatio (decide (sum < 0)) sum.natAbs (Scale.binary (-low).toNat)

end Binary64

end EdgeRig
