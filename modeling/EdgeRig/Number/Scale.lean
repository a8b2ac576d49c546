/-!
# Scales

The powers by which numbers are scaled: those of two move a binary point, those of ten a decimal
one.
-/

namespace EdgeRig

namespace Scale

/-- The power of two that moves a binary point by `n` places. -/
def binary (n : Nat) : Nat := Nat.pow 2 n

/-- The power of ten that moves a decimal point by `n` places. -/
def decimal (n : Nat) : Nat := Nat.pow 10 n

theorem decimal_mono {m n : Nat} (h : m ≤ n) : decimal m ≤ decimal n :=
  Nat.pow_le_pow_right (by decide) h

end Scale

end EdgeRig
