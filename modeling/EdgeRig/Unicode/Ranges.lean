/-!
# Sets of characters as ranges

A set of code points is a list of closed ranges, or of runs where every second character belongs to
it.  Most tables beside this module list only characters beyond ASCII; the definitions that use them
say what holds within ASCII.

* `Unicode.Ranges.holds` is membership in ranges, `Unicode.Runs.holds` membership in runs.
* `Unicode.isWhite` is the property "white space"; `Unicode.trim` drops such characters at both ends
  of a text.
-/

namespace EdgeRig

namespace Unicode

/-- Closed ranges of code points. -/
abbrev Ranges := List (Nat × Nat)

namespace Ranges

def holds (rs : Ranges) (c : Char) : Bool :=
  rs.any fun r => decide (r.1 ≤ c.toNat) && decide (c.toNat ≤ r.2)

end Ranges

/-- Runs of code points: the first, the last, and the step from one to the next. -/
abbrev Runs := List (Nat × Nat × Nat)

namespace Runs

/-- Does a run hold the character? -/
def isIn (r : Nat × Nat × Nat) (c : Char) : Bool :=
  decide (r.1 ≤ c.toNat) && decide (c.toNat ≤ r.2.1) && (c.toNat - r.1) % r.2.2 == 0

def holds (rs : Runs) (c : Char) : Bool := rs.any fun r => isIn r c

end Runs

/-- Space separators beyond ASCII. -/
def spaceSeparators : Ranges :=
  [(0xa0, 0xa0), (0x1680, 0x1680), (0x2000, 0x200a), (0x202f, 0x202f), (0x205f, 0x205f),
   (0x3000, 0x3000)]

/-- The line separator and the paragraph separator. -/
def lineSeparators : Ranges := [(0x2028, 0x2029)]

/-- Characters of the property "white space": the blanks that are trimmed from settings. -/
def isWhite (c : Char) : Bool :=
  (decide (9 ≤ c.toNat) && decide (c.toNat ≤ 13)) || c == ' ' || c.toNat == 0x85 ||
    spaceSeparators.holds c || lineSeparators.holds c

/-- Drop white space at both ends. -/
def trim (s : List Char) : List Char :=
  ((s.dropWhile isWhite).reverse.dropWhile isWhite).reverse

end Unicode

end EdgeRig
