import EdgeRig.Unicode.Marks

/-!
# Directions of writing

Most scripts are written from left to right, some from right to left, and some characters follow
their neighbours.  The tables list the characters that names of hosts may hold, as of version 14 of
the character standard; all that are not listed are written from left to right.

`Direction.agree` tells a text whose characters can be shown in one order only.
-/

namespace EdgeRig

namespace Unicode

/-- Letters that are written from right to left. -/
def rightToLeftLetters : Ranges :=
  [
   (0x5d0, 0x5ea), (0x5ef, 0x5f4), (0x620, 0x63f), (0x641, 0x64a), (0x66e, 0x66f), (0x671, 0x674),
   (0x679, 0x6d3), (0x6d5, 0x6d5), (0x6e5, 0x6e6), (0x6ee, 0x6ef), (0x6fa, 0x6ff), (0x710, 0x710),
   (0x712, 0x72f), (0x74d, 0x7a5), (0x7b1, 0x7b1), (0x7c0, 0x7ea), (0x7f4, 0x7f5), (0x800, 0x815),
   (0x81a, 0x81a), (0x824, 0x824), (0x828, 0x828), (0x840, 0x858), (0x860, 0x86a), (0x870, 0x887),
   (0x889, 0x88e), (0x8a0, 0x8c9), (0xfe73, 0xfe73), (0x10800, 0x10805), (0x10808, 0x10808),
   (0x1080a, 0x10835), (0x10837, 0x10838), (0x1083c, 0x1083c), (0x1083f, 0x10855),
   (0x10860, 0x10876), (0x10880, 0x1089e), (0x108e0, 0x108f2), (0x108f4, 0x108f5),
   (0x10900, 0x10915), (0x10920, 0x10939), (0x10980, 0x109b7), (0x109be, 0x109bf),
   (0x10a00, 0x10a00), (0x10a10, 0x10a13), (0x10a15, 0x10a17), (0x10a19, 0x10a35),
   (0x10a60, 0x10a7c), (0x10a80, 0x10a9c), (0x10ac0, 0x10ac7), (0x10ac9, 0x10ae4),
   (0x10b00, 0x10b35), (0x10b40, 0x10b55), (0x10b60, 0x10b72), (0x10b80, 0x10b91),
   (0x10c00, 0x10c48), (0x10cc0, 0x10cf2), (0x10d00, 0x10d23), (0x10e80, 0x10ea9),
   (0x10eb0, 0x10eb1), (0x10f00, 0x10f1c), (0x10f27, 0x10f27), (0x10f30, 0x10f45),
   (0x10f70, 0x10f81), (0x10fb0, 0x10fc4), (0x10fe0, 0x10ff6), (0x1e800, 0x1e8c4),
   (0x1e922, 0x1e943), (0x1e94b, 0x1e94b), (0x1e950, 0x1e959)]

/-- Digits that stand between letters written from right to left. -/
def arabicDigits : Ranges :=
  [
   (0x660, 0x669), (0x10d30, 0x10d39)]

/-- Digits that take the direction of what stands around them. -/
def europeanDigits : Ranges := [(0x30, 0x39), (0x6f0, 0x6f9)]

/-- Characters without a direction: hyphens, modifiers and joiners. -/
def neutralCharacters : Ranges :=
  [
   (0x2d, 0x2d), (0xb7, 0xb7), (0x2b9, 0x2ba), (0x2c6, 0x2cf), (0x2ec, 0x2ec), (0x375, 0x375),
   (0x200c, 0x200d), (0x2e2f, 0x2e2f), (0x30fb, 0x30fb), (0xa67f, 0xa67f), (0xa717, 0xa71f),
   (0xa788, 0xa788)]

/-- How a character takes part in the direction of a text. -/
inductive Direction where
  | leftToRight
  | rightToLeft
  | europeanDigit
  | arabicDigit
  | neutral
  /-- A mark goes with the character before it. -/
  | mark
  deriving DecidableEq

namespace Direction

/-- The direction of a character that a name of a host may hold. -/
def ofChar (c : Char) : Direction :=
  if europeanDigits.holds c then europeanDigit
  else if rightToLeftLetters.holds c then rightToLeft
  else if arabicDigits.holds c then arabicDigit
  else if neutralCharacters.holds c then neutral
  else if nonspacingMarks.holds c then mark
  else leftToRight

/-- Does the character make its text run from right to left? -/
def turns (d : Direction) : Bool := d == rightToLeft || d == arabicDigit

/-- May a text that runs from right to left end so? -/
def closes (d : Direction) : Bool := d == rightToLeft || d == europeanDigit || d == arabicDigit

/-- Do the characters of a text run in one direction?  A text that runs from right to left starts
with a letter of that direction, ends in one or in a digit, holds no letter of the other direction,
and digits of one kind only. -/
def agree (ds : List Direction) : Bool :=
  !ds.any turns ||
    (ds.head? == some rightToLeft && !ds.contains leftToRight &&
      !(ds.contains europeanDigit && ds.contains arabicDigit) &&
      ((ds.filter (· != mark)).getLast?.map closes).getD false)

end Direction

end Unicode

end EdgeRig
