import EdgeRig.Unicode.Composition
import EdgeRig.Unicode.Direction
import EdgeRig.Unicode.Joining
import EdgeRig.Unicode.Scripts
import EdgeRig.Url.LabelTable
import EdgeRig.Url.Punycode

/-!
# Labels

The name of a host is a row of labels.  A label holds lower case letters, digits, marks and hyphens
of any script, but only in one spelling: composed, without a mark at its start, and running in one
direction.  Some characters are allowed between certain others only.

* `Label.fits` tells whether a character may stand where it does, `Label.isValid` whether a whole
  text is a label.
* `Label.written?` is the ASCII form of a label.
-/

namespace EdgeRig

namespace Label

/-! ## Characters that need a context -/

/-- Arabic digits come in two rows, which are not mixed. -/
def arabicRow : Unicode.Ranges := [(0x660, 0x669)]

/-- The other row of Arabic digits. -/
def easternRow : Unicode.Ranges := [(0x6f0, 0x6f9)]

/-- Does the neighbour belong to a set? -/
def meets (set : Char → Bool) (neighbour : Option Char) : Bool := (neighbour.map set).getD false

/-- May the character stand between the given characters of a label, those before it listed
backwards? -/
def fitsBetween (back : List Char) (c : Char) (rest : List Char) : Bool :=
  let whole := back.reverse ++ c :: rest
  let code := c.toNat
  if code == 0xb7 then back.head? == some 'l' && rest.head? == some 'l'
  else if code == 0x375 then meets Unicode.greek.holds rest.head?
  else if code == 0x5f3 || code == 0x5f4 then meets Unicode.hebrew.holds back.head?
  else if code == 0x200c then meets Unicode.isVirama back.head? || Unicode.joins back rest
  else if code == 0x200d then meets Unicode.isVirama back.head?
  else if code == 0x30fb then whole.any fun d => d != c && Unicode.japanese.holds d
  else if arabicRow.holds c then !whole.any easternRow.holds
  else if easternRow.holds c then !whole.any arabicRow.holds
  else false

/-- May the character stand where it does? -/
def fits (back : List Char) (c : Char) (rest : List Char) : Bool :=
  characters.holds c || fitsBetween back c rest

/-- Do all characters of a label stand where they may? -/
def allFit (back : List Char) : List Char → Bool
  | [] => true
  | c :: rest => fits back c rest && allFit (c :: back) rest

/-! ## Labels -/

/-- Hyphens stand neither at an end nor together as the third and the fourth character. -/
def hyphensFit (s : List Char) : Bool :=
  s.head? != some '-' && s.getLast? != some '-' && !((s.drop 2).take 2 == ['-', '-'])

/-- Is the text a label? -/
def isValid (s : List Char) : Bool :=
  !s.isEmpty && hyphensFit s && !meets Unicode.isMark s.head? && allFit [] s &&
    Unicode.isComposed s && Unicode.Direction.agree (s.map Unicode.Direction.ofChar)

/-- What the ASCII form of a label starts with. -/
def mark : List Char := ['x', 'n', '-', '-']

def isAscii (s : List Char) : Bool := s.all fun c => decide (c.toNat < 128)

/-- Is the text after the mark the ASCII form of a label? -/
def isForm (s : List Char) : Bool :=
  !s.isEmpty && s.getLast? != some '-' && ((Punycode.decode? s).map isValid).getD false

/-- The form of a label that is written in ASCII, and of one that is not. -/
def form? (s : List Char) : Option (List Char) :=
  if isAscii s then
    let ok := match Text.after? mark s with
      | some rest => isForm rest
      | none => isValid s
    if ok then some s else none
  else if isValid s then some (mark ++ Punycode.encode s)
  else none

/-- The largest number of characters of a label. -/
def lengthLimit : Nat := 63

/-- The ASCII form of a label, unless it is too long. -/
def written? (s : List Char) : Option (List Char) :=
  (form? s).filter fun t => decide (t.length ≤ lengthLimit)

end Label

end EdgeRig
