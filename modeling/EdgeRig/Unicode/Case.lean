import EdgeRig.Unicode.CaseTables

/-!
# Case of texts

A text is put into lower or upper case as a whole: one character may become several, and a capital
sigma becomes another letter at the end of a word than within it.

* `Unicode.lower` and `Unicode.upper` are the two cases of a text.
-/

namespace EdgeRig

namespace Unicode

/-- The upper case of a character. -/
def upperOf (c : Char) : List Char :=
  if c.toNat < 128 then [c.toUpper]
  else
    match upperSpellings.lookup c.toNat with
    | some ns => ns.map Char.ofNat
    | none => [(upperShifts.image? c).getD c]

/-- A text in upper case. -/
def upper (s : List Char) : List Char := s.flatMap upperOf

/-- Does a text start with a character that has case, after those that case passes over? -/
def startsCased (s : List Char) : Bool :=
  ((s.dropWhile caseIgnorable.holds).head?.map cased.holds).getD false

/-- The lower case of a character, which does not look around for a sigma.  A capital I with a dot
keeps its dot. -/
def lowerOf (c : Char) : List Char :=
  if c.toNat < 128 then [c.toLower]
  else if c.toNat = 0x130 then ['i', Char.ofNat 0x307]
  else [(lowerShifts.image? c).getD c]

/-- The capital sigma. -/
def isSigma (c : Char) : Bool := c.toNat == 0x3a3

/-- The sigma that ends a word. -/
def finalSigma : Char := Char.ofNat 0x3c2

/-- A text in lower case; what stands before it is listed backwards.  A sigma ends a word when case
comes before it and none comes after it. -/
def lowerAfter (back : List Char) : List Char → List Char
  | [] => []
  | c :: rest =>
      (if isSigma c && startsCased back && !startsCased rest then [finalSigma] else lowerOf c) ++
        lowerAfter (c :: back) rest

/-- A text in lower case. -/
def lower (s : List Char) : List Char := lowerAfter [] s

end Unicode

end EdgeRig
