import EdgeRig.Number.Numeral

/-!
# Percent-encoding

An address is written with printable ASCII characters only.  Each of its parts has characters that
stand for themselves; every other character is written as its UTF-8 bytes, each a `%` and two
hexadecimal digits.  The `%` itself stands for itself everywhere, so bytes that are written already
stay as they are.

* `Percent.encode safe` writes a text, `Percent.decode` gives back its bytes.
* The `Percent.is…Char` predicates are the characters that stand for themselves.
-/

namespace EdgeRig

namespace Percent

/-- One byte, written out. -/
def byte (b : UInt8) : List Char := '%' :: Numeral.hex Numeral.upperHexChar 2 b.toNat

/-- The UTF-8 bytes of a character, written out. -/
def escaped (c : Char) : List Char := (String.utf8EncodeChar c).flatMap byte

/-- Write a text. -/
def encode (safe : Char → Bool) (s : List Char) : List Char :=
  s.flatMap fun c => if safe c then [c] else escaped c

/-- The bytes of a written text. -/
def decode : List Char → List UInt8
  | [] => []
  | '%' :: a :: b :: rest =>
      match Numeral.hexDigit? a, Numeral.hexDigit? b with
      | some m, some n => UInt8.ofNat (16 * m + n) :: decode rest
      | _, _ => String.utf8EncodeChar '%' ++ decode (a :: b :: rest)
  | c :: rest => String.utf8EncodeChar c ++ decode rest

/-! ## Characters that stand for themselves -/

/-- Printable characters of ASCII other than the given ones. -/
def printableBut (excluded : List Char) (c : Char) : Bool :=
  decide (32 ≤ c.toNat) && decide (c.toNat < 127) && !excluded.contains c

def isFragmentChar : Char → Bool := printableBut [' ', '"', '<', '>', '`']

def isQueryChar : Char → Bool := printableBut [' ', '"', '#', '<', '>']

def isPathChar : Char → Bool := printableBut [' ', '"', '#', '<', '>', '?', '`', '\x7b', '\x7d']

def isUserChar : Char → Bool :=
  printableBut
    [' ', '"', '#', '<', '>', '?', '`', '\x7b', '\x7d', '/', ';', '=', '@', '[', '\\', ']', '^',
     '|']

def isHostChar (c : Char) : Bool :=
  c.isAlphanum ||
    ['-', '.', '_', '~', '!', '$', '&', '\'', '(', ')', '*', '+', ',', ';', '=', '"', '`', '\x7b',
     '\x7d', '%', '|', '\\'].contains c

/-- A text of safe characters is written as it is. -/
theorem encode_of_safe {safe : Char → Bool} {s : List Char} (h : ∀ c ∈ s, safe c = true) :
    encode safe s = s := by
  induction s with
  | nil => rfl
  | cons c rest ih =>
    have hc := h c (by simp)
    have hr := ih fun d hd => h d (by simp [hd])
    simp only [encode, List.flatMap_cons, hc, if_true] at hr ⊢
    simpa using hr

end Percent

end EdgeRig
