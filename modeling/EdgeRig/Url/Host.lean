import EdgeRig.Unicode.Case
import EdgeRig.Url.Label
import EdgeRig.Url.Percent

/-!
# Hosts

A host is an IPv4 address, an IPv6 address between brackets, or a name.  What looks like an address
has to be one.

* `Host.isIPv4`, `Host.isIPv6` are the two grammars of addresses, and `Host.isLiteral` allows for
  addresses that are still to come.
* `Host.read` gives the form in which a host is kept: addresses as they are written, the latter
  without its brackets, names in lower case and in ASCII.
-/

namespace EdgeRig

namespace Host

/-! ## Addresses -/

/-- A number of an IPv4 address: one to three digits without leading zeros, at most 255. -/
def isOctet (s : List Char) : Bool :=
  match Numeral.read? Numeral.digit? 10 s with
  | some n => decide (s.length ≤ 3) && decide (n ≤ 255) && (s.length == 1 || s.head? != some '0')
  | none => false

def isIPv4 (s : List Char) : Bool :=
  let parts := Text.pieces '.' s
  parts.length == 4 && parts.all isOctet

/-- Does a host look like an IPv4 address?  Four numbers with full stops between them do. -/
def looksIPv4 (s : List Char) : Bool :=
  let parts := Text.pieces '.' s
  parts.length == 4 && parts.all fun p => !p.isEmpty && p.all Numeral.isDigit

/-- A number of an IPv6 address: one to four hexadecimal digits. -/
def isHextet (s : List Char) : Bool :=
  decide (s.length ≤ 4) && (Numeral.read? Numeral.hexDigit? 16 s).isSome

/-- The numbers of an IPv6 address, with an IPv4 address at the end as two numbers. -/
def widen (parts : List Text.Piece) : Option (List Text.Piece) :=
  match parts.getLast? with
  | none => none
  | some last =>
      if last.contains '.' then
        if isIPv4 last then some (parts.dropLast ++ [['0'], ['0']]) else none
      else some parts

/-- The numbers on one side of a gap.  An empty number beside the gap at an end of the address
belongs to the gap. -/
def isSide (side : List Text.Piece) : Bool := side == [[]] || side.all isHextet

/-- The count of the numbers on one side of a gap. -/
def sideCount (side : List Text.Piece) : Nat := if side == [[]] then 0 else side.length

/-- Eight numbers, or fewer with one gap, written as two colons. -/
def isHextets (parts : List Text.Piece) : Bool :=
  let inner := (parts.drop 1).dropLast
  if inner.contains [] then
    let gap := 1 + inner.idxOf []
    let front := parts.take gap
    let back := parts.drop (gap + 1)
    isSide front && isSide back && decide (sideCount front + sideCount back < 8)
  else parts.length == 8 && parts.all isHextet

/-- The address without the name of its zone, if the name is well formed. -/
def withoutZone (s : List Char) : Option (List Char) :=
  match Text.cut '%' s with
  | (_, none) => some s
  | (address, some zone) => if zone.isEmpty || zone.contains '%' then none else some address

def isIPv6 (s : List Char) : Bool :=
  if s.contains '/' then false
  else
    match withoutZone s with
    | none => false
    | some address =>
        let parts := Text.pieces ':' address
        decide (3 ≤ parts.length) &&
          match widen parts with
          | none => false
          | some numbers => decide (numbers.length ≤ 9) && isHextets numbers

/-- An address of a kind that is still to come: a version, a full stop and some text. -/
def isFuture (s : List Char) : Bool :=
  match Text.cut '.' s with
  | ('v' :: version, some (_ :: _)) =>
      !version.isEmpty && version.all fun c => (Numeral.hexDigit? c).isSome
  | _ => false

/-- An address that may stand between brackets. -/
def isLiteral (s : List Char) : Bool := if s.head? = some 'v' then isFuture s else isIPv6 s

/-! ## Names -/

/-- The full stops that may stand between labels. -/
def isDot (c : Char) : Bool :=
  c == '.' || c.toNat == 0x3002 || c.toNat == 0xff0e || c.toNat == 0xff61

/-- The largest number of characters of a name, apart from a full stop at its end. -/
def lengthLimit : Nat := 253

/-- The ASCII form of a name.  A full stop may end it. -/
def international? (s : List Char) : Option (List Char) :=
  let labels := Text.pieces '.' (s.map fun c => if isDot c then '.' else c)
  let closed := decide (1 < labels.length) && labels.getLast? == some []
  ((if closed then labels.dropLast else labels).mapM Label.written?).bind fun written =>
    let name := Text.glue '.' written
    if name.length ≤ lengthLimit then some (if closed then name ++ ['.'] else name) else none

/-! ## Hosts -/

/-- Is the host between brackets? -/
def isBracketed (s : List Char) : Bool :=
  decide (2 ≤ s.length) && s.head? == some '[' && s.getLast? == some ']'

/-- The form in which a host is kept. -/
def read (s : List Char) : Option (List Char) :=
  if s.isEmpty then some []
  else if looksIPv4 s then if isIPv4 s then some s else none
  else if isBracketed s then
    let inner := (s.drop 1).dropLast
    if isIPv6 inner then some inner else none
  else if Label.isAscii s then some (Percent.encode Percent.isHostChar (s.map Char.toLower))
  else international? (Unicode.lower s)

end Host

end EdgeRig
