/-!
# Halves of characters

A character beyond the first plane can be named by two codes, one for each half of it.  A text that
names the halves one by one holds two characters, and is another text than the one that holds the
whole character.  Only when it is handed out do the halves go together.

Within a text a half stands as a private character.

* `Half.ofCode` is the character of a code, whether it is a half or not.
* `Half.joined` puts the halves of a text together; `joined_of_whole` says that a text without
  halves stays as it is.
-/

namespace EdgeRig

namespace Half

/-- The way from the code of a half to the private character that stands for it. -/
def shift : Nat := 0xf0000

/-- Is the code that of a half? -/
def isCode (n : Nat) : Bool := decide (0xd800 ≤ n) && decide (n < 0xe000)

/-- The character of a code of the first plane. -/
def ofCode (n : Nat) : Char := Char.ofNat (if isCode n then shift + n else n)

/-- The code of a half. -/
def code? (c : Char) : Option Nat :=
  if shift ≤ c.toNat ∧ isCode (c.toNat - shift) = true then some (c.toNat - shift) else none

def isHalf (c : Char) : Bool := (code? c).isSome

/-- The character of a first and a second half. -/
def whole? (c d : Char) : Option Char :=
  match code? c, code? d with
  | some m, some n =>
      if m < 0xdc00 ∧ 0xdc00 ≤ n then
        some (Char.ofNat (0x10000 + (m - 0xd800) * 0x400 + (n - 0xdc00)))
      else none
  | _, _ => none

/-- A text with its halves put together. -/
def joined : List Char → List Char
  | [] => []
  | [c] => [c]
  | c :: d :: rest =>
      match whole? c d with
      | some e => e :: joined rest
      | none => c :: joined (d :: rest)

theorem whole?_of_not_half {c d : Char} (h : isHalf c = false) : whole? c d = none := by
  simp only [isHalf, Option.isSome_eq_false_iff, Option.isNone_iff_eq_none] at h
  simp [whole?, h]

/-- A text without halves stays as it is. -/
theorem joined_of_whole {s : List Char} (h : ∀ c ∈ s, isHalf c = false) : joined s = s := by
  induction s with
  | nil => rfl
  | cons c rest ih =>
    have hr := ih fun d hd => h d (by simp [hd])
    cases rest with
    | nil => rfl
    | cons d rest => simp [joined, whole?_of_not_half (h c (by simp)), hr]

end Half

end EdgeRig
