import EdgeRig.Proofs.Text
import EdgeRig.Url.Basic

/-!
# Numerals in addresses

The number of a port that is written into an address is found again when the address is read.

* `Numeral.length_ofNat_le` — how many digits a number needs.
* `Numeral.integer?_ofNat` — a written number is read as that number.
* `Url.readPort_written` — so is a written port, unless it is the one that is not written.
-/

namespace EdgeRig

/-! ## Numerals -/

namespace Numeral

/-- A number below a power of ten needs no more digits than the power has zeros. -/
theorem length_ofNat_le {k n : Nat} (h : n < Nat.pow 10 (k + 1)) : (ofNat n).length ≤ k + 1 := by
  rw [ofNat, List.length_map]
  induction k generalizing n with
  | zero =>
    rw [digits, if_pos h]
    exact Nat.le_refl 1
  | succ k ih =>
    rw [digits]
    split
    · exact Nat.succ_le_succ (Nat.zero_le _)
    · have hpow : Nat.pow 10 (k + 1 + 1) = Nat.pow 10 (k + 1) * 10 := rfl
      have hrest := ih (n := n / 10) (by omega)
      rw [List.length_append, List.length_singleton]
      omega

/-- The characters of the ten digits. -/
theorem digitChar_facts {d : Nat} (h : d < 10) :
    Unicode.decimalDigit? (digitChar d) = some d ∧ Unicode.isWhite (digitChar d) = false ∧
      digitChar d ≠ '-' ∧ digitChar d ≠ '+' ∧ isDigit (digitChar d) = true := by
  have hall : ∀ e ∈ List.range 10,
      Unicode.decimalDigit? (digitChar e) = some e ∧ Unicode.isWhite (digitChar e) = false ∧
        digitChar e ≠ '-' ∧ digitChar e ≠ '+' ∧ isDigit (digitChar e) = true := by
    decide
  exact hall d (List.mem_range.2 h)

/-- What is written with digits. -/
theorem mem_ofNat {n : Nat} {c : Char} (h : c ∈ ofNat n) : ∃ d < 10, c = digitChar d := by
  obtain ⟨d, hd, rfl⟩ := List.mem_map.1 h
  exact ⟨d, digits_lt n d hd, rfl⟩

/-- Digits are read as what they were written for. -/
theorem groupedDigits_map {afterDigit : Bool} {ds : List Nat} (h : ∀ d ∈ ds, d < 10) :
    groupedDigits Unicode.decimalDigit? afterDigit (ds.map digitChar) = (ds, []) := by
  induction ds generalizing afterDigit with
  | nil => rfl
  | cons d ds ih =>
    obtain ⟨hd, hds⟩ := List.forall_mem_cons.1 h
    rw [List.map_cons, groupedDigits, (digitChar_facts hd).1]
    dsimp only
    rw [ih hds]

theorem sign_ofNat (n : Nat) : sign (ofNat n) = (false, ofNat n) := by
  cases hs : ofNat n with
  | nil => exact absurd hs (ofNat_ne_nil n)
  | cons c rest =>
    obtain ⟨d, hd, rfl⟩ := mem_ofNat (n := n) (c := c) (by rw [hs]; exact List.mem_cons_self ..)
    obtain ⟨-, -, hminus, hplus, -⟩ := digitChar_facts hd
    unfold sign
    split
    · rename_i h
      exact absurd (List.cons.inj h).1 hminus
    · rename_i h
      exact absurd (List.cons.inj h).1 hplus
    · rfl

/-- **A written number is read as that number**, among the digits of any script. -/
theorem integer?_ofNat (n : Nat) : integer? Unicode.decimalDigit? (ofNat n) = some (n : Int) := by
  have hread : groupedDigits Unicode.decimalDigit? false (ofNat n) = (digits n, []) :=
    groupedDigits_map (digits_lt n)
  rw [integer?, sign_ofNat]
  dsimp only
  rw [hread]
  cases hd : digits n with
  | nil => exact absurd hd (digits_ne_nil n)
  | cons d ds =>
    dsimp only
    rw [← hd, value_digits]
    rfl

/-- A written number has nothing to be trimmed off. -/
theorem trim_ofNat (n : Nat) : Unicode.trim (ofNat n) = ofNat n := by
  have hwhite : ∀ c ∈ ofNat n, ¬ Unicode.isWhite c = true := by
    intro c hc
    obtain ⟨d, hd, rfl⟩ := mem_ofNat hc
    rw [(digitChar_facts hd).2.1]
    exact Bool.false_ne_true
  have hfront : ∀ s : List Char, (∀ c ∈ s, ¬ Unicode.isWhite c = true) →
      s.dropWhile Unicode.isWhite = s :=
    fun s hs => List.dropWhile_eq_self_iff.2 fun hl => hs _ (List.getElem_mem hl)
  rw [Unicode.trim, hfront _ hwhite, hfront _ fun c hc => hwhite c (List.mem_reverse.1 hc),
    List.reverse_reverse]

end Numeral

/-! ## Ports -/

namespace Url

/-- The port in its place. -/
def portText : Option Int → List Char
  | none => []
  | some n => ':' :: Numeral.ofInt n

/-- The form in which a port of the scheme `http` is kept. -/
def keptPort (n : Int) : Option Int := if n = 80 then none else some n

theorem ofInt_of_nonneg {n : Int} (h : 0 ≤ n) : Numeral.ofInt n = Numeral.ofNat n.toNat := by
  rw [Numeral.ofInt, if_neg (by omega)]
  congr 1
  omega

/-- The largest number that a port can be. -/
def largestPort : Int := 65535

/-- **A written port is read as that port**, which is kept unless it is the usual one. -/
theorem readPort_written {n : Int} (hpos : 0 ≤ n) (hle : n ≤ largestPort) :
    readPort "http".toList (':' :: Numeral.ofInt n) = .ok (keptPort n) := by
  have hlength : (Numeral.ofNat n.toNat).length ≤ 5 := by
    have hpow : Nat.pow 10 (4 + 1) = 100000 := rfl
    unfold largestPort at hle
    exact Numeral.length_ofNat_le (by omega)
  have hcount : ¬ portLimit < digitCount (Numeral.ofNat n.toNat) := by
    have : digitCount (Numeral.ofNat n.toNat) ≤ (Numeral.ofNat n.toNat).length :=
      List.countP_le_length
    unfold portLimit
    omega
  have husual : usualPort? "http".toList = some 80 := rfl
  have hn : (n.toNat : Int) = n := Int.toNat_of_nonneg hpos
  rw [ofInt_of_nonneg hpos, readPort]
  rw [if_neg (by simp [Numeral.ofNat_ne_nil]), if_neg hcount, Numeral.trim_ofNat,
    Numeral.integer?_ofNat, husual, hn]
  unfold keptPort
  by_cases h : n = 80
  · rw [if_pos h, h]
    rfl
  · have hne : ¬ some (80 : Int) = some n := fun hc => h (Option.some.inj hc).symm
    rw [if_neg h]
    dsimp only
    rw [if_neg hne]

/-- The form in which a port is kept is written as a port that is read as that form. -/
theorem readPort_portText {n : Int} (hpos : 0 ≤ n) (hle : n ≤ largestPort) :
    readPort "http".toList (portText (keptPort n)) = .ok (keptPort n) := by
  unfold keptPort
  by_cases h : n = 80
  · rw [if_pos h]
    rfl
  · rw [if_neg h]
    have := readPort_written hpos hle
    rwa [keptPort, if_neg h] at this

end Url

end EdgeRig
