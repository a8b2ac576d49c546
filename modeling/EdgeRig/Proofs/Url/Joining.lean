import EdgeRig.Proofs.Url.Reading

/-!
# Joining relative references

A relative reference takes its scheme and its place from the base, whatever its path, its query and its
fragment are.

* `Reference.namesSite_text` — a reference with a place is written with that place in front.
* `Reference.namesSite_join` — a relative reference that is joined to a base names the place of the base.
-/

namespace EdgeRig

namespace Reference

open Url (NamesScheme IsRelative NamesSite EndsPlace http)

theorem splitScheme_of_not_namesScheme {s : List Char} (h : ¬ NamesScheme s) :
    splitScheme s = (none, s) := by
  rcases Text.cut_cases ':' s with ⟨-, hcut⟩ | ⟨front, rest, rfl, -, hcut⟩
  · rw [splitScheme, hcut]
    cases s <;> rfl
  · cases front with
    | nil => rw [splitScheme, hcut]
    | cons c front =>
      have hscheme : ¬ (c.isAlpha && front.all Url.isSchemeChar) = true := by
        intro hc
        obtain ⟨halpha, hall⟩ := Bool.and_eq_true_iff.1 hc
        exact h ⟨c, front, rest, rfl, halpha, List.all_eq_true.1 hall⟩
      rw [splitScheme, hcut]
      dsimp only
      rw [if_neg hscheme]

theorem splitScheme_http (rest : List Char) :
    splitScheme (http ++ ':' :: rest) = (some http, rest) := by
  rw [splitScheme, Text.cut_append (by decide)]
  rfl

/-- Scheme and place of a reference. -/
theorem ofText_ok {scheme s : List Char} {r : Reference} (h : ofText scheme s = .ok r) :
    r.scheme = (splitScheme s).1.getD scheme ∧
      r.authority = (Url.splitAuthority (splitScheme s).2).1 := by
  unfold ofText at h
  dsimp only at h
  split at h
  · cases h
    exact ⟨rfl, rfl⟩
  · cases h

theorem head?_after {query fragment : List Char} {c : Char}
    (h : (after '?' query ++ after '#' fragment).head? = some c) : c ∈ ['?', '#'] := by
  unfold after at h
  cases query with
  | cons d query => cases h; decide
  | nil =>
    cases fragment with
    | cons d fragment => cases h; decide
    | nil => cases h

/-- The path behind a place. -/
def rooted (path : List Char) : List Char :=
  if path.isEmpty || path.head? == some '/' then path else '/' :: path

theorem isRooted_rooted (path : List Char) : Url.IsRooted (rooted path) := by
  intro c hc
  unfold rooted at hc
  split at hc
  · rename_i h
    cases path with
    | nil => cases hc
    | cons d rest =>
      obtain rfl := Option.some.inj hc
      simpa using h
  · exact (Option.some.inj hc).symm

/-- **A reference with a place is written with that place in front.** -/
theorem namesSite_text {r : Reference} (hscheme : r.scheme = http) (hplace : r.authority ≠ []) :
    NamesSite r.authority r.text := by
  have hne : r.authority.isEmpty = false := by simpa using hplace
  refine ⟨rooted (r.path ++ after ';' r.parameters) ++ (after '?' r.query ++ after '#' r.fragment),
    Url.endsPlace_of_isRooted (isRooted_rooted _) fun c hc => head?_after hc, ?_⟩
  rw [text, hscheme, hne]
  simp [rooted]

/-- **A relative reference that is joined to a base names the place of the base.** -/
theorem namesSite_join {authority base s t : List Char} (hne : authority ≠ [])
    (hmarks : ∀ c ∈ authority, c ∉ ['/', '?', '#', '@']) (hbase : NamesSite authority base)
    (hs : IsRelative s) (h : join base s = .ok t) : NamesSite authority t := by
  unfold join at h
  by_cases hempty : s.isEmpty = true
  · rw [if_pos hempty] at h
    cases h
    exact hbase
  · obtain ⟨tail, htail, rfl⟩ := hbase
    rw [if_neg hempty] at h
    obtain ⟨b, hb, h⟩ := Except.bind_eq_ok_iff.1 h
    obtain ⟨r, hr, h⟩ := Except.bind_eq_ok_iff.1 h
    obtain ⟨hbscheme, hbplace⟩ := ofText_ok hb
    obtain ⟨hrscheme, hrplace⟩ := ofText_ok hr
    rw [splitScheme_http] at hbscheme hbplace
    rw [Url.splitAuthority_site hmarks htail] at hbplace
    rw [splitScheme_of_not_namesScheme hs.schemeless] at hrscheme hrplace
    rw [Url.splitAuthority_of_no_slashes hs.placeless] at hrplace
    have hscheme : r.scheme = b.scheme := hrscheme
    rw [if_pos hscheme] at h
    cases h
    have hseen : (r.seenFrom b).scheme = http ∧ (r.seenFrom b).authority = authority := by
      have hnone : (!r.authority.isEmpty) = false := by
        rw [hrplace]
        rfl
      rw [seenFrom, if_neg (by rw [hnone]; decide)]
      split
      · exact ⟨hbscheme, hbplace⟩
      · exact ⟨hscheme.trans hbscheme, hbplace⟩
    rw [← hseen.2]
    exact namesSite_text hseen.1 (by rw [hseen.2]; exact hne)

end Reference

end EdgeRig
