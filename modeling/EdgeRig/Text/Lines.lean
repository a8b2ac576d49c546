/-!
# Line ends

A text may end its lines with a line feed, with a carriage return, or with both.
`Text.unifyLines` turns every line end into one line feed; `unifyLines_of_not_mem` says that a text
without carriage returns stays as it is.
-/

namespace EdgeRig

namespace Text

/-- Turn every line end into a line feed.  `afterReturn` says that a carriage return has just been
turned into one, so that a line feed after it is not a second line end. -/
def unifyLinesFrom (afterReturn : Bool) : List Char → List Char
  | [] => []
  | c :: rest =>
      if c = '\r' then '\n' :: unifyLinesFrom true rest
      else if c = '\n' ∧ afterReturn = true then unifyLinesFrom false rest
      else c :: unifyLinesFrom false rest

def unifyLines (s : List Char) : List Char := unifyLinesFrom false s

theorem unifyLines_of_not_mem {s : List Char} (h : '\r' ∉ s) : unifyLines s = s := by
  unfold unifyLines
  induction s with
  | nil => rfl
  | cons c rest ih =>
    have hc : c ≠ '\r' := fun e => h (by simp [e])
    have hr : '\r' ∉ rest := fun e => h (by simp [e])
    simp [unifyLinesFrom, hc, ih hr]

end Text

end EdgeRig
