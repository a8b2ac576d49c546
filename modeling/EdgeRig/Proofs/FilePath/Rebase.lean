import EdgeRig.Proofs.FilePath

/-!
# Moving path texts

A relative path text that is moved below a directory is written anew, and an absolute one is left as it was
written.  So a text may go through several moves, and be read and written in between.  This file says that
this makes no difference: what is read after a move is the path that the move meant.

* `FilePath.join_assoc` — paths continue each other associatively.
* `FilePath.ofText_rebase` — a moved text is read as the path continued from the directory.
* `FilePath.IsNormal` — the shape of the path texts that are written; `FilePath.isNormal_iff` says that
  these are the ones that are left as they are when they are read and written.
* `FilePath.rebase_rebase` — moving twice, and what a moved text looks like.
-/

namespace EdgeRig

namespace FilePath

/-! ## Paths that continue each other -/

theorem join_of_isAbsolute (base : FilePath) {p : FilePath} (h : p.isAbsolute = true) :
    base.join p = p := if_pos h

theorem isAbsolute_join (base p : FilePath) :
    (base.join p).isAbsolute = (base.isAbsolute || p.isAbsolute) := by
  cases hp : p.isAbsolute with
  | true => rw [join_of_isAbsolute base hp, hp, Bool.or_true]
  | false => rw [isAbsolute, (join_of_isRelative base hp).1, Bool.or_false, isAbsolute]

/-- **Paths continue each other associatively.** -/
theorem join_assoc (a b p : FilePath) : (a.join b).join p = a.join (b.join p) := by
  cases hp : p.isAbsolute with
  | true => rw [join_of_isAbsolute _ hp, join_of_isAbsolute b hp, join_of_isAbsolute a hp]
  | false =>
    obtain ⟨hanchor, hsegments⟩ := join_of_isRelative (a.join b) hp
    obtain ⟨hanchor', hsegments'⟩ := join_of_isRelative b hp
    cases hb : b.isAbsolute with
    | true =>
      have hbp : (b.join p).isAbsolute = true := by rw [isAbsolute_join, hb, Bool.true_or]
      rw [join_of_isAbsolute a hb, join_of_isAbsolute a hbp]
    | false =>
      have hbp : (b.join p).isAbsolute = false := by rw [isAbsolute_join, hb, hp, Bool.or_false]
      obtain ⟨ha, hs⟩ := join_of_isRelative a hb
      obtain ⟨ha', hs'⟩ := join_of_isRelative a hbp
      refine ext_of ?_ ?_
      · rw [hanchor, ha, ha']
      · rw [hsegments, hs, hs', hsegments', List.append_assoc]

/-! ## Moved texts -/

theorem rebase_of_isAbsolute {t : String} (h : (ofText t.toList).isAbsolute = true) (base : String) :
    rebase t base = t := if_pos h

theorem rebase_of_isRelative {t : String} (h : (ofText t.toList).isAbsolute = false) (base : String) :
    rebase t base = String.ofList ((ofText base.toList).join (ofText t.toList)).text :=
  if_neg (Bool.eq_false_iff.1 h)

/-- **A moved text is read as the path continued from the directory.** -/
theorem ofText_rebase (t base : String) :
    ofText (rebase t base).toList = (ofText base.toList).join (ofText t.toList) := by
  cases ht : (ofText t.toList).isAbsolute with
  | true => rw [rebase_of_isAbsolute ht, join_of_isAbsolute _ ht]
  | false => rw [rebase_of_isRelative ht, String.toList_ofList, ofText_text]

/-- Moving a text below a directory that is moved itself is moving it twice. -/
theorem rebase_assoc (t b a : String) : rebase (rebase t b) a = rebase t (rebase b a) := by
  cases ht : (ofText t.toList).isAbsolute with
  | true => rw [rebase_of_isAbsolute ht, rebase_of_isAbsolute ht, rebase_of_isAbsolute ht]
  | false =>
    have hmoved : (ofText (rebase t b).toList).isAbsolute = (ofText b.toList).isAbsolute := by
      rw [ofText_rebase, isAbsolute_join, ht, Bool.or_false]
    cases hb : (ofText b.toList).isAbsolute with
    | true => rw [rebase_of_isAbsolute (hmoved.trans hb), rebase_of_isAbsolute hb]
    | false =>
      rw [rebase_of_isRelative (hmoved.trans hb), ofText_rebase, rebase_of_isRelative ht,
        ofText_rebase, join_assoc]

/-! ## Texts in normal form -/

/-- The shape of a path text in normal form: the current directory as a dot, or otherwise no, one or two
slashes and then segments with one slash between each two of them. -/
inductive IsNormal : List Char → Prop where
  | here : IsNormal ['.']
  | glued (anchor : Anchor) (ps : List Text.Piece) (hne : ¬ (anchor = .relative ∧ ps = []))
      (hps : ∀ q ∈ ps, q ≠ [] ∧ q ≠ ['.'] ∧ '/' ∉ q) : IsNormal (anchor.text ++ Text.glue '/' ps)

theorem isSegment_iff {q : Text.Piece} : isSegment q = true ↔ q ≠ [] ∧ q ≠ ['.'] ∧ '/' ∉ q := by
  simp [isSegment, and_assoc]

/-- A path is written in normal form. -/
theorem isNormal_text (p : FilePath) : IsNormal p.text := by
  unfold text
  split
  · exact .here
  · rename_i hne
    exact .glued p.anchor p.segments hne fun q hq => isSegment_iff.1 (p.proper q hq)

/-- **The normal forms** are the texts that are left as they are when they are read and written. -/
theorem isNormal_iff {t : List Char} : IsNormal t ↔ (ofText t).text = t := by
  constructor
  · rintro (_ | ⟨anchor, ps, hne, hps⟩)
    · rfl
    · have hwritten : text ⟨anchor, ps, fun q hq => isSegment_iff.2 (hps q hq)⟩ =
          anchor.text ++ Text.glue '/' ps := if_neg hne
      rw [← hwritten, ofText_text]
  · intro h
    rw [← h]
    exact isNormal_text _

instance (t : List Char) : Decidable (IsNormal t) := decidable_of_iff _ isNormal_iff.symm

/-- Two leading slashes are kept, and a third one is not. -/
example : IsNormal "//srv/..".toList ∧ ¬ IsNormal "///srv".toList := by decide +kernel

/-- The segments of a path text, said without reading it as a path: what stands between its slashes
and is neither empty nor the current directory. -/
def segmentsIn (t : String) : List (List Char) :=
  (t.toList.splitOn '/').filter fun q => decide (q ≠ [] ∧ q ≠ ['.'])

/-- **Moving path texts is associative.**  Below a directory that is itself moved below another one, a
text comes out as if it was moved below the one and then below the other, so that a second move below the
same absolute directory changes nothing.  A relative text comes out in normal form, and its segments
are those of the directory and then its own. -/
theorem rebase_rebase (t b a : String) :
    rebase (rebase t b) a = rebase t (rebase b a) ∧
      (a.toList.head? = some '/' → rebase (rebase t a) a = rebase t a) ∧
      (t.toList.head? ≠ some '/' → IsNormal (rebase t b).toList ∧
        segmentsIn (rebase t b) = segmentsIn b ++ segmentsIn t) := by
  refine ⟨rebase_assoc t b a, fun ha => ?_, fun ht => ?_⟩
  · rw [rebase_assoc, rebase_of_isAbsolute (isAbsolute_ofText_iff.2 ha)]
  · have hrel : (ofText t.toList).isAbsolute = false :=
      Bool.eq_false_iff.2 fun hc => ht (isAbsolute_ofText_iff.1 hc)
    constructor
    · rw [rebase_of_isRelative hrel, String.toList_ofList]
      exact isNormal_text _
    · unfold segmentsIn
      rw [← segments_ofText, ← segments_ofText, ← segments_ofText, ofText_rebase,
        (join_of_isRelative _ hrel).2]

/-- A text with a dot, two slashes and a way back, moved below a relative directory and then twice below
one that starts with two slashes. -/
theorem rebase_rebase_of_share :
    let moved := rebase "./js//../w.js" "app/./"
    "./js//../w.js".toList.head? ≠ some '/' ∧ "//srv/".toList.head? = some '/' ∧
      moved = "app/js/../w.js" ∧ IsNormal moved.toList ∧
      segmentsIn moved = segmentsIn "app/./" ++ segmentsIn "./js//../w.js" ∧
      rebase moved "//srv/" = "//srv/app/js/../w.js" ∧
      rebase "./js//../w.js" (rebase "app/./" "//srv/") = "//srv/app/js/../w.js" ∧
      rebase (rebase "./js//../w.js" "//srv/") "//srv/" = rebase "./js//../w.js" "//srv/" := by
  intro moved
  have hrel : "./js//../w.js".toList.head? ≠ some '/' := by decide +kernel
  have habs : "//srv/".toList.head? = some '/' := by decide +kernel
  have hfar : rebase moved "//srv/" = "//srv/app/js/../w.js" := by decide +kernel
  obtain ⟨hassoc, htwice, hshape⟩ := rebase_rebase "./js//../w.js" "app/./" "//srv/"
  exact ⟨hrel, habs, by decide +kernel, (hshape hrel).1, (hshape hrel).2, hfar, hassoc.symm.trans hfar,
    htwice habs⟩

end FilePath

end EdgeRig
