import EdgeRig.Proofs.Loading

/-!
# Descriptor files with other line ends

The same text can be kept in a file with a line feed, with a carriage return, or with both at the end of
each line.  A descriptor is the same in all three, since its parser is handed the same text.

* `LineEnd.write` — a text with its lines ended in one of the three ways.
* `Text.unifyLines_write` — unifying the line ends gives the text back, whichever way it was written.
* `Loading.loadBy` — loading with parsers of any kind.
* `Loading.load_lineEnds` — files that hold the same text load alike, whatever the parsers are.
-/

namespace EdgeRig

/-! ## Writing line ends -/

/-- The ways to end a line. -/
inductive LineEnd where
  | feed
  | returnFeed
  | returnAlone
  deriving DecidableEq

namespace LineEnd

def mark : LineEnd → List Char
  | feed => ['\n']
  | returnFeed => ['\r', '\n']
  | returnAlone => ['\r']

/-- A text with every line feed written as the line end. -/
def write (e : LineEnd) (s : List Char) : List Char :=
  s.flatMap fun c => if c = '\n' then e.mark else [c]

/-- The bytes of a text with these line ends. -/
def bytes (e : LineEnd) (t : String) : ByteArray := (String.ofList (e.write t.toList)).toUTF8

theorem write_cons (e : LineEnd) (c : Char) (s : List Char) :
    e.write (c :: s) = (if c = '\n' then e.mark else [c]) ++ e.write s := List.flatMap_cons ..

/-- With line feeds at their end, lines are written as they are. -/
theorem write_feed (s : List Char) : feed.write s = s := by
  induction s with
  | nil => rfl
  | cons c s ih =>
    rw [write_cons, ih]
    by_cases hc : c = '\n'
    · rw [if_pos hc, hc]
      rfl
    · rw [if_neg hc]
      rfl

theorem bytes_feed (t : String) : feed.bytes t = t.toUTF8 := by
  rw [bytes, write_feed, String.ofList_toList]

end LineEnd

namespace Text

/-- A line feed that comes first is left out just after a carriage return.  This happens to a line end of
both characters only: the text holds no carriage return of its own, and where a carriage return ends the
lines alone, no line feed was written. -/
theorem unifyLinesFrom_write (e : LineEnd) {s : List Char} (h : '\r' ∉ s) {afterReturn : Bool}
    (hafter : afterReturn = true → e = .returnAlone) : unifyLinesFrom afterReturn (e.write s) = s := by
  induction s generalizing afterReturn with
  | nil => rfl
  | cons c s ih =>
    rw [List.mem_cons, not_or] at h
    obtain ⟨hc, hs⟩ := h
    have hrest : unifyLinesFrom false (e.write s) = s := ih hs nofun
    rw [LineEnd.write_cons]
    by_cases hfeed : c = '\n'
    · subst hfeed
      rw [if_pos rfl]
      cases e with
      | feed =>
        have hnone : afterReturn = false := Bool.eq_false_iff.2 fun ha => nomatch hafter ha
        subst hnone
        exact congrArg ('\n' :: ·) hrest
      | returnFeed => exact congrArg ('\n' :: ·) hrest
      | returnAlone => exact congrArg ('\n' :: ·) (ih hs fun _ => rfl)
    · rw [if_neg hfeed, List.singleton_append, unifyLinesFrom, if_neg (Ne.symm hc),
        if_neg fun hboth => hfeed hboth.1, hrest]

/-- **Unifying line ends undoes writing them**, whichever of the three they are. -/
theorem unifyLines_write (e : LineEnd) {s : List Char} (h : '\r' ∉ s) :
    unifyLines (e.write s) = s := unifyLinesFrom_write e h nofun

end Text

/-! ## Loading -/

namespace Loading

/-- Loading with parsers of any kind. -/
def loadBy (parse : DescriptorFormat → List Char → Option Value) (files : FileTree) (path : FilePath) :
    Except Fault Mapping := do
  let f ← formatOf path
  let bytes ← files.read path
  let s ← decode bytes
  match parse f s with
  | none => .error (.failure (.unparsable path))
  | some (.map m) => .ok m
  | some _ => .error (.failure (.notTable path))

/-- The parsers that a descriptor is loaded with are those of the two formats. -/
theorem loadBy_parse : loadBy DescriptorFormat.parse = load := rfl

theorem decode_toUTF8 (t : String) : decode t.toUTF8 = .ok (Text.unifyLines t.toList) := by
  have hread : String.fromUTF8? t.toUTF8 = some t := dif_pos t.isValidUTF8
  rw [decode, hread]

/-- **The text that a parser is handed** does not show how the lines of the file end. -/
theorem decode_bytes (e : LineEnd) {t : String} (h : '\r' ∉ t.toList) :
    decode (e.bytes t) = .ok t.toList := by
  rw [LineEnd.bytes, decode_toUTF8, String.toList_ofList, Text.unifyLines_write e h]

/-- **Line ends make no difference.**  Take a text without carriage returns, written with one of the three
line ends in one file and with another in a second.  Loading the two ends in the same mapping or in the
same fault, whatever the parsers are: they are handed the text itself. -/
theorem load_lineEnds {t : String} (ht : '\r' ∉ t.toList) (path : FilePath) {e e' : LineEnd}
    {files files' : FileTree} (h : files.read path = .ok (e.bytes t))
    (h' : files'.read path = .ok (e'.bytes t)) :
    load files path = load files' path ∧
      (∀ parse, loadBy parse files path = loadBy parse files' path) ∧
      decode (e.bytes t) = .ok t.toList ∧ decode (e'.bytes t) = .ok t.toList := by
  have hby : ∀ parse, loadBy parse files path = loadBy parse files' path := by
    intro parse
    simp only [loadBy, h, h', Except.ok_bind, decode_bytes e ht, decode_bytes e' ht]
  have hload : load files path = load files' path := by
    rw [← loadBy_parse]
    exact hby DescriptorFormat.parse
  exact ⟨hload, hby, decode_bytes e ht, decode_bytes e' ht⟩

/-- A table with a text over several lines, among empty ones. -/
def linedTable : String := "\nnote = \"\"\"\none\n\n\ntwo\n\"\"\"\n\n"

/-- The line breaks inside of the text are line feeds, also where the file has none. -/
theorem load_of_linedTable :
    '\r' ∉ linedTable.toList ∧
      (treeOf linedTable.toUTF8).read tablePath = .ok linedTable.toUTF8 ∧
      (treeOf (LineEnd.returnAlone.bytes linedTable)).read tablePath =
        .ok (LineEnd.returnAlone.bytes linedTable) ∧
      load (treeOf linedTable.toUTF8) tablePath =
        load (treeOf (LineEnd.returnAlone.bytes linedTable)) tablePath ∧
      load (treeOf linedTable.toUTF8) tablePath =
        .ok [(.text "note", .text "one\n\n\ntwo\n")] := by
  have ht : '\r' ∉ linedTable.toList := by decide
  have hread : ∀ bytes, (treeOf bytes).read tablePath = .ok bytes := fun _ => rfl
  have hfeed : (treeOf linedTable.toUTF8).read tablePath = .ok (LineEnd.feed.bytes linedTable) := by
    rw [LineEnd.bytes_feed, hread]
  obtain ⟨hsame, -⟩ := load_lineEnds ht tablePath hfeed (hread (LineEnd.returnAlone.bytes linedTable))
  have hs : String.fromUTF8? linedTable.toUTF8 = some linedTable := dif_pos linedTable.isValidUTF8
  refine ⟨ht, hread _, hread _, hsame, load_eq_ok_iff.2 ⟨.table, _, _, rfl, hread _, hs, ?_⟩⟩
  decide +kernel

end Loading

end EdgeRig
