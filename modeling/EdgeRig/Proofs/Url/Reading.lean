import EdgeRig.Proofs.Outcome
import EdgeRig.Proofs.Url.Numerals
import EdgeRig.Proofs.Url.PlainHost
import EdgeRig.Url.Reference

/-!
# Reading addresses back

An address that was read and written is read again, more than once on the way to a request.  What matters
is that its place stays the same: the scheme, and the user, the host and the port of the authority.

* `Url.ofText_ok` — what is read of a text; `Url.placeOf` is the place that an authority names.
* `Url.NamesScheme`, `Url.IsRelative` — a text with a scheme in front, and a relative reference.
* `Url.isRelative_text` — a relative reference that was read is written as one.
* `Url.NamesSite` — the text starts with `http` and an authority, and that is where the authority ends;
  `Url.isAt_of_namesSite` says that the place of such a text is that of the authority, and that what is
  written again names the same place.
-/

namespace EdgeRig

namespace Percent

/-- Characters that are written for themselves stand at the start of what is written exactly when they
stand at the start of the text. -/
theorem prefix_of_encode {safe : Char → Bool} {front s mark : List Char} (rest : List Char)
    (h : encode safe s ++ mark = front ++ rest) (hpercent : '%' ∉ front)
    (hmark : ∀ c ∈ front, mark.head? ≠ some c) : front <+: s := by
  induction front generalizing s with
  | nil => exact List.nil_prefix
  | cons c front ih =>
    cases s with
    | nil =>
      have hc : mark.head? = some c := by
        rw [show mark = c :: front ++ rest from h]
        rfl
      exact absurd hc (hmark c (List.mem_cons_self ..))
    | cons d s =>
      have hwritten : encode safe (d :: s) =
          (if safe d = true then [d] else escaped d) ++ encode safe s := List.flatMap_cons ..
      rw [hwritten, List.append_assoc] at h
      by_cases hd : safe d = true
      · rw [if_pos hd] at h
        obtain ⟨hc, hrest⟩ := List.cons.inj h
        exact List.cons_prefix_cons.2 ⟨hc.symm, ih hrest (fun hc => hpercent (List.mem_cons_of_mem _ hc))
          fun e he => hmark e (List.mem_cons_of_mem _ he)⟩
      · -- The bytes of a character start with a percent sign.
        obtain ⟨b, bytes, hbytes⟩ := List.exists_cons_of_ne_nil (String.utf8EncodeChar_ne_nil (c := d))
        rw [if_neg hd, escaped, hbytes, List.flatMap_cons, byte] at h
        exact absurd (by rw [(List.cons.inj h).1]; exact List.mem_cons_self ..) hpercent

end Percent

namespace Url

/-! ## What is read of a text -/

/-- User, host and port of an authority. -/
def placeOf (scheme authority : List Char) : Except Fault (List Char × List Char × Option Int) := do
  let place := Text.cutLast '@' authority
  let user ← escapePart Percent.isUserChar (place.1.getD [])
  let host ← readHost (splitHost place.2).1
  let port ← readPort scheme (splitHost place.2).2
  .ok (user, host, port)

/-- The path in a text. -/
def pathOf (s : List Char) : List Char :=
  (splitMark '?' (splitMark '#' (splitAuthority (splitScheme s).2).2).1).1

/-- The URL has an authority. -/
def hasPlace (u : Url) : Bool := !u.user.isEmpty || !u.host.isEmpty || u.port.isSome

theorem escapePart_ok {safe : Char → Bool} {s t : List Char} (h : escapePart safe s = .ok t) :
    t = Percent.encode safe s := by
  unfold escapePart at h
  split at h
  · cases h
  · exact (Except.ok.inj h).symm

/-- **What is read of a text**: its scheme in lower case, the place of its authority, and a path that may
stand there. -/
theorem ofText_ok {s : List Char} {u : Url} (h : ofText s = .ok u) :
    u.scheme = (splitScheme s).1.map Char.toLower ∧
      placeOf (splitScheme s).1 (splitAuthority (splitScheme s).2).1 = .ok (u.user, u.host, u.port) ∧
      isPathAllowed (pathOf s) (!(splitScheme s).1.isEmpty) u.hasPlace = true ∧
      u.path = Percent.encode Percent.isPathChar
        (if !(splitScheme s).1.isEmpty || u.hasPlace then withoutDots (pathOf s) else pathOf s) := by
  unfold ofText at h
  by_cases hlimit : lengthLimit < s.length ∨ s.any isControl = true
  · rw [if_pos hlimit] at h
    cases h
  · rw [if_neg hlimit] at h
    dsimp only at h
    obtain ⟨user, huser, h⟩ := Except.bind_eq_ok_iff.1 h
    obtain ⟨host, hhost, h⟩ := Except.bind_eq_ok_iff.1 h
    obtain ⟨port, hport, h⟩ := Except.bind_eq_ok_iff.1 h
    have hplace : placeOf (splitScheme s).1 (splitAuthority (splitScheme s).2).1 =
        .ok (user, host, port) := by
      rw [placeOf, huser, Except.ok_bind, hhost, Except.ok_bind, hport]
      rfl
    cases hallowed : isPathAllowed (pathOf s) (!(splitScheme s).1.isEmpty)
        (!user.isEmpty || !host.isEmpty || port.isSome) with
    | false =>
      rw [pathOf] at hallowed
      rw [if_pos hallowed] at h
      cases h
    | true =>
      have hnot := hallowed
      rw [pathOf] at hnot
      rw [if_neg (by rw [hnot]; decide)] at h
      obtain ⟨path, hpath, h⟩ := Except.bind_eq_ok_iff.1 h
      obtain ⟨query, -, h⟩ := Except.bind_eq_ok_iff.1 h
      obtain ⟨fragment, -, h⟩ := Except.bind_eq_ok_iff.1 h
      cases h
      exact ⟨rfl, hplace, hallowed, escapePart_ok hpath⟩

/-! ## Relative references -/

/-- A scheme and a colon stand in front. -/
def NamesScheme (s : List Char) : Prop :=
  ∃ c front rest, s = c :: front ++ ':' :: rest ∧ c.isAlpha = true ∧
    ∀ d ∈ front, isSchemeChar d = true

/-- The text is a relative reference: it starts neither with a scheme nor with two slashes. -/
structure IsRelative (s : List Char) : Prop where
  schemeless : ¬ NamesScheme s
  placeless : ¬ ['/', '/'] <+: s

/-- The text after a colon at its very start, which ends a scheme without characters. -/
def withoutColon : List Char → List Char
  | ':' :: rest => rest
  | s => s

theorem withoutColon_of_head {s : List Char} (h : s.head? ≠ some ':') : withoutColon s = s := by
  unfold withoutColon
  split
  · exact absurd rfl h
  · rfl

theorem NamesScheme.of_prefix {s t : List Char} (h : NamesScheme s) (hs : s <+: t) :
    NamesScheme t := by
  obtain ⟨c, front, rest, rfl, hc, hfront⟩ := h
  obtain ⟨more, rfl⟩ := hs
  exact ⟨c, front, rest ++ more, by simp, hc, hfront⟩

theorem not_namesScheme_of_not_mem {s : List Char} (h : ':' ∉ s) : ¬ NamesScheme s := by
  rintro ⟨c, front, rest, rfl, -, -⟩
  exact h (by simp)

/-- What stands before a colon is no scheme, if the text has none in front. -/
theorem isScheme_of_not_namesScheme {c : Char} {front rest : List Char}
    (h : ¬ NamesScheme (c :: front ++ ':' :: rest)) :
    (c.isAlpha && (c :: front).all isSchemeChar) = false := by
  refine Bool.eq_false_iff.2 fun hc => h ?_
  obtain ⟨halpha, hall⟩ := Bool.and_eq_true_iff.1 hc
  exact ⟨c, front, rest, rfl, halpha,
    fun d hd => List.all_eq_true.1 hall d (List.mem_cons_of_mem _ hd)⟩

theorem splitScheme_of_not_namesScheme {s : List Char} (h : ¬ NamesScheme s) :
    splitScheme s = ([], withoutColon s) := by
  rcases Text.cut_cases ':' s with ⟨hnot, hcut⟩ | ⟨front, rest, rfl, hfront, hcut⟩
  · have hhead : s.head? ≠ some ':' := fun hc => hnot (List.mem_of_head? hc)
    rw [splitScheme, hcut, withoutColon_of_head hhead]
  · cases front with
    | nil => rfl
    | cons c front =>
      have hhead : (c :: front ++ ':' :: rest).head? ≠ some ':' := by
        intro hc
        exact hfront (by rw [← Option.some.inj hc]; exact List.mem_cons_self ..)
      have hscheme : ((((c :: front).head?.map Char.isAlpha).getD true) &&
          (c :: front).all isSchemeChar) = false := isScheme_of_not_namesScheme h
      rw [withoutColon_of_head hhead, splitScheme, hcut]
      dsimp only
      rw [hscheme]
      rfl

theorem splitAuthority_of_no_slashes {s : List Char} (h : ¬ ['/', '/'] <+: s) :
    splitAuthority s = ([], s) := by
  unfold splitAuthority
  split
  · exact absurd ⟨_, rfl⟩ h
  · rfl

/-- No place is read of a relative reference. -/
theorem ofText_of_placeless {s : List Char} {r : Url} (hs : ¬ NamesScheme s)
    (hp : ¬ ['/', '/'] <+: withoutColon s) (h : ofText s = .ok r) :
    (r.scheme = [] ∧ r.user = [] ∧ r.host = [] ∧ r.port = none) ∧
      ∃ path, path <+: withoutColon s ∧ r.path = Percent.encode Percent.isPathChar path ∧
        ¬ ['/', '/'] <+: path := by
  obtain ⟨hscheme, hplace, hallowed, hpath⟩ := ofText_ok h
  have hpathOf : pathOf s <+: withoutColon s := by
    rw [pathOf, splitScheme_of_not_namesScheme hs, splitAuthority_of_no_slashes hp]
    exact (Text.cut_isPrefix '?' _).trans (Text.cut_isPrefix '#' _)
  rw [splitScheme_of_not_namesScheme hs] at hscheme hplace hallowed hpath
  rw [splitAuthority_of_no_slashes hp] at hplace
  obtain ⟨huser, hhost, hport⟩ : [] = r.user ∧ [] = r.host ∧ none = r.port := by
    simpa using (Except.ok.inj hplace : (([] : List Char), ([] : List Char), (none : Option Int)) = _)
  have hnone : r.hasPlace = false := by rw [hasPlace, ← huser, ← hhost, ← hport]; rfl
  rw [hnone] at hallowed hpath
  refine ⟨⟨hscheme, huser.symm, hhost.symm, hport.symm⟩, pathOf s, hpathOf, hpath, ?_⟩
  rintro ⟨rest, hrest⟩
  rw [← hrest] at hallowed
  simp [isPathAllowed] at hallowed

theorem notMem_of_isSchemeChar {c : Char} (h : isSchemeChar c = true) : c ∉ ['%', '?', '#'] := by
  intro hc
  simp only [List.mem_cons, List.not_mem_nil, or_false] at hc
  rcases hc with rfl | rfl | rfl <;> exact absurd h (by decide)

theorem text_of_placeless {r : Url} (h : r.scheme = [] ∧ r.user = [] ∧ r.host = [] ∧ r.port = none) :
    r.text = r.path ++ (marked '?' r.query ++ marked '#' r.fragment) := by
  obtain ⟨hscheme, huser, hhost, hport⟩ := h
  have hauthority : r.authority = [] := by rw [authority, huser, hhost, hport]; rfl
  rw [text, hscheme, hauthority, ← List.append_assoc]
  rfl

theorem head?_marks {query fragment : Option (List Char)} {c : Char}
    (h : (marked '?' query ++ marked '#' fragment).head? = some c) : c ∈ ['?', '#'] := by
  cases query with
  | some q => cases h; decide
  | none =>
    cases fragment with
    | some f => cases h; decide
    | none => cases h

/-- **A relative reference that was read is written as one.** -/
theorem isRelative_text {s : List Char} {r : Url} (hs : ¬ NamesScheme s)
    (hr : IsRelative (withoutColon s)) (h : ofText s = .ok r) : IsRelative r.text := by
  obtain ⟨hplaceless, path, hprefix, hpath, hslashes⟩ := ofText_of_placeless hs hr.placeless h
  rw [text_of_placeless hplaceless, hpath]
  constructor
  · rintro ⟨c, front, rest, hsplit, hc, hfront⟩
    have hscheme : ∀ d ∈ c :: front, isSchemeChar d = true := by
      refine List.forall_mem_cons.2 ⟨?_, hfront⟩
      simp [isSchemeChar, Char.isAlphanum, hc]
    have hmarks : ∀ d ∈ c :: front ++ [':'], d ∉ ['%', '?', '#'] :=
      List.forall_mem_append.2 ⟨fun d hd => notMem_of_isSchemeChar (hscheme d hd),
        List.forall_mem_singleton.2 (by decide)⟩
    have hfound : c :: front ++ [':'] <+: path := by
      refine Percent.prefix_of_encode rest (by simpa using hsplit) (fun hd => ?_) fun d hd he => ?_
      · exact hmarks '%' hd (by decide)
      · exact hmarks d hd (List.mem_cons_of_mem _ (head?_marks he))
    exact hr.schemeless (NamesScheme.of_prefix ⟨c, front, [], by simp, hc, hfront⟩
      (hfound.trans hprefix))
  · rintro ⟨rest, hsplit⟩
    refine hslashes (Percent.prefix_of_encode rest hsplit.symm (by decide) fun d hd he => ?_)
    have hslash : d = '/' := by simpa using hd
    exact absurd (head?_marks he) (by rw [hslash]; decide)

/-! ## Places -/

/-- The scheme of the URLs that a rig listens at. -/
def http : List Char := ['h', 't', 't', 'p']

/-- The text ends where an authority would: it is empty, or starts with a mark of the parts that follow. -/
def EndsPlace (s : List Char) : Prop := ∀ c, s.head? = some c → c ∈ ['/', '?', '#']

/-- The text starts with `http` and an authority, and that is where the authority ends. -/
def NamesSite (site s : List Char) : Prop :=
  ∃ tail, EndsPlace tail ∧ s = http ++ ':' :: '/' :: '/' :: (site ++ tail)

/-- The URL is one of a host and a port, without a user. -/
structure IsAt (host : List Char) (port : Option Int) (u : Url) : Prop where
  scheme : u.scheme = http
  user : u.user = []
  host : u.host = host
  port : u.port = port

/-- The authority of a host and a port. -/
def site (host : List Char) (port : Option Int) : List Char := host ++ portText port

theorem splitScheme_http (rest : List Char) : splitScheme (http ++ ':' :: rest) = (http, rest) := by
  rw [splitScheme, Text.cut_append (by decide)]
  rfl

theorem splitAuthority_site {site tail : List Char} (hsite : ∀ c ∈ site, c ∉ ['/', '?', '#', '@'])
    (htail : EndsPlace tail) : splitAuthority ('/' :: '/' :: (site ++ tail)) = (site, tail) := by
  have hinside : ∀ c ∈ site, (!(c == '/' || c == '?' || c == '#')) = true := by
    intro c hc
    have hmarks := hsite c hc
    simp only [List.mem_cons, List.not_mem_nil, or_false, not_or] at hmarks
    simp [hmarks]
  have hends : ∀ c, tail.head? = some c → (!(c == '/' || c == '?' || c == '#')) = false := by
    intro c hc
    have hmark := htail c hc
    simp only [List.mem_cons, List.not_mem_nil, or_false] at hmark
    rcases hmark with rfl | rfl | rfl <;> rfl
  obtain ⟨htake, hdrop⟩ := Text.span_append hinside hends
  rw [splitAuthority, htake, hdrop]

/-! ## Paths -/

/-- The path is empty or starts at the root. -/
def IsRooted (path : List Char) : Prop := ∀ c, path.head? = some c → c = '/'

/-- One segment of a path. -/
def dotStep (out : List Text.Piece) (p : Text.Piece) : List Text.Piece :=
  if p = ['.'] then out
  else if p = ['.', '.'] then if out = [] ∨ out = [[]] then out else out.dropLast
  else out ++ [p]

/-- The segment in front of the first slash stays. -/
theorem head?_foldl_dotStep {ps out : List Text.Piece} (h : out.head? = some []) :
    (ps.foldl dotStep out).head? = some [] := by
  induction ps generalizing out with
  | nil => exact h
  | cons p ps ih =>
    refine ih ?_
    unfold dotStep
    split
    · exact h
    · split
      · split
        · exact h
        · rename_i hshort
          cases out with
          | nil => cases h
          | cons q out =>
            cases out with
            | nil => exact absurd (Or.inr (by rw [Option.some.inj h])) hshort
            | cons r out => exact h
      · cases out with
        | nil => cases h
        | cons q out => exact h

theorem isRooted_withoutDots {path : List Char} (h : IsRooted path) : IsRooted (withoutDots path) := by
  have hdots : withoutDots path = Text.glue '/' ((Text.pieces '/' path).foldl dotStep []) := rfl
  rw [hdots]
  cases path with
  | nil => exact fun c hc => by cases hc
  | cons c rest =>
    obtain rfl := h c rfl
    have hhead : (((Text.pieces '/' ('/' :: rest)).foldl dotStep [])).head? = some [] := by
      rw [Text.pieces, if_pos rfl, List.foldl_cons]
      exact head?_foldl_dotStep rfl
    cases hps : (Text.pieces '/' ('/' :: rest)).foldl dotStep [] with
    | nil => exact fun c hc => by cases hc
    | cons p ps =>
      rw [hps] at hhead
      obtain rfl := Option.some.inj hhead
      cases ps with
      | nil => exact fun c hc => by cases hc
      | cons q ps => exact fun c hc => (Option.some.inj hc).symm

theorem isRooted_encode {path : List Char} (h : IsRooted path) :
    IsRooted (Percent.encode Percent.isPathChar path) := by
  cases path with
  | nil => exact fun c hc => by cases hc
  | cons c rest =>
    obtain rfl := h c rfl
    exact fun c hc => (Option.some.inj hc).symm

/-- A rooted path and the marks after it come after a place. -/
theorem endsPlace_of_isRooted {path marks : List Char} (hp : IsRooted path)
    (hm : ∀ c, marks.head? = some c → c ∈ ['?', '#']) : EndsPlace (path ++ marks) := by
  intro c hc
  cases path with
  | nil => exact List.mem_cons_of_mem _ (hm c hc)
  | cons d rest =>
    rw [← Option.some.inj hc, hp d rfl]
    decide

/-- The path after an authority is empty or starts at the root. -/
theorem isRooted_of_isPathAllowed {path : List Char} {hasScheme : Bool}
    (h : isPathAllowed path hasScheme true = true) : IsRooted path := by
  intro c hc
  cases path with
  | nil => cases hc
  | cons d rest =>
    obtain rfl := Option.some.inj hc
    simpa [isPathAllowed] using h

/-! ## Places that are read again -/

theorem notMem_portText (port : Option Int) : ∀ c ∈ portText port, c ∉ ['/', '?', '#', '@'] := by
  have hdigit : ∀ d ∈ List.range 10, Numeral.digitChar d ∉ ['/', '?', '#', '@'] := by decide
  have hnat : ∀ n, ∀ c ∈ Numeral.ofNat n, c ∉ ['/', '?', '#', '@'] := by
    intro n c hc
    obtain ⟨d, hd, rfl⟩ := Numeral.mem_ofNat hc
    exact hdigit d (List.mem_range.2 hd)
  cases port with
  | none => exact fun c hc => absurd hc List.not_mem_nil
  | some n =>
    refine List.forall_mem_cons.2 ⟨by decide, ?_⟩
    unfold Numeral.ofInt
    split
    · exact List.forall_mem_cons.2 ⟨by decide, hnat _⟩
    · exact hnat _

/-- A plain host and a port hold no mark of other parts. -/
theorem notMem_site {host : List Char} (h : Host.IsPlain host) (port : Option Int) :
    ∀ c ∈ site host port, c ∉ ['/', '?', '#', '@'] := by
  refine List.forall_mem_append.2 ⟨fun c hc hmark => ?_, notMem_portText port⟩
  refine Host.notMem_marks_of_isPlainChar (h.2 c hc) ?_
  exact List.mem_append_left [':', '['] hmark

/-- Host and port are taken apart where they were put together. -/
theorem splitHost_site {host : List Char} (h : Host.IsPlain host) (port : Option Int) :
    splitHost (site host port) = (host, portText port) := by
  have hmarks : ∀ c ∈ host, c ∉ ['/', '?', '#', '@', ':', '['] :=
    fun c hc => Host.notMem_marks_of_isPlainChar (h.2 c hc)
  have hcolon : ∀ c ∈ host, (c != ':') = true := by
    intro c hc
    rw [bne_iff_ne]
    exact fun e => hmarks c hc (by rw [e]; decide)
  have hends : ∀ c, (portText port).head? = some c → (c != ':') = false := by
    intro c hc
    cases port with
    | none => cases hc
    | some n => cases hc; rfl
  have hparts : (site host port).takeWhile (· != ':') = host ∧
      (site host port).dropWhile (· != ':') = portText port := Text.span_append hcolon hends
  have hbracket : (site host port).head? ≠ some '[' := by
    obtain ⟨c, rest, hhost⟩ := List.exists_cons_of_ne_nil h.1
    rw [site, hhost]
    intro hc
    exact hmarks c (by rw [hhost]; exact List.mem_cons_self ..) (by rw [Option.some.inj hc]; decide)
  unfold splitHost
  split
  · rename_i hc _
    exact absurd hc hbracket
  · rw [hparts.1, hparts.2]

/-- The place of a plain host and a port. -/
theorem placeOf_site {host : List Char} (h : Host.IsPlain host) (port : Option Int) :
    placeOf http (site host port) = (readHost host >>= fun name =>
      readPort http (portText port) >>= fun number => .ok ([], name, number)) := by
  have huser : Text.cutLast '@' (site host port) = (none, site host port) :=
    Text.cutLast_of_not_mem fun hc => notMem_site h port '@' hc (by decide)
  rw [placeOf, huser]
  dsimp only
  rw [splitHost_site h port]
  rfl

/-- **The place of a text is that of its authority**, and what is written again names that place. -/
theorem isAt_of_namesSite {host s authority : List Char} {port : Option Int} {u : Url}
    (hmarks : ∀ c ∈ authority, c ∉ ['/', '?', '#', '@'])
    (hplace : placeOf http authority = .ok ([], host, port)) (hhost : Host.IsPlain host)
    (hs : NamesSite authority s) (h : ofText s = .ok u) :
    u.IsAt host port ∧ NamesSite (site host port) u.text := by
  obtain ⟨tail, htail, rfl⟩ := hs
  obtain ⟨hscheme, hplace', hallowed, hpath⟩ := ofText_ok h
  rw [splitScheme_http] at hscheme hplace' hallowed hpath
  rw [splitAuthority_site hmarks htail, hplace] at hplace'
  obtain ⟨huser, hhost', hport⟩ : [] = u.user ∧ host = u.host ∧ port = u.port := by
    simpa using Except.ok.inj hplace'
  have hat : u.IsAt host port := ⟨hscheme, huser.symm, hhost'.symm, hport.symm⟩
  have hfilled : u.hasPlace = true := by
    have : u.host ≠ [] := by rw [← hhost']; exact hhost.1
    simp [hasPlace, this]
  rw [hfilled] at hallowed hpath
  have hrooted : IsRooted u.path := by
    rw [hpath]
    exact isRooted_encode (isRooted_withoutDots (isRooted_of_isPathAllowed hallowed))
  have hcolon : host.contains ':' = false := by
    refine Bool.eq_false_iff.2 fun hc => ?_
    have := Host.notMem_marks_of_isPlainChar (hhost.2 ':' (List.contains_iff_mem.1 hc))
    exact this (by decide)
  have hauthority : u.authority = site host port := by
    rw [Url.authority, hat.user, hat.host, hat.port, hostText, hcolon]
    cases port <;> rfl
  have hne : (site host port).isEmpty = false := by
    simp [site, hhost.1]
  refine ⟨hat, u.path ++ (marked '?' u.query ++ marked '#' u.fragment), ?_, ?_⟩
  · exact endsPlace_of_isRooted hrooted fun c hc => head?_marks hc
  · rw [text, hat.scheme, hauthority, hne]
    simp [http]

end Url

end EdgeRig
