import EdgeRig.Proofs.Setup.Stages
import EdgeRig.Proofs.Url.Joining

/-!
# Where requests go

The helper that a setup leaves in the context sends requests to the place that the rig listens at.  A text
that starts with `http` is taken for a whole address, whether it is one or not; any other text is read as a
reference and joined to the base.

* `Fetcher.mem_sent` — what is sent is the request for the target of a text.
* `Fetcher.isAt_of_fetch` — the request for a relative reference goes to the host and the port of the base.
* `Fetcher.lost_of_fetch` — unless the reference starts with `http`: then its request goes nowhere.
* `Setup.Fetches` — what the helper does after a setup; `Setup.fetches_of_setup` says that it does.
-/

namespace EdgeRig

/-! ## Requests -/

/-- A request is made of a URL with a place as it is, and of another one below the root. -/
theorem Request.prepare_ok {method url content : String} {q : Request}
    (h : prepare method url content = .ok q) : ∃ u, Url.ofText url.toList = .ok u ∧
      (if u.isAbsolute then .ok u else placeless u) = .ok q.url := by
  obtain ⟨u, hu, h⟩ := Except.bind_eq_ok_iff.1 h
  refine ⟨u, hu, ?_⟩
  have hplace : ((if u.isAbsolute then .ok u else placeless u) >>= fun v =>
      if Label.isAscii v.host = false then .error .unencodable
      else .ok ⟨String.ofList (Unicode.upper method.toList), v, content⟩) = .ok q := by
    rw [← h]
    split <;> rfl
  obtain ⟨v, hv, h⟩ := Except.bind_eq_ok_iff.1 hplace
  by_cases hascii : Label.isAscii v.host = false
  · rw [if_pos hascii] at h
    cases h
  · rw [if_neg hascii] at h
    cases h
    exact hv

/-- What is below the root has no scheme and no host. -/
theorem Request.placeless_ok {u v : Url} (h : placeless u = .ok v) : v.scheme = [] ∧ v.host = [] := by
  have hschemeless : ¬ Url.NamesScheme ('/' :: (rawPath u).dropWhile (· == '/')) := by
    rintro ⟨c, front, rest, hsplit, hc, -⟩
    rw [← (List.cons.inj hsplit).1] at hc
    exact absurd hc (by decide)
  have hslashes : ¬ ['/', '/'] <+: '/' :: (rawPath u).dropWhile (· == '/') := by
    intro hc
    obtain ⟨rest, hrest⟩ := (List.cons_prefix_cons.1 hc).2
    have hhead := List.head?_dropWhile_not (· == '/') (rawPath u)
    rw [← hrest] at hhead
    cases hhead
  obtain ⟨⟨hscheme, -, hhost, -⟩, -⟩ := Url.ofText_of_placeless hschemeless hslashes h
  exact ⟨hscheme, hhost⟩

namespace Fetcher

open Url (IsRelative NamesScheme withoutColon http site)

variable {transport : Transport} {method url content base : String} {status : Int} {q : Request}

/-- **What is sent** is the request for the target of the text. -/
theorem mem_sent (h : q ∈ (fetch ⟨some base, status⟩ transport method url content).sent) :
    ∃ t, target base url = .ok t ∧ Request.prepare method t content = .ok q ∧
      fetch ⟨some base, status⟩ transport method url content = send transport q := by
  unfold fetch at h ⊢
  dsimp only at h ⊢
  cases ht : target base url with
  | error f =>
    rw [ht] at h
    exact absurd h List.not_mem_nil
  | ok t =>
    rw [ht] at h
    dsimp only at h ⊢
    cases hq : Request.prepare method t content with
    | error f =>
      rw [hq] at h
      exact absurd h List.not_mem_nil
    | ok r =>
      rw [hq] at h
      obtain rfl := List.mem_singleton.1 h
      exact ⟨t, rfl, hq, rfl⟩

/-- The place of a URL that a rig listens at, and of what is made of it. -/
theorem isAt_base {host : List Char} {n : Int} {b : Url} (hhost : Host.IsPlain host) (hpos : 0 ≤ n)
    (hle : n ≤ Url.largestPort) (hbase : Url.NamesSite (site host (some n)) base.toList)
    (h : Url.ofText base.toList = .ok b) :
    Url.NamesSite (site (Host.kept host) (Url.keptPort n)) b.text ∧
      ∀ {s u}, Url.NamesSite (site (Host.kept host) (Url.keptPort n)) s → Url.ofText s = .ok u →
        u.IsAt (Host.kept host) (Url.keptPort n) ∧
          Url.NamesSite (site (Host.kept host) (Url.keptPort n)) u.text := by
  have hport : Url.readPort http (Url.portText (some n)) = .ok (Url.keptPort n) :=
    Url.readPort_written hpos hle
  -- The host can be kept, since the base was read.
  obtain ⟨name, hname⟩ : ∃ name, Host.read host = some name := by
    obtain ⟨tail, htail, hsplit⟩ := hbase
    obtain ⟨-, hplace, -⟩ := Url.ofText_ok h
    rw [hsplit, Url.splitScheme_http] at hplace
    dsimp only at hplace
    rw [Url.splitAuthority_site (Url.notMem_site hhost _) htail, Url.placeOf_site hhost] at hplace
    obtain ⟨name, hread, -⟩ := Except.bind_eq_ok_iff.1 hplace
    unfold Url.readHost at hread
    split at hread
    · exact ⟨_, by assumption⟩
    · cases hread
  have hfirst : Url.readHost host = .ok (Host.kept host) := by
    rw [Url.readHost, hname, Host.read_of_isPlain hhost hname]
  have hagain : Url.readHost (Host.kept host) = .ok (Host.kept host) := by
    rw [Url.readHost, Host.read_kept hhost hname]
  have hplace : Url.placeOf http (site host (some n)) =
      .ok ([], Host.kept host, Url.keptPort n) := by
    rw [Url.placeOf_site hhost, hfirst, Except.ok_bind, hport]
    rfl
  have hplace' : Url.placeOf http (site (Host.kept host) (Url.keptPort n)) =
      .ok ([], Host.kept host, Url.keptPort n) := by
    rw [Url.placeOf_site hhost.kept, hagain, Except.ok_bind]
    rw [show Url.readPort http _ = _ from Url.readPort_portText hpos hle]
    rfl
  exact ⟨(Url.isAt_of_namesSite (Url.notMem_site hhost _) hplace hhost.kept hbase h).2,
    fun hs hu => Url.isAt_of_namesSite (Url.notMem_site hhost.kept _) hplace' hhost.kept hs hu⟩

/-- **The request for a relative reference goes to the place of the base**, unless the reference starts
with `http`.  After a colon at its very start, which is passed over, it must be relative still. -/
theorem isAt_of_fetch {host : List Char} {n : Int} (hhost : Host.IsPlain host) (hpos : 0 ≤ n)
    (hle : n ≤ Url.largestPort) (hbase : Url.NamesSite (site host (some n)) base.toList)
    (hs : IsRelative url.toList) (hcolon : IsRelative (withoutColon url.toList))
    (hhttp : isComplete url = false)
    (h : q ∈ (fetch ⟨some base, status⟩ transport method url content).sent) :
    q.url.IsAt (Host.kept host) (Url.keptPort n) := by
  obtain ⟨t, ht, hq, -⟩ := mem_sent h
  rw [target, hhttp] at ht
  obtain ⟨b, hb, ht⟩ := Except.bind_eq_ok_iff.1 ht
  obtain ⟨r, hr, ht⟩ := Except.bind_eq_ok_iff.1 ht
  obtain ⟨u, hu, ht⟩ := Except.bind_eq_ok_iff.1 ht
  obtain rfl := Except.ok.inj ht
  obtain ⟨hnames, hread⟩ := isAt_base hhost hpos hle hbase hb
  have hrel : IsRelative r.text := Url.isRelative_text hs.schemeless hcolon hr
  obtain ⟨joined, hjoined, hu⟩ := Except.bind_eq_ok_iff.1 hu
  have hsite : site (Host.kept host) (Url.keptPort n) ≠ [] := by
    simp [site, hhost.kept.1]
  have hjoin := Reference.namesSite_join hsite (Url.notMem_site hhost.kept _) hnames hrel hjoined
  obtain ⟨-, hwritten⟩ := hread hjoin hu
  obtain ⟨v, hv, hplaced⟩ := Request.prepare_ok hq
  rw [String.toList_ofList] at hv
  obtain ⟨hat, -⟩ := hread hwritten hv
  have habsolute : v.isAbsolute = true := by
    rw [Url.isAbsolute, hat.scheme, hat.host]
    simp [http, hhost.kept.1]
  rw [if_pos habsolute] at hplaced
  rw [← Except.ok.inj hplaced]
  exact hat

/-- **The request for a relative reference that starts with `http` goes nowhere**: it has neither a scheme
nor a host, and fails. -/
theorem lost_of_fetch (hs : IsRelative url.toList) (hhttp : isComplete url = true)
    (h : q ∈ (fetch ⟨some base, status⟩ transport method url content).sent) :
    q.url.scheme = [] ∧ q.url.host = [] ∧
      (fetch ⟨some base, status⟩ transport method url content).result = .error .noHost := by
  obtain ⟨t, ht, hq, hsend⟩ := mem_sent h
  rw [target, hhttp, if_pos rfl] at ht
  obtain rfl := Except.ok.inj ht
  obtain ⟨u, hu, hplaced⟩ := Request.prepare_ok hq
  have hcolon : withoutColon url.toList = url.toList := by
    obtain ⟨rest, hrest⟩ := List.isPrefixOf_iff_prefix.1 hhttp
    refine Url.withoutColon_of_head fun hc => ?_
    rw [← hrest] at hc
    cases hc
  obtain ⟨⟨hscheme, -⟩, -⟩ :=
    Url.ofText_of_placeless hs.schemeless (by rw [hcolon]; exact hs.placeless) hu
  have habsolute : u.isAbsolute = false := by
    rw [Url.isAbsolute, hscheme]
    rfl
  rw [habsolute] at hplaced
  obtain ⟨hnone, hhost⟩ := Request.placeless_ok hplaced
  have hfault : placeFault? q.url = some .noHost := by
    rw [placeFault?, if_pos (by rw [Url.isAbsolute, hnone]; rfl)]
  refine ⟨hnone, hhost, ?_⟩
  rw [hsend, send, hfault]

end Fetcher

/-! ## After a setup -/

namespace Setup

open Url (IsRelative withoutColon)

/-- What the helper for fetching does in the context of a setup that ended well, by the settings and the
options of that setup. -/
structure Fetches (r : Rig) (s : Settings) (o : Value) : Prop where
  /-- Without a port nothing is sent, and the answer says so. -/
  silent : ¬ o.Shows "port" → ∀ transport method url content,
    r.fetch transport method url content = ⟨[], .ok ⟨s.notListeningStatus, Fetcher.silentText⟩⟩
  /-- With a plain host and a port in range, whatever is sent for a relative reference goes there, if the
  reference does not start with `http`, and is still relative after a colon at its very start. -/
  joined : ∀ host port, o.field "host" = .ok (.text host) → o.field "port" = .ok (.int port) →
    Host.IsPlain host.toList → 0 ≤ port → port ≤ Url.largestPort →
    r.context.get? RigKey.baseUrl.text = some (.plain (.text (urlAt (.text host) (.int port)))) ∧
      ∀ url, IsRelative url.toList → Fetcher.isComplete url = false →
        IsRelative (withoutColon url.toList) → ∀ transport method content,
        ∀ q ∈ (r.fetch transport method url content).sent,
          q.url.IsAt (Host.kept host.toList) (Url.keptPort port)
  /-- What is sent for a relative reference that starts with `http` has no place, and the call fails. -/
  lost : ∀ url, IsRelative url.toList → Fetcher.isComplete url = true →
    ∀ transport method content, ∀ q ∈ (r.fetch transport method url content).sent,
      q.url.scheme = [] ∧ q.url.host = [] ∧
        (r.fetch transport method url content).result = .error .noHost

/-- The helper of a setup that ended well belongs to the URL of its plan. -/
theorem get?_of_ready {r : Rig} {around : Surroundings} {request : SetupRequest}
    (h : (r.setup around request).2.result = .ok ()) :
    ∃ s c url, settingsOf around request = .ok s ∧ baseUrl c = .ok url ∧
      (r.setup around request).1.context.get? RigKey.options.text = some (.plain c.options) ∧
      (r.setup around request).1.context.get? RigKey.fetch.text =
        some (.fetcher ⟨url, s.notListeningStatus⟩) ∧
      ∀ u, url = some u → (r.setup around request).1.context.get? RigKey.baseUrl.text =
        some (.plain (.text u)) := by
  have hcontext : ∀ key : RigKey, (r.setup around request).1.context.get? key.text =
      ((Rig.writeAll r.running.length [] (attempt around request).writes).get? key.text).or
        (r.context.get? key.text) := fun key => Rig.get?_writeAll ..
  have hresult : (attempt around request).outcome.result = .ok () := h
  simp only [hcontext]
  have hcourse := course_attempt around request
  generalize attempt around request = a at hcourse hresult ⊢
  cases hcourse with
  | unsettled _ | unequipped _ _ | unplanned _ _ _ | nowhere _ _ _ _ => cases hresult
  | unmade _ _ _ _ _ | unbound _ _ _ _ _ _ => cases hresult
  | @ready s _ c url _ _ hs _ _ hu _ _ =>
    refine ⟨s, c, url, hs, hu, ?_⟩
    cases url with
    | none => exact ⟨rfl, rfl, nofun⟩
    | some u => exact ⟨rfl, rfl, fun v hv => by cases hv; rfl⟩

/-- A URL that a rig listens at names the site of its host and its port. -/
theorem namesSite_urlAt (host : String) (port : Int) :
    Url.NamesSite (Url.site host.toList (some port)) (urlAt (.text host) (.int port)).toList := by
  refine ⟨[], nofun, ?_⟩
  have hhost : (Value.text host).shown.toList = host.toList := by
    simp [Value.shown, Scalar.shown]
  have hport : (Value.int port).shown.toList = Numeral.ofInt port := by
    simp [Value.shown, Scalar.shown, Scalar.literal]
  simp only [urlAt, String.toList_append, hhost, hport]
  simp [Url.site, Url.portText, Url.http]

/-- **Where the requests of a rig go.**  After every setup that ends well, the helper for fetching sends
nothing if no port is configured, and answers that nothing listens.  If a plain host and a port in range are
configured, whatever it sends for a relative reference goes by `http` to exactly that host and that port,
unless the reference starts with `http` or stops being relative after a colon at its start.  What it sends
for a relative reference that starts with `http` goes nowhere, and the call fails. -/
theorem fetches_of_setup (r : Rig) (around : Surroundings) (request : SetupRequest)
    (h : (r.setup around request).2.result = .ok ()) :
    ∃ s o, settingsOf around request = .ok s ∧
      (r.setup around request).1.context.get? RigKey.options.text = some (.plain o) ∧
      Fetches (r.setup around request).1 s o := by
  obtain ⟨s, c, url, hs, hu, hoptions, hfetch, hbase⟩ := get?_of_ready h
  have hfetch' : ∀ transport method text content,
      (r.setup around request).1.fetch transport method text content =
        Fetcher.fetch ⟨url, s.notListeningStatus⟩ transport method text content := by
    intro transport method text content
    rw [Rig.fetch, hfetch]
  refine ⟨s, c.options, hs, hoptions, ?_⟩
  cases siting c with
  | unplaced _ _ _ hurl => cases hu.symm.trans hurl
  | silent _ hport _ hurl =>
    cases hu.symm.trans hurl
    constructor
    · intro _ transport method text content
      rw [hfetch']
      rfl
    · intro _ port _ hport'
      exact absurd ⟨_, hport'⟩ hport
    · intro text _ _ transport method content q hq
      rw [hfetch'] at hq
      exact absurd hq List.not_mem_nil
  | placed hhost hport _ hurl =>
    cases hu.symm.trans hurl
    constructor
    · intro hnone
      exact absurd ⟨_, hport⟩ hnone
    · intro host port hhost' hport' hplain hpos hle
      have hc : c.host = .text host := Except.ok.inj (hhost.symm.trans hhost')
      have hp : c.port = .int port := Except.ok.inj (hport.symm.trans hport')
      rw [hc, hp] at hfetch' hbase
      refine ⟨hbase _ rfl, fun text hrel hhttp hcolon transport method content q hq => ?_⟩
      rw [hfetch'] at hq
      exact Fetcher.isAt_of_fetch hplain hpos hle (namesSite_urlAt host port) hrel hcolon hhttp hq
    · intro text hrel hhttp transport method content q hq
      rw [hfetch'] at hq ⊢
      exact Fetcher.lost_of_fetch hrel hhttp hq

/-- A rig that listens at a host that is written with capitals. -/
def capitalRequest : SetupRequest where
  config := .given <| Value.record
    [("dev", Value.record [("port", .int 8787), ("hostname", .text "LocalHost")])]
  mocks := .none
  portOffset := .int 0
  factory := some Sample.working
  settings := some .standard

/-- The rig after its setup. -/
def capitalRig : Rig := (Rig.fresh.setup nothingAround capitalRequest).1

/-- A path that goes up and down again arrives. -/
theorem isAt_of_capitalRequest :
    (Rig.fresh.setup nothingAround capitalRequest).2.result = .ok () ∧
      ∃ q, (capitalRig.fetch Sample.server "get" "api/../test?q=1" "").sent = [q] ∧
        q.url.IsAt "localhost".toList (some 8787) := by
  have hresult : (Rig.fresh.setup nothingAround capitalRequest).2.result = .ok () := by
    decide +kernel
  have hsent : (capitalRig.fetch Sample.server "get" "api/../test?q=1" "").sent.length = 1 := by
    decide +kernel
  have hplan : ((plan nothingAround.files capitalRequest .standard).result >>= fun c =>
      c.options.field "host") = .ok (.text "LocalHost") ∧
      ((plan nothingAround.files capitalRequest .standard).result >>= fun c =>
      c.options.field "port") = .ok (.int 8787) := by
    decide +kernel
  obtain ⟨s, o, -, ho, hfetches⟩ := fetches_of_setup Rig.fresh nothingAround capitalRequest hresult
  obtain ⟨_, _, c, hs, -, hc, he⟩ := (get?_options_setup unheld_fresh).1 ho
  cases hs
  cases he
  rw [hc, Except.ok_bind, Except.ok_bind] at hplan
  obtain ⟨hhost, hport⟩ := hplan
  have hplain : Host.IsPlain "LocalHost".toList := by decide
  obtain ⟨-, hjoined⟩ :=
    hfetches.joined "LocalHost" 8787 hhost hport hplain (by decide) (by decide)
  obtain ⟨q, hq⟩ := List.length_eq_one_iff.1 hsent
  have hcolon : ':' ∉ "api/../test?q=1".toList := by decide
  have hrel : IsRelative "api/../test?q=1".toList :=
    ⟨Url.not_namesScheme_of_not_mem hcolon, by decide⟩
  refine ⟨hresult, q, hq, ?_⟩
  exact hjoined "api/../test?q=1" hrel (by decide) hrel Sample.server "get" "" q
    (hq ▸ List.mem_singleton_self q)

/-- A relative reference that resembles a scheme is sent without a scheme and a host. -/
theorem not_joined_of_httpStatus :
    IsRelative "http-status/200".toList ∧
      (capitalRig.fetch Sample.server "GET" "http-status/200" "").sent.map
        (fun q => (q.url.scheme, q.url.host)) = [([], [])] := by
  have hcolon : ':' ∉ "http-status/200".toList := by decide
  refine ⟨⟨Url.not_namesScheme_of_not_mem hcolon, by decide⟩, ?_⟩
  decide +kernel

/-- After a colon at the start of a text an address of its own can follow. -/
example : (capitalRig.fetch Sample.server "GET" ":http://elsewhere.test/x" "").sent.map
    (fun q => String.ofList q.url.host) = ["elsewhere.test"] := by
  decide +kernel

end Setup

end EdgeRig
