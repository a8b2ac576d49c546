import EdgeRig.Fetch

/-!
# Contexts

A context is a mapping that belongs to the caller.  A rig keeps six entries of its own in it and
leaves all others alone.

* `Context.put` writes an entry, `Context.get?` reads one; `get?_put` and `get?_put_of_ne` are the
  laws between them.
* `Context.cleared` is the context without the entries of a rig.
-/

namespace EdgeRig

/-- What stands under a key of a context. -/
inductive ContextEntry where
  | plain (v : Value)
  /-- A simulator, by its number among those of its rig. -/
  | simulator (index : Nat)
  | fetcher (f : Fetcher)

/-- Entries by key, in order of first writing. -/
abbrev Context := List (String × ContextEntry)

/-- The keys of a rig. -/
inductive RigKey where
  | simulator
  | env
  | fetch
  | isListening
  | baseUrl
  | options
  deriving DecidableEq

namespace RigKey

def all : List RigKey := [simulator, env, fetch, isListening, baseUrl, options]

/-- The name of a key in a context. -/
def text : RigKey → String
  | simulator => "simulator"
  | env => "env"
  | fetch => "fetch"
  | isListening => "is_server_listening"
  | baseUrl => "server_base_url"
  | options => "options"

/-- Does the name belong to a rig? -/
def isOwn (k : String) : Bool := all.any fun r => r.text == k

theorem isOwn_text (k : RigKey) : isOwn k.text = true := by cases k <;> decide

theorem text_injective {j k : RigKey} (h : j.text = k.text) : j = k := by
  revert h
  cases j <;> cases k <;> decide

end RigKey

namespace Context

/-- What stands under a key. -/
def get? (c : Context) (k : String) : Option ContextEntry := List.lookup k c

/-- Write an entry, in its place or at the end. -/
def put : Context → String → ContextEntry → Context
  | [], k, e => [(k, e)]
  | (j, d) :: rest, k, e => if j = k then (j, e) :: rest else (j, d) :: put rest k e

/-- The context without the entries of a rig. -/
def cleared (c : Context) : Context := c.filter fun e => !RigKey.isOwn e.1

@[simp] theorem get?_put (c : Context) (k : String) (e : ContextEntry) :
    get? (put c k e) k = some e := by
  induction c with
  | nil => simp [put, get?]
  | cons p rest ih =>
    obtain ⟨j, d⟩ := p
    by_cases h : j = k
    · simp [put, h, get?]
    · have hk : (k == j) = false := by simpa using Ne.symm h
      simpa [put, h, get?, List.lookup_cons, hk] using ih

theorem get?_put_of_ne (c : Context) {j k : String} (e : ContextEntry) (h : j ≠ k) :
    get? (put c k e) j = get? c j := by
  induction c with
  | nil =>
    have hj : (j == k) = false := by simpa using h
    simp [put, get?, List.lookup_cons, hj]
  | cons p rest ih =>
    obtain ⟨i, d⟩ := p
    by_cases hk : i = k
    · subst hk
      have hj : (j == i) = false := by simpa using h
      simp [put, get?, List.lookup_cons, hj]
    · simp only [get?] at ih
      simp only [put, hk, if_false, get?, List.lookup_cons, ih]

end Context

end EdgeRig
