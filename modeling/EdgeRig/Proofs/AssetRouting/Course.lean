import EdgeRig.AssetRouting
import EdgeRig.Proofs.Outcome
import EdgeRig.Proofs.Worker

/-!
# The courses that routing can take

Routing checks the names, takes the asset block off the first worker, and then builds the router and
the store.  It can stop between any two of these, and what it has done until then stays done.

* `AssetRouting.Course` — one constructor for each way that routing can go, with what was found on
  that way and what is left behind; `AssetRouting.course_apply` says that there is no other.
* `AssetRouting.apply_ok` — the two ways that end well.
-/

namespace EdgeRig

namespace AssetRouting

/-- The first worker once its asset block has been taken off. -/
def cleared (main : Worker) : Worker := main.set .assets .empty

/-- The ways that routing can go: the workers it is given, and what it leaves and tells. -/
inductive Course : List Worker → Step → Prop where
  /-- There is no worker. -/
  | none : Course [] ⟨[], .done ()⟩
  /-- The first worker has no asset block. -/
  | idle {main : Worker} {others : List Worker} (h : main.cell .assets = .empty) :
      Course (main :: others) ⟨main :: others, .done ()⟩
  /-- A name is reserved, or cannot be looked for. -/
  | refused {main : Worker} {others : List Worker} {f : Fault} (h : main.cell .assets ≠ .empty)
      (hn : checkNames (main :: others) = .error f) :
      Course (main :: others) ⟨main :: others, .fail f⟩
  /-- The asset field holds something else than a block. -/
  | notBlock {main : Worker} {others : List Worker} {v : Value} (h : main.cell .assets = .plain v)
      (hv : v ≠ .null) (hn : checkNames (main :: others) = .ok ()) :
      Course (main :: others) ⟨cleared main :: others, .fail .notAssetBlock⟩
  /-- The first worker has no name that a binding could hold. -/
  | nameless {main : Worker} {others : List Worker} {b : AssetBlock} {f : Fault}
      (h : main.cell .assets = .block b) (hn : checkNames (main :: others) = .ok ())
      (ho : originName (cleared main) = .error f) :
      Course (main :: others) ⟨cleared main :: others, .fail f⟩
  /-- The service bindings of the first worker take no further entry. -/
  | unbound {main : Worker} {others : List Worker} {b : AssetBlock} {origin : String} {f : Fault}
      (h : main.cell .assets = .block b) (hn : checkNames (main :: others) = .ok ())
      (ho : originName (cleared main) = .ok origin) (hb : rebind (cleared main) b = .error f) :
      Course (main :: others) ⟨cleared main :: others, .fail f⟩
  /-- The compatibility flags cannot be handed on. -/
  | unlisted {main bound : Worker} {others : List Worker} {b : AssetBlock} {origin : String}
      {f : Fault} (h : main.cell .assets = .block b) (hn : checkNames (main :: others) = .ok ())
      (ho : originName (cleared main) = .ok origin) (hb : rebind (cleared main) b = .ok bound)
      (ha : added bound b origin = .error f) : Course (main :: others) ⟨bound :: others, .fail f⟩
  /-- The router and the store stand in front. -/
  | routed {main bound store router : Worker} {others : List Worker} {b : AssetBlock}
      {origin : String} (h : main.cell .assets = .block b)
      (hn : checkNames (main :: others) = .ok ()) (ho : originName (cleared main) = .ok origin)
      (hb : rebind (cleared main) b = .ok bound) (ha : added bound b origin = .ok (store, router)) :
      Course (main :: others)
        ⟨router :: store :: bound :: others,
          Outcome.tell (.routed origin b.directory b.binding)⟩

theorem course_route {main : Worker} {others : List Worker} {b : AssetBlock}
    (h : main.cell .assets = .block b) (hn : checkNames (main :: others) = .ok ()) :
    Course (main :: others) (route (cleared main) others b) := by
  unfold route
  split
  · rename_i ho
    exact .nameless h hn ho
  · rename_i origin ho
    split
    · rename_i hb
      exact .unbound h hn ho hb
    · rename_i bound hb
      split
      · rename_i ha
        exact .unlisted h hn ho hb ha
      · rename_i ha
        exact .routed h hn ho hb ha

/-- **There is no other course.** -/
theorem course_apply (ws : List Worker) : Course ws (apply ws) := by
  cases ws with
  | nil => exact .none
  | cons main others =>
    unfold apply
    dsimp only
    split
    · rename_i h
      exact .idle h
    · rename_i v hv h
      split
      · rename_i hn
        exact .refused (by rw [h]; exact fun hc => hv (Cell.plain.inj hc)) hn
      · rename_i hn
        exact .notBlock h hv hn
    · rename_i b h
      split
      · rename_i hn
        exact .refused (by rw [h]; exact fun hc => by cases hc) hn
      · rename_i hn
        exact course_route h hn

/-- Routing that ends well has found no asset block, or has put the router and the store in front. -/
theorem apply_ok {head : Worker} {others : List Worker}
    (h : (apply (head :: others)).outcome.result = .ok ()) :
    (head.cell .assets = .empty ∧ (apply (head :: others)).workers = head :: others) ∨
      ∃ b origin bound t r, head.cell .assets = .block b ∧
        checkNames (head :: others) = .ok () ∧ originName (cleared head) = .ok origin ∧
        rebind (cleared head) b = .ok bound ∧ added bound b origin = .ok (t, r) ∧
        (apply (head :: others)).workers = r :: t :: bound :: others := by
  have hcourse := course_apply (head :: others)
  generalize apply (head :: others) = step at hcourse h ⊢
  cases hcourse with
  | idle hnone => exact Or.inl ⟨hnone, rfl⟩
  | refused _ _ => cases h
  | notBlock _ _ _ => cases h
  | nameless _ _ _ => cases h
  | unbound _ _ _ _ => cases h
  | unlisted _ _ _ _ _ => cases h
  | routed hblock hn ho hb ha => exact Or.inr ⟨_, _, _, _, _, hblock, hn, ho, hb, ha, rfl⟩

end AssetRouting

end EdgeRig
