import EdgeRig.Outcome
import EdgeRig.Script
import EdgeRig.Worker

/-!
# Routing requests past static files

A simulator that is given static files and a worker answers every request from the files alone.  To
let a request that no file answers fall through to the worker, the asset block is taken off the
primary worker and two workers are put in front of it: a store that serves the files, and a router
that asks the store first and the worker when the store has nothing.

* `AssetRouting.apply` does so; what it has done when a fault stops it is part of its result.
* `AssetRouting.reserved` lists the names of the two workers; another worker may not carry them.
-/

namespace EdgeRig

namespace AssetRouting

def routerName : String := "asset-router"

def storeName : String := "asset-store"

/-- The names that belong to the two added workers. -/
def reserved : List String := [routerName, storeName]

/-- Workers after an activity, and what it told. -/
structure Step where
  workers : List Worker
  outcome : Outcome Unit

/-- The first reserved name among the names of the workers.  A name that is a list or a mapping
cannot be looked for. -/
def checkNames : List Worker → Except Fault Unit
  | [] => .ok ()
  | w :: ws =>
      match w.cell .name with
      | .plain (.scalar (.text n)) =>
          if reserved.contains n then .error (.failure (.reservedName (.text n))) else checkNames ws
      | .plain (.scalar _) => checkNames ws
      | _ => .error .unusableKey

/-- The worker that serves the files of a directory. -/
def store (directory : Option String) : Worker :=
  ((Worker.named storeName).setText .script (some Script.store)).setText .sitePath directory

/-- The worker that stands in front of the store and the worker of the given name. -/
def router (origin : String) : Worker :=
  ((Worker.named routerName).setText .script (some Script.router)).set .serviceBindings
    (.plain (Value.record [(Script.storeBinding, .text storeName),
      (Script.originBinding, .text origin)]))

/-- The name of the primary worker as the target of the router. -/
def originName (main : Worker) : Except Fault String :=
  match (main.cell .name).text? with
  | some n => .ok n
  | none =>
      .error (.invalid .worker
        [⟨[.field "service_bindings", .key (.text Script.originBinding)], .text⟩])

/-- The service bindings of the primary worker with one more entry.  A worker without bindings
starts from none. -/
def withStore (main : Worker) (binding : String) : Except Fault Worker :=
  match main.cell .serviceBindings with
  | .block _ => .error .notIterable
  | .plain v => do
      let m ← (if v.isTruthy then v else .map []).toMapping
      .ok (main.set .serviceBindings
        (.plain (.map (Mapping.put m (.text binding) (.text storeName)))))

/-- Replace the asset binding by a binding of the same name to the store.  An empty name binds
nothing. -/
def rebind (main : Worker) (block : AssetBlock) : Except Fault Worker :=
  match block.binding with
  | none => .ok main
  | some b => if b = "" then .ok main else withStore main b

/-- Hand the compatibility settings of the primary worker to an added worker. -/
def inherit (main w : Worker) : Except Fault Worker :=
  let w := if (main.cell .compatibilityDate).isEmpty then w
    else w.set .compatibilityDate (main.cell .compatibilityDate)
  match main.cell .compatibilityFlags with
  | .plain (.scalar .null) => .ok w
  | .block _ => .error .notIterable
  | .plain v => v.elements.map fun flags => w.set .compatibilityFlags (.plain (.list flags))

/-- The two added workers with the compatibility settings of the primary worker. -/
def added (main : Worker) (block : AssetBlock) (origin : String) :
    Except Fault (Worker × Worker) := do
  let s ← inherit main (store block.directory)
  let r ← inherit main (router origin)
  .ok (s, r)

/-- Put the router and the store in front of a worker whose asset block has been taken off. -/
def route (main : Worker) (others : List Worker) (block : AssetBlock) : Step :=
  match originName main with
  | .error f => ⟨main :: others, .fail f⟩
  | .ok origin =>
      match rebind main block with
      | .error f => ⟨main :: others, .fail f⟩
      | .ok bound =>
          match added bound block origin with
          | .error f => ⟨bound :: others, .fail f⟩
          | .ok (s, r) =>
              ⟨r :: s :: bound :: others,
                Outcome.tell (.routed origin block.directory block.binding)⟩

/-- Replace the asset block of the first worker by a router and a store. -/
def apply (workers : List Worker) : Step :=
  match workers with
  | [] => ⟨workers, .done ()⟩
  | main :: others =>
      let cleared := main.set .assets .empty
      match main.cell .assets with
      | .plain (.scalar .null) => ⟨workers, .done ()⟩
      | .plain _ =>
          match checkNames workers with
          | .error f => ⟨workers, .fail f⟩
          | .ok () => ⟨cleared :: others, .fail .notAssetBlock⟩
      | .block b =>
          match checkNames workers with
          | .error f => ⟨workers, .fail f⟩
          | .ok () => route cleared others b

end AssetRouting

end EdgeRig
