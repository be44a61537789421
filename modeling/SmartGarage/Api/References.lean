/-
References to resources and collections: the links of collections and of the cloud's resource directory, the entries
of `observe_callbacks` and `timed_callbacks`, and `num_links`, which counts the links. A resource is its address; the
address of one that has been deleted may be given to a new one.
-/
import SmartGarage.Lib.Run
import SmartGarage.Lib.Search
import Mathlib.Data.List.Nodup
import Mathlib.Logic.Function.Basic

namespace SmartGarage.References

/-! ## The structures -/

/-- `oc_link_t` -/
structure Link where
  id : Nat
  resource : Option Nat
deriving DecidableEq

/-- `oc_resource_t`, or `oc_collection_t` with its list of links. -/
structure Resource where
  id : Nat
  device : Nat
  periodic : Bool
  links : Option (List Nat)
deriving DecidableEq

/-- The callbacks that are set with a resource as their data. -/
inductive Callback
  | observeNotification
  | linksList
  | baseline
  | batch
deriving DecidableEq

/-- An entry of `timed_callbacks`. -/
structure Timed where
  callback : Callback
  data : Nat
deriving DecidableEq

/-- The lists of an `oc_cloud_context_t`, a link by its `resource`. -/
structure CloudLinks where
  device : Nat
  publish : List (Option Nat)
  published : List (Option Nat)
  delete : List (Option Nat)

/-- All links of the context. -/
def CloudLinks.all (ctx : CloudLinks) : List (Option Nat) := ctx.publish ++ ctx.published ++ ctx.delete

/-- The resources and collections there are, `num_links` at every address, the links that have been made by the
application, and the other places that refer to resources. -/
structure Registry where
  resources : List Resource
  numLinks : Nat → UInt8
  links : List Link
  contexts : List CloudLinks
  observeCallbacks : List Nat
  timedCallbacks : List Timed

/-- There are cloud contexts for the devices, and nothing else. -/
def Registry.init (devices : List Nat) : Registry :=
  ⟨[], fun _ => 0, [], devices.map fun device => ⟨device, [], [], []⟩, [], []⟩

namespace Registry

variable (s : Registry)

/-- The resource or collection at an address. -/
def at? (a : Nat) : Option Resource := s.resources.find? (·.id = a)

/-- The `resource` of every link that exists. -/
def fields : List (Option Nat) := s.links.map (·.resource) ++ s.contexts.flatMap (·.all)

/-- `num_links++` -/
def countUp (a : Nat) : Registry := { s with numLinks := Function.update s.numLinks a (s.numLinks a + 1) }

/-- `if (link->resource) link->resource->num_links--` -/
def countDown : Option Nat → Registry
  | some a => { s with numLinks := Function.update s.numLinks a (s.numLinks a - 1) }
  | none => s

/-! ## Resources and collections -/

/-- `oc_memb_alloc` for a resource or a collection, at an address that is free. -/
def alloc (r : Resource) : Registry :=
  if (s.at? r.id).isSome then s
  else { s with resources := s.resources ++ [r], numLinks := Function.update s.numLinks r.id 0 }

/-- The resource or collection is freed. -/
def free (a : Nat) : Registry := { s with resources := s.resources.filter (·.id ≠ a) }

/-- `oc_ri_delete_resource`; its observers are not among the references here. -/
def ocRiDeleteResource (a : Nat) : Registry :=
  match s.at? a with
  | some ⟨_, _, _, none⟩ => s.free a
  | _ => s

/-- `oc_new_link`, with the link at an address that is free. -/
def ocNewLink (l a : Nat) : Registry :=
  if l ∈ s.links.map (·.id) then s else { s.countUp a with links := s.links ++ [⟨l, some a⟩] }

/-- `oc_delete_link` -/
def ocDeleteLink (l : Nat) : Registry :=
  match s.links.find? (·.id = l) with
  | some link => { s.countDown link.resource with links := s.links.filter (·.id ≠ l) }
  | none => s

/-- `oc_collection_free` -/
def ocCollectionFree (c : Nat) : Registry :=
  match s.at? c with
  | some ⟨_, _, _, some links⟩ => (links.foldl ocDeleteLink s).free c
  | _ => s

/-- `oc_set_delayed_callback` -/
def ocSetDelayedCallback (callback : Callback) (a : Nat) : Registry :=
  { s with timedCallbacks := s.timedCallbacks ++ [⟨callback, a⟩] }

/-- The list of links of a collection is changed, and its observers are to be notified. What is not a collection is
never given to these functions. -/
def changeLinks (c : Nat) (f : List Nat → List Nat) : Registry :=
  match s.at? c with
  | some ⟨_, _, _, none⟩ => s
  | _ =>
    let resources := s.resources.map fun r => if r.id = c then { r with links := r.links.map f } else r
    { s with resources := resources }.ocSetDelayedCallback .linksList c

/-- `oc_collection_add_link` -/
def ocCollectionAddLink (c l : Nat) : Registry := s.changeLinks c (· ++ [l])

/-- `oc_collection_remove_link` -/
def ocCollectionRemoveLink (c l : Nat) : Registry := s.changeLinks c (·.erase l)

/-! ## Observe registrations and notifications -/

/-- `add_periodic_observe_callback` -/
def addPeriodicObserveCallback (a : Nat) : Registry :=
  if a ∈ s.observeCallbacks then s else { s with observeCallbacks := s.observeCallbacks ++ [a] }

/-- `remove_periodic_observe_callback` -/
def removePeriodicObserveCallback (a : Nat) : Registry := { s with observeCallbacks := s.observeCallbacks.erase a }

/-- The resources of the links of a collection that are periodic. -/
def periodicLinks (r : Resource) : List Nat :=
  (r.links.getD []).filterMap fun l =>
    match (s.links.find? (·.id = l)).bind (·.resource) with
    | some a => if (s.at? a).any (·.periodic) then some a else none
    | none => none

/-- The part of a request with observe 0 that registers callbacks. `accepted` is whether `coap_observe_handler` takes
the observer, and `batch` whether the links are observed with the resource and the client may retrieve them. -/
def observe (a : Nat) (accepted batch : Bool) : Registry :=
  match s.at? a with
  | some r =>
    let s' := if accepted && r.periodic then s.addPeriodicObserveCallback a else s
    if batch then (s.periodicLinks r).foldl addPeriodicObserveCallback s' else s'
  | none => s

/-- The same for observe 1, where an observer has been removed. -/
def cancelObserve (a : Nat) : Registry :=
  match s.at? a with
  | some r =>
    let s' := if r.periodic then s.removePeriodicObserveCallback a else s
    (s.periodicLinks r).foldl removePeriodicObserveCallback s'
  | none => s

/-- `periodic_observe_handler` for an entry whose timer has expired, which is removed if nobody is notified. -/
def periodicExpired (a : Nat) (notified : Bool) : Registry :=
  if notified then s else s.removePeriodicObserveCallback a

/-- An entry of `timed_callbacks` expires: the callback is called, and removed behind that. -/
def timedExpired (i : Nat) : Registry :=
  match s.timedCallbacks[i]? with
  | some t =>
    let s' := if t.callback = .linksList then s.ocSetDelayedCallback .baseline t.data else s
    { s' with timedCallbacks := s'.timedCallbacks.eraseIdx i }
  | none => s

/-! ## The cloud -/

/-- `oc_cloud_get_context` -/
def context? (device : Nat) : Option CloudLinks := s.contexts.find? (·.device = device)

/-- The lists of a context are changed. -/
def changeContext (device : Nat) (f : CloudLinks → CloudLinks) : Registry :=
  { s with contexts := Search.modify (·.device = device) f s.contexts }

/-- `rd_link_find`, `oc_delete_link` and the removal from a list, for the link of a resource. -/
def deleteFound (list : List (Option Nat)) (a : Nat) : Registry := if some a ∈ list then s.countDown (some a) else s

/-- `oc_cloud_add_resource` -/
def ocCloudAddResource (a : Nat) : Registry :=
  match s.at? a with
  | some r =>
    match s.context? r.device with
    | some ctx =>
      if some a ∈ ctx.publish ∨ some a ∈ ctx.published then s
      else
        ((s.deleteFound ctx.delete a).countUp a).changeContext r.device fun ctx =>
          { ctx with delete := ctx.delete.erase (some a), publish := ctx.publish ++ [some a] }
    | none => s
  | none => s

/-- `oc_cloud_delete_resource`: a link that has been published is left without its resource, and is not counted down. -/
def ocCloudDeleteResource (a : Nat) : Registry :=
  match s.at? a with
  | some r =>
    match s.context? r.device with
    | some ctx =>
      (s.deleteFound ctx.publish a).changeContext r.device fun ctx =>
        { ctx with
          publish := ctx.publish.erase (some a)
          published := ctx.published.erase (some a)
          delete := if some a ∈ ctx.published then ctx.delete ++ [none] else ctx.delete }
    | none => s
  | none => s

/-- `publish_resources_handler` for a link that the response names. -/
def cloudPublished (device i : Nat) : Registry :=
  s.changeContext device fun ctx =>
    match ctx.publish[i]? with
    | some f => { ctx with publish := ctx.publish.eraseIdx i, published := ctx.published ++ [f] }
    | none => ctx

/-- `move_published_to_publish_resources` -/
def cloudRepublish (device : Nat) : Registry :=
  s.changeContext device fun ctx => { ctx with publish := ctx.publish ++ ctx.published, published := [] }

/-- `delete_resources_handler` -/
def deleteResourcesHandler (device : Nat) : Registry :=
  match s.context? device with
  | some ctx => (ctx.delete.foldl countDown s).changeContext device fun ctx => { ctx with delete := [] }
  | none => s

/-- `cloud_rd_deinit` -/
def cloudRdDeinit (device : Nat) : Registry :=
  match s.context? device with
  | some ctx => (ctx.all.foldl countDown s).changeContext device fun ctx => ⟨ctx.device, [], [], []⟩
  | none => s

end Registry

/-! ## Runs -/

/-- What can happen to the references. -/
inductive Action
  | newResource (a device : Nat) (periodic : Bool)
  | newCollection (a device : Nat) (periodic : Bool)
  | deleteResource (a : Nat)
  | deleteCollection (c : Nat)
  | newLink (l a : Nat)
  | deleteLink (l : Nat)
  | addLink (c l : Nat)
  | removeLink (c l : Nat)
  | observe (a : Nat) (accepted batch : Bool)
  | cancelObserve (a : Nat)
  | periodicExpired (a : Nat) (notified : Bool)
  | delayNotification (callback : Callback) (a : Nat)
  | timedExpired (i : Nat)
  | cloudAdd (a : Nat)
  | cloudDelete (a : Nat)
  | cloudPublished (device i : Nat)
  | cloudRepublish (device : Nat)
  | cloudDeleted (device : Nat)
  | cloudDeinit (device : Nat)

/-- What an action does. -/
def step (s : Registry) : Action → Registry
  | .newResource a device periodic => s.alloc ⟨a, device, periodic, none⟩
  | .newCollection a device periodic => s.alloc ⟨a, device, periodic, some []⟩
  | .deleteResource a => s.ocRiDeleteResource a
  | .deleteCollection c => s.ocCollectionFree c
  | .newLink l a => s.ocNewLink l a
  | .deleteLink l => s.ocDeleteLink l
  | .addLink c l => s.ocCollectionAddLink c l
  | .removeLink c l => s.ocCollectionRemoveLink c l
  | .observe a accepted batch => s.observe a accepted batch
  | .cancelObserve a => s.cancelObserve a
  | .periodicExpired a notified => s.periodicExpired a notified
  | .delayNotification callback a => s.ocSetDelayedCallback callback a
  | .timedExpired i => s.timedExpired i
  | .cloudAdd a => s.ocCloudAddResource a
  | .cloudDelete a => s.ocCloudDeleteResource a
  | .cloudPublished device i => s.cloudPublished device i
  | .cloudRepublish device => s.cloudRepublish device
  | .cloudDeleted device => s.deleteResourcesHandler device
  | .cloudDeinit device => s.cloudRdDeinit device

end SmartGarage.References
