/-
`observe.c` and the observe part of `oc_ri.c`: the entries of `observers_list`, the counters of the resources
they refer to, and the callbacks by which periodic resources are polled.
-/
import SmartGarage.Api.Resources

namespace SmartGarage.Observe

/-! ## Entries -/

/-- `coap_observer_t`: `resource` is the address of the resource the entry refers to. -/
structure Observer where
  resource : Nat
  url : OcString
  endpoint : OcEndpoint
  token : OcString
  lastMid : UInt16
  ifaceMask : InterfaceMask
deriving DecidableEq

/-- The resources, `observers_list`, and the resources that the entries of `observe_callbacks` poll. The
addresses from `nextResource` on have not been used. -/
structure Server where
  resources : List Resource
  observers : List Observer
  callbacks : List Nat
  nextResource : Nat

/-- `num_observers` of a resource after a change. -/
def withCounter (f : UInt8 → UInt8) (r : Resource) : Resource := { r with numObservers := f r.numObservers }

/-- The comparison of `coap_remove_observer_handle_by_uri` -/
def isRegistration (endpoint : OcEndpoint) (uri : OcString) (ifaceMask : InterfaceMask) (o : Observer) : Bool :=
  ocEndpointCompare o.endpoint endpoint && o.url == uri && o.ifaceMask == ifaceMask

/-- The comparison of `coap_remove_observer_by_token` -/
def hasToken (endpoint : OcEndpoint) (token : OcString) (o : Observer) : Bool :=
  ocEndpointCompare o.endpoint endpoint && o.token == token

/-- The comparison of `coap_remove_observer_by_resource`: it goes by the address and by the path. -/
def observesUri (r : Resource) (o : Observer) : Bool := o.resource == r.id && o.url == r.uri.drop 1

namespace Server

variable (st : Server)

/-- The number of entries that refer to a resource. -/
def entries (id : Nat) : Nat := st.observers.countP (·.resource = id)

/-- The resource at an address. -/
def resource? (id : Nat) : Option Resource := st.resources.find? (·.id = id)

/-- `num_observers` of the resource at an address is changed. -/
def count (id : Nat) (f : UInt8 → UInt8) : Server :=
  { st with resources := st.resources.map fun r => if r.id = id then withCounter f r else r }

/-! ## Removal -/

/-- `coap_remove_observer` -/
def coapRemoveObserver (o : Observer) : Server :=
  { st.count o.resource (· - 1) with observers := st.observers.erase o }

/-- The first entry of a kind is removed: the state, and how many have been. -/
def removeFirst (p : Observer → Bool) : Server × Nat :=
  match st.observers.find? p with
  | some o => (st.coapRemoveObserver o, 1)
  | none => (st, 0)

/-- Every entry of a kind is removed. -/
def removeAll (p : Observer → Bool) : Server := (st.observers.filter p).foldl coapRemoveObserver st

/-- `coap_remove_observer_handle_by_uri` -/
def coapRemoveObserverHandleByUri (endpoint : OcEndpoint) (uri : OcString) (ifaceMask : InterfaceMask) : Server × Nat :=
  st.removeFirst (isRegistration endpoint uri ifaceMask)

/-- `coap_remove_observer_by_token` -/
def coapRemoveObserverByToken (endpoint : OcEndpoint) (token : OcString) : Server × Nat :=
  st.removeFirst (hasToken endpoint token)

/-- `coap_remove_observer_by_mid` -/
def coapRemoveObserverByMid (endpoint : OcEndpoint) (mid : UInt16) : Server × Nat :=
  st.removeFirst fun o => ocEndpointCompare o.endpoint endpoint && o.lastMid == mid

/-- `coap_remove_observer_by_client` -/
def coapRemoveObserverByClient (endpoint : OcEndpoint) : Server :=
  st.removeAll fun o => ocEndpointCompare o.endpoint endpoint

/-- `coap_remove_observer_by_resource` -/
def coapRemoveObserverByResource (r : Resource) : Server := st.removeAll (observesUri r)

/-- `coap_remove_observers_on_dos_change`, without the messages to the observers: `allowed` is what
`oc_sec_check_acl` says of a `GET`. -/
def coapRemoveObserversOnDosChange (device : Nat) (reset : Bool) (allowed : Nat → OcEndpoint → Bool) : Server :=
  st.removeAll fun o => o.endpoint.device == device && (reset || !allowed o.resource o.endpoint)

/-- `coap_free_all_observers` -/
def coapFreeAllObservers : Server := st.removeAll fun _ => true

/-! ## Registration -/

/-- `add_observer`: `available` says whether `oc_memb_alloc` finds memory. -/
def addObserver (r : Resource) (endpoint : OcEndpoint) (token uri : OcString) (ifaceMask : InterfaceMask)
    (available : Bool) : Server × Int :=
  let (st, dup) := st.coapRemoveObserverHandleByUri endpoint uri ifaceMask
  if available then
    ({ st.count r.id (· + 1) with observers := st.observers ++ [⟨r.id, uri, endpoint, token, 0, ifaceMask⟩] }, dup)
  else (st, -1)

/-- `coap_observe_handler` -/
def coapObserveHandler (request : CoapPacket) (responseCode : UInt8) (r : Resource) (endpoint : OcEndpoint)
    (ifaceMask : InterfaceMask) (available : Bool) : Server × Int :=
  if request.code = coapGet ∧ responseCode < 128 ∧ request.isOption coapOptionObserve = true then
    if request.observe = 0 then st.addObserver r endpoint request.token request.uriPath ifaceMask available
    else if request.observe = 1 then
      let (st, removed) := st.coapRemoveObserverByToken endpoint request.token
      (st, removed)
    else (st, -1)
  else (st, -1)

/-! ## Polling -/

/-- `add_periodic_observe_callback` -/
def addPeriodicObserveCallback (id : Nat) (available : Bool) : Server × Bool :=
  if id ∈ st.callbacks then (st, true)
  else if available then ({ st with callbacks := st.callbacks ++ [id] }, true)
  else (st, false)

/-- `remove_periodic_observe_callback` -/
def removePeriodicObserveCallback (id : Nat) : Server := { st with callbacks := st.callbacks.erase id }

/-- The resources at the ends of the links of a collection. -/
def linked (r : Resource) : List Resource := r.links.filterMap st.resource?

/-- `coap_notify_observers` as far as its value goes: `notified` is the number that
`coap_notify_collections` returns for the collections a resource is linked in. -/
def coapNotifyObservers (id : Nat) (rfnop : Bool) (notified : Nat) : Nat :=
  if rfnop then ((st.resource? id).elim 0 fun r => r.numObservers.toNat) + notified else 0

/-- `periodic_observe_handler`, called by `poll_event_callback_timers` -/
def pollResource (id : Nat) (rfnop : Bool) (notified : Nat) : Server :=
  if id ∈ st.callbacks ∧ st.coapNotifyObservers id rfnop notified = 0 then st.removePeriodicObserveCallback id else st

end Server

/-! ## The observe option of a request -/

/-- What a request meets: which allocations succeed, and what `oc_sec_check_acl` says of a `GET` on the
links of a collection. -/
structure ObserveEnv where
  observerAvailable : Bool
  callbackAvailable : Nat → Bool
  allowed : Nat → Bool

/-- A request whose handler has answered without an error: the packet, the code of the response so far, the
sender, and the interface the query selects. -/
structure ObserveRequest where
  packet : CoapPacket
  responseCode : UInt8
  endpoint : OcEndpoint
  ifaceQuery : InterfaceMask

section Request

variable (env : ObserveEnv) (rq : ObserveRequest) (cur : Resource)

/-- What follows an attempt to add the client: a periodic resource gets its callback. -/
def pollCurrent (added : Server × Int) : Server × Bool :=
  if added.2 ≥ 0 ∧ cur.periodic = true then added.1.addPeriodicObserveCallback cur.id (env.callbackAvailable cur.id)
  else (added.1, true)

/-- The client may read every observable resource that is linked. -/
def linksAllowed (links : List Resource) : Bool := links.all fun link => !link.observable || env.allowed link.id

/-- The periodic resources that are linked get callbacks. -/
def pollLinks (links : List Resource) (st : Server) : Server :=
  (links.filter (·.periodic)).foldl
    (fun st link => (st.addPeriodicObserveCallback link.id (env.callbackAvailable link.id)).1) st

/-- The client is to be added: the state, and whether the response gets the option. -/
def register (isCollection : Bool) (st : Server) : Server × Bool :=
  let (st, setOption) := pollCurrent env cur
    (st.coapObserveHandler rq.packet rq.responseCode cur rq.endpoint rq.ifaceQuery env.observerAvailable)
  let links := if isCollection then st.linked cur else []
  if setOption && linksAllowed env links then (if rq.ifaceQuery = ifB then pollLinks env links st else st, true)
  else ((st.coapRemoveObserverByToken rq.endpoint rq.packet.token).1, false)

/-- The client is to be removed. -/
def cancel (isCollection : Bool) (st : Server) : Server :=
  let (st, removed) := st.coapObserveHandler rq.packet rq.responseCode cur rq.endpoint rq.ifaceQuery env.observerAvailable
  if removed > 0 then
    let links := if isCollection then st.linked cur else []
    let st := if cur.periodic then st.removePeriodicObserveCallback cur.id else st
    (links.filter (·.periodic)).foldl (fun st link => st.removePeriodicObserveCallback link.id) st
  else st

/-- The part of `oc_ri_invoke_coap_entity_handler` that reads the observe option. -/
def observeRequest (isCollection : Bool) (st : Server) : Server × Bool :=
  if rq.packet.isOption coapOptionObserve = true ∧ cur.observable = true then
    if rq.packet.observe = 0 then register env rq cur isCollection st
    else if rq.packet.observe = 1 then (cancel env rq cur isCollection st, false)
    else (st, false)
  else (st, false)

end Request

/-! ## Events -/

/-- What happens to the observers of a server. `added` registers a resource, `requested` is a request whose
handler has answered without an error, `notified` records the messages that have notified observers, and
`expired` the timer of a periodic callback. -/
inductive Event
  | added (r : Resource)
  | requested (env : ObserveEnv) (rq : ObserveRequest)
  | removedByClient (endpoint : OcEndpoint)
  | removedByToken (endpoint : OcEndpoint) (token : OcString)
  | removedByMid (endpoint : OcEndpoint) (mid : UInt16)
  | removedByResource (id : Nat)
  | dosChanged (device : Nat) (reset : Bool) (allowed : Nat → OcEndpoint → Bool)
  | freed
  | notified (mid : Observer → Option UInt16)
  | expired (id : Nat) (rfnop : Bool) (notified : Nat)
  | deleted (id : Nat)

/-- The entry behind a notification. -/
def withMid (o : Observer) : Option UInt16 → Observer
  | some mid => { o with lastMid := mid }
  | none => o

namespace Server

variable (st : Server)

/-- `oc_new_resource` and `oc_ri_add_resource`: a new address, and no observers. -/
def addResource (r : Resource) : Server :=
  { st with
    resources := st.resources ++ [{ r with id := st.nextResource, numObservers := 0 }]
    nextResource := st.nextResource + 1 }

/-- `oc_ri_delete_resource` -/
def ocRiDeleteResource (r : Resource) : Server :=
  let st := if r.numObservers > 0 then st.coapRemoveObserverByResource r else st
  { st with resources := st.resources.filter (·.id ≠ r.id) }

end Server

/-- One event. Only resources of `app_resources` are deleted. -/
def step (ocfD : Nat) (st : Server) : Event → Server
  | .added r => st.addResource r
  | .requested env rq =>
    match findResource ocfD st.resources rq.packet.uriPath rq.endpoint.device with
    | some cur => (observeRequest env rq cur (cur.coreIndex.isNone && cur.isCollection) st).1
    | none => st
  | .removedByClient endpoint => st.coapRemoveObserverByClient endpoint
  | .removedByToken endpoint token => (st.coapRemoveObserverByToken endpoint token).1
  | .removedByMid endpoint mid => (st.coapRemoveObserverByMid endpoint mid).1
  | .removedByResource id =>
    match st.resource? id with
    | some r => st.coapRemoveObserverByResource r
    | none => st
  | .dosChanged device reset allowed => st.coapRemoveObserversOnDosChange device reset allowed
  | .freed => st.coapFreeAllObservers
  | .notified mid => { st with observers := st.observers.map fun o => withMid o (mid o) }
  | .expired id rfnop notified => st.pollResource id rfnop notified
  | .deleted id =>
    match st.resource? id with
    | some r => if r.isApp then st.ocRiDeleteResource r else st
    | none => st

/-- A server without resources and observers. -/
def init : Server := ⟨[], [], [], 0⟩

end SmartGarage.Observe
