/-
The sequences of the onboarding tool: discovery, ownership transfer, switching the device state,
hard reset, and the provisioning of pairwise credentials and certificates. A step of the machine
is a call of the API, a response to a request that waits for one, or the end of such a request.
-/
import SmartGarage.Obt.State
import Mathlib.Logic.Function.Basic

namespace SmartGarage

/-! ## Utility functions -/

/-- `oc_obt_get_secure_endpoint`: the first SECURED endpoint, or the last one of the list. -/
def ocObtGetSecureEndpoint : List OcEndpoint → Option OcEndpoint
  | [] => none
  | [ep] => some ep
  | ep :: l => if ep.flags.secured then some ep else ocObtGetSecureEndpoint l

/-- `oc_obt_get_unsecure_endpoint` -/
def ocObtGetUnsecureEndpoint : List OcEndpoint → Option OcEndpoint
  | [] => none
  | [ep] => some ep
  | ep :: l => if ep.flags.secured then ocObtGetUnsecureEndpoint l else some ep

/-- `oc_list_add`: adding an item that is in the list already cuts off what is behind it. -/
def ocListAdd (l : List Nat) (item : Nat) : List Nat :=
  if item ∈ l then l.takeWhile (· ≠ item) ++ [item] else l ++ [item]

/-- `oc_memb_alloc`: a block that is not in use. -/
def ocMembAlloc (block : Option Nat) (used : List Nat) : Option Nat := block.filter (· ∉ used)

/-- `get_device_handle` -/
def getDeviceHandle (s : Obt) (uuid : OcUuid) (list : List Nat) : Option Nat :=
  list.find? fun d => (s.blocks d).uuid = uuid

/-- `free_device` -/
def freeDevice (s : Obt) (device : Nat) : Obt :=
  { s with cache := s.cache.erase device, devices := s.devices.erase device }

/-- The state with the content of a device's block replaced. -/
def Obt.setBlock (s : Obt) (device : Nat) (b : OcDevice) : Obt := { s with blocks := Function.update s.blocks device b }

/-- `oc_init_post` with `oc_do_post`, `oc_do_get` or `oc_do_delete`: without an endpoint the request goes
to an endpoint of zeros. -/
def doRequest (env : ObtEnv) (s : Obt) (run : Option Nat) (device : Nat) (endpoint : Option OcEndpoint)
    (message : ObtMessage) (handler : ResponseHandler) (userData : Nat) : Option Obt :=
  if env.sends then
    some { s with
      clientCbs := s.clientCbs ++ [⟨s.nextId, handler, userData, false⟩]
      nextId := s.nextId + 1
      trace := s.trace ++ [.sent run handler (s.blocks device).uuid (endpoint.getD OcEndpoint.zero) message] }
  else none

/-! ## Device discovery -/

/-- The two lists of devices. -/
inductive DeviceList
  | ocDevices | ocCache
deriving DecidableEq

/-- The list itself. -/
def Obt.list (s : Obt) : DeviceList → List Nat
  | .ocDevices => s.devices
  | .ocCache => s.cache

/-- `oc_list_add(list, device)` for a new block. -/
def Obt.addDevice (s : Obt) (device : Nat) : DeviceList → Obt
  | .ocDevices => { s with devices := s.devices ++ [device] }
  | .ocCache => { s with cache := s.cache ++ [device] }

/-- `oc_list_remove(list, device)` -/
def Obt.removeDevice (s : Obt) (device : Nat) : DeviceList → Obt
  | .ocDevices => { s with devices := s.devices.erase device }
  | .ocCache => { s with cache := s.cache.erase device }

/-- `cache_new_device`: the device with the UUID, found or new, with the given endpoint alone. Without
memory for the endpoint the device is freed, a new one behind its own allocation. -/
def cacheNewDevice (env : ObtEnv) (s : Obt) (list : DeviceList) (uuid : OcUuid) (endpoint : OcEndpoint) :
    Option Nat × Obt :=
  match getDeviceHandle s uuid (s.list list) with
  | some device =>
    if env.endpointAllocs 0 then (some device, s.setBlock device ⟨uuid, [endpoint]⟩)
    else (none, s.removeDevice device list)
  | none =>
    match ocMembAlloc env.deviceBlock (s.devices ++ s.cache) with
    | none => (none, s)
    | some device =>
      if env.endpointAllocs 0 then (some device, (s.addDevice device list).setBlock device ⟨uuid, [endpoint]⟩)
      -- it was at the end of the list, which is as before
      else (none, s.setBlock device ⟨uuid, []⟩)

/-- The properties of the first link of a `/oic/res` payload. -/
def firstLink : List OcRep → List OcRep
  | .object _ entries :: _ => entries
  | _ => []

/-- The `di` that `get_endpoints` reads from the link. -/
def linkAnchor (garbage : OcUuid) (link : List OcRep) : OcUuid :=
  link.foldl (fun di rep => match rep with
    | .string n v => if nameIs n "anchor" then ocStrToUuid (v.drop 6) di else di
    | _ => di) garbage

/-- The `ep` entries of one item of an endpoint array: an endpoint of the other IP version ends the item. -/
def itemEndpoints (P : ObtPlatform) (source : OcEndpoint) (di : OcUuid) : List OcRep → List OcEndpoint
  | [] => []
  | .string n v :: l =>
    if nameIs n "ep" then
      match P.stringToEndpoint v with
      | some ep =>
        -- `goto next_ep` leaves the item
        if (source.flags.ipv4 && ep.flags.ipv6) || (source.flags.ipv6 && ep.flags.ipv4) then []
        else { ep with device := source.device, di := di, interfaceIndex := source.interfaceIndex } ::
          itemEndpoints P source di l
      | none => itemEndpoints P source di l
    else itemEndpoints P source di l
  | _ :: l => itemEndpoints P source di l

/-- The endpoints that `get_endpoints` takes from the link, whatever the arrays are called. -/
def linkEndpoints (P : ObtPlatform) (source : OcEndpoint) (di : OcUuid) (link : List OcRep) : List OcEndpoint :=
  link.flatMap fun
    | .objectArray _ items => items.flatMap (itemEndpoints P source di)
    | _ => []

/-- The list that `get_endpoints` builds of them, `cur` being whether `eps_cur` is set: where there is no
memory the endpoint is lost, and the next one starts the list anew. The call number 0 of
`oc_new_endpoint` is that of `cache_new_device`. -/
def chainEndpoints (allocs : Nat → Bool) : (n : Nat) → (cur : Bool) → List OcEndpoint → List OcEndpoint → List OcEndpoint
  | _, _, l, [] => l
  | n, cur, l, ep :: rest =>
    if allocs n then chainEndpoints allocs (n + 1) true (if cur then l ++ [ep] else [ep]) rest
    else chainEndpoints allocs (n + 1) false (if cur then l else []) rest

/-- The new endpoints of a device. -/
def newEndpoints (P : ObtPlatform) (env : ObtEnv) (r : OcClientResponse) (di : OcUuid) : List OcEndpoint :=
  chainEndpoints env.endpointAllocs 1 false [] (linkEndpoints P r.endpoint di (firstLink r.payload))

/-- `get_endpoints`. -/
def getEndpoints (P : ObtPlatform) (env : ObtEnv) (s : Obt) (q : OcClientCb) (r : OcClientResponse) : Obt :=
  if r.code.isError then s
  else
    let di := linkAnchor env.garbage (firstLink r.payload)
    if di = P.myUuid then s
    else
      let found : Option Nat × Obt :=
        -- only the request of the owned discovery is a multicast and has no device yet
        if q.multicast then
          if r.payload ≠ [] ∧ env.isOwned di = true then cacheNewDevice env s .ocDevices di r.endpoint else (none, s)
        else (some q.userData, s)
      match found with
      | (none, s) => s
      | (some device, s) => s.setBlock device { s.blocks device with endpoint := newEndpoints P env r di }

/-- The variables `uuid` and `owned` of `obt_check_owned`. -/
def scanOwned (garbage : OcUuid) (payload : List OcRep) : OcUuid × Option Bool :=
  payload.foldl (fun v rep => match rep with
    | .string n x => if nameIs n "deviceuuid" then (ocStrToUuid x v.1, v.2) else v
    | .bool n x => if nameIs n "owned" then (v.1, some x) else v
    | _ => v) (garbage, none)

/-- `obt_check_owned` -/
def obtCheckOwned (P : ObtPlatform) (env : ObtEnv) (s : Obt) (r : OcClientResponse) : Obt :=
  if r.code.isError then s
  else
    match scanOwned env.garbage r.payload with
    | (uuid, some false) =>
      if uuid = P.myUuid then s
      else match cacheNewDevice env s .ocCache uuid r.endpoint with
        | (none, s) => s
        | (some device, s) =>
          (doRequest env s none device (some r.endpoint) .getRes .getEndpoints device).getD s
    | _ => s

/-- `discover_unowned_devices` and `discover_owned_devices`: a multicast request. -/
def discoverDevices (env : ObtEnv) (s : Obt) (handler : ResponseHandler) : Obt :=
  if env.sends then
    { s with clientCbs := s.clientCbs ++ [⟨s.nextId, handler, 0, true⟩], nextId := s.nextId + 1 }
  else s

/-! ## Ownership transfer -/

/-- `free_otm_state` -/
def freeOtmState (s : Obt) (o : OcOtmCtx) (status : Int) (otm : OcObtOtm) : Obt :=
  let s := { s with otmCtxL := s.otmCtxL.eraseP (·.addr == o.addr) }
  -- nobody asks whether another context has the device
  if status = -1 then freeDevice s o.device
  else if otm ≠ .rdp then { s with cache := s.cache.erase o.device, devices := ocListAdd s.devices o.device }
  else s

/-- What the handler that sends a request of a transfer does before. -/
inductive OtmCheck
  /-- The code of the response is no error. -/
  | code
  /-- The array `oxms` of the response has the transfer method. -/
  | oxms (oxm : Int)
  /-- The device gets a new UUID. -/
  | rename
  /-- The owner PSK is derived and stored. -/
  | ownerPsk
  /-- The code may also be `NOT_FOUND`. -/
  | sdi
deriving DecidableEq

/-- A request of a transfer: what is checked before it is sent, and what is sent. -/
structure OtmRequest where
  check : OtmCheck
  method : OcMethod
  uri : OcString
  secure : Bool

/-- The requests from `post doxm deviceuuid` on, which the three transfers have in common. -/
def otmTail : List OtmRequest := [
  ⟨.rename, .post, ascii "/oic/sec/doxm", true⟩,
  ⟨.code, .post, ascii "/oic/sec/doxm", true⟩,
  ⟨.code, .post, ascii "/oic/sec/acl2", true⟩,
  ⟨.code, .post, ascii "/oic/sec/pstat", true⟩,
  ⟨.ownerPsk, .post, ascii "/oic/sec/cred", true⟩,
  ⟨.code, .post, ascii "/oic/sec/sdi", true⟩,
  ⟨.sdi, .post, ascii "/oic/sec/doxm", true⟩,
  ⟨.code, .post, ascii "/oic/sec/pstat", true⟩,
  ⟨.code, .delete, ascii "/oic/sec/acl2", true⟩,
  ⟨.code, .post, ascii "/oic/sec/acl2", true⟩,
  ⟨.code, .post, ascii "/oic/sec/pstat", true⟩]

/-- The first requests of the just-works and the certificate transfer. -/
def otmHead (oxm : Int) : List OtmRequest := [
  ⟨.code, .get, ascii "/oic/sec/doxm", false⟩,
  ⟨.oxms oxm, .post, ascii "/oic/sec/doxm", false⟩,
  ⟨.code, .post, ascii "/oic/sec/pstat", true⟩,
  ⟨.code, .post, ascii "/oic/sec/doxm", true⟩]

/-- The requests of each transfer, in order. -/
def otmRequests : OcObtOtm → List OtmRequest
  | .otmJw => otmHead 0 ++ otmTail
  | .otmCert => otmHead 2 ++ otmTail
  | .otmRdp => [⟨.code, .post, ascii "/oic/sec/pstat", true⟩, ⟨.code, .post, ascii "/oic/sec/doxm", true⟩] ++ otmTail
  | .rdp => [⟨.code, .get, ascii "/oic/sec/doxm", false⟩, ⟨.oxms 1, .post, ascii "/oic/sec/doxm", false⟩]

/-- `oc_rep_get_int_array(payload, "oxms", ..)` -/
def repOxms (payload : List OcRep) : Option (List Int) :=
  payload.findSome? fun
    | .intArray n v => if nameIs n "oxms" then some v else none
    | _ => none

/-- The handler goes on. -/
def OtmCheck.passes (env : ObtEnv) (r : OcClientResponse) : OtmCheck → Bool
  | code | rename => !r.code.isError
  | oxms oxm => !r.code.isError && (repOxms r.payload).any (·.contains oxm)
  | ownerPsk => !r.code.isError && env.succeeds
  | sdi => !r.code.isError || r.code == .notFound

/-- The handler sends the `i`-th request of the transfer. -/
def sendOtmRequest (env : ObtEnv) (s : Obt) (o : OcOtmCtx) (otm : OcObtOtm) (i : Nat) (request : OtmRequest) :
    Option Obt :=
  let endpoints := (s.blocks o.device).endpoint
  doRequest env s none o.device
    (if request.secure then ocObtGetSecureEndpoint endpoints else ocObtGetUnsecureEndpoint endpoints)
    (.otm request.method request.uri) (.otm otm i) o.addr

/-- `memcpy(device->uuid.id, dev_uuid.id, 16)`, with the `di` of the endpoints. -/
def renameDevice (s : Obt) (device : Nat) (uuid : OcUuid) : Obt :=
  s.setBlock device ⟨uuid, (s.blocks device).endpoint.map fun ep => { ep with di := uuid }⟩

/-- The handlers `obt_jw_2` to `obt_jw_16`, and those of the other transfers. -/
def otmHandler (env : ObtEnv) (s : Obt) (otm : OcObtOtm) (i : Nat) (userData : Nat) (r : OcClientResponse) : Obt :=
  match s.otmCtxL.find? (·.addr == userData) with
  | none => s
  | some o =>
    match (otmRequests otm)[i + 1]? with
    -- the last handler only reports
    | none => freeOtmState s o (if r.code.isError then -1 else 0) otm
    | some request =>
      if request.check.passes env r then
        let s := if request.check = .rename then renameDevice s o.device env.genUuid else s
        (sendOtmRequest env s o otm (i + 1) request).getD (freeOtmState s o (-1) otm)
      else freeOtmState s o (-1) otm

/-- The context with which a transfer begins, and its first request. -/
def otmStart (env : ObtEnv) (s : Obt) (otm : OcObtOtm) (uuid : OcUuid) : Option (OcOtmCtx × OtmRequest) :=
  match getDeviceHandle s uuid s.cache, ocMembAlloc env.ctxBlock (s.otmCtxL.map (·.addr)), (otmRequests otm)[0]? with
  | some device, some addr, some request =>
    if (otm = .rdp ∧ env.isOwned uuid = true) ∨ (otm = .otmRdp ∧ env.succeeds = false) then none
    else some (⟨addr, device⟩, request)
  | _, _, _ => none

/-- `oc_obt_perform_just_works_otm`, `oc_obt_request_random_pin`, `oc_obt_perform_random_pin_otm` and
`oc_obt_perform_cert_otm`. -/
def performOtm (env : ObtEnv) (s : Obt) (otm : OcObtOtm) (uuid : OcUuid) : Obt :=
  match otmStart env s otm uuid with
  | none => s
  | some (o, request) =>
    let s := { s with otmCtxL := s.otmCtxL ++ [o] }
    (sendOtmRequest env s o otm 0 request).getD (freeOtmState s o (-1) otm)

/-! ## Switching the device state -/

/-- `switch_dos` -/
def switchDos (env : ObtEnv) (s : Obt) (run : Option Nat) (device : Nat) (dos : OcDostype) (cb : StatusCb) (data : Nat) :
    Option (Nat × Obt) :=
  match ocObtGetSecureEndpoint (s.blocks device).endpoint,
    ocMembAlloc env.dosBlock (s.switchDosCtxL.map (·.addr)) with
  | some ep, some addr =>
    (doRequest env s run device (some ep) (.postDos dos) .pstatPOSTDos1ToDos2 addr).map fun s' =>
      (addr, { s' with switchDosCtxL := s'.switchDosCtxL ++ [⟨addr, device, dos, cb, data⟩] })
  | _, _ => none

/-- `free_switch_dos_state` -/
def freeSwitchDosState (s : Obt) (addr : Nat) : Obt :=
  { s with switchDosCtxL := s.switchDosCtxL.eraseP (·.addr == addr) }

/-- `free_switch_dos_state` for a pointer that may be NULL. -/
def freeSwitchDosOpt (s : Obt) : Option Nat → Obt
  | some addr => freeSwitchDosState s addr
  | none => s

/-! ## Hard reset -/

/-- `free_hard_reset_ctx` -/
def freeHardResetCtx (s : Obt) (ctx : OcHardResetCtx) : Obt :=
  freeSwitchDosOpt
    (freeDevice { s with hardResetCtxL := s.hardResetCtxL.eraseP (·.addr == ctx.addr) } ctx.device) ctx.switchDos

/-- `hard_reset_cb` -/
def hardResetCb (s : Obt) (data : Nat) : Obt :=
  match s.hardResetCtxL.find? (·.addr == data) with
  | none => s
  | some ctx => freeHardResetCtx s { ctx with switchDos := none }

/-- `oc_obt_device_hard_reset` -/
def ocObtDeviceHardReset (env : ObtEnv) (s : Obt) (uuid : OcUuid) : Obt :=
  match ocMembAlloc env.ctxBlock (s.hardResetCtxL.map (·.addr)), getDeviceHandle s uuid s.devices with
  | some addr, some device =>
    if env.isOwned uuid then
      match switchDos env s none device .reset .hardResetCb addr with
      | some (d, s) => { s with hardResetCtxL := s.hardResetCtxL ++ [⟨addr, device, some d⟩] }
      | none => s
    else s
  | _, _ => s

/-! ## Provisioning of credentials -/

/-- `free_credprov_state` -/
def freeCredprovState (s : Obt) (p : OcCredprovCtx) (status : Int) : Obt :=
  freeSwitchDosOpt
    { s with
      credprovCtxL := s.credprovCtxL.eraseP (·.addr == p.addr)
      trace := s.trace ++ [.status p.run status] } p.switchDos

/-- The context at the address of `p`, replaced by `p`. -/
def setCredprov (s : Obt) (p : OcCredprovCtx) : Obt :=
  { s with credprovCtxL := s.credprovCtxL.map fun x => if x.addr = p.addr then p else x }

/-- The bytes of an `unsigned int`, least significant first. -/
def wordBytes (r : UInt32) : List UInt8 := [r.toUInt8, (r >>> 8).toUInt8, (r >>> 16).toUInt8, (r >>> 24).toUInt8]

/-- `for (i = 0; i < 4; i++) { r = oc_random_value(); memcpy(&key[i * 4], &r, 4); i += 4; }` with `i` as it
stands, the number of values drawn so far, and at most `fuel` rounds. -/
def fillKeyFrom (random : Nat → UInt32) : (fuel i drawn : Nat) → List UInt8 → List UInt8
  | 0, _, _, key => key
  | fuel + 1, i, drawn, key =>
    if i < 4 then
      -- `i` goes up by five in all
      let key := key.take (i * 4) ++ wordBytes (random drawn) ++ key.drop (i * 4 + 4)
      fillKeyFrom random fuel (i + 4 + 1) (drawn + 1) key
    else key

/-- The key that `device2_RFPRO` fills. -/
def fillKey (random : Nat → UInt32) (key : List UInt8) : List UInt8 := fillKeyFrom random 4 0 0 key

/-- What a callback of a provisioning sequence goes on with. -/
inductive CredStep
  | switchDos (second : Bool) (dos : OcDostype) (cb : CredCb)
  | request (second : Bool) (message : ObtMessage) (cb : CredCb)
  | done

/-- `oc_rep_get_int(payload, "sct", ..)` with the certificate bit. -/
def repSctCert (payload : List OcRep) : Bool :=
  (payload.findSome? fun
    | .int n v => if nameIs n "sct" then some v else none
    | _ => none).any fun sct => sct / 8 % 2 == 1

/-- `oc_rep_get_string(payload, key, ..)` -/
def repString (payload : List OcRep) (key : String) : Option OcString :=
  payload.findSome? fun
    | .string n v => if nameIs n key then some v else none
    | _ => none

/-- The checks of a callback beyond the status or the code. -/
def CredCb.passes (env : ObtEnv) (payload : List OcRep) : CredCb → Bool
  | supportsCertCreds => repSctCert payload
  | deviceRFPRO => env.succeeds
  | deviceCSR => repString payload "encoding" == some (ascii "oic.sec.encoding.pem") &&
      (repString payload "csr").isSome && env.succeeds
  | _ => true

/-- The step behind each callback. -/
def credStep (s : Obt) (p : OcCredprovCtx) : CredCb → CredStep
  | .device1RFPRO => .switchDos true .rfpro .device2RFPRO
  | .device2RFPRO => .request false (.postPsk (s.blocks (p.device true)).uuid p.key) .device1Cred
  | .device1Cred => .request true (.postPsk (s.blocks (p.device false)).uuid p.key) .device2Cred
  | .device2Cred => .switchDos false .rfnop .device1RFNOP
  | .device1RFNOP => .switchDos true .rfnop .device2RFNOP
  | .device2RFNOP => .done
  | .supportsCertCreds => .switchDos false .rfpro .deviceRFPRO
  | .deviceRFPRO => .request false .postTrustca .deviceRoot
  | .deviceRoot => .request false .getCsr .deviceCSR
  | .deviceCSR => .request false (.postCert p.roles) .deviceCred
  | .deviceCred => .request false .postRolesAce .deviceAuthcryptRoles
  | .deviceAuthcryptRoles => .switchDos false .rfnop .deviceRFNOP
  | .deviceRFNOP => .done

/-- The step is taken; where its request cannot be sent the sequence ends with -1. -/
def performCredStep (env : ObtEnv) (s : Obt) (p : OcCredprovCtx) : CredStep → Obt
  | .switchDos second dos cb =>
    match switchDos env s (some p.run) (p.device second) dos (.cred cb) p.addr with
    | some (d, s') => setCredprov s' { p with switchDos := some d }
    | none => freeCredprovState s { p with switchDos := none } (-1)
  | .request second message cb =>
    let ep := ocObtGetSecureEndpoint (s.blocks (p.device second)).endpoint
    match doRequest env s (some p.run) (p.device second) ep message (.cred cb) p.addr with
    | some s' => setCredprov s' p
    | none => freeCredprovState s p (-1)
  | .done => freeCredprovState s p 0

/-- What is recorded when a callback goes on. -/
def acceptedActions (env : ObtEnv) (run : Nat) (cb : CredCb) : List ObtAction :=
  .accepted run cb :: if cb = .device2RFPRO then
    [.drew run (env.random 0) (env.random 1) (env.random 2) (env.random 3)] else []

/-- `device1_RFPRO` to `device_RFNOP`. A status callback clears `switch_dos` first, and `device2_RFPRO`
fills the key. A callback of the pairwise sequence would dereference NULL in a context without a second
device; nothing happens here. -/
def credCallback (env : ObtEnv) (s : Obt) (cb : CredCb) (data : Nat) (accepted : Bool) (payload : List OcRep) : Obt :=
  match s.credprovCtxL.find? (·.addr == data) with
  | none => s
  | some p =>
    let p := if cb.isStatusCb then { p with switchDos := none } else p
    if cb.isPairwise && p.device2.isNone then s
    else if accepted && cb.passes env payload then
      let p := if cb = .device2RFPRO then { p with key := fillKey env.random p.key } else p
      let s := { s with trace := s.trace ++ acceptedActions env p.run cb }
      performCredStep env s p (credStep s p cb)
    else freeCredprovState s p (-1)

/-- The response with which `pstat_POST_dos1_to_dos2` calls the callback with 0: 5.03 counts as success. -/
def switched (r : OcClientResponse) : Bool := !r.code.isError || r.code == .serviceUnavailable

/-- `pstat_POST_dos1_to_dos2` with `free_switch_dos_ctx`. -/
def pstatPOSTDos1ToDos2 (env : ObtEnv) (s : Obt) (userData : Nat) (r : OcClientResponse) : Obt :=
  match s.switchDosCtxL.find? (·.addr == userData) with
  | none => s
  | some d =>
    -- the context is freed before its callback runs, and its block may be handed out again
    let s := freeSwitchDosState s d.addr
    match d.cb with
    | .hardResetCb => hardResetCb s d.data
    | .cred cb => credCallback env s cb d.data (switched r) []

/-- A context that has just been allocated. -/
def newCredprov (s : Obt) (addr device1 : Nat) (device2 : Option Nat) (switchDos : Option Nat) (roles : Bool) :
    OcCredprovCtx := ⟨addr, device1, device2, switchDos, List.replicate 16 0, roles, s.nextRun⟩

/-- `oc_obt_provision_pairwise_credentials` -/
def ocObtProvisionPairwiseCredentials (env : ObtEnv) (s : Obt) (uuid1 uuid2 : OcUuid) : Obt :=
  match ocMembAlloc env.ctxBlock (s.credprovCtxL.map (·.addr)), getDeviceHandle s uuid1 s.devices,
    getDeviceHandle s uuid2 s.devices with
  | some addr, some device1, some device2 =>
    if env.isOwned uuid1 && env.isOwned uuid2 then
      let begun := { s with nextRun := s.nextRun + 1, trace := s.trace ++ [.started s.nextRun uuid1 uuid2] }
      match switchDos env begun (some s.nextRun) device1 .rfpro (.cred .device1RFPRO) addr with
      | some (d, s') => { s' with credprovCtxL := s'.credprovCtxL ++
          [newCredprov s addr device1 (some device2) (some d) false] }
      -- nothing is reported, as the caller gets -1
      | none => s
    else s
  | _, _, _ => s

/-- `oc_obt_provision_identity_certificate` and `oc_obt_provision_role_certificate` -/
def ocObtProvisionCertificate (env : ObtEnv) (s : Obt) (roles : Bool) (uuid : OcUuid) : Obt :=
  match ocMembAlloc env.ctxBlock (s.credprovCtxL.map (·.addr)), getDeviceHandle s uuid s.devices with
  | some addr, some device =>
    if env.isOwned uuid then
      let begun := { s with nextRun := s.nextRun + 1 }
      let ep := ocObtGetSecureEndpoint (s.blocks device).endpoint
      match doRequest env begun (some s.nextRun) device ep .getDoxm (.cred .supportsCertCreds) addr with
      | some s' => { s' with credprovCtxL := s'.credprovCtxL ++ [newCredprov s addr device none none roles] }
      | none => s
    else s
  | _, _ => s

/-! ## The machine -/

/-- The handler of the request is called with the response. -/
def handleResponse (P : ObtPlatform) (env : ObtEnv) (s : Obt) (q : OcClientCb) (r : OcClientResponse) : Obt :=
  match q.handler with
  | .obtCheckOwned => obtCheckOwned P env s r
  | .getEndpoints => getEndpoints P env s q r
  | .pstatPOSTDos1ToDos2 => pstatPOSTDos1ToDos2 env s q.userData r
  | .cred cb => credCallback env s cb q.userData (!r.code.isError) r.payload
  | .otm otm i => otmHandler env s otm i q.userData r

/-- The request no longer waits. -/
def dropRequest (s : Obt) (id : Nat) : Obt := { s with clientCbs := s.clientCbs.filter (·.id != id) }

/-- The state in which the handler of `q` runs: the request is freed behind the handler, which does not
see it, unless it is a multicast or the response has an Observe option. -/
def answered (s : Obt) (q : OcClientCb) (r : OcClientResponse) : Obt :=
  if r.observe || q.multicast then s else dropRequest s q.id

/-- One event. -/
def obtStep (P : ObtPlatform) (s : Obt) (e : ObtEvent × ObtEnv) : Obt :=
  match e.1 with
  | .discoverUnownedDevices => discoverDevices e.2 s .obtCheckOwned
  | .discoverOwnedDevices => discoverDevices e.2 s .getEndpoints
  | .performOtm otm uuid => performOtm e.2 s otm uuid
  | .deviceHardReset uuid => ocObtDeviceHardReset e.2 s uuid
  | .provisionPairwiseCredentials uuid1 uuid2 => ocObtProvisionPairwiseCredentials e.2 s uuid1 uuid2
  | .provisionCertificate roles uuid => ocObtProvisionCertificate e.2 s roles uuid
  | .response id r =>
    match s.clientCbs.find? (·.id == id) with
    | none => s
    | some q => handleResponse P e.2 (answered s q r) q r
  | .timeout id => dropRequest s id

end SmartGarage
