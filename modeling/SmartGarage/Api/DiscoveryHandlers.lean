/-
What the handlers of `/oic/res` encode (`oc_core_discovery_handler` and `oc_core_1_1_discovery_handler`,
`oc_discovery.c`), and the length and the code that they put into the response buffer.
-/
import SmartGarage.Api.Collection
import SmartGarage.Api.Invoke
import SmartGarage.Security.Sdi

namespace SmartGarage

/-! ## The server -/

/-- What the handlers read besides the links: the number of devices, the name of `OCF_RES`, the security domain, and
for the batch interface the collections that resources are, what the other GET handlers encode for the default
interface, and what `oc_sec_check_acl(OC_GET, ..)` says. -/
structure DiscoverySource (itemMax : Nat) extends DiscoveryServer itemMax where
  numDevices : Nat
  resName : (device : Nat) → OcString
  sdi : (device : Nat) → OcSecSdi
  collectionOf : DiscoveryResource itemMax → Option CollectionData
  collectionEnv : CollectionEnv
  handled : DiscoveryResource itemMax → List Cbor
  allowed : DiscoveryResource itemMax → OcEndpoint → Bool

/-- What a handler encodes, and the number of its matches. -/
structure DiscoveryContent where
  ops : List (BufferWriter.Op Cbor)
  found : Nat

/-- What a handler puts into the response buffer. -/
structure DiscoveryAnswer where
  responseLength : BitVec 16
  code : Invoke.ResponseCode

section Server

variable {itemMax : Nat} (source : DiscoverySource itemMax) (request : DiscoveryRequest)

/-! ## `oc_core_discovery_handler` -/

/-- The properties of `OCF_RES` for `OC_IF_BASELINE`, in front of its links. -/
def resProperties : List (OcString × RepBuild) :=
  (match source.coreResource .ocfRes request.device with
    | some res =>
      baselineEntries (source.resName request.device) res.types res.interfaces res.tagPosDesc res.tagFuncDesc res.tagPosRel
    | none => []) ++
  let s := source.sdi request.device
  if s.priv then []
  else [(ascii "sduuid", .setTextString (ocUuidToStr s.uuid)), (ascii "sdname", .setTextString s.name)]

/-- `process_batch_response`: the object of a resource. A handler that encodes nothing leaves an empty object. -/
def processBatchResponse (endpoint : OcEndpoint) (r : DiscoveryResource itemMax) : Option Cbor :=
  if ¬r.discoverable then none
  else if ¬source.allowed r endpoint then none
  else
    let href := ascii "ocf://" ++ ocUuidToStr (source.deviceId r.device) ++ r.uri
    let rep := match source.collectionOf r with
      | some c => [linksArray (collectionLinks source.collectionEnv c ⟨.get, [], some endpoint, []⟩)]
      | none => source.handled r
    some (.map ([.textString (ascii "href"), .textString href, .textString (ascii "rep")] ++
      match rep with
      | [] => [.map []]
      | rep => rep))

/-- The core resources of the batch interface, in the order in which they are read. -/
def batchOrder : List CoreResource :=
  [.ocfP, .ocfD, .ocfIntrospectionWk, .ocfCon, .ocfMnt, .ocfSwUpdate, .ocfCoapCloudConf]

/-- `process_batch_request` -/
def processBatchRequest (endpoint : OcEndpoint) : List Cbor :=
  let ofDevice := fun r : DiscoveryResource itemMax => r.device == request.device
  (batchOrder.filterMap (listedCore source.toDiscoveryServer request) ++ source.appResources.filter ofDevice ++
    source.collections.filter ofDevice).filterMap (processBatchResponse source endpoint)

/-- The switch over the interfaces. -/
def discoveryContent (ifaceMask : InterfaceMask) : DiscoveryContent :=
  let links := processDeviceResources source.toDiscoveryServer request
  if ifaceMask = ifLl then ⟨[.put (linksArray links)], links.length⟩
  else if ifaceMask = ifB then
    match request.origin with
    | some origin =>
      if origin.flags.secured then ⟨[.put (.array false (processBatchRequest source request origin))], 1⟩ else ⟨[], 0⟩
    | none => ⟨[], 0⟩
  else if ifaceMask = ifBaseline then
    let properties := .map (RepBuild.encodeEntries (resProperties source request ++ [(ascii "links", .objects links)]))
    ⟨[.put (.array false [properties])], links.length⟩
  else ⟨[], 0⟩

/-- The code of a response without links: none is sent to a multicast. -/
def noLinksCode : Invoke.ResponseCode :=
  match request.origin with
  | some origin => if origin.flags.multicast then .ignore else .status .badRequest
  | none => .ignore

/-- `oc_core_discovery_handler`, with an encoder for a buffer of `capacity` bytes. The response buffer starts with the
length 0. -/
def ocCoreDiscoveryAnswer (size : Cbor → Nat) (capacity : Nat) (ifaceMask : InterfaceMask) (e : RepEncoder) :
    DiscoveryAnswer :=
  let content := discoveryContent source request ifaceMask
  let responseLength := ocRepGetEncodedPayloadSize size (e.run capacity size content.ops)
  if content.found ≠ 0 ∧ responseLength > 0 then ⟨castUInt16 responseLength, .status .ok⟩
  else ⟨0, noLinksCode request⟩

/-! ## `oc_core_1_1_discovery_handler` -/

/-- The port of an endpoint, where it is shown. -/
def oic11Port (r : DiscoveryResource itemMax) (origin eps : OcEndpoint) : List (OcString × RepBuild) :=
  let family := (origin.flags.ipv6 && eps.flags.ipv6) || (origin.flags.ipv4 && eps.flags.ipv4)
  if r.secure && !eps.flags.secured then []
  else if ¬family then []
  else
    let port := .setUint (UInt64.ofNat eps.port)
    if eps.flags.tcp then
      [(if eps.flags.secured then ascii "x.org.iotivity.tls" else ascii "x.org.iotivity.tcp", port)]
    else if eps.flags.secured then [(ascii "port", port)]
    else []

/-- What `filter_oic_1_1_resource` sets in the object of a link. -/
def oic11Entries (origin : OcEndpoint) (r : DiscoveryResource itemMax) : List (OcString × RepBuild) :=
  [(ascii "href", .setTextString r.uri),
    (ascii "rt", .addTextStrings r.boundTypes),
    (ascii "if", .addTextStrings (ocCoreEncodeInterfacesMask r.interfaces)),
    (ascii "p", .object (
      [(ascii "bm", .setUint (UInt64.ofNat (policyBm r.properties).toNat)), (ascii "sec", .setBoolean true)] ++
      (source.endpoints r.device).flatMap (oic11Port r origin)))]

/-- `filter_oic_1_1_resource` -/
def filterOic11Resource (query : OcString) (origin : OcEndpoint) (r : DiscoveryResource itemMax) :
    Option (List (OcString × RepBuild)) :=
  if ¬ocFilterResourceByRt r.types query then none
  else if ¬r.discoverable then none
  else some (oic11Entries source origin r)

/-- The core resources in front of those of the application. -/
def oic11First : List CoreResource := [.ocfP, .ocfD, .ocfCon]

/-- The core resources behind the collections. -/
def oic11Last : List CoreResource :=
  [.ocfSecDoxm, .ocfSecPstat, .ocfSecCred, .ocfSecAcl, .ocfSecAel, .ocfSecSp, .ocfSecCsr, .ocfSecRoles,
    .ocfIntrospectionWk]

/-- The links of a device. -/
def oic11Links (query : OcString) (origin : OcEndpoint) (device : Nat) : List (List (OcString × RepBuild)) :=
  let rq : DiscoveryRequest := ⟨query, some origin, device⟩
  let core := fun order : List CoreResource => order.filterMap (listedCore source.toDiscoveryServer rq)
  (core oic11First ++ source.appResources.filter (isOfDevice rq) ++ source.collections.filter (isOfDevice rq) ++
    core oic11Last).filterMap (filterOic11Resource source query origin)

/-- `process_oic_1_1_device_object` -/
def processOic11DeviceObject (query : OcString) (origin : OcEndpoint) (baseline : Bool) (device : Nat) : Cbor :=
  let res := if baseline then source.coreResource .ocfRes device else none
  .map (RepBuild.encodeEntries ([(ascii "di", .setTextString (ocUuidToStr (source.deviceId device)))] ++
    (match res with
      | some res =>
        [(ascii "rt", .setStringArray res.types), (ascii "if", .addTextStrings (ocCoreEncodeInterfacesMask res.interfaces))]
      | none => []) ++
    [(ascii "links", .objects (oic11Links source query origin device))]))

/-- The switch over the interfaces. -/
def discoveryContent11 (query : OcString) (origin : OcEndpoint) (ifaceMask : InterfaceMask) : DiscoveryContent :=
  let devices := List.range source.numDevices
  if ifaceMask = ifLl ∨ ifaceMask = ifBaseline then
    ⟨[.put (.array false (devices.map (processOic11DeviceObject source query origin (ifaceMask == ifBaseline))))],
      (devices.map fun device => (oic11Links source query origin device).length).sum⟩
  else ⟨[], 0⟩

/-- `oc_core_1_1_discovery_handler`, with an encoder for a buffer of `capacity` bytes. Unlike
`oc_core_discovery_handler` it takes every length that is not 0. -/
def ocCore11DiscoveryAnswer (size : Cbor → Nat) (capacity : Nat) (query : OcString) (origin : OcEndpoint)
    (ifaceMask : InterfaceMask) (e : RepEncoder) : DiscoveryAnswer :=
  let content := discoveryContent11 source query origin ifaceMask
  let responseLength := ocRepGetEncodedPayloadSize size (e.run capacity size content.ops)
  if content.found ≠ 0 ∧ responseLength ≠ 0 then ⟨castUInt16 responseLength, .status .ok⟩
  else ⟨0, if origin.flags.multicast then .ignore else .status .badRequest⟩

end Server

end SmartGarage
