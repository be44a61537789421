/-
The links that a device lists for discovery: `oc_core_discovery_handler` for the interface `oic.if.ll`, with
`process_device_resources` and `filter_resource` (`oc_discovery.c`), and the names of the interfaces that
`oc_core_encode_interfaces_mask` writes (`oc_core_res.c`).
-/
import SmartGarage.Api.Query
import SmartGarage.Api.RepRoundTrip

namespace SmartGarage

/-! ## Resources -/

/-- The bits of all interfaces. -/
def ifAll : InterfaceMask := ifBaseline ||| ifLl ||| ifB ||| ifR ||| ifRw ||| ifA ||| ifS ||| ifCreate

/-- What discovery reads of an `oc_resource_t`. `types` are the slots of its string array, each of which holds a C
string that fits, and the empty one where no type has been bound; the interfaces are those of the enumeration, and a
resource that is discoverable has one. The descriptions are the texts that the tags stand for. -/
structure DiscoveryResource (itemMax : Nat) extends OcResource where
  types : List OcString
  interfaces : InterfaceMask
  observable : Bool
  periodic : Bool
  tagPosDesc : Option OcString
  tagFuncDesc : Option OcString
  tagPosRel : UInt64 × UInt64 × UInt64
  slots : ∀ t ∈ types, 0 ∉ t ∧ t.length < itemMax
  known : interfaces ||| ifAll = ifAll
  someInterface : discoverable = true → interfaces ≠ 0

/-- `oc_resource_properties_t` -/
abbrev ResourceProperties := BitVec 32

/-- `OC_DISCOVERABLE` -/
def propDiscoverable : ResourceProperties := 1
/-- `OC_OBSERVABLE` -/
def propObservable : ResourceProperties := 2
/-- `OC_SECURE` -/
def propSecure : ResourceProperties := 16
/-- `OC_PERIODIC` -/
def propPeriodic : ResourceProperties := 64

/-- The core resources that `process_device_resources` lists. -/
inductive CoreResource
  | ocfP | ocfRes | ocfD | ocfIntrospectionWk | ocfCon | ocfMnt | ocfSwUpdate | ocfSecDoxm | ocfSecPstat | ocfSecAcl
  | ocfSecAel | ocfSecCred | ocfSecSp | ocfSecCsr | ocfSecRoles | ocfSecSdi | ocfCoapCloudConf | ocfWesWifi
  | ocfWesDevice | ocfEesRsp | ocfEesRspCap
deriving DecidableEq

namespace DiscoveryResource

variable {itemMax : Nat} (r : DiscoveryResource itemMax)

/-- The `properties` field. -/
def properties : ResourceProperties :=
  (if r.discoverable then propDiscoverable else 0) ||| (if r.observable then propObservable else 0) |||
    (if r.secure then propSecure else 0) ||| (if r.periodic then propPeriodic else 0)

/-- The types that have been bound. -/
def boundTypes : List OcString := r.types.filter fun t => decide (t.length > 0)

end DiscoveryResource

/-! ## The server -/

/-- What the walk over the resources of a server reads: the core resources that the build has and the start-up has
filled, the resources of the application, the collections, the identity of each device and the endpoints at which
it listens. -/
structure DiscoveryServer (itemMax : Nat) where
  coreResource : CoreResource → (device : Nat) → Option (DiscoveryResource itemMax)
  conResAnnounced : Bool
  appResources : List (DiscoveryResource itemMax)
  collections : List (DiscoveryResource itemMax)
  deviceId : (device : Nat) → OcUuid
  endpoints : (device : Nat) → List OcEndpoint
  latency : Int
  ip : ∀ device, ∀ ep ∈ endpoints device, ep.IsIp

/-- What `oc_core_discovery_handler` reads of a request; `device` is that of the resource it is for. -/
structure DiscoveryRequest where
  query : OcString
  origin : Option OcEndpoint
  device : Nat

section Server

variable {itemMax : Nat} (server : DiscoveryServer itemMax) (request : DiscoveryRequest)

/-! ## One link -/

/-- The names of the interfaces, in the order of `oc_core_encode_interfaces_mask`. -/
def interfaceNames : List (InterfaceMask × OcString) :=
  [(ifR, ascii "oic.if.r"), (ifRw, ascii "oic.if.rw"), (ifA, ascii "oic.if.a"), (ifS, ascii "oic.if.s"),
    (ifLl, ascii "oic.if.ll"), (ifCreate, ascii "oic.if.create"), (ifB, ascii "oic.if.b"),
    (ifBaseline, ascii "oic.if.baseline")]

/-- `oc_core_encode_interfaces_mask`: the texts that are added. -/
def ocCoreEncodeInterfacesMask (ifaceMask : InterfaceMask) : List OcString :=
  (interfaceNames.filter fun iface => ifaceMask &&& iface.1 ≠ 0).map Prod.snd

/-- The endpoints that are not skipped: for a secure resource those without encryption are, and those of another
interface or another family than the request's. -/
def listsEndpoint (secure : Bool) (eps : OcEndpoint) : Bool :=
  !((secure && !eps.flags.secured) ||
      (match request.origin with
        | some origin => origin.interfaceIndex ≠ -1 && origin.interfaceIndex ≠ eps.interfaceIndex
        | none => false)) &&
    !(match request.origin with
      | some origin => (origin.flags.ipv4 && eps.flags.ipv6) || (origin.flags.ipv6 && eps.flags.ipv4)
      | none => false)

/-- The object of an endpoint in `eps`. -/
def endpointEntries (eps : OcEndpoint) : List (OcString × RepBuild) :=
  (match ocEndpointToString eps with
    | some ep => [(ascii "ep", .setTextString ep)]
    | none => []) ++
  if server.latency > 0 then [(ascii "lat", .setUint (UInt64.ofNat server.latency.toNat))] else []

/-- The bits of a `double` that is not zero. -/
def isNonzeroDouble (bits : UInt64) : Bool := bits ≠ 0 ∧ bits ≠ 0x8000000000000000

/-- The properties that a link shows: `OC_PERIODIC` and `OC_SECURE` are left out, and the others fit a byte. -/
def policyBm (properties : ResourceProperties) : BitVec 8 := (properties &&& ~~~(propPeriodic ||| propSecure)).setWidth 8

/-- The endpoints that the link of a resource lists. -/
def listedEndpoints (r : DiscoveryResource itemMax) : List OcEndpoint :=
  (server.endpoints request.device).filter (listsEndpoint request r.secure)

/-- What `filter_resource` sets in the object of a link; `isRes` tells whether the resource is the `OCF_RES` of its
device. -/
def linkEntries (isRes : Bool) (r : DiscoveryResource itemMax) (anchor : OcString) : List (OcString × RepBuild) :=
  (if isRes then [(ascii "rel", .addTextStrings [ascii "self"])] else []) ++
  [(ascii "anchor", .setTextString anchor),
    (ascii "href", .setTextString r.uri),
    (ascii "rt", .addTextStrings r.boundTypes),
    (ascii "if", .addTextStrings (ocCoreEncodeInterfacesMask r.interfaces)),
    (ascii "p", .object [(ascii "bm", .setUint (UInt64.ofNat (policyBm r.properties).toNat))]),
    (ascii "eps", .objects ((listedEndpoints server request r).map (endpointEntries server)))] ++
  (match r.tagPosDesc with
    | some desc => [(ascii "tag-pos-desc", .setTextString desc)]
    | none => []) ++
  (match r.tagFuncDesc with
    | some func => [(ascii "tag-func-desc", .setTextString func)]
    | none => []) ++
  let (x, y, z) := r.tagPosRel
  if isNonzeroDouble x ∨ isNonzeroDouble y ∨ isNonzeroDouble z then
    [(ascii "tag-pos-rel", .addDoubles [x, y, z])]
  else []

/-- `filter_resource`: the link of a resource, if it is listed. -/
def filterResource (isRes : Bool) (anchor : OcString) (r : DiscoveryResource itemMax) :
    Option (List (OcString × RepBuild)) :=
  if ¬ocFilterResourceByRt r.types request.query then none
  else if ¬r.discoverable then none
  else some (linkEntries server request isRes r anchor)

/-! ## All links -/

/-- The core resources in the order in which they are listed. -/
def coreOrder : List CoreResource :=
  [.ocfP, .ocfRes, .ocfD, .ocfIntrospectionWk, .ocfCon, .ocfMnt, .ocfSwUpdate, .ocfSecDoxm, .ocfSecPstat, .ocfSecAcl,
    .ocfSecAel, .ocfSecCred, .ocfSecSp, .ocfSecCsr, .ocfSecRoles, .ocfSecSdi, .ocfCoapCloudConf, .ocfWesWifi,
    .ocfWesDevice, .ocfEesRsp, .ocfEesRspCap]

/-- `oc_core_get_resource_by_index` for a core resource that is listed: the platform is the same for every device,
and `OCF_CON` is listed only if it has been announced. -/
def listedCore (core : CoreResource) : Option (DiscoveryResource itemMax) :=
  if core = .ocfP then server.coreResource .ocfP 0
  else if core = .ocfCon ∧ server.conResAnnounced = false then none
  else server.coreResource core request.device

/-- `oc_concat_strings(&anchor, "ocf://", uuid)` -/
def deviceAnchor : OcString := ascii "ocf://" ++ ocUuidToStr (server.deviceId request.device)

/-- The test that precedes `filter_resource` for a resource of the application and for a collection. -/
def isOfDevice (r : DiscoveryResource itemMax) : Bool := r.device == request.device && r.discoverable

/-- `process_device_resources`: the links it adds. -/
def processDeviceResources : List (List (OcString × RepBuild)) :=
  let anchor := deviceAnchor server request
  let core := coreOrder.filterMap fun core =>
    (listedCore server request core).bind (filterResource server request (core == .ocfRes) anchor)
  let app := (server.appResources.filter (isOfDevice request)).filterMap (filterResource server request false anchor)
  let collections :=
    (server.collections.filter (isOfDevice request)).filterMap (filterResource server request false anchor)
  core ++ app ++ collections

/-- The array of links that `oc_rep_start_links_array` and `oc_rep_end_links_array` enclose. -/
def linksArray (links : List (List (OcString × RepBuild))) : Cbor :=
  .array false (links.map fun link => .map (RepBuild.encodeEntries link))

/-- `oc_core_discovery_handler` for `OC_IF_LL`: the payload of a response with `OC_STATUS_OK`. There is none, and the
code is another one, if no link has been added, or if the payload does not fit; `encodedSize` is
`oc_rep_get_encoded_payload_size` for what has been encoded. -/
def ocCoreDiscoveryHandler (encodedSize : Cbor → Int) : Option Cbor :=
  let links := processDeviceResources server request
  let payload := linksArray links
  if links.length ≠ 0 ∧ encodedSize payload > 0 then some payload else none

end Server

end SmartGarage
