/-
Collections: what `oc_handle_collection_request` (`oc_collection.c`) encodes for each interface, and the length and
the code that it puts into the response buffer.
-/
import SmartGarage.Api.Discovery
import SmartGarage.Messaging.Engine
import SmartGarage.Lib.BufferWriter

namespace SmartGarage

/-! ## The encoder -/

/-- The encoder: the items that are complete at the top level, and whether `g_err` has been set. -/
abbrev RepEncoder := BufferWriter Cbor

/-- The bytes of the head of an item with an argument. -/
def headSize (n : Nat) : Nat :=
  if n < 24 then 1 else if n < 2 ^ 8 then 2 else if n < 2 ^ 16 then 3 else if n < 2 ^ 32 then 5 else 9

mutual

/-- The bytes of an item, with the shortest heads. -/
def cborSize : Cbor → Nat
  | .integer v => headSize (if v < 0 then -1 - v else v).toNat
  | .boolean _ => 1
  | .double _ => 9
  | .byteString b => headSize b.length + b.length
  | .textString t => headSize t.length + t.length
  | .map items => 2 + cborSizes items
  | .array definite items => (if definite then headSize items.length else 2) + cborSizes items
  | .tag content => 1 + cborSize content
  | .other .halfFloat => 3
  | .other .float => 5
  | .other _ => 1

/-- The bytes of some items. -/
def cborSizes : List Cbor → Nat
  | [] => 0
  | item :: items => cborSize item + cborSizes items

end

section Encoder

variable (size : Cbor → Nat)

/-- `oc_rep_get_encoded_payload_size`: `size` is the number of bytes that tinycbor writes for an item. -/
def ocRepGetEncodedPayloadSize (e : RepEncoder) : Int := if e.failed then -1 else e.used size

/-- How far a container reaches that is still open: the byte that ends it is not there. -/
def openSize (container : Cbor) : Nat := size container - 1

end Encoder

/-! ## Collections -/

/-- `oc_link_t`; `types` are those of the resource it leads to. -/
structure CollectionLink where
  resource : Resource
  types : List OcString
  rel : List OcString
  ins : Int
  params : List (OcString × OcString)

/-- What the handler reads of an `oc_collection_t` besides its resource: `properties` is what the callback for the
properties of the application encodes. -/
structure CollectionData where
  resource : Resource
  name : OcString
  types : List OcString
  tagPosDesc : Option OcString
  tagFuncDesc : Option OcString
  tagPosRel : UInt64 × UInt64 × UInt64
  supportedRts : List OcString
  mandatoryRts : List OcString
  properties : List Cbor
  links : List CollectionLink

/-- What a handler of the application has done with a request: what it has encoded, and the code of its response. -/
structure Handled where
  rep : List Cbor
  code : UInt8

/-- A resource that a factory has made for the interface `oic.if.create`, with the link to it. -/
structure CreatedResource where
  uri : OcString
  types : List OcString
  interfaces : InterfaceMask
  bm : UInt64
  ins : Int
  rep : List Cbor
  params : List (OcString × OcString)

/-- What a request to a collection meets: the handlers of the resources, what `oc_sec_check_acl` says, the endpoints
of the devices, and the resource that the interface `oic.if.create` makes, `none` for a bad request. -/
structure CollectionEnv where
  handled : OcMethod → Resource → InterfaceMask → List OcRep → Handled
  allowed : OcMethod → Resource → OcEndpoint → Bool
  endpoints : (device : Nat) → List OcEndpoint
  created : Option CreatedResource

/-- What `oc_handle_collection_request` reads of a request. -/
structure CollectionRequest where
  method : OcMethod
  query : OcString
  origin : Option OcEndpoint
  payload : List OcRep

/-- A collection of `oc_collections`. -/
def Resource.isOcCollection (r : Resource) : Bool := r.coreIndex.isNone && r.isCollection

/-- The `properties` field. -/
def Resource.properties (r : Resource) : ResourceProperties :=
  (if r.discoverable then propDiscoverable else 0) ||| (if r.observable then propObservable else 0) |||
    (if r.secure then propSecure else 0) ||| (if r.periodic then propPeriodic else 0)

section Request

variable (size : Cbor → Nat) (env : CollectionEnv) (collection : CollectionData) (rq : CollectionRequest)

/-! ## Links -/

/-- The endpoints that a link lists. -/
def listsLinkEndpoint (r : Resource) (eps : OcEndpoint) : Bool :=
  !((r.secure && !eps.flags.secured) ||
    (match rq.origin with
      | some origin => origin.interfaceIndex ≠ -1 && origin.interfaceIndex ≠ eps.interfaceIndex
      | none => false))

/-- The object of an endpoint of a link. -/
def linkEndpointEntries (eps : OcEndpoint) : List (OcString × RepBuild) :=
  match ocEndpointToString eps with
  | some ep => [(ascii "ep", .setTextString ep)]
  | none => []

/-- The object of a link for `OC_IF_BASELINE` and `OC_IF_LL`. -/
def collectionLinkEntries (link : CollectionLink) : List (OcString × RepBuild) :=
  [(ascii "href", .setTextString link.resource.uri),
    (ascii "rt", .setStringArray link.types),
    (ascii "if", .addTextStrings (ocCoreEncodeInterfacesMask link.resource.interfaces)),
    (ascii "rel", .setStringArray link.rel),
    (ascii "ins", .setInt link.ins)] ++
  link.params.map (fun p => (p.1, .setTextString p.2)) ++
  [(ascii "p", .object [(ascii "bm", .setUint (UInt64.ofNat (policyBm link.resource.properties).toNat))]),
    (ascii "eps", .objects
      (((env.endpoints link.resource.device).filter (listsLinkEndpoint rq link.resource)).map linkEndpointEntries))]

/-- The objects of the links that the query does not filter out. -/
def collectionLinks : List (List (OcString × RepBuild)) :=
  (collection.links.filter fun link => ocFilterResourceByRt link.types rq.query).map (collectionLinkEntries env rq)

/-! ## The baseline interface -/

/-- `oc_process_baseline_interface`, for the fields of a resource. -/
def baselineEntries (name : OcString) (types : List OcString) (interfaces : InterfaceMask)
    (tagPosDesc tagFuncDesc : Option OcString) (tagPosRel : UInt64 × UInt64 × UInt64) : List (OcString × RepBuild) :=
  (if name.length > 0 then [(ascii "n", .setTextString name)] else []) ++
  [(ascii "rt", .setStringArray types), (ascii "if", .addTextStrings (ocCoreEncodeInterfacesMask interfaces))] ++
  (match tagPosDesc with
    | some desc => [(ascii "tag-pos-desc", .setTextString desc)]
    | none => []) ++
  (match tagFuncDesc with
    | some func => [(ascii "tag-func-desc", .setTextString func)]
    | none => []) ++
  let (x, y, z) := tagPosRel
  if isNonzeroDouble x ∨ isNonzeroDouble y ∨ isNonzeroDouble z then
    [(ascii "tag-pos-rel", .addDoubles [x, y, z])]
  else []

/-- `oc_process_baseline_interface` of a collection. -/
def ocProcessBaselineInterface : List (OcString × RepBuild) :=
  baselineEntries collection.name collection.types collection.resource.interfaces collection.tagPosDesc
    collection.tagFuncDesc collection.tagPosRel

/-- The object of a collection for `OC_IF_BASELINE`. -/
def collectionBaseline : Cbor :=
  .map (RepBuild.encodeEntries (ocProcessBaselineInterface collection ++
      [(ascii "rts", .addTextStrings collection.supportedRts), (ascii "rts-m", .addTextStrings collection.mandatoryRts),
        (ascii "links", .objects (collectionLinks env collection rq))]) ++
    collection.properties)

/-! ## The batch interface -/

/-- `ecode` and `pcode`. -/
structure CollectionCodes where
  ecode : UInt8
  pcode : UInt8

/-- What an object of the payload asks for: the `href`, empty if there is none, and the payload of its request. -/
structure BatchRound where
  href : OcString
  payload : List OcRep

/-- An object of the payload; an object without a payload of its own has that of the object before it. -/
def batchRound (carried : List OcRep) (entries : List OcRep) : BatchRound :=
  entries.foldl (fun round entry =>
    match entry with
    | .string _ value => { round with href := value }
    | .object _ object => { round with payload := object }
    | _ => round) ⟨[], carried⟩

/-- The objects of the payload, and whether something else than an object ends them. -/
def batchRounds (carried : List OcRep) : List OcRep → List BatchRound × Bool
  | [] => ([], false)
  | .object _ entries :: rest =>
    let round := batchRound carried entries
    let (rounds, bad) := batchRounds round.payload rest
    (round :: rounds, bad)
  | _ :: _ => ([], true)

/-- What becomes of the object of a link: it is complete, or the encoder goes back to where it began. -/
inductive BatchOutcome
  | kept (entries : List Cbor)
  | dropped (entries : List Cbor)

/-- The links that a round is about; `notify` is the address of `notify_resource`. -/
def selectsLink (notify : Option Nat) (round : BatchRound) (link : CollectionLink) : Bool :=
  (match notify with
    | some id => link.resource.id == id
    | none => true) &&
  ocFilterResourceByRt link.types rq.query && (round.href == [] || round.href == link.resource.uri)

/-- What the resource of a link answers; `none` if it has no handler for the method. -/
def linkAnswer (round : BatchRound) (link : CollectionLink) : Option Handled :=
  if rq.origin.any fun origin => !env.allowed rq.method link.resource origin then some ⟨[], ocStatusCode .forbidden⟩
  else if link.resource.handles rq.method then
    let reqIface := if link.resource.id = collection.resource.id then ifBaseline else link.resource.defaultInterface
    some (env.handled rq.method link.resource reqIface round.payload)
  else none

/-- The entries of the object of a link. -/
def batchEntries (link : CollectionLink) (rep : List Cbor) : List Cbor :=
  [.textString (ascii "href"), .textString link.resource.uri, .textString (ascii "rep")] ++ rep

/-- One link of a round. A handler that encodes nothing leaves an empty object. -/
def batchLink (round : BatchRound) (codes : CollectionCodes) (link : CollectionLink) : BatchOutcome × CollectionCodes :=
  match linkAnswer env collection rq round link with
  | none => (.dropped (batchEntries link []), { codes with ecode := 0 })
  | some handled =>
    if round.href ≠ [] ∧ handled.code ≥ ocStatusCode .badRequest then
      (.dropped (batchEntries link handled.rep), { codes with ecode := handled.code })
    else
      (.kept (batchEntries link (match handled.rep with
          | [] => [.map []]
          | rep => rep)),
        if handled.code < ocStatusCode .badRequest then { codes with pcode := handled.code }
        else { codes with ecode := handled.code })

/-- The links of a round, one after the other. -/
def batchLinks (round : BatchRound) : List CollectionLink → CollectionCodes → List BatchOutcome × CollectionCodes
  | [], codes => ([], codes)
  | link :: links, codes =>
    let (outcome, codes) := batchLink env collection rq round codes link
    let (outcomes, codes) := batchLinks round links codes
    (outcome :: outcomes, codes)

/-- The rounds, one after the other. -/
def batchOutcomes (notify : Option Nat) : List BatchRound → CollectionCodes → List BatchOutcome × CollectionCodes
  | [], codes => ([], codes)
  | round :: rounds, codes =>
    let (outcomes, codes) := batchLinks env collection rq round (collection.links.filter (selectsLink rq notify round)) codes
    let (rest, codes) := batchOutcomes notify rounds codes
    (outcomes ++ rest, codes)

/-- The writes behind some objects of the array: an object that is dropped has been written behind those before it. -/
def batchOps : (objects : List Cbor) → List BatchOutcome → List (BufferWriter.Op Cbor)
  | objects, [] => [.put (.array false objects)]
  | objects, .kept entries :: rest => batchOps (objects ++ [.map entries]) rest
  | objects, .dropped entries :: rest =>
    .withdrawn (openSize size (.array false objects) + openSize size (.map entries)) :: batchOps objects rest

/-! ## The handler -/

/-- What a request encodes, and its codes. -/
structure CollectionContent where
  ops : List (BufferWriter.Op Cbor)
  codes : CollectionCodes

/-- The object that stands for a resource that has been made. -/
def createdObject (c : CreatedResource) : Cbor :=
  .map (RepBuild.encodeEntries [(ascii "href", .setTextString c.uri), (ascii "rt", .setStringArray c.types),
      (ascii "if", .addTextStrings (ocCoreEncodeInterfacesMask c.interfaces)),
      (ascii "p", .object [(ascii "bm", .setUint c.bm)]), (ascii "ins", .setInt c.ins)] ++
    [.textString (ascii "rep"), .map c.rep] ++
    RepBuild.encodeEntries (c.params.map fun p => (p.1, .setTextString p.2)))

/-- The codes of a request that has been done, and of one that has not. -/
def codesOf (status : OcStatus) : CollectionCodes := ⟨ocStatusCode status, ocStatusCode status⟩

/-- The codes that a request starts with. -/
def initialCodes : CollectionCodes := ⟨ocStatusCode .ok, ocStatusCode .badRequest⟩

/-- The switch over the interfaces. -/
def collectionContent (ifaceMask : InterfaceMask) (notify : Option Nat) : CollectionContent :=
  if ifaceMask = ifCreate then
    match rq.method, env.created with
    | .get, _ => ⟨[.put (.map [])], codesOf .ok⟩
    | .put, some c | .post, some c => ⟨[.put (createdObject c)], codesOf .ok⟩
    | _, _ => ⟨[], codesOf .badRequest⟩
  else if ifaceMask = ifBaseline then
    if rq.method = .get then ⟨[.put (collectionBaseline env collection rq)], codesOf .ok⟩ else ⟨[], initialCodes⟩
  else if ifaceMask = ifLl then
    ⟨[.put (linksArray (collectionLinks env collection rq))], codesOf .ok⟩
  else if ifaceMask = ifB then
    let (rounds, bad) := if rq.method = .get ∨ rq.method = .delete then ([⟨[], []⟩], false) else batchRounds [] rq.payload
    let (outcomes, codes) := batchOutcomes env collection rq notify rounds initialCodes
    ⟨batchOps size [] outcomes, if bad then { codes with ecode := ocStatusCode .badRequest } else codes⟩
  else ⟨[], initialCodes⟩

/-- The code of the response. -/
def collectionCode (ifaceMask : InterfaceMask) (codes : CollectionCodes) : UInt8 :=
  if codes.ecode < ocStatusCode .badRequest ∧ codes.pcode < ocStatusCode .badRequest then
    match rq.method with
    | .get => ocStatusCode .ok
    | .post | .put => if ifaceMask = ifCreate then ocStatusCode .created else ocStatusCode .changed
    | .delete => ocStatusCode .deleted
  else ocStatusCode .badRequest

/-- What the handler leaves: the encoder, and what it puts into the response buffer. -/
structure CollectionAnswer where
  encoder : RepEncoder
  responseLength : BitVec 16
  code : UInt8

/-- `oc_handle_collection_request`, with an encoder for a buffer of `capacity` bytes. The length is cast to 16 bits,
also where the encoder has failed. -/
def ocHandleCollectionRequest (capacity : Nat) (ifaceMask : InterfaceMask) (notify : Option Nat) (e : RepEncoder) :
    CollectionAnswer :=
  let content := collectionContent size env collection rq ifaceMask notify
  let e := e.run capacity size content.ops
  ⟨e, castUInt16 (ocRepGetEncodedPayloadSize size e), collectionCode rq ifaceMask content.codes⟩

end Request

end SmartGarage
