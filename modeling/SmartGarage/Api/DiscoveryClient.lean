/-
The walk of a client over the links of a discovery response: `oc_ri_process_discovery_payload` (`oc_discovery.c`).
-/
import SmartGarage.Api.Endpoint
import SmartGarage.Api.RepRead
import SmartGarage.Api.Resources

namespace SmartGarage

/-! ## The handler -/

/-- One call of the client's handler. A pointer is `none` if no link has set it: the handler then gets what is behind
a null pointer. Only the handler of `discovery_all` gets `more`. -/
structure DiscoveryCall where
  anchor : Option OcString
  uri : Option OcString
  types : Option (List OcString)
  ifaceMask : InterfaceMask
  endpoints : List OcEndpoint
  bm : BitVec 32
  more : Bool
deriving DecidableEq

/-- The working variables of the walk. Of these `bm` and the list of endpoints are those of one link, and the others
keep what an earlier link has set. -/
structure LinkScan where
  anchor : Option OcString
  uri : Option OcString
  types : Option (List OcString)
  ifaceMask : InterfaceMask
  di : OcUuid
  epsList : List OcEndpoint
  bm : BitVec 32

/-- The variables before the first link. In the source `di` is a variable of each round and not initialised: where a link
has no anchor that sets it, or one that is shorter than a UUID and is read behind its text, it is taken here as the
round before has left it, or as zeros. -/
def LinkScan.start : LinkScan := ⟨none, none, none, 0, OcUuid.nil, [], 0⟩

/-! ## String arrays -/

/-- The texts in the slots of a string array: a slot that no text has been written to is empty. -/
def RepBlock.texts (block : RepBlock) : List OcString :=
  (List.range block.size).map fun k => ((block.item k).bind Content.text?).getD []

/-- The mask of the interfaces that a string array names. -/
def interfaceMaskOf (texts : List OcString) : InterfaceMask :=
  texts.foldl (fun mask iface => mask ||| ocRiGetInterfaceMask iface) 0

section Client

variable (ocDnsLookup : OcString → TransportFlags → Option OcString) (endpoint : OcEndpoint)

/-! ## Endpoints -/

/-- `oc_ipv6_endpoint_is_link_local(endpoint) == 0` -/
def isLinkLocal (ep : OcEndpoint) : Bool :=
  ep.flags.ipv6 && ep.address.getD 0 0 == 0xfe && ep.address.getD 1 0 == 0x80

/-- The endpoint is of another family than the one the response is from, and not for TCP. -/
def otherFamily (ep : OcEndpoint) : Bool :=
  !ep.flags.tcp && ((endpoint.flags.ipv4 && ep.flags.ipv6) || (endpoint.flags.ipv6 && ep.flags.ipv4))

/-- What the walk adds to an endpoint that has been read. -/
def clientEndpoint (di : OcUuid) (temp : OcEndpoint) : OcEndpoint :=
  { temp with
    device := endpoint.device
    di := di
    interfaceIndex := endpoint.interfaceIndex
    scope := if isLinkLocal temp ∧ isLinkLocal endpoint then endpoint.scope else temp.scope }

/-- The loop over the entries of an item of `eps`: the endpoints it adds. An endpoint of another family ends it, and a
text that `oc_string_to_endpoint` does not return from ends everything. -/
def linkItemEndpoints (di : OcUuid) : List RepNode → Option (List OcEndpoint)
  | [] => some []
  | .leaf name (.string text) :: rest =>
    if name = ascii "ep" then
      match ocStringToEndpoint ocDnsLookup text with
      | .endless => none
      | .error => linkItemEndpoints di rest
      | .ok temp _ =>
        if otherFamily endpoint temp then some []
        else (linkItemEndpoints di rest).map (clientEndpoint endpoint di temp :: ·)
    else linkItemEndpoints di rest
  | _ :: rest => linkItemEndpoints di rest

/-- The loop over the items of `eps`. -/
def epsEndpoints (di : OcUuid) : List (List RepNode) → Option (List OcEndpoint)
  | [] => some []
  | item :: rest => do
    let first ← linkItemEndpoints ocDnsLookup endpoint di item
    let others ← epsEndpoints di rest
    some (first ++ others)

/-! ## One link -/

namespace LinkScan

variable (s : LinkScan)

/-- The first entry of the object `p`, if it is the integer `bm`. -/
def policy (entries : List RepNode) : Option (BitVec 32) :=
  match entries with
  | .leaf name (.int v) :: _ => if name = ascii "bm" then some (BitVec.ofInt 32 v) else none
  | _ => none

/-- The switch over the type of an entry of a link. Every array of objects is taken for endpoints, and every array of
strings but `rt` for interfaces. -/
def entry (node : RepNode) : Option LinkScan :=
  match node with
  | .leaf name (.string text) =>
    if name = ascii "anchor" then some { s with anchor := some text, di := ocStrToUuid (text.drop 6) s.di }
    else if name = ascii "href" then some { s with uri := some text }
    else some s
  | .array name .string length stored _ =>
    let texts := RepBlock.texts ⟨stored, length⟩
    if name = ascii "rt" then some { s with types := some texts }
    else some { s with ifaceMask := interfaceMaskOf texts }
  | .objectArray _ objects _ _ =>
    (epsEndpoints ocDnsLookup endpoint s.di objects).map fun eps =>
      -- the list is set with its first endpoint
      if eps = [] then s else { s with epsList := eps }
  | .object name entries =>
    match policy entries with
    | some bm => if name = ascii "p" then some { s with bm := bm } else some s
    | none => some s
  | _ => some s

/-- The loop over the entries of a link, whose own variables are reset in front of it. -/
def link (entries : List RepNode) : Option LinkScan :=
  entries.foldlM (fun s node => s.entry ocDnsLookup endpoint node) { s with bm := 0, epsList := [] }

/-- What the handler is called with behind a link. -/
def call (more : Bool) : DiscoveryCall := ⟨s.anchor, s.uri, s.types, s.ifaceMask, s.epsList, s.bm, more⟩

end LinkScan

/-! ## All links -/

/-- The calls that have been made, and whether the last one has returned `OC_STOP_DISCOVERY`. -/
structure DiscoveryRun where
  calls : List DiscoveryCall
  stopped : Bool
deriving DecidableEq

/-- The loop over the links; `stops` is what the handler answers to the last one of the calls so far. -/
def discoveryLoop (stops : List DiscoveryCall → Bool) (s : LinkScan) (calls : List DiscoveryCall) :
    List (List RepNode) → Option DiscoveryRun
  | [] => some ⟨calls, false⟩
  | link :: rest => do
    let s ← s.link ocDnsLookup endpoint link
    if s.epsList = [] then discoveryLoop stops s calls rest
    else
      let calls := calls ++ [s.call (!rest.isEmpty)]
      if stops calls then some ⟨calls, true⟩ else discoveryLoop stops s calls rest

/-- The entries of each object of a list of records. -/
def objectEntries (node : RepNode) : List RepNode :=
  match node with
  | .object _ entries => entries
  | _ => []

/-- The links behind an entry of the first object. -/
def linksProperty (links : List (List RepNode)) (node : RepNode) : List (List RepNode) :=
  match node with
  | .objectArray name objects _ _ => if name = ascii "links" then objects else links
  | _ => links

/-- The links of a response: those of the last array of objects with the name `links` among the entries of the first
object, or of the root where that has none, and else the objects of the root. -/
def discoveryLinks (p : List RepNode) : List (List RepNode) :=
  let rep := match p with
    | .object _ (entry :: entries) :: _ => entry :: entries
    | _ => p
  rep.foldl linksProperty (p.map objectEntries)

/-- `oc_ri_process_discovery_payload`, for a payload that can be parsed: of another one the records in front of the
error are walked over, which is left out. -/
def ocRiProcessDiscoveryPayload (itemMax : Nat) (payload : Cbor) (stops : List DiscoveryCall → Bool) :
    Option DiscoveryRun :=
  match ocParseRep itemMax payload with
  | .ok p => discoveryLoop ocDnsLookup endpoint stops .start [] (discoveryLinks p)
  | .error _ => none

end Client

end SmartGarage
