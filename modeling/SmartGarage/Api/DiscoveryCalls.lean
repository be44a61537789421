/-
Discovery from end to end: the calls of the client's handler for the payload of `oc_core_discovery_handler`. They are
those of the resources that match the request, each with what it lists, if and only if every one of them that lists
an endpoint has a type: a link without types is called with those of an earlier one.
-/
import SmartGarage.Api.DiscoveryRead

namespace SmartGarage

open RepBuild

section EndToEnd

variable (ocDnsLookup : OcString → TransportFlags → Option OcString) (endpoint : OcEndpoint) {itemMax : Nat}
  {r : DiscoveryResource itemMax}

  (server : DiscoveryServer itemMax) (request : DiscoveryRequest)

/-! ## What discovery is for -/

instance (types : List OcString) (query : OcString) : Decidable (TypesMatch types query) :=
  inferInstanceAs (Decidable (_ ∨ _))

/-- The resources of the device: the core resources, those of the application and the collections. -/
def deviceResources : List (DiscoveryResource itemMax) :=
  coreOrder.filterMap (listedCore server request) ++
    (server.appResources ++ server.collections).filter fun r => r.device == request.device

/-- The resource is discoverable and has a type the query asks for. -/
def isMatching (r : DiscoveryResource itemMax) : Bool := r.discoverable ∧ TypesMatch r.types request.query

/-- The resources of the device that match the request. -/
def matchingResources : List (DiscoveryResource itemMax) := (deviceResources server request).filter (isMatching request)

/-- The call for a resource. -/
def expectedCall (r : DiscoveryResource itemMax) (more : Bool) : DiscoveryCall where
  anchor := some (deviceAnchor server request)
  uri := some r.uri
  types := some r.boundTypes
  ifaceMask := r.interfaces
  endpoints := endpointsRead ocDnsLookup endpoint (server.deviceId request.device) (listedEndpoints server request r)
  bm := r.properties &&& ~~~(propPeriodic ||| propSecure)
  more := more

/-- The calls for resources: one for each of them that lists an endpoint. -/
def expectedCalls : List (DiscoveryResource itemMax) → List DiscoveryCall
  | [] => []
  | r :: rest =>
    if listedEndpoints server request r = [] then expectedCalls rest
    else expectedCall ocDnsLookup endpoint server request r (!rest.isEmpty) :: expectedCalls rest

/-- The calls that are made of those that are due: the handler may stop the discovery. -/
def untilStopped (stops : List DiscoveryCall → Bool) (made : List DiscoveryCall) : List DiscoveryCall → DiscoveryRun
  | [] => ⟨made, false⟩
  | call :: rest =>
    if stops (made ++ [call]) then ⟨made ++ [call], true⟩ else untilStopped stops (made ++ [call]) rest

/-- The handler is called once for every matching resource that lists an endpoint, in their order, and gets no
endpoint without encryption for a secure one. -/
structure DiscoveryEndToEnd (payload : Cbor) : Prop where
  calls : ∀ stops, ocRiProcessDiscoveryPayload ocDnsLookup endpoint itemMax payload stops =
    some (untilStopped stops [] (expectedCalls ocDnsLookup endpoint server request (matchingResources server request)))
  secure : ∀ r ∈ matchingResources server request, r.secure = true →
    ∀ ep ∈ (expectedCall ocDnsLookup endpoint server request r false).endpoints, ep.flags.secured = true

/-- The link of a resource is read as it is: it has types, and the client leaves none of its endpoints out. -/
def LinkRead (r : DiscoveryResource itemMax) : Prop :=
  r.boundTypes ≠ [] ∧ ∀ ep ∈ listedEndpoints server request r, otherFamily endpoint ep = false

/-! ## The links of the payload -/

theorem isMatching_iff :
    isMatching request r = true ↔ r.discoverable = true ∧ TypesMatch r.types request.query := decide_eq_true_iff

theorem filterResource_eq (isRes : Bool) (anchor : OcString) (r : DiscoveryResource itemMax) :
    filterResource server request isRes anchor r =
      if isMatching request r then some (linkEntries server request isRes r anchor) else none := by
  have hfilter := ocFilterResourceByRt_iff (fun t ht => (r.slots t ht).1) request.query
  unfold filterResource
  by_cases hmatch : isMatching request r = true
  · obtain ⟨hdiscoverable, htypes⟩ := (isMatching_iff request).1 hmatch
    rw [if_neg (not_not.2 (hfilter.2 htypes)), if_neg (not_not.2 hdiscoverable), if_pos hmatch]
  · rw [if_neg hmatch]
    by_cases htypes : ocFilterResourceByRt r.types request.query = true
    · have hnot : ¬r.discoverable = true := fun hd => hmatch ((isMatching_iff request).2 ⟨hd, hfilter.1 htypes⟩)
      rw [if_neg (not_not.2 htypes), if_pos hnot]
    · rw [if_pos htypes]

/-- The link of a resource that is discoverable. -/
def IsLinkOf (link : List (OcString × RepBuild)) (r : DiscoveryResource itemMax) : Prop :=
  r.discoverable = true ∧ ∃ isRes, link = linkEntries server request isRes r (deviceAnchor server request)

theorem filterMap_links (isRes : Bool) : ∀ resources : List (DiscoveryResource itemMax),
    List.Forall₂ (IsLinkOf server request)
      (resources.filterMap (filterResource server request isRes (deviceAnchor server request)))
      (resources.filter (isMatching request))
  | [] => .nil
  | r :: rest => by
    have ih := filterMap_links isRes rest
    rw [List.filterMap_cons, filterResource_eq]
    by_cases hmatch : isMatching request r = true
    · rw [if_pos hmatch, List.filter_cons_of_pos hmatch]
      exact .cons ⟨((isMatching_iff request).1 hmatch).1, isRes, rfl⟩ ih
    · rw [if_neg hmatch, List.filter_cons_of_neg hmatch]
      exact ih

theorem filterMap_coreLinks : ∀ cores : List CoreResource, List.Forall₂ (IsLinkOf server request)
    (cores.filterMap fun core => (listedCore server request core).bind
      (filterResource server request (core == .ocfRes) (deviceAnchor server request)))
    ((cores.filterMap (listedCore server request)).filter (isMatching request))
  | [] => .nil
  | core :: rest => by
    have ih := filterMap_coreLinks rest
    rw [List.filterMap_cons, List.filterMap_cons]
    cases listedCore server request core with
    | none => exact ih
    | some r =>
      rw [Option.bind_some, filterResource_eq]
      by_cases hmatch : isMatching request r = true
      · simp only [if_pos hmatch]
        rw [List.filter_cons_of_pos hmatch]
        exact .cons ⟨((isMatching_iff request).1 hmatch).1, _, rfl⟩ ih
      · simp only [if_neg hmatch]
        rw [List.filter_cons_of_neg hmatch]
        exact ih

theorem filter_isOfDevice (resources : List (DiscoveryResource itemMax)) :
    (resources.filter (isOfDevice request)).filter (isMatching request) =
      (resources.filter fun r => r.device == request.device).filter (isMatching request) := by
  rw [List.filter_filter, List.filter_filter]
  refine List.filter_congr fun r _ => ?_
  unfold isOfDevice
  cases hd : r.discoverable <;> simp [isMatching, hd]

theorem processDeviceResources_links :
    List.Forall₂ (IsLinkOf server request) (processDeviceResources server request) (matchingResources server request) := by
  unfold processDeviceResources matchingResources deviceResources
  rw [List.filter_append, List.filter_append, List.filter_append, ← List.append_assoc]
  refine List.rel_append (List.rel_append (filterMap_coreLinks server request coreOrder) ?_) ?_
  · have happ := filterMap_links server request false (server.appResources.filter (isOfDevice request))
    rw [filter_isOfDevice] at happ
    exact happ
  · have hcollections := filterMap_links server request false (server.collections.filter (isOfDevice request))
    rw [filter_isOfDevice] at hcollections
    exact hcollections

/-! ## The calls that are made -/

/-- The calls for the links of resources, with the variables that the walk has set so far. -/
def madeCalls (s : LinkScan) : List (DiscoveryResource itemMax) → List DiscoveryCall
  | [] => []
  | r :: rest =>
    let s' := s.behind ocDnsLookup endpoint server request r
    if s'.epsList = [] then madeCalls s' rest else s'.call (!rest.isEmpty) :: madeCalls s' rest

variable {ocDnsLookup endpoint server request}

theorem discoveryLoop_links (stops : List DiscoveryCall → Bool) {links : List (List (OcString × RepBuild))}
    {resources : List (DiscoveryResource itemMax)} (h : List.Forall₂ (IsLinkOf server request) links resources) :
    ∀ (s : LinkScan) (calls : List DiscoveryCall),
      discoveryLoop ocDnsLookup endpoint stops s calls (links.map linkNodes) =
        some (untilStopped stops calls (madeCalls ocDnsLookup endpoint server request s resources)) := by
  induction h with
  | nil => exact fun _ _ => rfl
  | @cons link r links rest hlink hrest ih =>
    intro s calls
    obtain ⟨hdiscoverable, isRes, rfl⟩ := hlink
    have hempty : (links.map linkNodes).isEmpty = rest.isEmpty := by
      cases hrest <;> rfl
    rw [List.map_cons, discoveryLoop, link_behind ocDnsLookup endpoint server request s isRes hdiscoverable, hempty]
    show (if _ then _ else _) = _
    rw [madeCalls]
    by_cases heps : (s.behind ocDnsLookup endpoint server request r).epsList = []
    · simp only [if_pos heps]
      exact ih _ _
    · simp only [if_neg heps]
      rw [untilStopped]
      split
      · rfl
      · exact ih _ _

theorem untilStopped_never : ∀ made calls : List DiscoveryCall,
    untilStopped (fun _ => false) made calls = ⟨made ++ calls, false⟩
  | made, [] => by rw [untilStopped, List.append_nil]
  | made, call :: rest => by
    rw [untilStopped, if_neg Bool.false_ne_true, untilStopped_never, List.append_assoc, List.singleton_append]

/-! ## The two lists -/

theorem endpoints_eq_nil (r : DiscoveryResource itemMax) {listed : List OcEndpoint}
    (h : listed ⊆ listedEndpoints server request r) :
    endpointsRead ocDnsLookup endpoint (server.deviceId request.device) listed = [] ↔ listed = [] := by
  rw [← List.length_eq_zero_iff, ← List.length_eq_zero_iff, endpointsRead_length ocDnsLookup endpoint _ fun ep hep =>
    listedEndpoints_isIp server request ep (h hep)]

theorem keptEndpoints_subset (r : DiscoveryResource itemMax) :
    keptEndpoints endpoint server request r ⊆ listedEndpoints server request r := List.filter_subset_self _

theorem madeCalls_length (s : LinkScan) (resources : List (DiscoveryResource itemMax)) :
    (madeCalls ocDnsLookup endpoint server request s resources).length ≤
      (expectedCalls ocDnsLookup endpoint server request resources).length := by
  induction resources generalizing s with
  | nil => exact Nat.le_refl _
  | cons r rest ih =>
    have hrest := ih (s.behind ocDnsLookup endpoint server request r)
    rw [madeCalls, expectedCalls]
    by_cases hlisted : listedEndpoints server request r = []
    · have hkept : keptEndpoints endpoint server request r = [] :=
        List.subset_nil.1 (hlisted ▸ keptEndpoints_subset r)
      have heps : (s.behind ocDnsLookup endpoint server request r).epsList = [] :=
        (endpoints_eq_nil r (keptEndpoints_subset r)).2 hkept
      simp only [if_pos heps, if_pos hlisted]
      exact hrest
    · rw [if_neg hlisted, List.length_cons]
      split
      · exact hrest.trans (Nat.le_succ _)
      · exact Nat.succ_le_succ hrest

theorem behind_types {s : LinkScan} (h : s.types ≠ some []) (r : DiscoveryResource itemMax) :
    (s.behind ocDnsLookup endpoint server request r).types ≠ some [] := by
  unfold LinkScan.behind
  split
  · exact h
  · exact fun heq => absurd (Option.some.inj heq) (by assumption)

theorem linkRead_of_call {s : LinkScan} (h : s.types ≠ some []) {more : Bool}
    (heq : (s.behind ocDnsLookup endpoint server request r).call more =
      expectedCall ocDnsLookup endpoint server request r more) : LinkRead endpoint server request r := by
  have htypes := congrArg DiscoveryCall.types heq
  have heps := congrArg (fun call => call.endpoints.length) heq
  constructor
  · intro hnil
    have hsome : s.types = some r.boundTypes := by
      rw [← show (s.behind ocDnsLookup endpoint server request r).types = s.types from if_pos hnil]
      exact htypes
    exact h (hnil ▸ hsome)
  · have hlen : (keptEndpoints endpoint server request r).length = (listedEndpoints server request r).length := by
      rw [← endpointsRead_length ocDnsLookup endpoint (server.deviceId request.device) fun ep hep =>
          listedEndpoints_isIp server request ep (keptEndpoints_subset r hep),
        ← endpointsRead_length ocDnsLookup endpoint (server.deviceId request.device)
          (listedEndpoints_isIp server request)]
      exact heps
    intro ep hep
    have hkept := List.filter_eq_self.1 (List.filter_sublist.eq_of_length hlen) ep hep
    simpa using hkept

theorem call_of_linkRead {s : LinkScan} {more : Bool}
    (h : LinkRead endpoint server request r) : (s.behind ocDnsLookup endpoint server request r).call more =
      expectedCall ocDnsLookup endpoint server request r more := by
  have hkept : keptEndpoints endpoint server request r = listedEndpoints server request r :=
    List.filter_eq_self.2 fun ep hep => by rw [h.2 ep hep]; rfl
  unfold LinkScan.call LinkScan.behind expectedCall
  simp only [if_neg h.1, hkept]

theorem madeCalls_eq_iff (resources : List (DiscoveryResource itemMax)) : ∀ {s : LinkScan}, s.types ≠ some [] →
    (madeCalls ocDnsLookup endpoint server request s resources =
        expectedCalls ocDnsLookup endpoint server request resources ↔
      ∀ r ∈ resources, listedEndpoints server request r ≠ [] → LinkRead endpoint server request r) := by
  induction resources with
  | nil => exact fun _ => iff_of_true rfl fun _ h => nomatch h
  | cons r rest ih =>
    intro s hs
    have hrest := ih (s := s.behind ocDnsLookup endpoint server request r) (behind_types hs r)
    have hsubset : keptEndpoints endpoint server request r ⊆ listedEndpoints server request r := keptEndpoints_subset r
    rw [List.forall_mem_cons, madeCalls, expectedCalls]
    by_cases hlisted : listedEndpoints server request r = []
    · have hkept : keptEndpoints endpoint server request r = [] := List.subset_nil.1 (hlisted ▸ hsubset)
      have heps : (s.behind ocDnsLookup endpoint server request r).epsList = [] :=
        (endpoints_eq_nil r hsubset).2 hkept
      simp only [if_pos heps, if_pos hlisted]
      rw [hrest]
      exact ⟨fun h => ⟨fun hne => absurd hlisted hne, h⟩, And.right⟩
    · rw [if_neg hlisted]
      by_cases heps : (s.behind ocDnsLookup endpoint server request r).epsList = []
      · -- all its endpoints are left out, and a call is missing
        simp only [if_pos heps]
        constructor
        · intro heq
          have hlen : (madeCalls ocDnsLookup endpoint server request (s.behind ocDnsLookup endpoint server request r)
              rest).length ≤ (expectedCalls ocDnsLookup endpoint server request rest).length := madeCalls_length _ rest
          rw [heq, List.length_cons] at hlen
          exact absurd hlen (Nat.not_succ_le_self _)
        · intro h
          have hkept : keptEndpoints endpoint server request r = listedEndpoints server request r :=
            List.filter_eq_self.2 fun ep hep => by rw [(h.1 hlisted).2 ep hep]; rfl
          exact absurd (hkept ▸ (endpoints_eq_nil r hsubset).1 heps) hlisted
      · simp only [if_neg heps]
        rw [List.cons.injEq, hrest]
        exact and_congr ⟨fun hcall _ => linkRead_of_call hs hcall, fun h => call_of_linkRead (h hlisted)⟩ Iff.rfl

/-! ## End to end -/

theorem endpointEntries_encodable : ∀ {listed : List OcEndpoint}, (∀ ep ∈ listed, ep.IsIp) →
    EncodableObjects itemMax (listed.map (endpointEntries server))
  | [], _ => trivial
  | ep :: rest, h => by
    refine ⟨?_, endpointEntries_encodable fun e he => h e (List.mem_cons_of_mem _ he)⟩
    obtain ⟨text, _, _, htext, _, _, hzero⟩ := endpoint_read (fun _ _ => none) (h ep List.mem_cons_self)
    unfold endpointEntries
    rw [htext]
    refine ⟨by decide, hzero, ?_⟩
    split
    · exact ⟨by decide, trivial, trivial⟩
    · trivial

/-- The entries of a link can be parsed, and none of them is named as the property of the baseline interface is. -/
theorem linkEntries_encodable (hmax : 16 ≤ itemMax) {link : List (OcString × RepBuild)}
    (h : IsLinkOf server request link r) :
    ∀ entry ∈ link, LinkEncodable itemMax entry.2 ∧ entry.1 ≠ ascii "links" := by
  obtain ⟨-, isRes, rfl⟩ := h
  have hself : ∀ t ∈ [ascii "self"], t.length < itemMax := by
    rintro t (_ | ⟨_, ⟨⟩⟩)
    exact lt_of_lt_of_le (by decide) hmax
  have hnames : ∀ t ∈ ocCoreEncodeInterfacesMask r.interfaces, t.length < itemMax := fun t ht =>
    (ocCoreEncodeInterfacesMask_text t ht).2.trans_le hmax
  have heps : EncodableObjects itemMax ((listedEndpoints server request r).map (endpointEntries server)) :=
    endpointEntries_encodable (listedEndpoints_isIp server request)
  unfold linkEntries
  simp only [List.forall_mem_append, List.forall_mem_cons]
  refine ⟨⟨⟨⟨?_, ?_⟩, ?_⟩, ?_⟩, ?_⟩
  · split
    · exact List.forall_mem_singleton.2 ⟨hself, by decide⟩
    · exact fun _ h => nomatch h
  · exact ⟨⟨trivial, by decide⟩, ⟨trivial, by decide⟩, ⟨fun t ht => (boundTypes_slots t ht).2, by decide⟩,
      ⟨hnames, by decide⟩, ⟨⟨by decide, trivial, trivial⟩, by decide⟩, ⟨heps, by decide⟩, fun _ h => nomatch h⟩
  · split
    · exact List.forall_mem_singleton.2 ⟨trivial, show ascii "tag-pos-desc" ≠ ascii "links" by decide⟩
    · exact fun _ h => nomatch h
  · split
    · exact List.forall_mem_singleton.2 ⟨trivial, show ascii "tag-func-desc" ≠ ascii "links" by decide⟩
    · exact fun _ h => nomatch h
  · split
    · exact List.forall_mem_singleton.2 ⟨List.cons_ne_nil _ _, show ascii "tag-pos-rel" ≠ ascii "links" by decide⟩
    · exact fun _ h => nomatch h

theorem ocRiProcessDiscoveryPayload_calls (hmax : 16 ≤ itemMax) (stops : List DiscoveryCall → Bool) :
    ocRiProcessDiscoveryPayload ocDnsLookup endpoint itemMax
        (linksArray (processDeviceResources server request)) stops =
      some (untilStopped stops [] (madeCalls ocDnsLookup endpoint server request .start
        (matchingResources server request))) := by
  have hlinks := processDeviceResources_links server request
  have hentries : ∀ link ∈ processDeviceResources server request, ∀ entry ∈ link,
      LinkEncodable itemMax entry.2 ∧ entry.1 ≠ ascii "links" := by
    intro link hlink
    obtain ⟨r, -, hr⟩ := Search.exists_mem_of_forall₂ hlinks hlink
    exact linkEntries_encodable hmax hr
  unfold ocRiProcessDiscoveryPayload
  rw [ocParseRep_linksArray fun link hlink entry hentry => (hentries link hlink entry hentry).1]
  simp only
  rw [discoveryLinks_objects fun link hlink entry hentry => (hentries link hlink entry hentry).2]
  exact discoveryLoop_links stops hlinks .start []

/-- Nothing of a secure resource is listed without encryption. -/
theorem listedEndpoints_secured (hsecure : r.secure = true) :
    ∀ ep ∈ endpointsRead ocDnsLookup endpoint (server.deviceId request.device) (listedEndpoints server request r),
      ep.flags.secured = true := by
  intro ep hep
  obtain ⟨read, hread, rfl⟩ := List.mem_map.1 hep
  obtain ⟨listed, hlisted, hback⟩ := List.mem_filterMap.1 hread
  obtain ⟨_, read', _, _, _, hback', hflags⟩ :=
    exists_readBack ocDnsLookup (listedEndpoints_isIp server request listed hlisted)
  rw [hback] at hback'
  cases hback'
  have hlist := List.of_mem_filter hlisted
  unfold listsEndpoint at hlist
  rw [hsecure] at hlist
  show read.flags.secured = true
  rw [hflags]
  cases hsecured : listed.flags.secured with
  | true => rfl
  | false => simp [hsecured] at hlist

theorem endToEnd_iff (hmax : 16 ≤ itemMax) :
    DiscoveryEndToEnd ocDnsLookup endpoint server request (linksArray (processDeviceResources server request)) ↔
      ∀ r ∈ matchingResources server request, listedEndpoints server request r ≠ [] →
        LinkRead endpoint server request r := by
  have hiff : madeCalls ocDnsLookup endpoint server request .start (matchingResources server request) =
      expectedCalls ocDnsLookup endpoint server request (matchingResources server request) ↔ _ :=
    madeCalls_eq_iff (matchingResources server request) nofun
  rw [← hiff]
  constructor
  · intro h
    have hnever := h.calls fun _ => false
    rw [ocRiProcessDiscoveryPayload_calls hmax, untilStopped_never, untilStopped_never] at hnever
    injection hnever with hrun
    exact congrArg DiscoveryRun.calls hrun
  · intro heq
    refine ⟨fun stops => ?_, fun r _ hsecure => listedEndpoints_secured hsecure⟩
    rw [ocRiProcessDiscoveryPayload_calls hmax, heq]

theorem handler_payload {encodedSize : Cbor → Int} {payload : Cbor}
    (h : ocCoreDiscoveryHandler server request encodedSize = some payload) :
    payload = linksArray (processDeviceResources server request) := by
  unfold ocCoreDiscoveryHandler at h
  simp only at h
  split at h
  · exact (Option.some.inj h).symm
  · cases h

theorem handler_of_links {encodedSize : Cbor → Int} (hlinks : (processDeviceResources server request).length ≠ 0)
    (hsize : encodedSize (linksArray (processDeviceResources server request)) > 0) :
    ocCoreDiscoveryHandler server request encodedSize = some (linksArray (processDeviceResources server request)) :=
  if_pos ⟨hlinks, hsize⟩

/-- The client's handler is called once for every matching resource with an endpoint, with what the server has listed
for it, if and only if all of them have a type and the client leaves none of the endpoints out. -/
theorem discovery_calls (hmax : 16 ≤ itemMax) {encodedSize : Cbor → Int} {payload : Cbor}
    (h : ocCoreDiscoveryHandler server request encodedSize = some payload) :
    DiscoveryEndToEnd ocDnsLookup endpoint server request payload ↔
      ∀ r ∈ matchingResources server request, listedEndpoints server request r ≠ [] →
        LinkRead endpoint server request r := by
  rw [handler_payload h]
  exact endToEnd_iff hmax

end EndToEnd

/-- A server with one endpoint and the resources `/lamp` and `/bare`, of which the second has the types `types`. -/
def lampServer (types : List OcString) (h : ∀ t ∈ types, 0 ∉ t ∧ t.length < 32) : DiscoveryServer 32 where
  coreResource _ _ := none
  conResAnnounced := false
  appResources :=
    [⟨⟨ascii "/lamp", 0, none, true, false⟩, [ascii "oic.r.light"], ifBaseline, false, false, none, none, (0, 0, 0),
        by decide, by decide, by decide⟩,
      ⟨⟨ascii "/bare", 0, none, true, false⟩, types, ifBaseline, false, false, none, none, (0, 0, 0), h, by decide,
        by decide⟩]
  collections := []
  deviceId _ := OcUuid.nil
  endpoints _ := [{ OcEndpoint.zero with
    flags := { TransportFlags.zero with ipv4 := true }, address := [192, 168, 1, 2], port := 5683 }]
  latency := 0
  ip := by
    rintro - ep (_ | ⟨_, ⟨⟩⟩)
    exact ⟨rfl, rfl, by decide⟩

/-- With one slot for a type that nothing has been bound to, `/bare` is shown to the handler with the type of `/lamp`. -/
theorem discovery_staleTypes :
    let server := lampServer [[]] (by decide)
    let request : DiscoveryRequest := ⟨[], none, 0⟩
    ∃ payload, ocCoreDiscoveryHandler server request (fun _ => 200) = some payload ∧
      (ocRiProcessDiscoveryPayload (fun _ _ => none) OcEndpoint.zero 32 payload fun _ => false).map
          (fun run => run.calls.map fun call => (call.uri, call.types)) =
        some [(some (ascii "/lamp"), some [ascii "oic.r.light"]), (some (ascii "/bare"), some [ascii "oic.r.light"])] ∧
      ¬DiscoveryEndToEnd (fun _ _ => none) OcEndpoint.zero server request payload := by
  intro server request
  refine ⟨linksArray (processDeviceResources server request), handler_of_links (by decide) (by decide),
    by decide, fun h => ?_⟩
  have hmem : (lampServer [[]] (by decide)).appResources[1] ∈ matchingResources server request :=
    List.mem_filter.2 ⟨List.mem_append_right _ (List.mem_filter.2 ⟨.tail _ (.head _), rfl⟩), by decide⟩
  have hbare := (endToEnd_iff (by decide)).1 h _ hmem (by decide)
  exact hbare.1 rfl

/-- With a type of its own, it is shown with that. -/
theorem discovery_calls_lamp :
    let server := lampServer [ascii "oic.r.door"] (by decide)
    let request : DiscoveryRequest := ⟨[], none, 0⟩
    DiscoveryEndToEnd (fun _ _ => none) OcEndpoint.zero server request
      (linksArray (processDeviceResources server request)) := by
  intro server request
  have h : ocCoreDiscoveryHandler server request (fun _ => 200) =
      some (linksArray (processDeviceResources server request)) := handler_of_links (by decide) (by decide)
  refine (discovery_calls (by decide) h).2 fun r hr _ => ?_
  have hresources : deviceResources server request = server.appResources := rfl
  have hmem : r ∈ server.appResources := hresources ▸ (List.mem_filter.1 hr).1
  rcases List.mem_pair.1 hmem with rfl | rfl
  · exact ⟨by decide, by decide⟩
  · exact ⟨by decide, by decide⟩

end SmartGarage
