/-
What the client makes of one link that the server has encoded: the records that its entries are parsed to, and the
variables of the client's walk behind them.
-/
import SmartGarage.Api.Discovery
import SmartGarage.Api.DiscoveryClient

namespace SmartGarage

open RepBuild

/-! ## Parsing a link -/

section Parse

variable {itemMax : Nat}

/-- The record of an entry of a link: an array without items is a record without a value. -/
def linkNode (key : OcString) : RepBuild → RepNode
  | .addTextStrings [] | .objects [] => .leaf key .nil
  | value => node key value

/-- The values of a link: arrays may be empty, and a text may be as long as its slot allows. -/
def LinkEncodable (itemMax : Nat) : RepBuild → Prop
  | .addTextStrings texts => ∀ t ∈ texts, t.length < itemMax
  | .objects items => EncodableObjects itemMax items
  | .setTextString _ => True
  | value => RepBuild.Encodable itemMax value

theorem parsed_link (key : OcString) : ∀ {value : RepBuild}, LinkEncodable itemMax value →
    RepBuild.Parsed itemMax key (encode key value) (linkNode key value)
  | .addTextStrings [], _ | .objects [], _ | .setTextString _, _ => ⟨_, rfl, rfl⟩
  | .addTextStrings (t :: ts), h =>
    parsed_array key false (by decide) (List.cons_ne_nil _ _) (fun _ => rfl) fun v hv => parseItem_text (h v hv)
  | .objects (item :: items), h =>
    parsed_encode key (show RepBuild.Encodable itemMax (.objects (item :: items)) from ⟨List.cons_ne_nil _ _, h⟩)
  | .setInt _, h | .setUint _, h | .setDouble _, h | .setBoolean _, h | .setByteString _, h
  | .setIntArray _, h | .setBoolArray _, h | .setDoubleArray _, h | .setStringArray _, h | .addInts _, h
  | .addDoubles _, h | .addBooleans _, h | .addByteStrings _, h | .object _, h => parsed_encode key h

/-- The records of a link. -/
def linkNodes (link : List (OcString × RepBuild)) : List RepNode := link.map fun entry => linkNode entry.1 entry.2

theorem parseEntries_link : ∀ {link : List (OcString × RepBuild)}, (∀ entry ∈ link, LinkEncodable itemMax entry.2) →
    parseEntries itemMax (encodeEntries link) = .ok (linkNodes link)
  | [], _ => rfl
  | (key, value) :: rest, h => by
    rw [encodeEntries]
    exact (parsed_link key (h _ List.mem_cons_self)).entries
      (parseEntries_link fun entry hentry => h entry (List.mem_cons_of_mem _ hentry))

theorem ocParseRep_linksArray {links : List (List (OcString × RepBuild))}
    (h : ∀ link ∈ links, ∀ entry ∈ link, LinkEncodable itemMax entry.2) :
    ocParseRep itemMax (linksArray links) = .ok (links.map fun link => .object [] (linkNodes link)) := by
  unfold linksArray
  rw [ocParseRep]
  induction links with
  | nil => rfl
  | cons link rest ih =>
    rw [List.map_cons, parseRootItems, parseEntries_link (h link List.mem_cons_self),
      ih fun l hl => h l (List.mem_cons_of_mem _ hl)]
    rfl

theorem linkNode_objectArray {key name : OcString} {value : RepBuild} {objects : List (List RepNode)}
    {stray : List Stored} {count : Nat} (h : linkNode key value = .objectArray name objects stray count) :
    name = key := by
  unfold linkNode at h
  split at h <;> first
    | cases h
    | (unfold node at h; split at h <;> cases h; rfl)

theorem foldl_linksProperty : ∀ {nodes : List RepNode} (links : List (List RepNode)),
    (∀ items stray count, RepNode.objectArray (ascii "links") items stray count ∉ nodes) →
      nodes.foldl linksProperty links = links
  | [], _, _ => rfl
  | node :: rest, links, h => by
    have hnode : linksProperty links node = links := by
      unfold linksProperty
      split
      · rename_i name items stray count
        exact if_neg fun heq : name = ascii "links" => h items stray count (heq ▸ List.mem_cons_self)
      · rfl
    rw [List.foldl_cons, hnode]
    exact foldl_linksProperty links fun items stray count hmem =>
      h items stray count (List.mem_cons_of_mem _ hmem)

/-- The links of a response are the objects of the array, if none of their entries has the name `links`. -/
theorem discoveryLinks_objects {links : List (List (OcString × RepBuild))}
    (h : ∀ link ∈ links, ∀ entry ∈ link, entry.1 ≠ ascii "links") :
    discoveryLinks (links.map fun link => .object [] (linkNodes link)) = links.map linkNodes := by
  have hroot : (links.map fun link => RepNode.object [] (linkNodes link)).map objectEntries = links.map linkNodes := by
    rw [List.map_map]
    rfl
  unfold discoveryLinks
  rw [hroot]
  apply foldl_linksProperty
  intro items stray count hmem
  split at hmem
  · rename_i entry entries rest heq
    cases links with
    | nil => cases heq
    | cons link others =>
      injection heq with hfirst
      injection hfirst with _ hnodes
      rw [← hnodes] at hmem
      obtain ⟨e, he, hnode⟩ := List.mem_map.1 hmem
      exact h link List.mem_cons_self e he (linkNode_objectArray hnode).symm
  · obtain ⟨link, -, hobject⟩ := List.mem_map.1 hmem
    cases hobject

end Parse

/-! ## String arrays -/

theorem texts_written {texts : List OcString} (h : ∀ t ∈ texts, 0 ∉ t) :
    RepBlock.texts ⟨storedFrom .string 0 (texts.map fun t => Content.slot (t ++ [0])),
      (texts.map fun t => Content.slot (t ++ [0])).length⟩ = texts := by
  unfold RepBlock.texts
  apply List.ext_getElem
  · simp
  · intro k hk hk'
    have hitem := item_storedFrom .string (texts.map fun t => Content.slot (t ++ [0])).length
      (texts.map fun t => Content.slot (t ++ [0])) 0 k
    rw [Nat.zero_add] at hitem
    rw [List.getElem_map, List.getElem_range, hitem, List.getElem?_map, List.getElem?_eq_getElem hk', Option.map_some,
      Option.bind_some, text?_slot (h _ (List.getElem_mem hk')), Option.getD_some]

theorem ocRiGetInterfaceMask_names : ∀ iface ∈ interfaceNames, ocRiGetInterfaceMask iface.2 = iface.1 := by
  decide

theorem interfaceMaskOf_map : ∀ {ifaces : List (InterfaceMask × OcString)},
    (∀ iface ∈ ifaces, ocRiGetInterfaceMask iface.2 = iface.1) →
      interfaceMaskOf (ifaces.map Prod.snd) = ifaces.foldl (fun mask iface => mask ||| iface.1) 0 := by
  intro ifaces h
  unfold interfaceMaskOf
  rw [List.foldl_map]
  exact List.foldl_ext _ _ _ fun mask iface hmem => by rw [h iface hmem]

theorem foldl_bits : ∀ n : Fin 511, (interfaceNames.filter fun iface => BitVec.ofNat 32 n &&& iface.1 ≠ 0).foldl
    (fun mask iface => mask ||| iface.1) 0 = BitVec.ofNat 32 n &&& ifAll := by
  decide +kernel

theorem interfaceMaskOf_names {mask : InterfaceMask} (h : mask ||| ifAll = ifAll) :
    interfaceMaskOf (ocCoreEncodeInterfacesMask mask) = mask := by
  have hand : mask &&& ifAll = mask := by
    rw [← h]
    ext i
    simpa using fun hi => .inl hi
  have hlt : mask.toNat < 511 := by
    have hle : mask.toNat &&& ifAll.toNat ≤ ifAll.toNat := Nat.and_le_right
    rw [← BitVec.toNat_and, hand] at hle
    exact Nat.lt_succ_of_le hle
  have hbits := foldl_bits ⟨mask.toNat, hlt⟩
  rw [BitVec.ofNat_toNat, BitVec.setWidth_eq, hand] at hbits
  unfold ocCoreEncodeInterfacesMask
  rw [interfaceMaskOf_map fun iface hmem => ocRiGetInterfaceMask_names iface (List.mem_of_mem_filter hmem)]
  exact hbits

theorem interfaceNames_ne_nil {mask : InterfaceMask} (h : mask ||| ifAll = ifAll) (hne : mask ≠ 0) :
    ocCoreEncodeInterfacesMask mask ≠ [] := by
  intro hnil
  have hmask := interfaceMaskOf_names h
  rw [hnil] at hmask
  exact hne hmask.symm

/-! ## Endpoints -/

section Endpoints

variable (ocDnsLookup : OcString → TransportFlags → Option OcString)

/-- An endpoint as `oc_string_to_endpoint` reads it back from the text of `oc_endpoint_to_string`. -/
def readBack (ep : OcEndpoint) : Option OcEndpoint :=
  (ocEndpointToString ep).bind fun text =>
    match ocStringToEndpoint ocDnsLookup text with
    | .ok read _ => some read
    | _ => none

theorem exists_readBack {ep : OcEndpoint} (h : ep.IsIp) : ∃ text read uri, ocEndpointToString ep = some text ∧
    ocStringToEndpoint ocDnsLookup text = .ok read uri ∧ readBack ocDnsLookup ep = some read ∧
      read.flags = ep.flags := by
  obtain ⟨text, read, uri, htext, hread, hflags, -⟩ := endpoint_read ocDnsLookup h
  refine ⟨text, read, uri, htext, hread, ?_, hflags⟩
  unfold readBack
  rw [htext, Option.bind_some, hread]

variable (endpoint : OcEndpoint)

/-- What the client makes of the listed endpoints, if it leaves none out. -/
def endpointsRead (di : OcUuid) (listed : List OcEndpoint) : List OcEndpoint :=
  (listed.filterMap (readBack ocDnsLookup)).map (clientEndpoint endpoint di)

theorem endpointsRead_cons (di : OcUuid) {ep read : OcEndpoint} (h : readBack ocDnsLookup ep = some read)
    (listed : List OcEndpoint) : endpointsRead ocDnsLookup endpoint di (ep :: listed) =
      clientEndpoint endpoint di read :: endpointsRead ocDnsLookup endpoint di listed := by
  unfold endpointsRead
  rw [List.filterMap_cons, h]
  rfl

theorem endpointsRead_length (di : OcUuid) : ∀ {listed : List OcEndpoint}, (∀ ep ∈ listed, ep.IsIp) →
    (endpointsRead ocDnsLookup endpoint di listed).length = listed.length
  | [], _ => rfl
  | ep :: rest, h => by
    obtain ⟨_, read, _, _, _, hback, _⟩ := exists_readBack ocDnsLookup (h ep List.mem_cons_self)
    rw [endpointsRead_cons ocDnsLookup endpoint di hback, List.length_cons, List.length_cons,
      endpointsRead_length di fun e he => h e (List.mem_cons_of_mem _ he)]

variable {itemMax : Nat} (server : DiscoveryServer itemMax)

theorem linkItemEndpoints_eq (di : OcUuid) {ep read : OcEndpoint} {text : OcString} {uri : Option OcString}
    (htext : ocEndpointToString ep = some text) (hread : ocStringToEndpoint ocDnsLookup text = .ok read uri) :
    linkItemEndpoints ocDnsLookup endpoint di (nodesOf (endpointEntries server ep)) =
      some (if otherFamily endpoint read then [] else [clientEndpoint endpoint di read]) := by
  have hlat : linkItemEndpoints ocDnsLookup endpoint di (nodesOf
      (if server.latency > 0 then [(ascii "lat", .setUint (UInt64.ofNat server.latency.toNat))] else [])) =
      some [] := by
    split <;> rfl
  unfold endpointEntries
  rw [htext]
  show linkItemEndpoints ocDnsLookup endpoint di (.leaf (ascii "ep") (.string text) :: nodesOf
    (if server.latency > 0 then [(ascii "lat", .setUint (UInt64.ofNat server.latency.toNat))] else [])) = _
  rw [linkItemEndpoints, if_pos rfl, hread]
  simp only [hlat]
  split <;> rfl

theorem epsEndpoints_link (di : OcUuid) : ∀ {listed : List OcEndpoint}, (∀ ep ∈ listed, ep.IsIp) →
    epsEndpoints ocDnsLookup endpoint di (nodesOfObjects (listed.map (endpointEntries server))) =
      some (endpointsRead ocDnsLookup endpoint di (listed.filter fun ep => !otherFamily endpoint ep))
  | [], _ => rfl
  | ep :: rest, h => by
    obtain ⟨text, read, uri, htext, hread, hback, hflags⟩ := exists_readBack ocDnsLookup (h ep List.mem_cons_self)
    have hfamily : otherFamily endpoint read = otherFamily endpoint ep := by
      unfold otherFamily
      rw [hflags]
    rw [List.map_cons, nodesOfObjects, epsEndpoints, linkItemEndpoints_eq ocDnsLookup endpoint server di htext hread,
      epsEndpoints_link di fun e he => h e (List.mem_cons_of_mem _ he), hfamily]
    cases hother : otherFamily endpoint ep with
    | true => rw [List.filter_cons_of_neg (by simp [hother])]; rfl
    | false =>
      rw [List.filter_cons_of_pos (by simp [hother]), endpointsRead_cons ocDnsLookup endpoint di hback]
      rfl

end Endpoints

/-! ## The walk over a link -/

section Walk

variable (ocDnsLookup : OcString → TransportFlags → Option OcString) (endpoint : OcEndpoint) {itemMax : Nat}
  (server : DiscoveryServer itemMax) (request : DiscoveryRequest)

/-- The walk over the records that entries are parsed to. -/
def LinkScan.over (s : LinkScan) (entries : List (OcString × RepBuild)) : Option LinkScan :=
  (linkNodes entries).foldlM (fun s node => s.entry ocDnsLookup endpoint node) s

theorem over_append {s s' : LinkScan} {first rest : List (OcString × RepBuild)}
    (h : s.over ocDnsLookup endpoint first = some s') :
    s.over ocDnsLookup endpoint (first ++ rest) = s'.over ocDnsLookup endpoint rest := by
  unfold LinkScan.over at *
  rw [linkNodes, List.map_append, List.foldlM_append]
  exact (congrArg (· >>= _) h).trans rfl

theorem over_append_some {s s' s'' : LinkScan} {first rest : List (OcString × RepBuild)}
    (h : s.over ocDnsLookup endpoint first = some s') (h' : s'.over ocDnsLookup endpoint rest = some s'') :
    s.over ocDnsLookup endpoint (first ++ rest) = some s'' :=
  (over_append ocDnsLookup endpoint h).trans h'

theorem over_ignored {s : LinkScan} {entries : List (OcString × RepBuild)}
    (h : ∀ entry ∈ entries, s.entry ocDnsLookup endpoint (linkNode entry.1 entry.2) = some s) :
    s.over ocDnsLookup endpoint entries = some s := by
  induction entries with
  | nil => rfl
  | cons entry rest ih =>
    unfold LinkScan.over linkNodes
    rw [List.map_cons, List.foldlM_cons, h entry List.mem_cons_self]
    exact ih fun e he => h e (List.mem_cons_of_mem _ he)

variable (s : LinkScan)

theorem entry_text (key text : OcString) :
    s.entry ocDnsLookup endpoint (linkNode key (.setTextString text)) =
      if key = ascii "anchor" then some { s with anchor := some text, di := ocStrToUuid (text.drop 6) s.di }
      else if key = ascii "href" then some { s with uri := some text }
      else some s := rfl

theorem entry_anchor (di : OcUuid) :
    s.entry ocDnsLookup endpoint (linkNode (ascii "anchor") (.setTextString (ascii "ocf://" ++ ocUuidToStr di))) =
      some { s with anchor := some (ascii "ocf://" ++ ocUuidToStr di), di := di } := by
  have hdi : ocStrToUuid ((ascii "ocf://" ++ ocUuidToStr di).drop 6) s.di = di := ocStrToUuid_ocUuidToStr di s.di
  rw [entry_text, if_pos rfl, hdi]

theorem entry_href (uri : OcString) :
    s.entry ocDnsLookup endpoint (linkNode (ascii "href") (.setTextString uri)) = some { s with uri := some uri } := by
  rw [entry_text, if_neg (by decide), if_pos rfl]

theorem entry_otherText {key : OcString} (hanchor : key ≠ ascii "anchor") (hhref : key ≠ ascii "href")
    (text : OcString) : s.entry ocDnsLookup endpoint (linkNode key (.setTextString text)) = some s := by
  rw [entry_text, if_neg hanchor, if_neg hhref]

theorem entry_rt {types : List OcString} (h : ∀ t ∈ types, 0 ∉ t) :
    s.entry ocDnsLookup endpoint (linkNode (ascii "rt") (.addTextStrings types)) =
      some { s with types := if types = [] then s.types else some types } := by
  cases types with
  | nil => rfl
  | cons t ts =>
    rw [show linkNode (ascii "rt") (.addTextStrings (t :: ts)) =
      writtenArray (ascii "rt") .string ((t :: ts).map fun t => .slot (t ++ [0])) from rfl]
    unfold writtenArray LinkScan.entry
    simp only [if_true, texts_written h, if_neg (List.cons_ne_nil t ts)]

theorem entry_strings {key : OcString} (hkey : key ≠ ascii "rt") {texts : List OcString} (hne : texts ≠ [])
    (h : ∀ t ∈ texts, 0 ∉ t) : s.entry ocDnsLookup endpoint (linkNode key (.addTextStrings texts)) =
      some { s with ifaceMask := interfaceMaskOf texts } := by
  cases texts with
  | nil => exact absurd rfl hne
  | cons t ts =>
    rw [show linkNode key (.addTextStrings (t :: ts)) =
      writtenArray key .string ((t :: ts).map fun t => .slot (t ++ [0])) from rfl]
    unfold writtenArray LinkScan.entry
    simp only [if_neg hkey, texts_written h]

theorem policy_bm (r : DiscoveryResource itemMax) :
    LinkScan.policy (nodesOf [(ascii "bm", .setUint (UInt64.ofNat (policyBm r.properties).toNat))]) =
      some (r.properties &&& ~~~(propPeriodic ||| propSecure)) := by
  show some (BitVec.ofInt 32 (UInt64.ofNat (policyBm r.properties).toNat).toInt64.toInt) = _
  unfold DiscoveryResource.properties
  cases r.discoverable <;> cases r.observable <;> cases r.secure <;> cases r.periodic <;> rfl

theorem entry_p (r : DiscoveryResource itemMax) : s.entry ocDnsLookup endpoint
    (linkNode (ascii "p") (.object [(ascii "bm", .setUint (UInt64.ofNat (policyBm r.properties).toNat))])) =
      some { s with bm := r.properties &&& ~~~(propPeriodic ||| propSecure) } := by
  rw [show linkNode (ascii "p") (.object [(ascii "bm", .setUint (UInt64.ofNat (policyBm r.properties).toNat))]) =
    .object (ascii "p") (nodesOf [(ascii "bm", .setUint (UInt64.ofNat (policyBm r.properties).toNat))]) from rfl]
  unfold LinkScan.entry
  simp only [policy_bm, if_true]

theorem entry_eps (s : LinkScan) {listed : List OcEndpoint} (h : ∀ ep ∈ listed, ep.IsIp) :
    let eps := endpointsRead ocDnsLookup endpoint s.di (listed.filter fun ep => !otherFamily endpoint ep)
    s.entry ocDnsLookup endpoint (linkNode (ascii "eps") (.objects (listed.map (endpointEntries server)))) =
      some { s with epsList := if eps = [] then s.epsList else eps } := by
  cases listed with
  | nil => rfl
  | cons ep rest =>
    have heps := epsEndpoints_link ocDnsLookup endpoint server s.di h
    show (epsEndpoints ocDnsLookup endpoint s.di (nodesOfObjects ((ep :: rest).map (endpointEntries server)))).map _ = _
    rw [heps, Option.map_some]
    by_cases hnil : endpointsRead ocDnsLookup endpoint s.di ((ep :: rest).filter fun ep => !otherFamily endpoint ep) = []
    · rw [if_pos hnil, if_pos hnil]
    · rw [if_neg hnil, if_neg hnil]

/-! ## One link -/

variable (s : LinkScan) (r : DiscoveryResource itemMax)

/-- The listed endpoints that the client does not leave out. -/
def keptEndpoints : List OcEndpoint :=
  (listedEndpoints server request r).filter fun ep => !otherFamily endpoint ep

/-- The variables behind the link of a resource. -/
def LinkScan.behind : LinkScan where
  anchor := some (deviceAnchor server request)
  uri := some r.uri
  types := if r.boundTypes = [] then s.types else some r.boundTypes
  ifaceMask := r.interfaces
  di := server.deviceId request.device
  epsList := endpointsRead ocDnsLookup endpoint (server.deviceId request.device)
    (keptEndpoints endpoint server request r)
  bm := r.properties &&& ~~~(propPeriodic ||| propSecure)

variable {r}

theorem listedEndpoints_isIp : ∀ ep ∈ listedEndpoints server request r, ep.IsIp := fun ep hep =>
  server.ip request.device ep (List.mem_of_mem_filter hep)

theorem boundTypes_slots : ∀ t ∈ r.boundTypes, 0 ∉ t ∧ t.length < itemMax := fun t ht =>
  r.slots t (List.mem_of_mem_filter ht)

theorem interfaceNames_text : ∀ t ∈ interfaceNames.map Prod.snd, 0 ∉ t ∧ t.length < 16 := by decide

theorem ocCoreEncodeInterfacesMask_text {mask : InterfaceMask} :
    ∀ t ∈ ocCoreEncodeInterfacesMask mask, 0 ∉ t ∧ t.length < 16 := fun t ht =>
  interfaceNames_text t (List.map_subset _ (List.filter_subset_self _) ht)

theorem over_cons {s s' : LinkScan} {key : OcString} {value : RepBuild} {rest : List (OcString × RepBuild)}
    (h : s.entry ocDnsLookup endpoint (linkNode key value) = some s') :
    s.over ocDnsLookup endpoint ((key, value) :: rest) = s'.over ocDnsLookup endpoint rest := by
  unfold LinkScan.over linkNodes
  rw [List.map_cons, List.foldlM_cons, h]
  rfl

theorem link_behind (isRes : Bool) (hdiscoverable : r.discoverable = true) :
    s.link ocDnsLookup endpoint (linkNodes (linkEntries server request isRes r (deviceAnchor server request))) =
      some (s.behind ocDnsLookup endpoint server request r) := by
  have hself : ∃ mask, LinkScan.over ocDnsLookup endpoint { s with bm := 0, epsList := [] }
      (if isRes then [(ascii "rel", .addTextStrings [ascii "self"])] else []) =
        some { s with bm := 0, epsList := [], ifaceMask := mask } := by
    cases isRes with
    | true => exact ⟨_, over_cons ocDnsLookup endpoint
        (entry_strings ocDnsLookup endpoint _ (by decide) (List.cons_ne_nil _ _) (by decide))⟩
    | false => exact ⟨s.ifaceMask, rfl⟩
  obtain ⟨mask, hself⟩ := hself
  have hnames := interfaceNames_ne_nil r.known (r.someInterface hdiscoverable)
  unfold LinkScan.link linkEntries deviceAnchor
  refine (over_append ocDnsLookup endpoint (over_append_some ocDnsLookup endpoint (over_append_some ocDnsLookup endpoint
    (over_append_some ocDnsLookup endpoint hself ?_) (over_ignored ocDnsLookup endpoint ?_))
    (over_ignored ocDnsLookup endpoint ?_))).trans (over_ignored ocDnsLookup endpoint ?_)
  · rw [over_cons ocDnsLookup endpoint (entry_anchor ocDnsLookup endpoint _ _),
      over_cons ocDnsLookup endpoint (entry_href ocDnsLookup endpoint _ _),
      over_cons ocDnsLookup endpoint (entry_rt ocDnsLookup endpoint _ fun t ht => (boundTypes_slots t ht).1),
      over_cons ocDnsLookup endpoint (entry_strings ocDnsLookup endpoint _ (by decide) hnames
        fun t ht => (ocCoreEncodeInterfacesMask_text t ht).1),
      over_cons ocDnsLookup endpoint (entry_p ocDnsLookup endpoint _ r),
      over_cons ocDnsLookup endpoint (entry_eps ocDnsLookup endpoint server _ (listedEndpoints_isIp server request)),
      interfaceMaskOf_names r.known]
    have hlist : ∀ eps : List OcEndpoint, (if eps = [] then [] else eps) = eps := by
      intro eps
      split
      · exact Eq.symm (by assumption)
      · rfl
    simp only [hlist]
    rfl
  · cases r.tagPosDesc with
    | none => exact fun _ h => nomatch h
    | some desc => exact List.forall_mem_singleton.2 (entry_otherText ocDnsLookup endpoint _
        (show ascii "tag-pos-desc" ≠ ascii "anchor" by decide) (by decide) desc)
  · cases r.tagFuncDesc with
    | none => exact fun _ h => nomatch h
    | some func => exact List.forall_mem_singleton.2 (entry_otherText ocDnsLookup endpoint _
        (show ascii "tag-func-desc" ≠ ascii "anchor" by decide) (by decide) func)
  · split
    split
    · exact List.forall_mem_singleton.2 rfl
    · exact fun _ h => nomatch h

end Walk

end SmartGarage
