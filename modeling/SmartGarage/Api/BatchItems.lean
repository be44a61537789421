/-
The batch interface for PUT and POST (`oc_handle_collection_request`, `oc_collection.c`): which handlers are called for the
items of a payload, with which payloads, and when these are the ones that the items ask for.
-/
import SmartGarage.Api.Collection

namespace SmartGarage

/-! ## Calls -/

/-- A call of a handler of the application. -/
structure BatchCall where
  resource : Resource
  iface : InterfaceMask
  payload : List OcRep

section Calls

variable (env : CollectionEnv) (collection : CollectionData) (rq : CollectionRequest)

/-- `oc_sec_check_acl` does not let the request through to the resource of a link. -/
def isForbidden (link : CollectionLink) : Bool :=
  rq.origin.any fun origin => !env.allowed rq.method link.resource origin

/-- The request gets to a handler of the resource of a link. -/
def reachesHandler (link : CollectionLink) : Bool := !isForbidden env rq link && link.resource.handles rq.method

/-- The call for a link with the payload that the request for it has. -/
def callOf (payload : List OcRep) (link : CollectionLink) : BatchCall where
  resource := link.resource
  iface := if link.resource.id = collection.resource.id then ifBaseline else link.resource.defaultInterface
  payload := payload

/-- The calls of a round. -/
def roundCalls (round : BatchRound) : List BatchCall :=
  ((collection.links.filter (selectsLink rq none round)).filter (reachesHandler env rq)).map (callOf collection round.payload)

/-- The rounds of a request. -/
def requestRounds : List BatchRound :=
  if rq.method = .get ∨ rq.method = .delete then [⟨[], []⟩] else (batchRounds [] rq.payload).1

/-- The calls of a request, round by round. -/
def batchCalls : List (List BatchCall) := (requestRounds rq).map (roundCalls env collection rq)

theorem linkAnswer_eq (round : BatchRound) (link : CollectionLink) : linkAnswer env collection rq round link =
    if isForbidden env rq link then some ⟨[], ocStatusCode .forbidden⟩
    else if link.resource.handles rq.method then
      let call := callOf collection round.payload link
      some (env.handled rq.method call.resource call.iface call.payload)
    else none := rfl

/-! ## What an item asks for -/

/-- The `href` of an item, empty if it has none. -/
def itemHref (entries : List OcRep) : OcString :=
  entries.foldl (fun href entry =>
    match entry with
    | .string name value => if nameIs name "href" then value else href
    | _ => href) []

/-- The `rep` of an item, empty if it has none. -/
def itemRep (entries : List OcRep) : List OcRep :=
  entries.foldl (fun rep entry =>
    match entry with
    | .object name object => if nameIs name "rep" then object else rep
    | _ => rep) []

/-- A link is addressed by an `href`, or by none. -/
def isAddressed (href : OcString) (link : CollectionLink) : Bool := href == [] || href == link.resource.uri

/-- The links with a handler for the request that the query does not filter out and the ACL permits. -/
def openLinks : List CollectionLink :=
  collection.links.filter fun link => ocFilterResourceByRt link.types rq.query && reachesHandler env rq link

/-- The calls that an item asks for: each open link that is addressed, with the payload of the item. -/
def itemCalls (entries : List OcRep) : List BatchCall :=
  ((openLinks env collection rq).filter (isAddressed (itemHref entries))).map (callOf collection (itemRep entries))

/-! ## What an item gets -/

/-- The last string of an item, whatever its name is. -/
def lastString (entries : List OcRep) : OcString :=
  entries.foldl (fun href entry =>
    match entry with
    | .string _ value => value
    | _ => href) []

/-- The last object of some items, whatever its name is. -/
def lastObject (payload : List OcRep) (entries : List OcRep) : List OcRep :=
  entries.foldl (fun payload entry =>
    match entry with
    | .object _ object => object
    | _ => payload) payload

/-- An item is served as it asks for: its last string addresses the open links that its `href` does, and if there are any,
the last object in it and the items before it is its `rep`. -/
def ItemServed (payload : List OcRep) (entries : List OcRep) : Prop :=
  (∀ link ∈ openLinks env collection rq, isAddressed (lastString entries) link = isAddressed (itemHref entries) link) ∧
    ((∃ link ∈ openLinks env collection rq, isAddressed (itemHref entries) link = true) → payload = itemRep entries)

end Calls

section Items

variable {env : CollectionEnv} {collection : CollectionData} {rq : CollectionRequest}

/-! ## The handlers -/

section Handlers

variable {handled : OcMethod → Resource → InterfaceMask → List OcRep → Handled}

/-- Another application that does the same with some calls. -/
def SameFor (env : CollectionEnv) (method : OcMethod) (handled : OcMethod → Resource → InterfaceMask → List OcRep → Handled)
    (calls : List BatchCall) : Prop :=
  ∀ call ∈ calls, env.handled method call.resource call.iface call.payload =
    handled method call.resource call.iface call.payload

theorem batchLinks_congr {round : BatchRound} : ∀ (links : List CollectionLink) (codes : CollectionCodes),
    SameFor env rq.method handled ((links.filter (reachesHandler env rq)).map (callOf collection round.payload)) →
      batchLinks { env with handled := handled } collection rq round links codes =
        batchLinks env collection rq round links codes
  | [], _, _ => rfl
  | link :: links, codes, h => by
    have hanswer : linkAnswer { env with handled := handled } collection rq round link =
        linkAnswer env collection rq round link := by
      rw [linkAnswer_eq, linkAnswer_eq]
      by_cases hforbidden : isForbidden env rq link = true
      · rw [if_pos hforbidden]
        exact if_pos hforbidden
      · by_cases hhandles : link.resource.handles rq.method = true
        · have hreaches : reachesHandler env rq link = true := by simp [reachesHandler, hforbidden, hhandles]
          have hcall := h (callOf collection round.payload link)
            (List.mem_map_of_mem (List.mem_filter.2 ⟨List.mem_cons_self, hreaches⟩))
          rw [if_neg hforbidden, if_pos hhandles, if_pos hhandles]
          dsimp only
          rw [hcall]
          exact if_neg hforbidden
        · rw [if_neg hforbidden, if_neg hhandles, if_neg hhandles]
          exact if_neg hforbidden
    have hrest : SameFor env rq.method handled
        ((links.filter (reachesHandler env rq)).map (callOf collection round.payload)) := by
      intro call hcall
      refine h call ?_
      rw [List.filter_cons]
      split
      · exact List.mem_cons_of_mem _ hcall
      · exact hcall
    have hlink : batchLink { env with handled := handled } collection rq round codes link =
        batchLink env collection rq round codes link := by
      unfold batchLink
      rw [hanswer]
    rw [batchLinks, batchLinks, hlink]
    simp only [batchLinks_congr links _ hrest]

theorem batchOutcomes_congr : ∀ (rounds : List BatchRound) (codes : CollectionCodes),
    SameFor env rq.method handled (rounds.map (roundCalls env collection rq)).flatten →
      batchOutcomes { env with handled := handled } collection rq none rounds codes =
        batchOutcomes env collection rq none rounds codes
  | [], _, _ => rfl
  | round :: rounds, codes, h => by
    have hrest (codes : CollectionCodes) := batchOutcomes_congr rounds codes fun call hcall =>
      h call (List.mem_append_right _ hcall)
    rw [batchOutcomes, batchOutcomes, batchLinks_congr _ _ fun call hcall => h call (List.mem_append_left _ hcall)]
    simp only [hrest]

/-- No other handlers are called: what the request encodes and its codes do not depend on them. -/
theorem collectionContent_congr (size : Cbor → Nat) (h : SameFor env rq.method handled (batchCalls env collection rq).flatten) :
    collectionContent size { env with handled := handled } collection rq ifB none =
      collectionContent size env collection rq ifB none := by
  have hrounds : (if rq.method = .get ∨ rq.method = .delete then ([⟨[], []⟩], false) else batchRounds [] rq.payload).1 =
      requestRounds rq := by
    unfold requestRounds
    split <;> rfl
  have houtcomes : batchOutcomes { env with handled := handled } collection rq none (requestRounds rq) initialCodes =
      batchOutcomes env collection rq none (requestRounds rq) initialCodes :=
    batchOutcomes_congr (requestRounds rq) initialCodes h
  unfold collectionContent
  iterate 3 rw [if_neg (show ¬ifB = _ by decide)]
  rw [← hrounds] at houtcomes
  simp only [houtcomes]
  rfl

end Handlers

/-! ## Rounds -/

theorem batchRound_eq (carried : List OcRep) (entries : List OcRep) :
    batchRound carried entries = ⟨lastString entries, lastObject carried entries⟩ := by
  unfold batchRound lastString lastObject
  induction entries using List.reverseRecOn with
  | nil => rfl
  | append_singleton entries entry ih =>
    rw [List.foldl_concat, List.foldl_concat, List.foldl_concat, ih]
    cases entry <;> rfl

theorem roundCalls_eq (href : OcString) (payload : List OcRep) :
    roundCalls env collection rq ⟨href, payload⟩ =
      ((openLinks env collection rq).filter (isAddressed href)).map (callOf collection payload) := by
  unfold roundCalls openLinks
  rw [List.filter_filter, List.filter_filter]
  congr 2
  funext link
  simp only [selectsLink, isAddressed, Bool.true_and]
  cases ocFilterResourceByRt link.types rq.query <;> cases reachesHandler env rq link <;> simp

theorem roundCalls_iff {payload : List OcRep} {entries : List OcRep} :
    roundCalls env collection rq ⟨lastString entries, payload⟩ = itemCalls env collection rq entries ↔
      ItemServed env collection rq payload entries := by
  rw [roundCalls_eq, itemCalls]
  constructor
  · intro heq
    -- a call tells the link by its resource, and the payload
    have hthere {href href' : OcString} {rep rep' : List OcRep} {link : CollectionLink}
        (heq : ((openLinks env collection rq).filter (isAddressed href)).map (callOf collection rep) =
          ((openLinks env collection rq).filter (isAddressed href')).map (callOf collection rep'))
        (hlink : link ∈ openLinks env collection rq) (haddressed : isAddressed href link = true) :
        isAddressed href' link = true ∧ rep = rep' := by
      have hmem : callOf collection rep link ∈ ((openLinks env collection rq).filter (isAddressed href')).map
          (callOf collection rep') := heq ▸ List.mem_map_of_mem (List.mem_filter.2 ⟨hlink, haddressed⟩)
      obtain ⟨link', hlink', hcall⟩ := List.mem_map.1 hmem
      have hresource : link'.resource = link.resource := congrArg BatchCall.resource hcall
      have haddressed' := (List.mem_filter.1 hlink').2
      unfold isAddressed at haddressed' ⊢
      rw [hresource] at haddressed'
      exact ⟨haddressed', (congrArg BatchCall.payload hcall).symm⟩
    constructor
    · intro link hlink
      rw [Bool.eq_iff_iff]
      exact ⟨fun h => (hthere heq hlink h).1, fun h => (hthere heq.symm hlink h).1⟩
    · rintro ⟨link, hlink, haddressed⟩
      exact (hthere heq.symm hlink haddressed).2.symm
  · rintro ⟨hlinks, hpayload⟩
    rw [List.filter_congr hlinks]
    by_cases hany : ∃ link ∈ openLinks env collection rq, isAddressed (itemHref entries) link = true
    · rw [hpayload hany]
    · have hnone : (openLinks env collection rq).filter (isAddressed (itemHref entries)) = [] := by
        rw [List.filter_eq_nil_iff]
        exact fun link hlink haddressed => hany ⟨link, hlink, haddressed⟩
      rw [hnone, List.map_nil, List.map_nil]

/-! ## A payload of items -/

/-- The payload of some items. -/
def payloadOf (items : List (List OcRep)) : List OcRep := items.map (OcRep.object none)

theorem lastObject_append (payload entries entries' : List OcRep) :
    lastObject payload (entries ++ entries') = lastObject (lastObject payload entries) entries' := List.foldl_append

theorem rounds_iff (items : List (List OcRep)) : ∀ carried : List OcRep,
    (batchRounds carried (payloadOf items)).1.map (roundCalls env collection rq) =
        items.map (itemCalls env collection rq) ↔
      ∀ k entries, items[k]? = some entries →
        ItemServed env collection rq (lastObject carried ((items.take k).flatten ++ entries)) entries := by
  induction items with
  | nil => simp [payloadOf, batchRounds]
  | cons entries items ih =>
    intro carried
    have hrounds : (batchRounds carried (payloadOf (entries :: items))).1 =
        batchRound carried entries :: (batchRounds (batchRound carried entries).payload (payloadOf items)).1 := rfl
    rw [hrounds, batchRound_eq, List.map_cons, List.map_cons, List.cons.injEq, roundCalls_iff, ih, Search.forall_getElem?_cons]
    refine and_congr Iff.rfl (forall₃_congr fun k entries' _ => ?_)
    rw [List.take_succ_cons, List.flatten_cons, List.append_assoc, lastObject_append carried entries]

/-- Each item of a PUT or POST request has the calls that it asks for if and only if each one is served. -/
theorem batchCalls_iff (hmethod : rq.method = .put ∨ rq.method = .post) (items : List (List OcRep))
    (hpayload : rq.payload = payloadOf items) :
    batchCalls env collection rq = items.map (itemCalls env collection rq) ↔
      ∀ k entries, items[k]? = some entries →
        ItemServed env collection rq (lastObject [] ((items.take k).flatten ++ entries)) entries := by
  have hrounds : requestRounds rq = (batchRounds [] (payloadOf items)).1 := by
    unfold requestRounds
    rw [if_neg, hpayload]
    rcases hmethod with hmethod | hmethod <;> simp [hmethod]
  rw [batchCalls, hrounds]
  exact rounds_iff items []

end Items

/-! ## An item without a payload -/

theorem lamp_stored : IsStoredUri (ascii "/lamp") := ⟨rfl, by decide⟩

/-- A resource of the application with all handlers. -/
def openResource (id : Nat) (uri : OcString) (stored : IsStoredUri uri) : Resource where
  uri := uri
  device := 0
  coreIndex := none
  discoverable := true
  secure := true
  id := id
  isCollection := false
  interfaces := ifBaseline
  defaultInterface := ifBaseline
  observable := false
  periodic := false
  handles := fun _ => true
  links := []
  numObservers := 0
  stored := stored

def lampResource : Resource := openResource 1 (ascii "/lamp") lamp_stored

def fanResource : Resource := openResource 2 (ascii "/fan") ⟨rfl, by decide⟩

/-- A collection of both. -/
def roomCollection : CollectionData where
  resource := { openResource 0 (ascii "/room") ⟨rfl, by decide⟩ with isCollection := true }
  name := []
  types := []
  tagPosDesc := none
  tagFuncDesc := none
  tagPosRel := (0, 0, 0)
  supportedRts := []
  mandatoryRts := []
  properties := []
  links := [⟨lampResource, [], [], 0, []⟩, ⟨fanResource, [], [], 0, []⟩]

/-- Handlers that accept everything, from everyone. -/
def openEnv : CollectionEnv := ⟨fun _ _ _ _ => ⟨[], ocStatusCode .changed⟩, fun _ _ _ => true, fun _ => [], none⟩

/-- An item for the lamp with a payload, and one for the fan without. -/
def roomItems : List (List OcRep) :=
  [[.string (some (ascii "href")) (ascii "/lamp"), .object (some (ascii "rep")) [.bool (some (ascii "on")) true]],
    [.string (some (ascii "href")) (ascii "/fan")]]

def roomRequest (items : List (List OcRep)) : CollectionRequest := ⟨.post, [], none, payloadOf items⟩

/-- The first item alone has the call that it asks for. -/
theorem batchCalls_first : batchCalls openEnv roomCollection (roomRequest (roomItems.take 1)) =
    (roomItems.take 1).map (itemCalls openEnv roomCollection (roomRequest (roomItems.take 1))) := by
  refine (batchCalls_iff (.inr rfl) (roomItems.take 1) rfl).2 fun k entries hk => ?_
  cases k with
  | zero =>
    cases Option.some.inj hk
    exact ⟨fun link _ => rfl, fun _ => rfl⟩
  | succ k => cases hk

theorem collectionContent_congr_post :
    collectionContent (fun _ => 0) { openEnv with handled := fun method resource iface payload =>
        if method = .get then ⟨[], 0⟩ else openEnv.handled method resource iface payload }
      roomCollection (roomRequest roomItems) ifB none =
    collectionContent (fun _ => 0) openEnv roomCollection (roomRequest roomItems) ifB none :=
  collectionContent_congr _ fun _ _ => rfl

/-- The fan gets the payload of the lamp. -/
theorem batchCalls_carried : ¬batchCalls openEnv roomCollection (roomRequest roomItems) =
    roomItems.map (itemCalls openEnv roomCollection (roomRequest roomItems)) := by
  intro heq
  have hlengths := congrArg (fun calls => calls.map fun (item : List BatchCall) => item.map (·.payload.length)) heq
  exact absurd hlengths (by decide)

end SmartGarage
