/-
What the notifications of a collection disclose: in every run that keeps the rights of the observers, none of them
contains the representation of a linked resource that its observer may not read.
-/
import SmartGarage.Messaging.BatchRights

namespace SmartGarage.Observe

open Runs

/-! ## The contents of a notification -/

/-- An object is in one of the arrays that the payload is made of. -/
def Contains (n : Notification) (object : Cbor) : Prop :=
  ∃ objects, Cbor.array false objects ∈ n.answer.encoder.items ∧ object ∈ objects

/-- The notification contains the objects of links only if its observer may read what they lead to. -/
def Respects (P : Platform) (sec : SecState) (env : CollectionEnv) (c : CollectionData) (links : List CollectionLink)
    (n : Notification) : Prop :=
  ∀ link ∈ links, link.resource.handles .get = true → Contains n (readObject env c link) →
    mayRead P sec link.resource.toOcResource n.observer.endpoint = true

/-- The collections and the observers are those of the server. -/
structure Describes (st : Server) (ns : NotifyServer) : Prop where
  collections : ns.collections.map (·.resource) = st.resources.filter (·.isOcCollection)
  links : ∀ c ∈ ns.collections, c.links.map (·.resource) = st.linked c.resource
  observers : ns.observers.map (·.toObserver) = st.observers

/-- Every notification that an event sends respects the access control, whatever the handlers encode and whatever
memory there is. -/
def SentRespects (P : Platform) (s : BatchServer) : BatchEvent → Prop
  | .batchSent id => ∀ size env tenv capacity ns, Describes s.server ns → ∀ c ∈ ns.collections, c.resource.id = id →
      ∀ n ∈ coapNotifyCollectionBatch size env tenv capacity ns.observers c, Respects P s.sec env c c.links n
  | .changed id => ∀ size env tenv capacity ns, Describes s.server ns → ∀ r ∈ s.server.resources, r.id = id →
      ∀ n ∈ coapNotifyCollections size env tenv capacity r ns, ∀ c ∈ ns.collections,
        Respects P s.sec env c (c.links.filter fun link => link.resource.id == id) n
  | _ => True

/-! ## Visits -/

section Visits

variable {size : Cbor → Nat} {env : CollectionEnv} {capacity : Nat} {r : Resource}

theorem visitsFrom_collections : ∀ (l : List CollectionData) (e : RepEncoder),
    (visitsFrom size env capacity r l e).map (·.collection) =
      (l.filter (stopsAt r)).takeWhile fun c => decide (c.resource.numObservers > 0)
  | [], _ => rfl
  | c :: rest, e => by
    have ih := visitsFrom_collections rest
    unfold visitsFrom
    by_cases hstop : stopsAt r c = true
    · rw [if_pos hstop, List.filter_cons_of_pos hstop]
      by_cases hobservers : c.resource.numObservers > 0
      · rw [if_pos hobservers, List.takeWhile_cons_of_pos (by simpa using hobservers), List.map_cons, ih]
      · rw [if_neg hobservers, List.takeWhile_cons_of_neg (by simpa using hobservers), List.map_nil]
    · rw [if_neg hstop, List.filter_cons_of_neg hstop, ih]

/-- A visit finds the representations of all the visits before it. -/
theorem visitsFrom_items : ∀ (l : List CollectionData) (e : RepEncoder) (before : List Visit) (v : Visit) (behind : List Visit),
    visitsFrom size env capacity r l e = before ++ v :: behind →
      v.answer.encoder.items = e.items ++ (before ++ [v]).map fun v => batchRepresentation env v.collection r.id
  | [], _, before, _, _, h => by
    exact absurd h.symm (by simp [visitsFrom])
  | c :: rest, e, before, v, behind, h => by
    unfold visitsFrom at h
    split at h
    · split at h
      · cases before with
        | nil =>
          obtain ⟨rfl, -⟩ := List.cons.inj h
          exact readCollection_items c e
        | cons v₀ before =>
          obtain ⟨rfl, hrest⟩ := List.cons.inj h
          rw [visitsFrom_items rest _ before v behind hrest, readCollection_items, List.append_assoc]
          rfl
      · exact absurd h.symm (by simp)
    · exact visitsFrom_items rest e before v behind h

end Visits

/-! ## Every run -/

section Runs

variable {P : Platform} {ocfD : Nat} {s : BatchServer} {ns : NotifyServer}

theorem Describes.collection (h : Describes s.server ns) {c : CollectionData} (hc : c ∈ ns.collections) :
    c.resource ∈ s.server.resources ∧ c.resource.isOcCollection = true :=
  List.mem_filter.1 (h.collections ▸ List.mem_map_of_mem hc)

theorem Describes.link (h : Describes s.server ns) {c : CollectionData} (hc : c ∈ ns.collections) {link : CollectionLink}
    (hlink : link ∈ c.links) : link.resource ∈ s.server.resources ∧ link.resource.id ∈ c.resource.links := by
  have hmem : link.resource ∈ s.server.linked c.resource := h.links c hc ▸ List.mem_map_of_mem hlink
  obtain ⟨id, hid, hfind⟩ := List.mem_filterMap.1 hmem
  obtain ⟨hres, rfl⟩ := resource?_mem hfind
  exact ⟨hres, hid⟩

theorem Describes.observer (h : Describes s.server ns) {o : CollectionObserver} (ho : o ∈ ns.observers) :
    o.toObserver ∈ s.server.observers := h.observers ▸ List.mem_map_of_mem ho

theorem Describes.linksTo_iff (h : Describes s.server ns) (hreg : Registry s.server) {c : CollectionData}
    (hc : c ∈ ns.collections) {r : Resource} (hr : r ∈ s.server.resources) :
    linksTo r c = true ↔ r.id ∈ c.resource.links := by
  unfold linksTo
  simp only [List.any_eq_true, beq_iff_eq]
  constructor
  · rintro ⟨link, hlink, hid⟩
    exact hid ▸ (h.link hc hlink).2
  · intro hid
    have hfind : s.server.resource? r.id = some r := by
      cases hfind : s.server.resource? r.id with
      | none => exact absurd (by simp) (List.find?_eq_none.1 hfind r hr)
      | some r' =>
        obtain ⟨hr', hid'⟩ := resource?_mem hfind
        rw [hreg.eq_of_id hr' hr hid']
    have hmem : r ∈ s.server.linked c.resource := List.mem_filterMap.2 ⟨r.id, hid, hfind⟩
    rw [← h.links c hc] at hmem
    obtain ⟨link, hlink, rfl⟩ := List.mem_map.1 hmem
    exact ⟨link, hlink, rfl⟩

theorem Describes.visited (h : Describes s.server ns) (hreg : Registry s.server) {size : Cbor → Nat} {env : CollectionEnv}
    {capacity : Nat} {r : Resource} (hr : r ∈ s.server.resources) :
    (visits size env capacity r ns).map (·.collection.resource) = visitedCollections s.server r := by
  have hcollections : (visitsFrom size env capacity r ns.collections .empty).map (·.collection) = _ :=
    visitsFrom_collections ns.collections .empty
  have hstops : ns.collections.filter (stopsAt r) =
      ns.collections.filter fun c => c.resource.device ≠ r.device || c.resource.links.contains r.id := by
    refine List.filter_congr fun c hc => ?_
    unfold stopsAt
    rw [Bool.eq_iff_iff.2 ((h.linksTo_iff hreg hc hr).trans (List.contains_iff_mem (a := r.id)).symm)]
  unfold visitedCollections visits
  rw [← h.collections, List.filter_map, List.takeWhile_map]
  have hmap := congrArg (List.map (·.resource)) hcollections
  rw [List.map_map, hstops] at hmap
  exact hmap

theorem BatchInvariant.batchSent (h : BatchInvariant P s) (id : Nat) : SentRespects P s (.batchSent id) := by
  intro size env tenv capacity ns hdescribes c hc _ n hn link hlink hget _
  unfold coapNotifyCollectionBatch at hn
  rw [coapNotifyCollectionObservers_eq] at hn
  obtain ⟨o, ho, rfl⟩ := List.mem_map.1 hn
  obtain ⟨hmem, hfor⟩ := mem_receivers tenv _ ifB _ ho
  obtain ⟨hresource, hiface⟩ := (isNotified_iff c o).1 hfor
  obtain ⟨hcres, hcollection⟩ := hdescribes.collection hc
  obtain ⟨hlres, hid⟩ := hdescribes.link hc hlink
  exact h.rights c.resource hcres hcollection link.resource hlres hid hget o.toObserver (hdescribes.observer hmem) hresource hiface

/-- A resource whose representation a notification contains has been linked by a collection visited before, or by the
collection itself. -/
theorem contained_links {r : Resource} {size : Cbor → Nat} {env : CollectionEnv} {capacity : Nat}
    {before behind : List Visit} {v : Visit} {o : CollectionObserver}
    (hsplit : visits size env capacity r ns = before ++ v :: behind) {object : Cbor} (h : Contains ⟨o, v.answer⟩ object) :
    ∃ v' ∈ before ++ [v], linksTo r v'.collection = true ∧ ∃ link ∈ v'.collection.links,
      link.resource.id = r.id ∧ link.resource.handles .get = true := by
  obtain ⟨objects, hmem, hobject⟩ := h
  rw [visitsFrom_items _ _ before v behind hsplit] at hmem
  obtain ⟨v', hv', heq⟩ := List.mem_map.1 ((List.mem_append.1 hmem).elim (fun hnone => nomatch hnone) fun hm => hm)
  unfold batchRepresentation at heq
  obtain rfl := (Cbor.array.inj heq).2
  obtain ⟨link, hlink, -⟩ := List.mem_map.1 hobject
  obtain ⟨hlink, hfor⟩ := List.mem_filter.1 hlink
  simp only [Bool.and_eq_true, beq_iff_eq] at hfor
  exact ⟨v', hv', List.any_eq_true.2 ⟨link, hlink, by simp [hfor.1]⟩, link, hlink, hfor⟩

theorem BatchInvariant.changed (h : BatchInvariant P s) {id : Nat} (hkeeps : KeepsRights P ocfD s (.changed id)) :
    SentRespects P s (.changed id) := by
  intro size env tenv capacity ns hdescribes r hr hid n hn c hc link hlink hget hcontains
  obtain ⟨v, hv, o, ho, rfl⟩ := mem_sent.1 hn
  obtain ⟨hmem, hresource, hiface⟩ := mem_receivers_visit ho
  obtain ⟨before, behind, hsplit⟩ := List.append_of_mem hv
  obtain ⟨v', hv', hlinks, -⟩ := contained_links hsplit hcontains
  have hvisited (w : Visit) (hw : w ∈ before ++ [v]) : w.collection ∈ ns.collections := by
    have hmem : w ∈ visits size env capacity r ns := by
      rw [hsplit]
      rcases List.mem_append.1 hw with hw | hw
      · exact List.mem_append_left _ hw
      · exact List.mem_append_right _ (List.mem_singleton.1 hw ▸ List.mem_cons_self)
    exact visits_collection hmem
  obtain ⟨hlink, hsame⟩ := List.mem_filter.1 hlink
  obtain ⟨hlres, -⟩ := hdescribes.link hc hlink
  obtain rfl : link.resource = r := h.eq_of_id hlres hr ((by simpa using hsame : link.resource.id = id).trans hid.symm)
  have hlinksIff {w : Visit} (hw : w ∈ before ++ [v]) := hdescribes.linksTo_iff h.toRegistry (hvisited w hw) hr
  by_cases hown : link.resource.id ∈ v.collection.resource.links
  · -- the collection links the resource itself
    obtain ⟨hcres, hcollection⟩ := hdescribes.collection (hvisited v (by simp))
    exact h.rights _ hcres hcollection _ hr hown hget o.toObserver (hdescribes.observer hmem) hresource hiface
  · -- the representation is that of a collection before
    have hlist : (visits size env capacity link.resource ns).map (·.collection.resource) = _ :=
      hdescribes.visited h.toRegistry hr
    rw [hsplit, List.map_append, List.map_cons] at hlist
    refine hkeeps link.resource hr hid hget _ _ _ hlist.symm ?_ o.toObserver (hdescribes.observer hmem) hresource hiface
    rcases List.mem_append.1 hv' with hbefore | hlast
    · exact ⟨v'.collection.resource, List.mem_map_of_mem hbefore, (hlinksIff hv').1 hlinks⟩
    · obtain rfl := List.mem_singleton.1 hlast
      exact absurd ((hlinksIff hv').1 hlinks) hown

theorem batchInvariant_run (P : Platform) (ocfD : Nat) (sec : SecState) (l : List BatchEvent)
    (h : Guarded (BatchServer.step P ocfD) (KeepsRights P ocfD) (.init sec) l) :
    BatchInvariant P (runFrom (BatchServer.step P ocfD) (.init sec) l) :=
  run_invariant (fun _ _ hinv hkeeps => hinv.step hkeeps) l _ (batchInvariant_init sec) h

/-- Every notification in a run respects the access control. -/
def RunRespects (P : Platform) (ocfD : Nat) (sec : SecState) (l : List BatchEvent) : Prop :=
  ∀ l' e, l' ++ [e] <+: l → SentRespects P (runFrom (BatchServer.step P ocfD) (.init sec) l') e

/-- In every run that keeps the rights of the observers the notifications respect the access control. -/
theorem batch_respects_rights (P : Platform) (ocfD : Nat) (sec : SecState) (l : List BatchEvent)
    (h : Guarded (BatchServer.step P ocfD) (KeepsRights P ocfD) (.init sec) l) : RunRespects P ocfD sec l := by
  rintro l' e ⟨behind, rfl⟩
  rw [List.append_assoc] at h
  obtain ⟨hpre, hkeeps⟩ := Guarded.at_step h
  have hinv := batchInvariant_run P ocfD sec l' hpre
  cases e with
  | batchSent id => exact hinv.batchSent id
  | changed id => exact hinv.changed hkeeps
  | observe e => trivial
  | linked collection id => trivial
  | unlinked collection id => trivial
  | secured sec => trivial

end Runs

/-! ## A link that is added later -/

/-- A client without encryption may read the kitchen and its lamp. -/
def kitchenSec : SecState :=
  { SecState.empty .rfnop with
    aclist := fun _ => ⟨[⟨[⟨ascii "/kitchen", .noWc⟩, ⟨ascii "/lamp", .noWc⟩], .conn .anonClear, 5, 2⟩], OcUuid.nil⟩ }

/-- The request by which the client observes the kitchen. -/
def kitchenRequest : ObserveRequest := { sampleRequest (ascii "kitchen") with ifaceQuery := ifB }

/-- The lamp of the kitchen. -/
def lamp : Resource := { sharedResource with uri := ascii "/lamp", stored := ⟨rfl, by decide⟩ }

/-- The client observes the kitchen before a resource is linked there, and is notified. -/
def kitchenRun (r : Resource) : List BatchEvent :=
  [.observe (.added kitchen), .observe (.requested sampleEnv kitchenRequest), .observe (.added r), .linked 0 1, .batchSent 0]

/-- The simple platform. -/
def kitchenPlatform : Platform := Platform.simple Mbedtls.rejecting

theorem kitchen_mayRead (r : Resource) (hr : r = kitchen ∨ r = lamp) :
    mayRead kitchenPlatform kitchenSec r.toOcResource kitchenRequest.endpoint = true := by
  rcases hr with rfl | rfl <;>
    simp only [mayRead, ocSecCheckAcl, connectionAllowed, subjectPermissions, ocAceGetPermission, Search.foldMatches_eq] <;>
    decide

theorem shared_notReadable :
    mayRead kitchenPlatform kitchenSec sharedResource.toOcResource kitchenRequest.endpoint = false := by
  simp only [mayRead, ocSecCheckAcl, connectionAllowed, subjectPermissions, ocAceGetPermission, Search.foldMatches_eq]
  decide

/-- The kitchen, when it has been added. -/
def addedKitchen : Resource := { kitchen with id := 0, links := [], numObservers := 0 }

theorem kitchen_found :
    findResource 0 [addedKitchen] kitchenRequest.packet.uriPath kitchenRequest.endpoint.device = some addedKitchen := rfl

/-- The server behind the registration. -/
def kitchenServer : BatchServer :=
  ⟨⟨[{ addedKitchen with numObservers := 1 }], [⟨0, ascii "kitchen", peer false, [1], 0, ifB⟩], [], 1⟩, kitchenSec⟩

theorem kitchen_registered :
    BatchServer.step kitchenPlatform 0 (BatchServer.step kitchenPlatform 0 (.init kitchenSec) (.observe (.added kitchen)))
      (.observe (.requested sampleEnv kitchenRequest)) = kitchenServer := by
  have hadded : BatchServer.step kitchenPlatform 0 (.init kitchenSec) (.observe (.added kitchen)) =
      ⟨⟨[addedKitchen], [], [], 1⟩, kitchenSec⟩ := rfl
  rw [hadded]
  have hadmitted : BatchServer.admitsRequest kitchenPlatform 0 ⟨⟨[addedKitchen], [], [], 1⟩, kitchenSec⟩
      (.requested sampleEnv kitchenRequest) = true := by
    unfold BatchServer.admitsRequest
    dsimp only
    rw [kitchen_found]
    exact kitchen_mayRead kitchen (.inl rfl)
  simp only [BatchServer.step, hadmitted, if_true]
  rfl

/-- The resource that is added later, with its address. -/
def added (r : Resource) : Resource := { r with id := 1, links := [], numObservers := 0 }

theorem kitchen_added (r : Resource) :
    BatchServer.step kitchenPlatform 0 kitchenServer (.observe (.added r)) =
      ⟨⟨[{ addedKitchen with numObservers := 1 }, added r], kitchenServer.server.observers, [], 2⟩, kitchenSec⟩ := rfl

/-- The lamp may be read, so the run keeps the rights. -/
theorem batch_respects_lamp : RunRespects kitchenPlatform 0 kitchenSec (kitchenRun lamp) := by
  refine batch_respects_rights kitchenPlatform 0 kitchenSec (kitchenRun lamp) ⟨trivial, ?_, ?_⟩
  · intro cur hcur _ _ _ _
    obtain rfl : addedKitchen = cur := Option.some.inj (kitchen_found.symm.trans hcur)
    exact .inl fun l _ hlink => nomatch hlink
  · rw [kitchen_registered]
    refine ⟨trivial, ?_, trivial, trivial⟩
    rw [kitchen_added]
    intro c _ _ _ l hl hid _ o ho _ _
    obtain rfl := List.mem_singleton.1 ho
    obtain rfl : l = added lamp := by
      rcases List.mem_cons.1 hl with rfl | hl
      · exact absurd hid (by decide)
      · exact List.mem_singleton.1 hl
    exact kitchen_mayRead lamp (.inr rfl)

/-- The collection and its observer, as `coap_notify_collection_batch` finds them. -/
def disclosingCollection : CollectionData :=
  plainCollection { addedKitchen with links := [1], numObservers := 1 } [added sharedResource]

def disclosingServer : NotifyServer where
  collections := [disclosingCollection]
  observers := [⟨⟨0, ascii "kitchen", peer false, [1], 0, ifB⟩, 1024⟩]
  addresses := by decide
  entries := by decide

theorem disclosing_run : runFrom (BatchServer.step kitchenPlatform 0) (.init kitchenSec)
    ((kitchenRun sharedResource).take 4) =
      ⟨⟨[{ addedKitchen with links := [1], numObservers := 1 }, added sharedResource], kitchenServer.server.observers, [], 2⟩,
        kitchenSec⟩ := by
  simp only [kitchenRun, List.take_succ_cons, List.take_zero, runFrom, List.foldl_cons, List.foldl_nil]
  rw [kitchen_registered, kitchen_added]
  rfl

/-- The client gets the representation of a resource that it may not read. -/
theorem batch_disclosed : ¬RunRespects kitchenPlatform 0 kitchenSec (kitchenRun sharedResource) := fun h => by
  have hsent := h ((kitchenRun sharedResource).take 4) (.batchSent 0) (List.prefix_refl _)
  rw [disclosing_run] at hsent
  have hrespects := hsent cborSize sharingEnv sharingMemory 8192 disclosingServer ⟨rfl, fun c hc => ?_, rfl⟩
    disclosingCollection (List.mem_singleton_self _) rfl _ (List.mem_singleton_self _)
    ⟨added sharedResource, [], [], 0, []⟩ (List.mem_singleton_self _) rfl ?_
  · exact absurd (hrespects.symm.trans shared_notReadable) (by decide)
  · obtain rfl := List.mem_singleton.1 hc
    rfl
  · exact ⟨_, List.mem_singleton_self _, List.mem_singleton_self _⟩

end SmartGarage.Observe
