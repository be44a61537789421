/-
What the observers of collections are sent when a resource changes: the exact condition under which each of them
gets the batch representation of its collection, restricted to the resource.
-/
import SmartGarage.Messaging.CollectionNotify

namespace SmartGarage.Observe

open BufferWriter

/-! ## The batch representation -/

section Representation

variable (env : CollectionEnv) (c : CollectionData)

/-- The interface by which a linked resource is read. -/
def readIface (link : CollectionLink) : InterfaceMask :=
  if link.resource.id = c.resource.id then ifBaseline else link.resource.defaultInterface

/-- The object of a linked resource. -/
def readObject (link : CollectionLink) : Cbor :=
  .map (batchEntries link (match (env.handled .get link.resource (readIface c link) []).rep with
    | [] => [.map []]
    | rep => rep))

/-- The links to a resource, where it can be read. -/
def readableLinks (id : Nat) : List CollectionLink :=
  c.links.filter fun link => link.resource.id == id && link.resource.handles .get

/-- The batch representation of a collection, restricted to a resource. -/
def batchRepresentation (id : Nat) : Cbor := .array false ((readableLinks c id).map (readObject env c))

end Representation

/-- The object of a link that stays in the array. -/
def keptObject : BatchOutcome → Option Cbor
  | .kept entries => some (.map entries)
  | .dropped _ => none

theorem puts_batchOps (size : Cbor → Nat) : ∀ (outcomes : List BatchOutcome) (objects : List Cbor),
    puts (batchOps size objects outcomes) = [.array false (objects ++ outcomes.filterMap keptObject)]
  | [], objects => by rw [List.filterMap_nil, List.append_nil]; rfl
  | .kept entries :: rest, objects => by
    rw [batchOps, puts_batchOps size rest, List.filterMap_cons, List.append_assoc]
    rfl
  | .dropped entries :: rest, objects => by
    rw [batchOps, puts, puts_batchOps size rest, List.filterMap_cons]
    rfl

theorem filterByRt_empty (types : List OcString) : ocFilterResourceByRt types [] = true := rfl

section Content

variable (env : CollectionEnv) (c : CollectionData)

theorem keptObject_batchLink (codes : CollectionCodes) (link : CollectionLink) :
    keptObject (batchLink env c notifyRequest ⟨[], []⟩ codes link).1 =
      if link.resource.handles .get then some (readObject env c link) else none := by
  unfold batchLink linkAnswer notifyRequest
  by_cases hget : link.resource.handles .get = true
  · simp only [Option.any_none, Bool.false_eq_true, if_false, hget, if_true, ne_eq, not_true, false_and]
    rfl
  · simp only [Option.any_none, Bool.false_eq_true, if_false, hget]
    rfl

theorem keptObjects_batchLinks : ∀ (links : List CollectionLink) (codes : CollectionCodes),
    (batchLinks env c notifyRequest ⟨[], []⟩ links codes).1.filterMap keptObject =
      (links.filter fun link => link.resource.handles .get).map (readObject env c)
  | [], _ => rfl
  | link :: links, codes => by
    have hlink := keptObject_batchLink env c codes link
    have ih := keptObjects_batchLinks links (batchLink env c notifyRequest ⟨[], []⟩ codes link).2
    unfold batchLinks
    rw [List.filterMap_cons, hlink, ih]
    by_cases hget : link.resource.handles .get = true
    · simp only [List.filter_cons, hget, if_true, List.map_cons]
    · simp only [List.filter_cons, hget, Bool.false_eq_true, if_false]

theorem puts_content (size : Cbor → Nat) (id : Nat) :
    puts (collectionContent size env c notifyRequest ifB (some id)).ops = [batchRepresentation env c id] := by
  have hselect : selectsLink notifyRequest (some id) ⟨[], []⟩ = fun link => link.resource.id == id := by
    funext link
    simp [selectsLink, notifyRequest, filterByRt_empty]
  have hcontent : (collectionContent size env c notifyRequest ifB (some id)).ops =
      batchOps size [] (batchOutcomes env c notifyRequest (some id) [⟨[], []⟩] initialCodes).1 := rfl
  rw [hcontent, puts_batchOps]
  unfold batchOutcomes batchOutcomes
  dsimp only
  rw [List.append_nil, keptObjects_batchLinks, hselect, List.filter_filter]
  unfold batchRepresentation readableLinks
  simp only [List.nil_append, Bool.and_comm]

end Content

/-! ## What observers should get -/

/-- The collection is one of the resource's device and links it. -/
def Concerns (r : Resource) (c : CollectionData) : Prop := c.resource.device = r.device ∧ linksTo r c = true

/-- The observer is one of the collection, with the batch interface. -/
def IsBatchObserver (c : CollectionData) (o : CollectionObserver) : Prop :=
  o.resource = c.resource.id ∧ o.ifaceMask = ifB

theorem isNotified_iff (c : CollectionData) (o : CollectionObserver) :
    isNotified c.resource.id ifB o = true ↔ IsBatchObserver c o := by
  have hnever : ¬(o.ifaceMask ||| ifB) = ifLl := fun h => by
    have hbit := congrArg (·.getLsbD 3) h
    simp [ifB, ifLl] at hbit
  simp [isNotified, IsBatchObserver, hnever]

/-- The notifications are complete and exact: each observer of a collection that is concerned gets one, unless an
earlier transfer to it is unfinished, with the batch representation of its collection, and no other observer gets any. -/
structure NotifiedExactly (env : CollectionEnv) (tenv : NotifyEnv) (r : Resource) (server : NotifyServer)
    (sent : List Notification) : Prop where
  complete : ∀ c ∈ server.collections, Concerns r c → ∀ o ∈ server.observers, IsBatchObserver c o →
    unfinished tenv o = false → ∃ n ∈ sent, n.observer = o
  once : (sent.map (·.observer)).Nodup
  exact : ∀ n ∈ sent, ∃ c ∈ server.collections, Concerns r c ∧ IsBatchObserver c n.observer ∧
    n.payload = some [batchRepresentation env c r.id]

section Exact

variable (size : Cbor → Nat) (env : CollectionEnv) (tenv : NotifyEnv) (capacity : Nat) (r : Resource)
  (server : NotifyServer)

/-- The batch representation fits the buffer. -/
def FitsBuffer (c : CollectionData) : Prop :=
  reach size 0 (collectionContent size env c notifyRequest ifB (some r.id)).ops ≤ capacity

/-- The visits of a change. -/
def visits : List Visit := visitsFrom size env capacity r server.collections .empty

/-- There is memory for the notification of an observer, and for the blocks of those before it. -/
def FindsMemory (v : Visit) (o : CollectionObserver) : Prop :=
  o ∈ (server.observers.filter (isNotified v.collection.resource.id ifB)).takeWhile
      (fun o => !leavesLoop tenv v.answer o) ∧
    tenv.transactionAvailable o = true

/-- Only the first collection at which the search stops matters: no other one that is visited has observers that are
sent anything, and every observer that has to be notified is one of a collection that is visited and finds the memory
for its notification. -/
structure FirstMatters : Prop where
  sole : ∀ v ∈ visits size env capacity r server, v.receivers tenv server.observers ≠ [] →
    (visits size env capacity r server).head? = some v ∧ Concerns r v.collection ∧
      FitsBuffer size env capacity r v.collection
  reached : ∀ c ∈ server.collections, Concerns r c → ∀ o ∈ server.observers, IsBatchObserver c o →
    unfinished tenv o = false → ∃ v ∈ visits size env capacity r server, v.collection = c ∧ FindsMemory tenv server v o

/-! ## Visits -/

variable {size env tenv capacity r server}

theorem readCollection_items (c : CollectionData) (e : RepEncoder) :
    (readCollection size env capacity r c e).encoder.items = e.items ++ [batchRepresentation env c r.id] := by
  rw [← puts_content env c size r.id]
  exact run_items _ _

theorem readCollection_fits (c : CollectionData) :
    (readCollection size env capacity r c .empty).encoder.failed = false ↔ FitsBuffer size env capacity r c := by
  have hwithin : Within capacity size (.empty : RepEncoder) := within_empty
  have hrun := run_failed (collectionContent size env c notifyRequest ifB (some r.id)).ops hwithin
  exact hrun.trans ⟨And.right, fun h => ⟨rfl, h⟩⟩

theorem visitsFrom_sublist : ∀ (l : List CollectionData) (e : RepEncoder),
    ((visitsFrom size env capacity r l e).map (·.collection)).Sublist l
  | [], _ => .slnil
  | c :: rest, e => by
    unfold visitsFrom
    split
    · split
      · exact (visitsFrom_sublist rest _).cons_cons c
      · exact List.nil_sublist _
    · exact (visitsFrom_sublist rest e).cons c

theorem visitsFrom_head : ∀ (l : List CollectionData) (e : RepEncoder) {v : Visit},
    (visitsFrom size env capacity r l e).head? = some v → v.answer = readCollection size env capacity r v.collection e
  | [], _, _, h => absurd h.symm (Option.some_ne_none _)
  | c :: rest, e, v, h => by
    unfold visitsFrom at h
    split at h
    · split at h
      · cases h
        rfl
      · cases h
    · exact visitsFrom_head rest e h

theorem visitsFrom_later : ∀ (l : List CollectionData) (e : RepEncoder), ∀ v ∈ visitsFrom size env capacity r l e,
    (visitsFrom size env capacity r l e).head? = some v ∨ e.items.length + 2 ≤ v.answer.encoder.items.length
  | [], _, _, hv => absurd hv List.not_mem_nil
  | c :: rest, e, v, hv => by
    unfold visitsFrom at hv ⊢
    split
    · rename_i hstop
      rw [if_pos hstop] at hv
      split
      · rename_i hobservers
        rw [if_pos hobservers] at hv
        rcases List.mem_cons.1 hv with rfl | hrest
        · exact .inl rfl
        · have hlength : (readCollection size env capacity r c e).encoder.items.length = e.items.length + 1 := by
            rw [readCollection_items, List.length_append]
            rfl
          refine .inr ?_
          rcases visitsFrom_later rest _ v hrest with hfirst | hlater
          · rw [visitsFrom_head rest _ hfirst, readCollection_items, List.length_append, hlength]
            exact Nat.le_refl _
          · rw [hlength] at hlater
            omega
      · rename_i hobservers
        rw [if_neg hobservers] at hv
        cases hv
    · rename_i hstop
      rw [if_neg hstop] at hv
      exact visitsFrom_later rest e v hv

theorem mem_receivers_visit {v : Visit} {o : CollectionObserver} (h : o ∈ v.receivers tenv server.observers) :
    o ∈ server.observers ∧ IsBatchObserver v.collection o := by
  obtain ⟨ho, hfor⟩ := mem_receivers tenv _ ifB v.answer h
  exact ⟨ho, (isNotified_iff v.collection o).1 hfor⟩

theorem mem_receivers_iff {v : Visit} {o : CollectionObserver} (h : unfinished tenv o = false) :
    o ∈ v.receivers tenv server.observers ↔ FindsMemory tenv server v o := by
  unfold Visit.receivers receivers FindsMemory
  simp [List.mem_filter, passedOver, h]

theorem visits_collection {v : Visit} (hv : v ∈ visits size env capacity r server) : v.collection ∈ server.collections :=
  (visitsFrom_sublist server.collections _).subset (List.mem_map_of_mem hv)

theorem collection_eq {c c' : CollectionData} (hc : c ∈ server.collections) (hc' : c' ∈ server.collections)
    (hid : c.resource.id = c'.resource.id) : c = c' := List.inj_on_of_nodup_map server.addresses hc hc' hid

theorem mem_sent {n : Notification} : n ∈ coapNotifyCollections size env tenv capacity r server ↔
    ∃ v ∈ visits size env capacity r server, ∃ o ∈ v.receivers tenv server.observers, n = ⟨o, v.answer⟩ := by
  unfold coapNotifyCollections
  rw [notifyFrom_eq]
  simp only [List.mem_flatMap, List.mem_map, visits, eq_comm]

/-- No observer is notified twice. -/
theorem sent_once : ((coapNotifyCollections size env tenv capacity r server).map (·.observer)).Nodup := by
  unfold coapNotifyCollections
  rw [notifyFrom_eq, List.map_flatMap]
  simp only [List.map_map, Function.comp_def, List.map_id']
  rw [List.nodup_flatMap]
  constructor
  · exact fun v _ => server.entries.sublist (receivers_sublist tenv _ ifB v.answer server.observers)
  · have hids : ((visits size env capacity r server).map fun v => v.collection.resource.id).Nodup := by
      have hvisits : ((visitsFrom size env capacity r server.collections .empty).map (·.collection)).Sublist server.collections :=
        visitsFrom_sublist _ _
      have hsub := hvisits.map (·.resource.id)
      rw [List.map_map] at hsub
      exact server.addresses.sublist hsub
    refine (List.pairwise_map.1 hids).imp fun {v v'} hne o ho ho' => ?_
    have hreceives : o ∈ v.receivers tenv server.observers := ho
    have hreceives' : o ∈ v'.receivers tenv server.observers := ho'
    exact hne ((mem_receivers_visit hreceives).2.1.symm.trans (mem_receivers_visit hreceives').2.1)

/-! ## The condition -/

theorem NotifiedExactly.sole
    (h : NotifiedExactly env tenv r server (coapNotifyCollections size env tenv capacity r server)) {v : Visit}
    (hv : v ∈ visits size env capacity r server) {o : CollectionObserver} (ho : o ∈ v.receivers tenv server.observers) :
    (visits size env capacity r server).head? = some v ∧ Concerns r v.collection ∧
      FitsBuffer size env capacity r v.collection := by
  obtain ⟨c, hc, hconcerns, hbatch, hpayload⟩ := h.exact ⟨o, v.answer⟩ (mem_sent.2 ⟨v, hv, o, ho, rfl⟩)
  obtain rfl : v.collection = c :=
    collection_eq (visits_collection hv) hc ((mem_receivers_visit ho).2.1.symm.trans hbatch.1)
  have hfits : v.answer.encoder.failed = false ∧ v.answer.encoder.items = [batchRepresentation env v.collection r.id] := by
    unfold Notification.payload at hpayload
    split at hpayload
    · cases hpayload
    · rename_i hok
      exact ⟨by simpa using hok, Option.some.inj hpayload⟩
  rcases visitsFrom_later server.collections .empty v hv with hfirst | hlater
  · refine ⟨hfirst, hconcerns, ?_⟩
    rw [← readCollection_fits, ← visitsFrom_head server.collections .empty hfirst]
    exact hfits.1
  · -- a representation that is there already stays in front
    rw [hfits.2] at hlater
    exact absurd hlater (by simp)

theorem NotifiedExactly.one_collection
    (h : NotifiedExactly env tenv r server (coapNotifyCollections size env tenv capacity r server))
    {c c' : CollectionData} (hc : c ∈ server.collections) (hc' : c' ∈ server.collections) (hconcerns : Concerns r c)
    (hconcerns' : Concerns r c') {o o' : CollectionObserver} (ho : o ∈ server.observers) (ho' : o' ∈ server.observers)
    (hbatch : IsBatchObserver c o) (hbatch' : IsBatchObserver c' o') (hunfinished : unfinished tenv o = false)
    (hunfinished' : unfinished tenv o' = false) : c.resource.id = c'.resource.id := by
  obtain ⟨n, hn, rfl⟩ := h.complete c hc hconcerns o ho hbatch hunfinished
  obtain ⟨n', hn', rfl⟩ := h.complete c' hc' hconcerns' o' ho' hbatch' hunfinished'
  obtain ⟨v, hv, o, hreceives, rfl⟩ := mem_sent.1 hn
  obtain ⟨v', hv', o', hreceives', rfl⟩ := mem_sent.1 hn'
  obtain rfl : v = v' := Option.some.inj ((h.sole hv hreceives).1.symm.trans (h.sole hv' hreceives').1)
  have hresource : o.resource = o'.resource :=
    (mem_receivers_visit hreceives).2.1.trans (mem_receivers_visit hreceives').2.1.symm
  exact hbatch.1.symm.trans (hresource.trans hbatch'.1)

/-- The observers of collections get exactly what they should if and only if the first collection at which the search
stops is the only one that matters. -/
theorem notified_exactly_iff (size : Cbor → Nat) (env : CollectionEnv) (tenv : NotifyEnv) (capacity : Nat) (r : Resource)
    (server : NotifyServer) :
    NotifiedExactly env tenv r server (coapNotifyCollections size env tenv capacity r server) ↔
      FirstMatters size env tenv capacity r server := by
  constructor
  · intro h
    refine ⟨fun v hv hsome => ?_, fun c hc hconcerns o ho hbatch hunfinished => ?_⟩
    · obtain ⟨o, ho⟩ := List.exists_mem_of_ne_nil _ hsome
      exact h.sole hv ho
    · obtain ⟨n, hn, rfl⟩ := h.complete c hc hconcerns o ho hbatch hunfinished
      obtain ⟨v, hv, o, hreceives, rfl⟩ := mem_sent.1 hn
      have hid : v.collection.resource.id = c.resource.id := (mem_receivers_visit hreceives).2.1.symm.trans hbatch.1
      exact ⟨v, hv, collection_eq (visits_collection hv) hc hid, (mem_receivers_iff hunfinished).1 hreceives⟩
  · intro h
    refine ⟨fun c hc hconcerns o ho hbatch hunfinished => ?_, sent_once, fun n hn => ?_⟩
    · obtain ⟨v, hv, -, hmemory⟩ := h.reached c hc hconcerns o ho hbatch hunfinished
      exact ⟨⟨o, v.answer⟩, mem_sent.2 ⟨v, hv, o, (mem_receivers_iff hunfinished).2 hmemory, rfl⟩, rfl⟩
    · obtain ⟨v, hv, o, ho, rfl⟩ := mem_sent.1 hn
      obtain ⟨hfirst, hconcerns, hfits⟩ := h.sole v hv (List.ne_nil_of_mem ho)
      refine ⟨v.collection, visits_collection hv, hconcerns, (mem_receivers_visit ho).2, ?_⟩
      have hanswer := visitsFrom_head server.collections .empty hfirst
      show (if v.answer.encoder.failed then none else some v.answer.encoder.items) = _
      rw [hanswer, (readCollection_fits v.collection).2 hfits, readCollection_items]
      rfl

end Exact

/-! ## Two collections -/

/-- A resource that can be read. -/
def sharedResource : Resource where
  uri := ascii "/light"
  device := 0
  coreIndex := none
  discoverable := true
  secure := true
  id := 0
  isCollection := false
  interfaces := ifBaseline
  defaultInterface := ifBaseline
  observable := true
  periodic := false
  handles := fun _ => true
  links := []
  numObservers := 0
  stored := ⟨rfl, by decide⟩

/-- A collection that links it and has an observer. -/
def kitchen : Resource :=
  { sharedResource with
    uri := ascii "/kitchen", id := 1, isCollection := true, interfaces := ifBaseline ||| ifLl ||| ifB,
    defaultInterface := ifLl, links := [0], numObservers := 1, stored := ⟨rfl, by decide⟩ }

/-- Another one. -/
def hall : Resource := { kitchen with uri := ascii "/hall", id := 2, stored := ⟨rfl, by decide⟩ }

/-- A collection with some links. -/
def plainCollection (c : Resource) (links : List Resource) : CollectionData where
  resource := c
  name := []
  types := []
  tagPosDesc := none
  tagFuncDesc := none
  tagPosRel := (0, 0, 0)
  supportedRts := []
  mandatoryRts := []
  properties := []
  links := links.map fun r => ⟨r, [], [], 0, []⟩

/-- A client that observes a collection with the batch interface. -/
def sharingObserver (c : Resource) : CollectionObserver :=
  ⟨⟨c.id, c.uri.drop 1, .zero, [], 0, ifB⟩, 1024⟩

/-- Two collections with one observer each. -/
def sharingServer : NotifyServer where
  collections := [plainCollection kitchen [sharedResource], plainCollection hall [sharedResource]]
  observers := [sharingObserver kitchen, sharingObserver hall]
  addresses := by decide
  entries := by decide

/-- A resource whose handler encodes an object, and enough memory. -/
def sharingEnv : CollectionEnv := ⟨fun _ _ _ _ => ⟨[.map [.textString (ascii "on"), .boolean true]], 69⟩, fun _ _ _ => true,
  fun _ => [], none⟩

def sharingMemory : NotifyEnv := ⟨fun _ => none, fun _ => true, fun _ => true⟩

/-- The observer of the second collection does not get what it should. -/
theorem notified_mixed : ¬NotifiedExactly sharingEnv sharingMemory sharedResource sharingServer
    (coapNotifyCollections cborSize sharingEnv sharingMemory 8192 sharedResource sharingServer) := fun h => by
  have hfirst : plainCollection kitchen [sharedResource] ∈ sharingServer.collections := by simp [sharingServer]
  have hsecond : plainCollection hall [sharedResource] ∈ sharingServer.collections := by simp [sharingServer]
  have hwaits : sharingObserver kitchen ∈ sharingServer.observers := by simp [sharingServer]
  have hwaits' : sharingObserver hall ∈ sharingServer.observers := by simp [sharingServer]
  have hsame := h.one_collection hfirst hsecond ⟨rfl, rfl⟩ ⟨rfl, rfl⟩ hwaits hwaits' ⟨rfl, rfl⟩ ⟨rfl, rfl⟩ rfl rfl
  exact absurd hsame (by decide)

end SmartGarage.Observe
