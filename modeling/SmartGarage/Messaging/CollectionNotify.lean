/-
How the observers of collections are notified (`coap_notify_collections`, `coap_notify_collection_observers` of
`observe.c`): one encoder serves all the collections that a change concerns, and the walk over them ends early or
goes on too far. The observers get what they should exactly if the first collection it stops at is the only one
that matters.
-/
import SmartGarage.Api.Collection
import SmartGarage.Messaging.Observe

namespace SmartGarage.Observe

variable {observers : List CollectionObserver}

/-! ## Observers -/

/-- `coap_observer_t` with the block size of its request. -/
structure CollectionObserver extends Observer where
  block2Size : UInt16
deriving DecidableEq

/-- What the notification of an observer meets when its turn comes: the response buffer that
`oc_blockwise_find_response_buffer` finds for it, and whether there is memory for a new one and for a transaction. -/
structure NotifyEnv where
  earlier : CollectionObserver → Option BlockwiseState
  bufferAvailable : CollectionObserver → Bool
  transactionAvailable : CollectionObserver → Bool

/-- A notification that is sent: its payload is what the response buffer holds. -/
structure Notification where
  observer : CollectionObserver
  answer : CollectionAnswer

/-- The items of the payload; there are none that can be told if the encoder has failed, as the length is then that
of more bytes than have been encoded. -/
def Notification.payload (n : Notification) : Option (List Cbor) :=
  if n.answer.encoder.failed then none else some n.answer.encoder.items

section Observers

variable (tenv : NotifyEnv) (resource : Nat) (ifaceMask : InterfaceMask) (answer : CollectionAnswer)

/-- The observers that a notification of a collection is for. -/
def isNotified (o : CollectionObserver) : Bool :=
  o.resource == resource && (o.ifaceMask == ifaceMask || o.ifaceMask ||| ifaceMask == ifLl)

/-- The payload goes in blocks. -/
def needsBlocks (o : CollectionObserver) : Bool :=
  !o.endpoint.flags.tcp && decide (o.block2Size.toNat < answer.responseLength.toNat)

/-- An earlier transfer to the observer has not come to its end. -/
def unfinished (o : CollectionObserver) : Bool := (tenv.earlier o).any fun b => b.payloadSize ≠ b.nextBlockOffset

/-- The loop of `coap_notify_collection_observers`: it is left where there is no memory for a response buffer. -/
def coapNotifyCollectionObservers : List CollectionObserver → List Notification
  | [] => []
  | o :: rest =>
    if !isNotified resource ifaceMask o then coapNotifyCollectionObservers rest
    else if needsBlocks answer o && unfinished tenv o then coapNotifyCollectionObservers rest
    else if needsBlocks answer o && !tenv.bufferAvailable o then []
    else if tenv.transactionAvailable o then ⟨o, answer⟩ :: coapNotifyCollectionObservers rest
    else coapNotifyCollectionObservers rest

/-! ## Receivers -/

/-- The observer is passed over. -/
def passedOver (o : CollectionObserver) : Bool := needsBlocks answer o && unfinished tenv o

/-- The loop is left at the observer. -/
def leavesLoop (o : CollectionObserver) : Bool :=
  needsBlocks answer o && !unfinished tenv o && !tenv.bufferAvailable o

/-- The observers that are sent a notification. -/
def receivers (observers : List CollectionObserver) : List CollectionObserver :=
  ((observers.filter (isNotified resource ifaceMask)).takeWhile fun o => !leavesLoop tenv answer o).filter fun o =>
    !passedOver tenv answer o && tenv.transactionAvailable o

theorem passedOver_stays {o : CollectionObserver} (h : passedOver tenv answer o = true) :
    leavesLoop tenv answer o = false := by
  simp only [passedOver, Bool.and_eq_true] at h
  simp [leavesLoop, h.2]

theorem coapNotifyCollectionObservers_eq : ∀ observers : List CollectionObserver,
    coapNotifyCollectionObservers tenv resource ifaceMask answer observers =
      (receivers tenv resource ifaceMask answer observers).map fun o => ⟨o, answer⟩
  | [] => rfl
  | o :: rest => by
    have ih := coapNotifyCollectionObservers_eq rest
    unfold coapNotifyCollectionObservers
    unfold receivers at ih ⊢
    rw [← passedOver]
    by_cases hfor : isNotified resource ifaceMask o = true
    · rw [if_neg (by simp [hfor]), List.filter_cons_of_pos hfor]
      by_cases hpass : passedOver tenv answer o = true
      · rw [if_pos hpass, List.takeWhile_cons_of_pos (by simp [passedOver_stays tenv answer hpass]),
          List.filter_cons_of_neg (by simp [hpass])]
        exact ih
      · rw [if_neg hpass]
        by_cases hleave : leavesLoop tenv answer o = true
        · rw [List.takeWhile_cons_of_neg (by simp [hleave]), if_pos]
          · rfl
          · simp only [leavesLoop, Bool.and_eq_true] at hleave
            simp [hleave]
        · rw [List.takeWhile_cons_of_pos (by simpa using hleave), if_neg]
          · by_cases hmemory : tenv.transactionAvailable o = true
            · rw [if_pos hmemory, List.filter_cons_of_pos (by simp [hpass, hmemory]), List.map_cons, ih]
            · rw [if_neg hmemory, List.filter_cons_of_neg (by simp [hmemory])]
              exact ih
          · intro hblocks
            simp only [leavesLoop, passedOver, Bool.and_eq_true] at hleave hpass hblocks
            exact hleave ⟨⟨hblocks.1, by simpa [hblocks.1] using hpass⟩, hblocks.2⟩
    · rw [if_pos (by simpa using hfor), List.filter_cons_of_neg hfor]
      exact ih

theorem mem_receivers {o : CollectionObserver}
    (h : o ∈ receivers tenv resource ifaceMask answer observers) : o ∈ observers ∧ isNotified resource ifaceMask o = true :=
  List.mem_filter.1 ((List.takeWhile_sublist _).subset (List.mem_filter.1 h).1)

theorem receivers_sublist (observers : List CollectionObserver) :
    (receivers tenv resource ifaceMask answer observers).Sublist observers :=
  List.filter_sublist.trans ((List.takeWhile_sublist _).trans List.filter_sublist)

end Observers

/-! ## The walk over the collections -/

/-- The collections in the order of `oc_collections`, at addresses of their own, and `observers_list`, in which no
entry is there twice. -/
structure NotifyServer where
  collections : List CollectionData
  observers : List CollectionObserver
  addresses : (collections.map (·.resource.id)).Nodup
  entries : observers.Nodup

/-- The collection has a link to the resource. -/
def linksTo (r : Resource) (c : CollectionData) : Bool := c.links.any fun link => link.resource.id == r.id

/-- `oc_get_next_collection_with_link`, for the collections behind `start`: the collection that is found, and those
behind it. The search ends at the first collection of another device, which it returns. -/
def ocGetNextCollectionWithLink (r : Resource) : List CollectionData → Option (CollectionData × List CollectionData)
  | [] => none
  | c :: rest =>
    if c.resource.device ≠ r.device then some (c, rest)
    else if linksTo r c then some (c, rest)
    else ocGetNextCollectionWithLink r rest

theorem next_shorter {r : Resource} : ∀ {l rest : List CollectionData} {c : CollectionData},
    ocGetNextCollectionWithLink r l = some (c, rest) → rest.length < l.length
  | [], _, _, h => absurd h.symm (Option.some_ne_none _)
  | c :: l, _, _, h => by
    unfold ocGetNextCollectionWithLink at h
    split at h
    · cases h
      exact Nat.lt_succ_self _
    · split at h
      · cases h
        exact Nat.lt_succ_self _
      · exact Nat.lt_succ_of_lt (next_shorter h)

/-- The request by which `coap_notify_collections` reads a collection. -/
def notifyRequest : CollectionRequest := ⟨.get, [], none, []⟩

section Walk

variable (size : Cbor → Nat) (env : CollectionEnv) (tenv : NotifyEnv) (capacity : Nat) (r : Resource)

/-- What a collection is found to be when it is read for a change of the resource. -/
def readCollection (c : CollectionData) (e : RepEncoder) : CollectionAnswer :=
  ocHandleCollectionRequest size env c notifyRequest capacity ifB (some r.id) e

/-- The loop of `coap_notify_collections`, from the collections behind `start` on. -/
def notifyFrom (observers : List CollectionObserver) (behind : List CollectionData) (e : RepEncoder) :
    List Notification :=
  match h : ocGetNextCollectionWithLink r behind with
  | none => []
  | some (c, rest) =>
    have : rest.length < behind.length := next_shorter h
    if c.resource.numObservers > 0 then
      let answer := readCollection size env capacity r c e
      coapNotifyCollectionObservers tenv c.resource.id ifB answer observers ++ notifyFrom observers rest answer.encoder
    else []
termination_by behind.length

theorem notifyFrom_none {l : List CollectionData} {e : RepEncoder}
    (h : ocGetNextCollectionWithLink r l = none) : notifyFrom size env tenv capacity r observers l e = [] := by
  unfold notifyFrom
  split
  · rfl
  · rename_i hnext
    rw [h] at hnext
    cases hnext

theorem notifyFrom_some {l rest : List CollectionData} {c : CollectionData}
    {e : RepEncoder} (h : ocGetNextCollectionWithLink r l = some (c, rest)) :
    notifyFrom size env tenv capacity r observers l e =
      if c.resource.numObservers > 0 then
        coapNotifyCollectionObservers tenv c.resource.id ifB (readCollection size env capacity r c e) observers ++
          notifyFrom size env tenv capacity r observers rest (readCollection size env capacity r c e).encoder
      else [] := by
  rw [notifyFrom]
  split
  · rename_i hnext
    rw [h] at hnext
    cases hnext
  · rename_i hnext
    rw [h] at hnext
    cases hnext
    rfl

/-- `coap_notify_collections`: `oc_rep_new` is called once, before the loop. -/
def coapNotifyCollections (server : NotifyServer) : List Notification :=
  notifyFrom size env tenv capacity r server.observers server.collections .empty

/-- `coap_notify_collection_batch` -/
def coapNotifyCollectionBatch (observers : List CollectionObserver) (c : CollectionData) : List Notification :=
  coapNotifyCollectionObservers tenv c.resource.id ifB
    (ocHandleCollectionRequest size env c notifyRequest capacity ifB none .empty) observers

/-! ## Visits -/

/-- A collection that is read, and what has been found. -/
structure Visit where
  collection : CollectionData
  answer : CollectionAnswer

/-- The search stops at the collection. -/
def stopsAt (c : CollectionData) : Bool := c.resource.device ≠ r.device || linksTo r c

/-- The visits of the loop. -/
def visitsFrom : List CollectionData → RepEncoder → List Visit
  | [], _ => []
  | c :: rest, e =>
    if stopsAt r c then
      if c.resource.numObservers > 0 then
        let answer := readCollection size env capacity r c e
        ⟨c, answer⟩ :: visitsFrom rest answer.encoder
      else []
    else visitsFrom rest e

theorem next_stop {c : CollectionData} {rest : List CollectionData} (h : stopsAt r c = true) :
    ocGetNextCollectionWithLink r (c :: rest) = some (c, rest) := by
  unfold ocGetNextCollectionWithLink
  by_cases hdevice : c.resource.device ≠ r.device
  · rw [if_pos hdevice]
  · rw [if_neg hdevice, if_pos]
    simpa [stopsAt, hdevice] using h

theorem next_skip {c : CollectionData} {rest : List CollectionData} (h : stopsAt r c = false) :
    ocGetNextCollectionWithLink r (c :: rest) = ocGetNextCollectionWithLink r rest := by
  simp only [stopsAt, Bool.or_eq_false_iff] at h
  rw [ocGetNextCollectionWithLink, if_neg (by simpa using h.1), if_neg (by simp [h.2])]

/-- The receivers of a visit. -/
def Visit.receivers (v : Visit) (observers : List CollectionObserver) : List CollectionObserver :=
  Observe.receivers tenv v.collection.resource.id ifB v.answer observers

theorem notifyFrom_eq (observers : List CollectionObserver) : ∀ (l : List CollectionData) (e : RepEncoder),
    notifyFrom size env tenv capacity r observers l e =
      (visitsFrom size env capacity r l e).flatMap fun v => (v.receivers tenv observers).map fun o => ⟨o, v.answer⟩
  | [], e => notifyFrom_none size env tenv capacity r rfl
  | c :: rest, e => by
    have ih := notifyFrom_eq observers rest
    unfold visitsFrom
    by_cases hstop : stopsAt r c = true
    · rw [if_pos hstop]
      rw [notifyFrom_some size env tenv capacity r (next_stop r hstop)]
      split
      · rw [List.flatMap_cons, ih, coapNotifyCollectionObservers_eq]
        rfl
      · rfl
    · rw [if_neg hstop, ← ih]
      have hskip : ocGetNextCollectionWithLink r (c :: rest) = _ := next_skip r (Bool.eq_false_iff.2 hstop)
      cases hnext : ocGetNextCollectionWithLink r rest with
      | none => rw [notifyFrom_none size env tenv capacity r (hskip.trans hnext), notifyFrom_none size env tenv capacity r hnext]
      | some found =>
        rw [notifyFrom_some size env tenv capacity r (hskip.trans hnext), notifyFrom_some size env tenv capacity r hnext]

end Walk

end SmartGarage.Observe
