/-
The messages of `oc_buffer.c` over a run: each of them is returned to its pool behind its last user, and nobody uses
it after that, unless a message that is not part of a transaction meets a full queue, for then it is lost.
-/
import SmartGarage.Messaging.MessageBuffers
import SmartGarage.Lib.Run

namespace SmartGarage.MessageBuffers

open RefCount

/-! ## The counts are right -/

/-- The counts are those of the users, together with some references that a call holds; the queue does not overflow,
and a message has at most one place in each list. -/
structure Balanced (s : Buffers) (held : List Nat) : Prop where
  counted : Counted s.heap (held ++ s.users)
  events : s.events.length ≤ ocProcessNumEvents
  network : (s.adapter.toList ++ s.network).Nodup
  transactions : (s.transactions.map (·.message)).Nodup
  queued : s.queued.Nodup

section Balanced

variable {L : Limits} {s s' : Buffers} {held held' : List Nat} {id : Nat}

theorem balanced_init : Balanced .init [] where
  counted := .empty
  events := Nat.zero_le _
  network := List.nodup_nil
  transactions := List.nodup_nil
  queued := List.nodup_nil

theorem count_users (s : Buffers) (id : Nat) : s.users.count id = s.adapter.toList.count id + s.network.count id +
    (s.events.filterMap (·.message?)).count id + (s.transactions.map (·.message)).count id +
    s.inHand.toList.count id + s.queued.count id := by
  simp only [Buffers.users, List.count_append]

theorem mem_users : id ∈ s.users ↔ s.adapter = some id ∨ id ∈ s.network ∨
    (∃ e ∈ s.events, e.message? = some id) ∨ (∃ t ∈ s.transactions, t.message = id) ∨ s.inHand = some id ∨
    id ∈ s.queued := by
  simp only [Buffers.users, List.mem_append, List.mem_filterMap, List.mem_map, Option.mem_toList, or_assoc]

namespace Balanced

/-- A message has one user for each place that it can have. -/
theorem count_users_le (h : Balanced s held) : s.users.count id ≤ 15 := by
  have hoption : ∀ o : Option Nat, o.toList.count id ≤ 1 := by
    intro o
    refine List.count_le_length.trans ?_
    cases o <;> simp
  have hnetwork := List.nodup_iff_count_le_one.1 h.network id
  rw [List.count_append] at hnetwork
  have htransactions := List.nodup_iff_count_le_one.1 h.transactions id
  have hqueued := List.nodup_iff_count_le_one.1 h.queued id
  have hevents : (s.events.filterMap (·.message?)).count id ≤ 10 :=
    List.count_le_length.trans ((List.length_filterMap_le _ _).trans h.events)
  have hinHand := hoption s.inHand
  rw [count_users]
  omega

theorem move (h : Balanced s held) (hheap : s'.heap = s.heap)
    (hcount : ∀ x, held'.count x + s'.users.count x = held.count x + s.users.count x)
    (hevents : s'.events.length ≤ ocProcessNumEvents) (hnetwork : (s'.adapter.toList ++ s'.network).Nodup)
    (htransactions : (s'.transactions.map (·.message)).Nodup) (hqueued : s'.queued.Nodup) : Balanced s' held' where
  counted := by
    rw [hheap]
    refine h.counted.perm (List.perm_iff_count.2 fun x => ?_)
    rw [List.count_append, List.count_append]
    exact (hcount x).symm
  events := hevents
  network := hnetwork
  transactions := htransactions
  queued := hqueued

theorem withMessage (h : Balanced s held) (hid : id ∈ held ++ s.users) (k : Obj 8 Message → Buffers) :
    ∃ o ∈ s.heap.live, o.id = id ∧ s.withMessage id k = k o := by
  obtain ⟨o, ho⟩ := (h.counted.live id hid).get?
  obtain ⟨hmem, hoid⟩ := Heap.get?_mem ho
  refine ⟨o, hmem, hoid, ?_⟩
  unfold Buffers.withMessage
  rw [ho]

theorem alloc (h : Balanced s held) {m : Message} (ha : s.allocateMessage L m = some (id, s')) :
    Balanced s' (id :: held) ∧ id ∉ held ++ s.users ∧ s' = { s with heap := s.heap.alloc m } := by
  unfold Buffers.allocateMessage at ha
  split at ha
  · cases ha
    refine ⟨⟨h.counted.alloc m, h.events, h.network, h.transactions, h.queued⟩, fun hmem => ?_, rfl⟩
    exact Nat.lt_irrefl _ (h.counted.lt_next hmem)
  · cases ha

theorem addRef (h : Balanced s held) (hid : id ∈ held ++ s.users) : Balanced (s.ocMessageAddRef id) (id :: held) :=
  ⟨h.counted.retain hid, h.events, h.network, h.transactions, h.queued⟩

theorem unref (h : Balanced s (id :: held)) (hfew : held.count id ≤ 100) : Balanced (s.ocMessageUnref id) held := by
  have hcounted : Counted s.heap (id :: (held ++ s.users)) := h.counted
  refine ⟨hcounted.release ?_, h.events, h.network, h.transactions, h.queued⟩
  have husers : s.users.count id ≤ 15 := h.count_users_le
  rw [List.count_append]
  omega

theorem count_ne_zero (h : Balanced s held) {o : Obj 8 Message} (ho : o ∈ s.heap.live) (hfew : held.count o.id ≤ 100) :
    o.count ≠ 0#8 := by
  refine h.counted.count_ne_zero ho ?_
  have husers : s.users.count o.id ≤ 15 := h.count_users_le
  rw [List.count_append]
  omega

theorem post (h : Balanced s (id :: held)) {e : EventData} (he : e.message? = some id)
    (hpost : s.ocProcessPost e = some s') : Balanced s' held := by
  unfold Buffers.ocProcessPost at hpost
  split at hpost
  · cases hpost
  · rename_i hroom
    cases hpost
    have hevents := h.events
    refine h.move rfl (fun x => ?_) ?_ h.network h.transactions h.queued
    · rw [count_users, count_users, List.filterMap_append, List.count_append, List.filterMap_cons_some he,
        List.filterMap_nil, List.count_cons (l := held), List.count_cons, List.count_nil]
      dsimp only
      omega
    · rw [List.length_append, List.length_singleton]
      omega

theorem post_room (h : Balanced s (id :: held)) {e : EventData} (he : e.message? = some id)
    (hroom : s.events.length < ocProcessNumEvents) : Balanced (s.post e) held := by
  have hpost : s.ocProcessPost e = some { s with events := s.events ++ [e] } := if_neg (Nat.ne_of_lt hroom)
  unfold Buffers.post
  rw [hpost]
  exact h.post he hpost

theorem post_other (h : Balanced s held) {e : EventData} (he : e.message? = none) : Balanced (s.post e) held := by
  unfold Buffers.post Buffers.ocProcessPost
  split
  · exact h
  · rename_i hroom
    have hevents := h.events
    refine h.move rfl (fun x => ?_) ?_ h.network h.transactions h.queued
    · rw [count_users, count_users]
      dsimp only [Option.getD_some]
      rw [List.filterMap_append, List.filterMap_cons_none he, List.filterMap_nil, List.append_nil]
    · rw [Option.getD_some, List.length_append, List.length_singleton]
      omega

theorem postOrUnref (h : Balanced s (id :: held)) {e : EventData} (he : e.message? = some id)
    (hfew : held.count id ≤ 100) :
    Balanced ((s.ocProcessPost e).getD (s.ocMessageUnref id)) held := by
  cases hpost : s.ocProcessPost e with
  | none => exact h.unref hfew
  | some s' => exact h.post he hpost

/-- `oc_send_message` where there is room, or for a message with another user. -/
theorem send (h : Balanced s (id :: held)) (hkept : s.events.length < ocProcessNumEvents ∨ id ∈ held ++ s.users) :
    Balanced (s.ocSendMessage id) held := by
  unfold Buffers.ocSendMessage
  cases hpost : s.ocProcessPost (.outboundNetwork id) with
  | some s' => exact h.post rfl hpost
  | none =>
    unfold Buffers.ocProcessPost at hpost
    split at hpost
    · rename_i hfull
      have hid : id ∈ held ++ s.users := hkept.resolve_left (by rw [hfull]; exact Nat.lt_irrefl _)
      exact ⟨h.counted.drop hid, h.events, h.network, h.transactions, h.queued⟩
    · cases hpost

end Balanced

/-! ## Sending -/

theorem ocProcessPost_none {e : EventData} : s.ocProcessPost e = none ↔ s.events.length = ocProcessNumEvents := by
  unfold Buffers.ocProcessPost
  split
  · rename_i hfull
    exact iff_of_true rfl hfull
  · rename_i hroom
    exact iff_of_false nofun hroom

theorem ocSendMessage_full (hfull : s.events.length = ocProcessNumEvents) :
    s.ocSendMessage id = { s with heap := s.heap.drop id } := by
  unfold Buffers.ocSendMessage
  rw [ocProcessPost_none.2 hfull]
  rfl

theorem ocSendMessage_room (hroom : s.events.length ≠ ocProcessNumEvents) :
    s.ocSendMessage id = { s with events := s.events ++ [.outboundNetwork id] } := by
  unfold Buffers.ocSendMessage Buffers.ocProcessPost
  rw [if_neg hroom]
  rfl

/-- A message has been allocated for the endpoint. -/
def Buffers.allocated (s : Buffers) (endpoint : OcEndpoint) : Buffers :=
  { s with heap := s.heap.alloc (.outgoing endpoint) }

theorem allocateMessage_outgoing (L : Limits) (s : Buffers) (endpoint : OcEndpoint) :
    s.allocateMessage L (.outgoing endpoint) =
      if 0 < s.numFree L .outgoing then some (s.heap.next, s.allocated endpoint) else none := rfl

theorem allocateMessage_some (hfree : s.numFree L .outgoing ≠ 0) (endpoint : OcEndpoint) :
    s.allocateMessage L (.outgoing endpoint) = some (s.heap.next, s.allocated endpoint) :=
  if_pos (Nat.pos_of_ne_zero hfree)

theorem allocateMessage_none (hfree : s.numFree L .outgoing = 0) (endpoint : OcEndpoint) :
    s.allocateMessage L (.outgoing endpoint) = none := by
  rw [allocateMessage_outgoing, hfree]
  rfl

/-- The ways a signal message can go: there is none, it is lost, or it is sent. -/
theorem coapSendSignalMessage_cases (L : Limits) (s : Buffers) (endpoint : OcEndpoint) :
    let s' := s.coapSendSignalMessage L endpoint
    (s.numFree L .outgoing = 0 ∧ s' = s) ∨
    (s.numFree L .outgoing ≠ 0 ∧ s.events.length = ocProcessNumEvents ∧
      s' = { s with heap := (s.heap.alloc (.outgoing endpoint)).drop s.heap.next }) ∨
    (s.numFree L .outgoing ≠ 0 ∧ s.events.length ≠ ocProcessNumEvents ∧ s' = { s with
      heap := s.heap.alloc (.outgoing endpoint)
      events := s.events ++ [.outboundNetwork s.heap.next] }) := by
  unfold Buffers.coapSendSignalMessage
  by_cases hfree : s.numFree L .outgoing = 0
  · rw [allocateMessage_none hfree]
    exact .inl ⟨hfree, rfl⟩
  · rw [allocateMessage_some hfree]
    by_cases hfull : s.events.length = ocProcessNumEvents
    · exact .inr (.inl ⟨hfree, hfull, ocSendMessage_full hfull⟩)
    · exact .inr (.inr ⟨hfree, hfull, ocSendMessage_room hfull⟩)

/-- The messages that are allocated and posted without another user fit into the queue. -/
def Buffers.Fits (L : Limits) (s : Buffers) (n : Nat) : Prop :=
  min n (s.numFree L .outgoing) + s.events.length ≤ ocProcessNumEvents

theorem Balanced.signal (h : Balanced s held) (hfits : s.Fits L 1) (endpoint : OcEndpoint) :
    Balanced (s.coapSendSignalMessage L endpoint) held := by
  unfold Buffers.Fits at hfits
  rcases coapSendSignalMessage_cases L s endpoint with ⟨-, heq⟩ | ⟨hfree, hfull, -⟩ | ⟨hfree, hroom, heq⟩
  · rw [heq]
    exact h
  · omega
  · have hsend : (s.allocated endpoint).ocSendMessage s.heap.next = { s with
        heap := s.heap.alloc (.outgoing endpoint)
        events := s.events ++ [.outboundNetwork s.heap.next] } := ocSendMessage_room hroom
    rw [heq, ← hsend]
    exact (h.alloc (allocateMessage_some hfree endpoint)).1.send (.inl (Nat.lt_of_le_of_ne h.events hroom))

theorem length_signal_events (hevents : s.events.length ≤ ocProcessNumEvents) (endpoint : OcEndpoint) :
    (s.coapSendSignalMessage L endpoint).events.length =
      min ocProcessNumEvents (min 1 (s.numFree L .outgoing) + s.events.length) := by
  rcases coapSendSignalMessage_cases L s endpoint with ⟨hfree, heq⟩ | ⟨hfree, hfull, heq⟩ | ⟨hfree, hroom, heq⟩ <;>
    rw [heq]
  · omega
  · dsimp only
    omega
  · dsimp only
    rw [List.length_append, List.length_singleton]
    omega

theorem signal_users (endpoint : OcEndpoint) {x : Nat} (hx : x ∈ s.users) :
    x ∈ (s.coapSendSignalMessage L endpoint).users := by
  rcases coapSendSignalMessage_cases L s endpoint with ⟨hfree, heq⟩ | ⟨hfree, hfull, heq⟩ | ⟨hfree, hroom, heq⟩ <;>
    rw [heq]
  · exact hx
  · exact hx
  · refine mem_users.2 ((mem_users.1 hx).imp_right (Or.imp_right (Or.imp_left ?_)))
    rintro ⟨e, he, hmessage⟩
    exact ⟨e, List.mem_append_left _ he, hmessage⟩

theorem numFree_alloc (m : Message) (pool : Pool) : ({ s with heap := s.heap.alloc m } : Buffers).numFree L pool =
    s.numFree L pool - if m.pool = pool then 1 else 0 := by
  unfold Buffers.numFree Heap.alloc
  dsimp only
  rw [List.countP_append, List.countP_singleton]
  simp only [decide_eq_true_eq]
  omega

theorem Balanced.coapSend (h : Balanced s (id :: held)) {env : SendEnv} (hid : id ∈ held ++ s.users)
    (hfits : ∀ o ∈ s.heap.live, o.id = id → env.needsCsm o.val.endpoint = true → s.Fits L 1) :
    Balanced (s.coapSendMessage L env id) held := by
  obtain ⟨o, ho, hoid, heq⟩ := h.withMessage (List.mem_cons_self : id ∈ id :: (held ++ s.users))
    fun o => (if env.needsCsm o.val.endpoint then s.coapSendSignalMessage L o.val.endpoint else s).ocSendMessage id
  unfold Buffers.coapSendMessage
  rw [heq]
  by_cases hcsm : env.needsCsm o.val.endpoint = true
  · rw [if_pos hcsm]
    refine (h.signal (hfits o ho hoid hcsm) _).send (.inr ?_)
    exact List.mem_append.2 ((List.mem_append.1 hid).imp_right (signal_users _))
  · rw [if_neg hcsm]
    exact h.send (.inr hid)

/-- `coap_send_message` for a message that has just been allocated. -/
theorem coapSendMessage_new (hfresh : ∀ o ∈ s.heap.live, o.id < s.heap.next) (env : SendEnv) (endpoint : OcEndpoint) :
    (s.allocated endpoint).coapSendMessage L env s.heap.next =
      (if env.needsCsm endpoint then (s.allocated endpoint).coapSendSignalMessage L endpoint
        else s.allocated endpoint).ocSendMessage s.heap.next := by
  unfold Buffers.coapSendMessage Buffers.withMessage
  rw [show (s.allocated endpoint).heap.get? s.heap.next = _ from Heap.get?_alloc hfresh _]
  rfl

/-- The queue behind the allocation of a message, and the CSM that may go before it. -/
theorem length_events_new (hevents : s.events.length ≤ ocProcessNumEvents) (hfree : s.numFree L .outgoing ≠ 0)
    (csm : Prop) [Decidable csm] (endpoint : OcEndpoint) :
    (s.Fits L (if csm then 2 else 1) ↔
      (if csm then (s.allocated endpoint).coapSendSignalMessage L endpoint
        else s.allocated endpoint).events.length < ocProcessNumEvents) ∧
    (csm → s.Fits L 2 → (s.allocated endpoint).Fits L 1) := by
  have hdown : (s.allocated endpoint).numFree L .outgoing = s.numFree L .outgoing - 1 := numFree_alloc _ _
  have hsame : (s.allocated endpoint).events = s.events := rfl
  have hsignal := length_signal_events (L := L) (s := s.allocated endpoint) hevents endpoint
  rw [hdown, hsame] at hsignal
  unfold Buffers.Fits
  rw [hdown, hsame]
  by_cases hcsm : csm
  · simp only [if_pos hcsm]
    rw [hsignal]
    omega
  · simp only [if_neg hcsm]
    rw [hsame]
    omega

theorem Balanced.sendEmpty (h : Balanced s []) {env : SendEnv} {endpoint : OcEndpoint} {data : OcString}
    (hdata : 0 < data.length) (hfits : s.Fits L (if env.needsCsm endpoint = true then 2 else 1)) :
    Balanced (s.sendEmpty L env endpoint data) [] := by
  unfold Buffers.sendEmpty
  by_cases hfree : s.numFree L .outgoing = 0
  · rw [allocateMessage_none hfree]
    exact h
  · obtain ⟨hroom, hsignal⟩ := length_events_new h.events hfree (env.needsCsm endpoint = true) endpoint
    have hlt := hroom.1 hfits
    have hnew : Balanced (s.allocated endpoint) [s.heap.next] := (h.alloc (allocateMessage_some hfree endpoint)).1
    rw [allocateMessage_some hfree]
    dsimp only
    rw [if_pos hdata, coapSendMessage_new h.counted.fresh]
    generalize hs' : (if env.needsCsm endpoint = true then (s.allocated endpoint).coapSendSignalMessage L endpoint
      else s.allocated endpoint) = s' at hlt ⊢
    have hsent : Balanced s' [s.heap.next] := by
      rw [← hs']
      split
      · rename_i hcsm
        rw [if_pos hcsm] at hfits
        exact hnew.signal (hsignal hcsm hfits) endpoint
      · exact hnew
    have hdone := hsent.send (.inl hlt)
    have hposted : s.heap.next ∈ (s'.ocSendMessage s.heap.next).users := by
      rw [ocSendMessage_room (Nat.ne_of_lt hlt)]
      exact mem_users.2 (.inr (.inr (.inl ⟨_, List.mem_append_right _ (List.mem_singleton.2 rfl), rfl⟩)))
    obtain ⟨o, ho, -, heq⟩ := hdone.withMessage hposted fun o =>
      if o.count = 0#8 then (s'.ocSendMessage s.heap.next).ocMessageUnref s.heap.next else s'.ocSendMessage s.heap.next
    rw [heq, if_neg (hdone.count_ne_zero ho (Nat.zero_le _))]
    exact hdone

/-! ## Transactions and sessions -/

theorem map_message_filter (h : (s.transactions.map (·.message)).Nodup) (id : Nat) :
    (s.transactions.filter (·.message ≠ id)).map (·.message) = (s.transactions.map (·.message)).erase id := by
  rw [h.erase_eq_filter, List.filter_map]
  refine congrArg _ (List.filter_congr fun t _ => ?_)
  simp only [Function.comp_apply, bne, beq_eq_decide, decide_not]

theorem map_message_replace {u : OpenTransaction} (hu : u.message = id) (l : List OpenTransaction) :
    (l.map fun v => if v.message = id then u else v).map (·.message) = l.map (·.message) := by
  rw [List.map_map]
  refine List.map_congr_left fun v _ => ?_
  rw [Function.comp_apply]
  split
  · rename_i hv
    exact hu.trans hv.symm
  · rfl

theorem count_erase_add {l : List Nat} (hid : id ∈ l) (x : Nat) :
    [id].count x + (l.erase id).count x = l.count x := by
  rw [← List.count_append]
  exact ((List.perm_cons_erase hid).count_eq x).symm

namespace Balanced

theorem clear (h : Balanced s []) (id : Nat) : Balanced (s.coapClearTransaction id) [] := by
  unfold Buffers.coapClearTransaction
  split
  · rename_i hid
    have hmap := map_message_filter h.transactions id
    have hheld : Balanced { s with transactions := s.transactions.filter (·.message ≠ id) } [id] := by
      refine h.move rfl (fun x => ?_) h.events h.network ?_ h.queued
      · have hcount := count_erase_add hid x
        rw [count_users, count_users]
        dsimp only
        rw [hmap, List.count_nil]
        omega
      · show (List.map _ (s.transactions.filter _)).Nodup
        rw [hmap]
        exact h.transactions.erase id
    exact hheld.unref (Nat.zero_le _)
  · exact h

theorem releaseQueued (h : Balanced s []) (id : Nat) : Balanced (s.releaseQueued id) [] := by
  unfold Buffers.releaseQueued
  split
  · rename_i hid
    have hheld : Balanced { s with queued := s.queued.erase id } [id] := by
      refine h.move rfl (fun x => ?_) h.events h.network h.transactions (h.queued.erase id)
      have hcount := count_erase_add hid x
      rw [count_users, count_users, List.count_nil]
      dsimp only
      omega
    exact hheld.unref (Nat.zero_le _)
  · exact h

theorem foldl {f : Buffers → Nat → Buffers} (hf : ∀ {s : Buffers} (id : Nat), Balanced s [] → Balanced (f s id) []) :
    ∀ (l : List Nat) {s : Buffers}, Balanced s [] → Balanced (l.foldl f s) []
  | [], _, h => h
  | id :: l, _, h => foldl hf l (hf id h)

theorem closeConnection (h : Balanced s []) (session : List Nat × List Nat) :
    Balanced (s.ocTlsCloseConnection session) [] :=
  foldl (fun id h => h.releaseQueued id) session.2 (foldl (fun id h => h.clear id) session.1 h)

theorem numFree_addRef (h : Balanced s held) (hid : id ∈ held ++ s.users) (pool : Pool) :
    (s.ocMessageAddRef id).numFree L pool = s.numFree L pool := by
  have hcount : ∀ l : List (Obj 8 Message),
      l.countP (fun o => o.val.pool = pool) = (l.map Obj.val).countP (fun m => m.pool = pool) := by
    intro l
    rw [List.countP_map]
    rfl
  unfold Buffers.numFree
  rw [hcount, hcount,
    show (s.ocMessageAddRef id).heap.live.map Obj.val = _ from Heap.map_val_retain (h.counted.live id hid)]

theorem get?_addRef (h : Balanced s held) (hid : id ∈ held ++ s.users) {o : Obj 8 Message}
    (ho : o ∈ (s.ocMessageAddRef id).heap.live) (hoid : o.id = id) :
    ∃ p, s.heap.get? id = some p ∧ o.val = p.val := by
  rcases (Heap.mem_access (h.counted.live id hid)).1 ho with ⟨-, hne⟩ | ⟨p, hp, hpid, n, -, rfl⟩
  · exact absurd hoid hne
  · exact ⟨p, hpid ▸ h.counted.get?_of_mem hp, rfl⟩

theorem sendAgain (h : Balanced s []) {env : SendEnv} (hid : id ∈ s.users)
    (hfits : ∀ o, s.heap.get? id = some o → env.needsCsm o.val.endpoint = true → s.Fits L 1) :
    Balanced ((s.ocMessageAddRef id).coapSendMessage L env id) [] := by
  refine (h.addRef hid).coapSend hid fun o ho hoid hcsm => ?_
  obtain ⟨p, hp, hval⟩ := h.get?_addRef hid ho hoid
  have hfree := h.numFree_addRef (L := L) hid .outgoing
  unfold Buffers.Fits at hfits ⊢
  rw [hfree]
  exact hfits p hp (hval ▸ hcsm)

theorem sendTransaction (h : Balanced s []) {env : SendEnv} {t : OpenTransaction} (ht : t.message ∈ s.users)
    (hfits : env.mainInitialized = true → ∀ o, s.heap.get? t.message = some o →
      env.needsCsm o.val.endpoint = true → s.Fits L 1) :
    Balanced (s.coapSendTransaction L env t) [] := by
  unfold Buffers.coapSendTransaction
  split
  · exact h
  · rename_i hmain
    have hsend := h.sendAgain ht (hfits (Bool.not_eq_false _ ▸ hmain))
    obtain ⟨o, -, -, heq⟩ := h.withMessage ht fun o =>
      if !o.val.endpoint.flags.tcp && isConfirmable t.data then
        if t.retransCounter < coapMaxRetransmit then
          (s.ocMessageAddRef t.message).coapSendMessage L env t.message
        else if o.val.endpoint.flags.secured then s.ocTlsCloseConnection env.session
        else s.coapClearTransaction t.message
      else ((s.ocMessageAddRef t.message).coapSendMessage L env t.message).coapClearTransaction t.message
    rw [heq]
    split
    · split
      · exact hsend
      · split
        · exact h.closeConnection _
        · exact h.clear _
    · exact hsend.clear _

/-- The records of the transactions are changed, but not their messages. -/
theorem setTransactions (h : Balanced s []) {l : List OpenTransaction}
    (hl : l.map (·.message) = s.transactions.map (·.message)) : Balanced { s with transactions := l } [] := by
  refine h.move rfl (fun x => ?_) h.events h.network ?_ h.queued
  · rw [count_users, count_users]
    dsimp only
    rw [hl]
  · show (l.map (·.message)).Nodup
    rw [hl]
    exact h.transactions

theorem sendAs (h : Balanced s []) {env : SendEnv} {f : OpenTransaction → OpenTransaction}
    (hfits : env.mainInitialized = true → id ∈ s.transactions.map (·.message) → ∀ o, s.heap.get? id = some o →
      env.needsCsm o.val.endpoint = true → s.Fits L 1) :
    Balanced (s.sendAs L env id f) [] := by
  unfold Buffers.sendAs
  split
  · rename_i t ht
    have hmem : id ∈ s.transactions.map (·.message) :=
      List.mem_map.2 ⟨t, List.mem_of_find?_eq_some ht, by simpa using List.find?_some ht⟩
    have hset : ∀ u : OpenTransaction, u.message = id → Balanced (Buffers.coapSendTransaction L
        { s with transactions := s.transactions.map fun v => if v.message = id then u else v } env u) [] := by
      intro u hu
      have hmap := map_message_replace hu s.transactions
      refine sendTransaction (h.setTransactions hmap) (mem_users.2 (.inr (.inr (.inr (.inl ?_))))) ?_
      · refine List.mem_map.1 ?_
        rw [hmap, hu]
        exact hmem
      · rw [hu]
        exact fun hmain => hfits hmain hmem
    exact hset _ rfl
  · exact h

theorem newTransaction (h : Balanced s []) (endpoint : OcEndpoint) :
    Balanced (s.coapNewTransaction L endpoint) [] := by
  unfold Buffers.coapNewTransaction
  split
  · split
    · rename_i id s' halloc
      obtain ⟨hs', hnew, rfl⟩ := h.alloc halloc
      refine hs'.move rfl (fun x => ?_) hs'.events hs'.network ?_ hs'.queued
      · rw [count_users, count_users]
        rw [List.map_append, List.count_append, List.map_cons, List.map_nil, List.count_nil]
        dsimp only
        omega
      · show (List.map _ (s.transactions ++ [_])).Nodup
        rw [List.map_append]
        refine List.Nodup.append h.transactions (List.nodup_singleton _) fun x hx hid => ?_
        rw [List.mem_singleton.1 hid] at hx
        exact hnew (mem_users.2 (.inr (.inr (.inr (.inl (List.mem_map.1 hx))))))
    · exact h
  · exact h

/-! ## Events -/

/-- The first event is taken from the queue, with its message, and there is room for another one. -/
theorem pop (h : Balanced s []) {e : EventData} {rest : List EventData} (hevents : s.events = e :: rest) :
    Balanced { s with events := rest } e.message?.toList ∧ rest.length < ocProcessNumEvents := by
  have hlength := h.events
  rw [hevents, List.length_cons] at hlength
  refine ⟨h.move rfl (fun x => ?_) (by dsimp only; omega) h.network h.transactions h.queued, hlength⟩
  have hcount : e.message?.toList.count x + (rest.filterMap (·.message?)).count x =
      (s.events.filterMap (·.message?)).count x := by
    rw [hevents, ← List.count_append]
    cases e <;> rfl
  rw [count_users, count_users, List.count_nil]
  dsimp only
  omega

/-- `message_buffer_handler` finds room in the queue, which its own event has just left. -/
theorem messageBufferHandler {e : EventData} (h : Balanced s e.message?.toList)
    (hroom : s.events.length < ocProcessNumEvents) (connected : Bool)
    (hown : (∃ id, e = .inboundNetwork id ∨ e = .outboundNetwork id) ∨ e.message? = none) :
    Balanced (s.messageBufferHandler connected e) [] := by
  rcases hown with ⟨id, rfl | rfl⟩ | hnone
  · obtain ⟨o, -, -, heq⟩ := h.withMessage (List.mem_cons_self : id ∈ id :: s.users)
      fun o => s.post (if o.val.encrypted then .udpToTls id else .inboundRi id)
    rw [show s.messageBufferHandler connected (.inboundNetwork id) = _ from heq]
    refine h.post_room ?_ hroom
    split <;> rfl
  · obtain ⟨o, -, -, heq⟩ := h.withMessage (List.mem_cons_self : id ∈ id :: s.users) fun o =>
      if o.val.endpoint.flags.discovery then s.ocMessageUnref id
      else if o.val.endpoint.flags.secured then s.post (if connected then .riToTls id else .initTlsConn id)
      else s.ocMessageUnref id
    rw [show s.messageBufferHandler connected (.outboundNetwork id) = _ from heq]
    split
    · exact h.unref (Nat.zero_le _)
    · split
      · refine h.post_room ?_ hroom
        split <;> rfl
      · exact h.unref (Nat.zero_le _)
  · rw [hnone] at h
    cases e with
    | tlsCloseAllSessions => exact h.post_other rfl
    | closeAllSessions | other => exact h
    | _ => cases hnone

theorem doEvent (h : Balanced s []) (hhand : s.inHand = none) (connected : Bool) :
    Balanced (s.doEvent connected) [] := by
  unfold Buffers.doEvent
  split
  · exact h
  · rename_i e rest hevents
    obtain ⟨hrest, hroom⟩ := h.pop hevents
    have htake : ∀ id, e.message? = some id → Balanced { s with events := rest, inHand := some id } [] := by
      intro id he
      rw [he] at hrest
      refine hrest.move rfl (fun x => ?_) hrest.events hrest.network hrest.transactions hrest.queued
      rw [count_users, count_users]
      simp only [hhand, Option.toList_none, Option.toList_some, List.count_nil]
      omega
    cases e with
    | udpToTls id | initTlsConn id | riToTls id | inboundRi id => exact htake id rfl
    | inboundNetwork id => exact hrest.messageBufferHandler hroom connected (.inl ⟨id, .inl rfl⟩)
    | outboundNetwork id => exact hrest.messageBufferHandler hroom connected (.inl ⟨id, .inr rfl⟩)
    | tlsCloseAllSessions => exact hrest.messageBufferHandler hroom connected (.inr rfl)
    | closeAllSessions | other => exact hrest

theorem finish (h : Balanced s []) (keep : Bool) : Balanced (s.finish keep) [] := by
  unfold Buffers.finish
  split
  · rename_i id hhand
    have hheld : Balanced { s with inHand := none } [id] := by
      refine h.move rfl (fun x => ?_) h.events h.network h.transactions h.queued
      rw [count_users, count_users]
      simp only [hhand, Option.toList_none, Option.toList_some, List.count_nil]
      omega
    dsimp only
    split
    · rename_i hkeep
      refine hheld.move rfl (fun x => ?_) hheld.events hheld.network hheld.transactions ?_
      · rw [count_users, count_users, List.count_append, List.count_nil]
        dsimp only
        omega
      · refine List.Nodup.append h.queued (List.nodup_singleton _) fun x hx hid => hkeep.2 ?_
        rwa [List.mem_singleton.1 hid] at hx
    · exact hheld.unref (Nat.zero_le _)
  · exact h

theorem recvMessages : ∀ (l : List Nat) {s : Buffers}, l.Nodup → Balanced s l →
    Balanced (l.foldl Buffers.ocRecvMessage s) []
  | [], _, _, h => h
  | id :: l, _, hnodup, h => by
    obtain ⟨hid, hl⟩ := List.nodup_cons.1 hnodup
    exact recvMessages l hl (h.postOrUnref rfl (by rw [List.count_eq_zero_of_not_mem hid]; exact Nat.zero_le _))

theorem networkEvent (h : Balanced s []) : Balanced s.ocProcessNetworkEvent [] := by
  obtain ⟨hadapter, hnetwork, -⟩ := List.nodup_append.1 h.network
  refine recvMessages s.network hnetwork (h.move rfl (fun x => ?_) h.events ?_ h.transactions h.queued)
  · rw [count_users, count_users]
    simp only [List.count_nil]
    omega
  · rw [List.append_nil]
    exact hadapter

theorem takeIncoming (h : Balanced s []) (endpoint : OcEndpoint) (encrypted : Bool) :
    Balanced (s.takeIncoming L endpoint encrypted) [] := by
  unfold Buffers.takeIncoming
  split
  · exact h
  · rename_i hadapter
    split
    · rename_i id s' halloc
      obtain ⟨hs', hnew, rfl⟩ := h.alloc halloc
      refine hs'.move rfl (fun x => ?_) hs'.events ?_ hs'.transactions hs'.queued
      · rw [count_users, count_users]
        simp only [hadapter, Option.toList_none, Option.toList_some, List.count_nil]
        omega
      · refine List.nodup_cons.2 ⟨fun hmem => ?_, (List.nodup_append.1 h.network).2.1⟩
        exact hnew (mem_users.2 (.inr (.inl hmem)))
    · exact h

theorem handOver (h : Balanced s []) (received running : Bool) : Balanced (s.handOver received running) [] := by
  unfold Buffers.handOver
  split
  · rename_i id hadapter
    have hnodup := h.network
    rw [hadapter] at hnodup
    obtain ⟨hid, hnetwork⟩ := List.nodup_cons.1 hnodup
    have hheld : Balanced { s with adapter := none } [id] := by
      refine h.move rfl (fun x => ?_) h.events hnetwork h.transactions h.queued
      rw [count_users, count_users]
      simp only [hadapter, Option.toList_none, Option.toList_some, List.count_nil]
      omega
    dsimp only
    split
    · refine hheld.move rfl (fun x => ?_) hheld.events ?_ hheld.transactions hheld.queued
      · rw [count_users, count_users, List.count_append, List.count_nil]
        dsimp only
        omega
      · show (s.network ++ [id]).Nodup
        refine List.Nodup.append hnetwork (List.nodup_singleton _) fun x hx hmem => hid ?_
        rwa [List.mem_singleton.1 hmem] at hx
    · exact hheld.unref (Nat.zero_le _)
  · exact h

theorem readApplicationData (h : Balanced s []) (endpoint : OcEndpoint) (read : Bool) :
    Balanced (s.readApplicationData L endpoint read) [] := by
  unfold Buffers.readApplicationData
  split
  · rename_i id s' halloc
    have hs' := (h.alloc halloc).1
    split
    · exact hs'.postOrUnref rfl (Nat.zero_le _)
    · exact hs'.unref (Nat.zero_le _)
  · exact h

end Balanced

end Balanced

end SmartGarage.MessageBuffers
