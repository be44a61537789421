/-
The messages of `oc_buffer.c` over every run: each of them is returned to its pool behind its last user, and nobody
uses it after that, unless a message that is not part of a transaction meets a full queue, for then it is lost.
-/
import SmartGarage.Messaging.Framing
import SmartGarage.Messaging.MessageCounts

namespace SmartGarage.MessageBuffers

open RefCount Runs

/-! ## Lost messages -/

section Lost

variable {L : Limits} {s : Buffers} {held : List Nat} {id other : Nat} {env : SendEnv} {endpoint : OcEndpoint}

/-- The message has not been freed, and nobody uses it. -/
def Buffers.Lost (s : Buffers) (id : Nat) : Prop := Leaked s.heap s.users id

theorem Buffers.Lost.send (h : s.Lost id) (hne : id ≠ other) : (s.ocSendMessage other).Lost id := by
  by_cases hfull : s.events.length = ocProcessNumEvents
  · rw [ocSendMessage_full hfull]
    exact ⟨h.live.drop other, h.unreferred⟩
  · rw [ocSendMessage_room hfull]
    refine ⟨h.live, fun hmem => h.unreferred (mem_users.2 ?_)⟩
    refine (mem_users.1 hmem).imp_right (Or.imp_right (Or.imp_left ?_))
    rintro ⟨e, he, hmessage⟩
    rcases List.mem_append.1 he with he | he
    · exact ⟨e, he, hmessage⟩
    · rw [List.mem_singleton.1 he] at hmessage
      exact absurd (Option.some.inj hmessage).symm hne

theorem Buffers.Lost.clear (h : s.Lost id) (hne : id ≠ other) : (s.coapClearTransaction other).Lost id := by
  unfold Buffers.coapClearTransaction
  split
  · refine ⟨h.live.access hne, fun hmem => h.unreferred (mem_users.2 ?_)⟩
    refine (mem_users.1 hmem).imp_right (Or.imp_right (Or.imp_right (Or.imp_left ?_)))
    rintro ⟨t, ht, hmessage⟩
    exact ⟨t, List.mem_of_mem_filter ht, hmessage⟩
  · exact h

/-- A message that cannot be posted is counted down to zero, and is not freed when it is counted down further. -/
theorem lost_unref (hlive : s.heap.Live id) (hfull : s.events.length = ocProcessNumEvents) (hid : id ∉ s.users) :
    ((s.ocSendMessage id).withMessage id fun o =>
      if o.count = 0#8 then (s.ocSendMessage id).ocMessageUnref id else s.ocSendMessage id).Lost id := by
  rw [ocSendMessage_full hfull]
  obtain ⟨o, ho⟩ := (hlive.drop id).get?
  unfold Buffers.withMessage
  rw [ho]
  dsimp only
  split
  · rename_i hzero
    exact ⟨Heap.live_release_zero ho (by decide) hzero, hid⟩
  · exact ⟨hlive.drop id, hid⟩

theorem signal_lost (h : Balanced s held) (hfits : ¬s.Fits L 1) (endpoint : OcEndpoint) :
    (s.coapSendSignalMessage L endpoint).Lost s.heap.next := by
  have hevents := h.events
  have hnew : s.heap.next ∉ s.users := fun hmem =>
    Nat.lt_irrefl _ (h.counted.lt_next (List.mem_append_right held hmem))
  unfold Buffers.Fits at hfits
  rcases coapSendSignalMessage_cases L s endpoint with ⟨hfree, -⟩ | ⟨-, hfull, heq⟩ | ⟨-, hroom, -⟩
  · omega
  · rw [heq]
    have hlive : (s.heap.alloc (.outgoing endpoint)).Live s.heap.next :=
      ⟨_, List.mem_append_right _ (List.mem_singleton.2 rfl), rfl⟩
    exact ⟨hlive.drop _, hnew⟩
  · omega

theorem signal_other (hlive : s.heap.Live id) (hid : id ∉ s.users) (hne : id ≠ s.heap.next) (endpoint : OcEndpoint) :
    (s.coapSendSignalMessage L endpoint).heap.Live id ∧ id ∉ (s.coapSendSignalMessage L endpoint).users := by
  rcases coapSendSignalMessage_cases L s endpoint with ⟨-, heq⟩ | ⟨-, -, heq⟩ | ⟨-, -, heq⟩ <;> rw [heq]
  · exact ⟨hlive, hid⟩
  · exact ⟨(hlive.alloc _).drop _, hid⟩
  · refine ⟨hlive.alloc _, fun hmem => hid (mem_users.2 ?_)⟩
    refine (mem_users.1 hmem).imp_right (Or.imp_right (Or.imp_left ?_))
    rintro ⟨e, he, hmessage⟩
    rcases List.mem_append.1 he with he | he
    · exact ⟨e, he, hmessage⟩
    · rw [List.mem_singleton.1 he] at hmessage
      exact absurd (Option.some.inj hmessage).symm hne

theorem sendEmpty_lost (h : Balanced s held) {data : OcString} (hdata : 0 < data.length)
    (hfits : ¬s.Fits L (if env.needsCsm endpoint = true then 2 else 1)) :
    (s.sendEmpty L env endpoint data).Lost s.heap.next := by
  have hevents := h.events
  have hfree : s.numFree L .outgoing ≠ 0 := by
    intro hfree
    unfold Buffers.Fits at hfits
    omega
  have hnew : Balanced (s.allocated endpoint) (s.heap.next :: held) := (h.alloc (allocateMessage_some hfree endpoint)).1
  have hroom := mt (length_events_new hevents hfree (env.needsCsm endpoint = true) endpoint).1.2 hfits
  have hunused : s.heap.next ∉ s.users := fun hmem =>
    Nat.lt_irrefl _ (h.counted.lt_next (List.mem_append_right held hmem))
  have hlive : (s.allocated endpoint).heap.Live s.heap.next := hnew.counted.live _ List.mem_cons_self
  unfold Buffers.sendEmpty
  rw [allocateMessage_some hfree]
  dsimp only
  rw [if_pos hdata, coapSendMessage_new h.counted.fresh]
  by_cases hcsm : env.needsCsm endpoint = true
  · rw [if_pos hcsm] at hroom ⊢
    obtain ⟨hlive', hunused'⟩ :=
      signal_other (L := L) hlive hunused (Nat.ne_of_lt (Nat.lt_succ_self s.heap.next)) endpoint
    refine lost_unref hlive' ?_ hunused'
    have hfilled := length_signal_events (L := L) hnew.events endpoint
    omega
  · rw [if_neg hcsm] at hroom ⊢
    exact lost_unref hlive (Nat.le_antisymm hevents (Nat.not_lt.1 hroom)) hunused

theorem sendTransaction_lost (h : Balanced s []) {t : OpenTransaction} (ht : t.message ∈ s.users)
    (hmain : env.mainInitialized = true) {o : Obj 8 Message} (ho : s.heap.get? t.message = some o)
    (hcsm : env.needsCsm o.val.endpoint = true) (hfits : ¬s.Fits L 1) :
    (s.coapSendTransaction L env t).Lost s.heap.next := by
  have htcp : o.val.endpoint.flags.tcp = true := by
    unfold SendEnv.needsCsm at hcsm
    simp only [Bool.and_eq_true] at hcsm
    exact hcsm.1.1
  have hne : s.heap.next ≠ t.message := (Nat.ne_of_lt (h.counted.lt_next ht)).symm
  have href := h.addRef ht
  have hfits' : ¬(s.ocMessageAddRef t.message).Fits L 1 := by
    unfold Buffers.Fits at hfits ⊢
    rw [h.numFree_addRef ht]
    exact hfits
  have hnext : (s.ocMessageAddRef t.message).heap.next = s.heap.next := by
    unfold Buffers.ocMessageAddRef Heap.retain
    rw [Heap.access_live (h.counted.live _ ht)]
  have hsent : ((s.ocMessageAddRef t.message).coapSendMessage L env t.message).Lost s.heap.next := by
    obtain ⟨o', ho', hoid⟩ := href.withMessage (List.mem_cons_self : t.message ∈ t.message :: s.users) fun o =>
      (if env.needsCsm o.val.endpoint then (s.ocMessageAddRef t.message).coapSendSignalMessage L o.val.endpoint
        else s.ocMessageAddRef t.message).ocSendMessage t.message
    obtain ⟨p, hp, hval⟩ := h.get?_addRef ht ho' hoid.1
    have hlost := (signal_lost href hfits' o'.val.endpoint).send (hnext ▸ hne)
    rw [hnext] at hlost
    have hcsm' : env.needsCsm o'.val.endpoint = true := by
      rw [hval, ← Option.some.inj (ho.symm.trans hp)]
      exact hcsm
    unfold Buffers.coapSendMessage
    rw [hoid.2, if_pos hcsm']
    exact hlost
  unfold Buffers.coapSendTransaction Buffers.withMessage
  rw [if_neg (by rw [hmain]; exact Bool.noConfusion), ho]
  dsimp only
  rw [htcp, if_neg (by simp)]
  exact hsent.clear hne

end Lost

/-! ## Every run -/

/-- Nothing has been done to a message that had been freed, and the messages that have not been freed are those that
have a user. -/
def Buffers.Kept (s : Buffers) : Prop := s.heap.faults = 0 ∧ ∀ id, s.heap.Live id ↔ id ∈ s.users

/-- The condition of an action: the messages that it allocates outside of a transaction fit into the queue. These are
the message itself, and the CSM that goes before a message over TCP. -/
def Guard (L : Limits) (s : Buffers) : Action → Prop
  | .sendTransaction env id _ | .expire env id =>
    env.mainInitialized = true → id ∈ s.transactions.map (·.message) → ∀ o, s.heap.get? id = some o →
      env.needsCsm o.val.endpoint = true → s.Fits L 1
  | .emptyResponse env _ _ _ _ endpoint | .separateAck env _ endpoint =>
    s.Fits L (if env.needsCsm endpoint = true then 2 else 1)
  | .signal _ => s.Fits L 1
  | _ => True

section Runs

variable {L : Limits} {s : Buffers} {id : Nat} {env : SendEnv}

theorem Balanced.kept (h : Balanced s []) : s.Kept := ⟨h.counted.faults, fun _ => h.counted.live_iff⟩

theorem Buffers.Lost.not_kept (h : s.Lost id) : ¬s.Kept := fun hkept => h.unreferred ((hkept.2 id).1 h.live)

theorem emptyResponse_pos (type : CoapMessageType) (mid : UInt16) (token : OcString) (code : UInt8) :
    0 < (coapSerializeMessage (if token.length > 0 then (coapUdpInitMessage type code mid).setToken token
      else coapUdpInitMessage type code mid)).length :=
  List.length_pos_iff.2 (empty_unset type code mid token).2.2

theorem step_balanced (h : Balanced s []) (a : Action) (hguard : Guard L s a) : Balanced (step L s a) [] := by
  cases a with
  | takeIncoming endpoint encrypted => exact h.takeIncoming endpoint encrypted
  | handOver received running => exact h.handOver received running
  | poll => exact h.networkEvent
  | post close => exact h.post_other (by cases close <;> rfl)
  | newTransaction endpoint => exact h.newTransaction endpoint
  | sendTransaction env id data => exact h.sendAs hguard
  | expire env id => exact h.sendAs hguard
  | clearTransaction id => exact h.clear id
  | emptyResponse env type mid token code endpoint => exact h.sendEmpty (emptyResponse_pos type mid token code) hguard
  | separateAck env mid endpoint => exact h.sendEmpty (emptyResponse_pos .ack mid [] 0) hguard
  | signal endpoint => exact h.signal hguard endpoint
  | readApplicationData endpoint read => exact h.readApplicationData endpoint read
  | releaseQueued id => exact h.releaseQueued id
  | deliver connected =>
    rw [step]
    split
    · exact h
    · rename_i hhand
      exact h.doEvent (Option.not_isSome_iff_eq_none.1 hhand) connected
  | finish keep => exact h.finish keep

theorem sendAs_lost (h : Balanced s []) {f : OpenTransaction → OpenTransaction}
    (hguard : ¬(env.mainInitialized = true → id ∈ s.transactions.map (·.message) → ∀ o, s.heap.get? id = some o →
      env.needsCsm o.val.endpoint = true → s.Fits L 1)) :
    (s.sendAs L env id f).Lost s.heap.next := by
  simp only [Classical.not_imp, not_forall] at hguard
  obtain ⟨hmain, hmem, o, ho, hcsm, hfits⟩ := hguard
  unfold Buffers.sendAs
  cases hfind : s.transactions.find? (·.message = id) with
  | none =>
    obtain ⟨t, ht, htid⟩ := List.mem_map.1 hmem
    exact absurd (decide_eq_true htid) (List.find?_eq_none.1 hfind t ht)
  | some t =>
    have hset : ∀ u : OpenTransaction, u.message = id → (Buffers.coapSendTransaction L
        { s with transactions := s.transactions.map fun v => if v.message = id then u else v } env u).Lost
          s.heap.next := by
      intro u hu
      have hmap := map_message_replace hu s.transactions
      refine sendTransaction_lost (h.setTransactions hmap) (mem_users.2 (.inr (.inr (.inr (.inl ?_))))) hmain
        (hu.symm ▸ ho) hcsm hfits
      refine List.mem_map.1 ?_
      rw [hmap, hu]
      exact hmem
    exact hset _ rfl

theorem step_lost (h : Balanced s []) (a : Action) (hguard : ¬Guard L s a) : (step L s a).Lost s.heap.next := by
  cases a with
  | sendTransaction env id data => exact sendAs_lost h hguard
  | expire env id => exact sendAs_lost h hguard
  | emptyResponse env type mid token code endpoint =>
    exact sendEmpty_lost h (emptyResponse_pos type mid token code) hguard
  | separateAck env mid endpoint => exact sendEmpty_lost h (emptyResponse_pos .ack mid [] 0) hguard
  | signal endpoint => exact signal_lost h hguard endpoint
  | _ => exact absurd trivial hguard

end Runs

/-- In every state of a run the messages that have not been freed are those that have a user, and nothing has been
done to a freed one, if and only if each message that is sent outside of a transaction finds room in the queue. -/
theorem messages_kept_iff (L : Limits) (run : List Action) :
    (∀ run', run' <+: run → (runFrom (step L) .init run').Kept) ↔ Guarded (step L) (Guard L) .init run :=
  always_iff_guarded (fun _ h => h.kept) (fun _ a h hguard => step_balanced h a hguard)
    (fun _ a h hguard => (step_lost h a hguard).not_kept) balanced_init

/-- A stack that is initialised, and no session. -/
def sampleSend : SendEnv := ⟨true, false, .none, [], []⟩

/-- Ten messages that need no acknowledgement are sent before an event is delivered. -/
def tenSent : List Action :=
  (List.range 10).flatMap fun id => [.newTransaction .zero, .sendTransaction sampleSend id [0x50, 1, 0, 0]]

/-- The acknowledgement of a request finds the queue full: its count goes to 0 and then, below that, to 255. -/
theorem acknowledgement_lost :
    ¬(runFrom (step ⟨12, 12⟩) .init (tenSent ++ [.separateAck sampleSend 7 .zero])).Kept := by
  have hlost : (∃ o ∈ (runFrom (step ⟨12, 12⟩) .init (tenSent ++ [.separateAck sampleSend 7 .zero])).heap.live,
      o.id = 10) ∧ 10 ∉ (runFrom (step ⟨12, 12⟩) .init (tenSent ++ [.separateAck sampleSend 7 .zero])).users := by
    decide
  exact fun hkept => hlost.2 ((hkept.2 10).1 hlost.1)

end SmartGarage.MessageBuffers
