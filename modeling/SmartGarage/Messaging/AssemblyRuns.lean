/-
Runs of requests with a Block1 option: while the blocks keep to the condition, the bytes of the current transfer are at
the start of the buffer that they go to, and a last block makes them all of it.
-/
import SmartGarage.Messaging.Assembly
import SmartGarage.Messaging.Transfers

namespace SmartGarage

open Runs

/-! ## Buffers that are left alone -/

/-- The request buffers behind a step are some of those in front of it, with other reference counts at most. -/
def Trimmed (st st' : Engine) : Prop :=
  ∀ b ∈ st'.requests, ∃ a ∈ st.requests, ∃ n, b = { a with refCount := n }

theorem Trimmed.of_subset {st st' : Engine} (h : st'.requests ⊆ st.requests) : Trimmed st st' :=
  fun b hb => ⟨b, h hb, b.refCount, rfl⟩

theorem Trimmed.of_eq {st st' : Engine} (h : st'.requests = st.requests) : Trimmed st st' :=
  .of_subset (by rw [h]; exact List.Subset.refl _)

theorem Trimmed.trans {st st' st'' : Engine} (h : Trimmed st st') (h' : Trimmed st' st'') : Trimmed st st'' := by
  intro c hc
  obtain ⟨b, hb, n, rfl⟩ := h' c hc
  obtain ⟨a, ha, m, rfl⟩ := h b hb
  exact ⟨a, ha, n, rfl⟩

section Frame

variable (env : EngineEnv) (csm : CsmState) (st : Engine) (message : CoapPacket) (endpoint : OcEndpoint)
  (response : CoapPacket)

theorem trimmed_releaseRequest (id : Option Nat) : Trimmed st (st.releaseRequest id) := by
  unfold Engine.releaseRequest
  split
  · rename_i b hb
    intro c hc
    rcases mem_replaceBuffer hc with rfl | hc
    · exact ⟨b, mem_of_bind_request st hb, 0, rfl⟩
    · exact ⟨c, hc, c.refCount, rfl⟩
  · exact .of_eq rfl

theorem trimmed_releaseResponse (id : Option Nat) : Trimmed st (st.releaseResponse id) := by
  unfold Engine.releaseResponse
  split <;> exact .of_eq rfl

theorem sendResponse_requests : (sendResponse env csm message endpoint st response).1.requests = st.requests := by
  unfold sendResponse
  dsimp only
  split
  all_goals
    split
    · exact (coapSendTransaction_buffers env csm st _ endpoint _).1
    · rfl

theorem trimmed_sendResponse : Trimmed st (sendResponse env csm message endpoint st response).1 :=
  .of_eq (sendResponse_requests env csm st message endpoint response)

theorem trimmed_sendReset (rq rs : Option Nat) : Trimmed st (sendReset env csm message endpoint st rq rs).1 :=
  ((trimmed_releaseRequest st rq).trans (trimmed_releaseResponse _ rs)).trans
    (trimmed_sendResponse env csm _ message endpoint _)

theorem trimmed_invoke (rq rs : Option Nat) :
    Trimmed st (ocRiInvokeCoapEntityHandler env csm st message endpoint response rq rs).st := by
  have hfree : Trimmed st (freeParsedRequest st message rq).2 := by
    unfold freeParsedRequest
    split
    · split
      · exact .of_subset fun _ => List.mem_of_mem_filter
      · exact .of_eq rfl
    · exact .of_eq rfl
  have hbuffer (st : Engine) : Trimmed st (handlerBuffer env st message endpoint rs).2.2 := by
    unfold handlerBuffer ocBlockwiseAllocResponseBuffer
    split
    · split
      · exact .of_eq rfl
      · split
        · rename_i halloc
          split at halloc
          · cases halloc
          · cases halloc
            exact .of_eq rfl
        · exact .of_eq rfl
    · exact .of_eq rfl
  unfold ocRiInvokeCoapEntityHandler
  rw [finishHandler_st]
  refine (hfree.trans (hbuffer _)).trans ?_
  split <;> exact .of_eq rfl

theorem trimmed_respond (r : HandlerResult) : Trimmed r.st (respond env message endpoint r).1 := by
  unfold respond
  split
  · split
    · unfold firstBlock
      dsimp only
      split
      · split <;> exact .of_eq rfl
      · split
        all_goals split <;> exact .of_eq rfl
    · exact .of_eq rfl
  · exact (trimmed_releaseRequest _ _).trans (trimmed_releaseResponse _ _)

theorem trimmed_handleRequest (rq rs : Option Nat) :
    Trimmed st (handleRequest env csm message endpoint st response rq rs).1 := by
  have hinvoke := trimmed_invoke env csm st message endpoint response rq rs
  unfold handleRequest
  generalize ocRiInvokeCoapEntityHandler env csm st message endpoint response rq rs = r at *
  have hrespond := hinvoke.trans (trimmed_respond env message endpoint r)
  dsimp only
  split
  · exact hrespond
  · split
    · exact hrespond.trans (trimmed_sendResponse env csm _ message endpoint _)
    · exact hrespond.trans (trimmed_sendReset env csm _ message endpoint _ _)

theorem trimmed_goOn (step : ServerStep) : Trimmed step.st (goOn env csm message endpoint step).1 := by
  obtain ⟨st, out, next⟩ := step
  cases next with
  | send response => exact trimmed_sendResponse env csm st message endpoint response
  | clear => exact .of_eq rfl
  | handle response rq rs => exact trimmed_handleRequest env csm st message endpoint response rq rs
  | reset rq rs => exact trimmed_sendReset env csm st message endpoint rq rs

theorem trimmed_scrubBuffers : Trimmed st st.scrubBuffers := .of_subset fun _ => List.mem_of_mem_filter

theorem sendReset_frees (id : Nat) (rs : Option Nat) :
    ∀ b ∈ (sendReset env csm message endpoint st (some id) rs).1.scrubBuffers.requests, b.id ≠ id := by
  intro b hb hid
  obtain ⟨hmem, hused⟩ := List.mem_filter.1 hb
  have hrelease : ((st.releaseRequest (some id)).releaseResponse rs).requests = (st.releaseRequest (some id)).requests := by
    unfold Engine.releaseResponse
    split <;> rfl
  unfold sendReset at hmem
  rw [sendResponse_requests, hrelease] at hmem
  have hunused := releaseRequest_unused st id b hmem hid
  simp [hunused] at hused

end Frame

/-! ## What is handed over -/

section Handed

variable (env : EngineEnv) (csm : CsmState) (st : Engine) (message : CoapPacket) (endpoint : OcEndpoint)
  (response : CoapPacket) (payload : OcString)

theorem mem_handedOver {out : List Output} {payload : OcString} : payload ∈ handedOver out ↔ .handler payload ∈ out := by
  unfold handedOver
  rw [List.mem_filterMap]
  constructor
  · rintro ⟨o, ho, heq⟩
    cases o with
    | handler p =>
      cases heq
      exact ho
    | send endpoint data => cases heq
    | callback cb code p => cases heq
  · exact fun h => ⟨_, h, rfl⟩

theorem not_handler_coapSendMessage (data : OcString) : .handler payload ∉ coapSendMessage env csm endpoint data := by
  unfold coapSendMessage coapSendSignalMessage
  split
  · split <;> simp
  · simp

theorem not_handler_coapSendEmptyResponse (type : CoapMessageType) (mid : UInt16) (token : OcString) (code : UInt8) :
    .handler payload ∉ coapSendEmptyResponse env csm type mid token code endpoint := by
  unfold coapSendEmptyResponse
  dsimp only
  split
  · split
    all_goals
      split
      · exact not_handler_coapSendMessage env csm endpoint payload _
      · exact List.not_mem_nil
  · exact List.not_mem_nil

theorem not_handler_sendResponse : .handler payload ∉ (sendResponse env csm message endpoint st response).2 := by
  unfold sendResponse coapSendTransaction
  dsimp only
  split
  all_goals
    split
    · split
      · exact List.not_mem_nil
      · exact not_handler_coapSendMessage env csm endpoint payload _
    · exact List.not_mem_nil

theorem not_handler_sendReset (rq rs : Option Nat) : .handler payload ∉ (sendReset env csm message endpoint st rq rs).2 :=
  not_handler_sendResponse env csm _ message endpoint _ payload

theorem handler_finishHandler {rq rs : Option Nat} {success ignore : Bool} {code : UInt8} {given answer payload : OcString}
    (h : .handler payload ∈ (finishHandler env csm st message endpoint response rq rs success ignore code given answer).out) :
    payload = given := by
  have hout (h : .handler payload ∈ (if success then [.handler given] else [] : List Output)) : payload = given := by
    split at h
    · cases List.mem_singleton.1 h
      rfl
    · exact absurd h List.not_mem_nil
  unfold finishHandler at h
  dsimp only at h
  split at h
  · rcases List.mem_append.1 h with h | h
    · exact hout h
    · split at h
      · exact absurd h (not_handler_coapSendEmptyResponse env csm endpoint payload _ _ _ _)
      · exact absurd h List.not_mem_nil
  · split at h <;> exact hout h

theorem handler_handleRequest {rq rs : Option Nat} {payload : OcString}
    (h : .handler payload ∈ (handleRequest env csm message endpoint st response rq rs).2) :
    payload = requestPayload st rq := by
  have hinvoke (h : .handler payload ∈ (ocRiInvokeCoapEntityHandler env csm st message endpoint response rq rs).out) :
      payload = requestPayload st rq := handler_finishHandler env csm _ message endpoint response h
  unfold handleRequest at h
  dsimp only at h
  split at h
  · exact hinvoke h
  · rcases List.mem_append.1 h with h | h
    · exact hinvoke h
    · split at h
      · exact absurd h (not_handler_sendResponse env csm _ message endpoint _ payload)
      · exact absurd h (not_handler_sendReset env csm _ message endpoint payload _ _)

theorem handler_goOn {step : ServerStep} {payload : OcString}
    (h : .handler payload ∈ (goOn env csm message endpoint step).2) :
    ∃ r rq rs, step.next = .handle r rq rs ∧ payload = requestPayload step.st rq := by
  obtain ⟨st, out, next⟩ := step
  cases next with
  | send response => exact absurd h (not_handler_sendResponse env csm st message endpoint response payload)
  | clear => exact absurd h List.not_mem_nil
  | handle response rq rs => exact ⟨response, rq, rs, rfl, handler_handleRequest env csm st message endpoint response h⟩
  | reset rq rs => exact absurd h (not_handler_sendReset env csm st message endpoint payload rq rs)

theorem not_handler_receiveBlock1 : .handler payload ∉ (receiveBlock1 env csm st message endpoint response).out := by
  unfold receiveBlock1
  dsimp only
  split
  · exact List.not_mem_nil
  · split
    · exact List.not_mem_nil
    · split
      · exact List.not_mem_nil
      · dsimp only
        split
        · exact not_handler_coapSendEmptyResponse env csm endpoint payload _ _ _ _
        · exact List.not_mem_nil

end Handed

/-! ## One block -/

/-- The bytes of a transfer are at the start of a buffer. -/
structure Stores (B : BufferSettings) (transfer : OcString) (b : BlockwiseState) : Prop where
  transfer : transfer <+: b.stored
  length : b.buffer.length = B.maxAppDataSize
  place : b.nextBlockOffset.toNat ≤ b.buffer.length

/-- There is one request buffer for the key at most, and it stores the transfer. -/
structure StoresTransfer (B : BufferSettings) (k : BlockwiseKey) (transfer : OcString) (st : Engine) : Prop where
  one : ∀ b ∈ st.requests, ∀ c ∈ st.requests, k.finds b = true → k.finds c = true → b.id = c.id
  stores : ∀ b ∈ st.requests, k.finds b = true → Stores B transfer b

section Block

variable {B : BufferSettings} {k : BlockwiseKey} {transfer : OcString} {message : CoapPacket} {endpoint : OcEndpoint}
  {b b' : BlockwiseState} {env : EngineEnv} {csm : CsmState} {st st' : Engine} {response : CoapPacket}

theorem StoresTransfer.trimmed (h : StoresTransfer B k transfer st) (ht : Trimmed st st') : StoresTransfer B k transfer st' := by
  refine ⟨fun b hb c hc hfb hfc => ?_, fun b hb hfb => ?_⟩
  · obtain ⟨b₀, hb₀, n, rfl⟩ := ht b hb
    obtain ⟨c₀, hc₀, m, rfl⟩ := ht c hc
    exact h.one b₀ hb₀ c₀ hc₀ hfb hfc
  · obtain ⟨b₀, hb₀, n, rfl⟩ := ht b hb
    obtain ⟨htransfer, hlength, hplace⟩ := h.stores b₀ hb₀ hfb
    exact ⟨htransfer, hlength, hplace⟩

theorem storesTransfer_none (h : ∀ b ∈ st.requests, k.finds b = false) : StoresTransfer B k transfer st :=
  ⟨fun b hb _ _ hfb _ => absurd hfb (by simp [h b hb]), fun b hb hfb => absurd hfb (by simp [h b hb])⟩

theorem Stores.stored_length (h : Stores B transfer b) : b.stored.length = b.nextBlockOffset.toNat := by
  unfold BlockwiseState.stored
  rw [List.length_take]
  exact Nat.min_eq_left h.place

/-- A block that is stored, or that repeats what is stored, leaves the transfer at the start of the buffer. -/
theorem handleBlock_stores (h : Stores B (transferBefore transfer message) b) (hwhole : WholeBlock B message)
    (hcont : message.block1.offset ≤ b.nextBlockOffset → Continues transfer message b)
    (hb : ocBlockwiseHandleBlock B b message.block1.offset message.payload = some b') :
    Stores B (transferWith transfer message) b' ∧ (message.block1.more = 0 → transferWith transfer message = b'.stored ∧
      b'.nextBlockOffset.toNat = message.block1.offset.toNat + message.payload.length) := by
  have hstored := h.stored_length
  have hstop := hwhole.stop
  unfold ocBlockwiseHandleBlock at hb
  split at hb
  · cases hb
  · rename_i hrefused
    rw [not_or, not_or, Nat.not_le, not_lt, gt_iff_lt, UInt32.not_lt] at hrefused
    obtain ⟨hbelow, hroom, hreach⟩ := hrefused
    obtain ⟨hwithin, hagain⟩ := hcont hreach
    have hle := List.IsPrefix.length_le h.transfer
    have hmax : message.block1.offset.toNat < B.maxAppDataSize := Nat.lt_of_lt_of_le hbelow (Nat.mod_le _ _)
    split at hb
    · -- the block is appended
      rename_i hplace
      cases hb
      have hnext : (b.nextBlockOffset + UInt32.ofNat message.payload.length).toNat =
          message.block1.offset.toNat + message.payload.length := by
        rw [UInt32.toNat_add, UInt32.toNat_ofNat', hplace, Nat.mod_eq_of_lt (a := message.payload.length) (by omega),
          Nat.mod_eq_of_lt hstop]
      have hlength : b.stored.length = message.block1.offset.toNat := by rw [hstored, hplace]
      have hwhole' : transferBefore transfer message = b.stored :=
        h.transfer.eq_of_length (by omega)
      have hwith : transferWith transfer message = b.stored ++ message.payload := by
        unfold transferWith Chunks.put Memory.write
        rw [if_pos hwithin, hwhole', ← hlength, List.take_length, List.drop_eq_nil_of_le (by omega), List.append_nil]
      have hbytes : BlockwiseState.stored { b with
          buffer := writeAt b.buffer message.block1.offset.toNat message.payload
          nextBlockOffset := b.nextBlockOffset + UInt32.ofNat message.payload.length } = b.stored ++ message.payload := by
        unfold BlockwiseState.stored writeAt
        rw [hnext, hplace, List.take_append_of_le_length, List.take_of_length_le]
        all_goals
          rw [List.length_append, List.length_take]
          have hlen := h.length
          omega
      refine ⟨⟨?_, ?_, ?_⟩, fun _ => ⟨hwith.trans hbytes.symm, hnext⟩⟩
      · exact ⟨[], (List.append_nil _).trans (hwith.trans hbytes.symm)⟩
      · show (writeAt b.buffer message.block1.offset.toNat message.payload).length = B.maxAppDataSize
        unfold writeAt
        rw [List.length_append, List.length_append, List.length_take, List.length_drop]
        have hlen := h.length
        omega
      · rw [hnext]
        show _ ≤ (writeAt b.buffer message.block1.offset.toNat message.payload).length
        unfold writeAt
        rw [List.length_append, List.length_append, List.length_take, List.length_drop]
        have hlen := h.length
        omega
    · -- the block repeats bytes that are stored
      rename_i hplace
      cases hb
      have hlt : message.block1.offset < b.nextBlockOffset :=
        UInt32.lt_of_le_of_ne hreach fun heq => hplace heq.symm
      obtain ⟨hstands, hlast⟩ := hagain hlt
      have hwith : transferWith transfer message <+: b.stored := Chunks.put_isPrefix h.transfer hstands
      refine ⟨⟨hwith, h.length, h.place⟩, fun hmore => ?_⟩
      have hend := hlast hmore
      exact ⟨Chunks.put_last h.transfer hstands hwithin (by rw [hstored]; exact hend), hend.symm⟩

theorem incomingBlock1_whole (h : WholeBlock env.settings message) : incomingBlock1 env message = message.payload := by
  have hsize := h.size
  have hlt := (block1Size env.settings message).toNat_lt
  unfold incomingBlock1
  refine List.take_of_length_le ?_
  rw [UInt16.toNat_min, UInt16.toNat_ofNat', Nat.mod_eq_of_lt (by omega), Nat.min_eq_left hsize]

theorem findBlock1Buffer_congr (h : st'.requests = st.requests) (message : CoapPacket) (endpoint : OcEndpoint) :
    (findBlock1Buffer st' message endpoint).1 = (findBlock1Buffer st message endpoint).1 := by
  unfold findBlock1Buffer
  rw [h]
  split
  · split <;> rfl
  · rfl

theorem findBlock1Buffer_none (h : StoresTransfer B (requestKey message endpoint) transfer st)
    (hfound : findBlock1Buffer st message endpoint = (none, st')) :
    st'.requests ⊆ st.requests ∧ ∀ b ∈ st'.requests, (requestKey message endpoint).finds b = false := by
  unfold findBlock1Buffer at hfound
  split at hfound
  · rename_i b hb
    split at hfound
    · cases hfound
      refine ⟨fun _ => List.mem_of_mem_filter, fun c hc => ?_⟩
      obtain ⟨hc, hne⟩ := List.mem_filter.1 hc
      by_contra hfinds
      rw [Bool.not_eq_false] at hfinds
      have hsame := h.one c hc b (List.mem_of_find?_eq_some hb) hfinds (List.find?_some hb)
      simp [hsame] at hne
    · cases hfound
  · rename_i hnone
    cases hfound
    exact ⟨List.Subset.refl _, fun c hc => by simpa using List.find?_eq_none.1 hnone c hc⟩

theorem findBlock1Buffer_some (hfound : findBlock1Buffer st message endpoint = (some b, st')) :
    st' = st ∧ b ∈ st.requests ∧ (requestKey message endpoint).finds b = true := by
  unfold findBlock1Buffer at hfound
  split at hfound
  · rename_i a ha
    split at hfound
    · cases hfound
    · cases hfound
      exact ⟨rfl, List.mem_of_find?_eq_some ha, List.find?_some ha⟩
  · cases hfound

/-- The buffer of a block: every buffer that is found has its address, and what it stores is in front of the block. -/
theorem block1Buffer_some (h : StoresTransfer env.settings (requestKey message endpoint) transfer st)
    (hbuffer : block1Buffer env st message endpoint = (some b, st')) :
    b ∈ st'.requests ∧ (∀ c ∈ st'.requests, (requestKey message endpoint).finds c = true → c.id = b.id) ∧
      Stores env.settings (transferBefore transfer message) b ∧
      ((findBlock1Buffer st message endpoint).1 = some b ∨ (findBlock1Buffer st message endpoint).1 = none ∧
        message.block1.num = 0 ∧ b.nextBlockOffset = 0) := by
  unfold block1Buffer at hbuffer
  split at hbuffer
  · rename_i a st'' hfound
    cases hbuffer
    obtain ⟨rfl, hmem, hfinds⟩ := findBlock1Buffer_some hfound
    refine ⟨hmem, fun c hc hfc => h.one c hc b hmem hfc hfinds, ?_, .inl (by rw [hfound])⟩
    obtain ⟨htransfer, hlength, hplace⟩ := h.stores b hmem hfinds
    refine ⟨?_, hlength, hplace⟩
    unfold transferBefore
    split
    · exact List.nil_prefix
    · exact htransfer
  · rename_i st'' hfound
    obtain ⟨-, hnone⟩ := findBlock1Buffer_none h hfound
    split at hbuffer
    · rename_i hnum
      split at hbuffer
      · rename_i a st₃ halloc
        cases hbuffer
        unfold ocBlockwiseAllocRequestBuffer at halloc
        split at halloc
        · cases halloc
        · cases halloc
          refine ⟨List.mem_append_right _ List.mem_cons_self, fun c hc hfc => ?_, ?_, .inr ⟨by rw [hfound], hnum, rfl⟩⟩
          · rcases List.mem_append.1 hc with hc | hc
            · exact absurd hfc (by simp [hnone c hc])
            · rw [List.mem_singleton.1 hc]
          · refine ⟨?_, length_memoryBytes _ _ _, Nat.zero_le _⟩
            unfold transferBefore
            rw [if_pos hnum]
            exact List.nil_prefix
      · cases hbuffer
    · cases hbuffer

end Block

/-! ## One request -/

section Request

variable {k : BlockwiseKey} {transfer : OcString} {message : CoapPacket} {endpoint : OcEndpoint} {env : EngineEnv}
  {csm : CsmState} {st st' : Engine} {response : CoapPacket}

theorem mem_replaceBuffer_ne {l : List BlockwiseState} {b c : BlockwiseState} (hc : c ∈ replaceBuffer l b) :
    c = b ∨ c ∈ l ∧ c.id ≠ b.id := by
  obtain ⟨a, ha, rfl⟩ := List.mem_map.1 hc
  by_cases hid : a.id = b.id
  · rw [if_pos hid]
    exact .inl rfl
  · rw [if_neg hid]
    exact .inr ⟨ha, hid⟩

theorem requestPayload_setRequest {b b' : BlockwiseState} (hb : b ∈ st.requests) (hid : b'.id = b.id) :
    requestPayload (st.setRequest b') (some b'.id) = b'.buffer.take b'.payloadSize.toNat := by
  have hfound : (st.setRequest b').request b'.id = some b' := by
    unfold Engine.request Engine.setRequest
    dsimp only
    cases hfind : (replaceBuffer st.requests b').find? (·.id = b'.id) with
    | none =>
      have hno := List.find?_eq_none.1 hfind b' (mem_replaceBuffer_self hb hid)
      simp at hno
    | some c =>
      have hc : c.id = b'.id := by simpa using List.find?_some hfind
      rcases mem_replaceBuffer_ne (List.mem_of_find?_eq_some hfind) with rfl | ⟨-, hne⟩
      · rfl
      · exact absurd hc hne
  unfold requestPayload
  rw [Option.bind_some, hfound]

theorem storesTransfer_setRequest {B : BufferSettings} {b : BlockwiseState}
    (hone : ∀ c ∈ st.requests, k.finds c = true → c.id = b.id) (hb : Stores B transfer b) :
    StoresTransfer B k transfer (st.setRequest b) := by
  have hsame : ∀ c ∈ (st.setRequest b).requests, k.finds c = true → c = b := by
    intro c hc hfc
    rcases mem_replaceBuffer_ne hc with rfl | ⟨hc, hne⟩
    · rfl
    · exact absurd (hone c hc hfc) hne
  refine ⟨fun c hc d hd hfc hfd => ?_, fun c hc hfc => ?_⟩
  · rw [hsame c hc hfc, hsame d hd hfd]
  · rw [hsame c hc hfc]
    exact hb

theorem handleBlock_reaches {B : BufferSettings} {b b' : BlockwiseState} {offset : UInt32} {block : OcString}
    (h : ocBlockwiseHandleBlock B b offset block = some b') : offset ≤ b.nextBlockOffset := by
  unfold ocBlockwiseHandleBlock at h
  split at h
  · cases h
  · rename_i hrefused
    rw [not_or, not_or] at hrefused
    exact UInt32.not_lt.1 hrefused.2.2

theorem block1Buffer_none (h : StoresTransfer env.settings (requestKey message endpoint) transfer st)
    (hbuffer : block1Buffer env st message endpoint = (none, st')) :
    ∀ b ∈ st'.requests, (requestKey message endpoint).finds b = false := by
  unfold block1Buffer at hbuffer
  split at hbuffer
  · cases hbuffer
  · rename_i st'' hfound
    have hnone := (findBlock1Buffer_none h hfound).2
    split at hbuffer
    · split at hbuffer
      · cases hbuffer
      · cases hbuffer
        exact hnone
    · cases hbuffer
      exact hnone

theorem receiveBlock1_reset (h : StoresTransfer env.settings (requestKey message endpoint) transfer st) {rq rs : Option Nat}
    (hnext : (receiveBlock1 env csm st message endpoint response).next = .reset rq rs) :
    ∀ c ∈ (receiveBlock1 env csm st message endpoint response).st.requests,
      (requestKey message endpoint).finds c = true → rq = some c.id := by
  unfold receiveBlock1 at hnext ⊢
  cases hbuffer : block1Buffer env st message endpoint with
  | mk r st' =>
    rw [hbuffer] at hnext
    cases r with
    | none =>
      intro c hc hfc
      refine absurd hfc ?_
      rw [block1Buffer_none h hbuffer c hc]
      exact Bool.false_ne_true
    | some b =>
      dsimp only at hnext ⊢
      split at hnext
      · cases hnext
        intro c hc hfc
        rw [(block1Buffer_some h hbuffer).2.1 c hc hfc]
      · split at hnext <;> cases hnext

/-- A block that is taken: the buffer stores the transfer with the block, and for a last block it is handed over. -/
theorem receiveBlock1_taken (h : StoresTransfer env.settings (requestKey message endpoint) transfer st)
    (hfound : ∀ b, (findBlock1Buffer st message endpoint).1 = some b → message.block1.offset ≤ b.nextBlockOffset →
      WholeBlock env.settings message ∧ Continues transfer message b)
    (hnew : (findBlock1Buffer st message endpoint).1 = none → message.block1.num = 0 → WholeBlock env.settings message)
    (hnext : ∀ rq rs, (receiveBlock1 env csm st message endpoint response).next ≠ .reset rq rs) :
    StoresTransfer env.settings (requestKey message endpoint) (transferWith transfer message)
        (receiveBlock1 env csm st message endpoint response).st ∧
      ∀ r rq rs, (receiveBlock1 env csm st message endpoint response).next = .handle r rq rs →
        requestPayload (receiveBlock1 env csm st message endpoint response).st rq = transferWith transfer message ∧
          (transferWith transfer message).length = message.block1.offset.toNat + message.payload.length := by
  unfold receiveBlock1 at hnext ⊢
  cases hbuffer : block1Buffer env st message endpoint with
  | mk r st' =>
    rw [hbuffer] at hnext
    cases r with
    | none => exact absurd rfl (hnext none none)
    | some b =>
      obtain ⟨hmem, hone, hbefore, hsource⟩ := block1Buffer_some h hbuffer
      cases hhandle : ocBlockwiseHandleBlock env.settings b message.block1.offset (incomingBlock1 env message) with
      | none =>
        dsimp only at hnext
        rw [hhandle] at hnext
        exact absurd rfl (hnext (some b.id) none)
      | some b' =>
        have hreach := handleBlock_reaches hhandle
        obtain ⟨hwhole, hcont⟩ : WholeBlock env.settings message ∧ Continues transfer message b := by
          rcases hsource with hold | ⟨hnone, hnum, hstart⟩
          · exact hfound b hold hreach
          · -- a new buffer is empty, and the block with the number 0 begins at its start
            rw [hstart] at hreach
            refine ⟨hnew hnone hnum, ?_, fun hlt => ?_⟩
            · rw [UInt32.le_iff_toNat_le] at hreach
              exact Nat.le_trans hreach (Nat.zero_le _)
            · rw [hstart] at hlt
              exact absurd hlt (by simp)
        obtain ⟨hid, -⟩ := handleBlock_key hhandle
        rw [incomingBlock1_whole hwhole] at hhandle
        obtain ⟨hstores, hlast⟩ := handleBlock_stores hbefore hwhole (fun _ => hcont) hhandle
        dsimp only
        rw [incomingBlock1_whole hwhole, hhandle]
        dsimp only
        by_cases hmore : message.block1.more ≠ 0
        · rw [if_pos hmore]
          refine ⟨storesTransfer_setRequest (fun c hc hfc => (hone c hc hfc).trans hid.symm) ?_, fun r rq rs heq => ?_⟩
          · exact ⟨hstores.transfer, hstores.length, hstores.place⟩
          · cases heq
        · -- the last block: the buffer is handed over with its length
          rw [if_neg hmore]
          have hzero : message.block1.more = 0 := not_not.1 hmore
          obtain ⟨hbytes, hend⟩ := hlast hzero
          refine ⟨storesTransfer_setRequest (fun c hc hfc => (hone c hc hfc).trans hid.symm) ?_, fun r rq rs heq => ?_⟩
          · exact ⟨hstores.transfer, hstores.length, hstores.place⟩
          · cases heq
            refine ⟨?_, ?_⟩
            · have hmid : b ∈ st'.getMid.2.requests := hmem
              have hpayload : requestPayload (st'.getMid.2.setRequest { b' with payloadSize := b'.nextBlockOffset })
                  (some b'.id) = b'.stored := requestPayload_setRequest hmid hid
              exact hpayload.trans hbytes.symm
            · rw [hbytes, hstores.stored_length, hend]

end Request

/-! ## Runs -/

section Runs

variable {B : BufferSettings} {k : BlockwiseKey}

/-- What holds throughout a run. -/
structure AssemblyInv (B : BufferSettings) (k : BlockwiseKey) (s : Assembly) : Prop where
  stores : StoresTransfer B k s.transfer s.engine
  delivered : ∀ d ∈ s.delivered, d.Whole

theorem clearTransaction_requests (st : Engine) (message : CoapPacket) (endpoint : OcEndpoint) :
    (clearTransaction st message endpoint).requests = st.requests := by
  unfold clearTransaction
  split <;> rfl

variable (a : Block1Request B k) (st : Engine)

theorem coapReceive_request :
    coapReceive a.env st a.data k.endpoint =
      receiveRequest a.env a.env.csmState a.message k.endpoint (clearTransaction st a.message k.endpoint) := by
  have hparse : parseMessage a.env a.data k.endpoint = (coapNoError, a.message) := by
    rw [← a.parsed]
    rfl
  have hsignal : coapCheckSignalMessage a.message = false := (isRequest_code a.request).2
  have hrequest : isRequest a.message = true := a.request
  unfold coapReceive
  rw [hparse]
  dsimp only
  rw [if_pos rfl, hsignal, hrequest]
  rfl

theorem coapReceive_dropped (h : servedStep a.env st a.message k.endpoint = none) :
    Trimmed st (coapReceive a.env st a.data k.endpoint).1 ∧ (coapReceive a.env st a.data k.endpoint).2 = [] := by
  obtain ⟨hrequests, -, -⟩ := initResponse_buffers (clearTransaction st a.message k.endpoint) a.message k.endpoint
  rw [clearTransaction_requests] at hrequests
  rw [coapReceive_request]
  unfold servedStep at h
  unfold receiveRequest
  generalize initResponse a.message k.endpoint (clearTransaction st a.message k.endpoint) = r at *
  obtain ⟨response, st'⟩ := r
  cases response with
  | none => exact ⟨.of_eq hrequests, rfl⟩
  | some response =>
    dsimp only at h ⊢
    split at h
    · cases h
    · rename_i hnone
      rw [if_pos (by simpa using hnone)]
      exact ⟨(Trimmed.of_eq hrequests).trans (trimmed_scrubBuffers st'), rfl⟩

theorem coapReceive_served {step : ServerStep} (h : servedStep a.env st a.message k.endpoint = some step) :
    (∃ st' response, st'.requests = st.requests ∧
      step = receiveBlock1 a.env a.env.csmState st' a.message k.endpoint response) ∧
    coapReceive a.env st a.data k.endpoint =
      ((goOn a.env a.env.csmState a.message k.endpoint step).1.scrubBuffers,
        step.out ++ (goOn a.env a.env.csmState a.message k.endpoint step).2) := by
  have hblock1 : a.message.isOption coapOptionBlock1 = true := a.block1
  obtain ⟨hrequests, -, -⟩ := initResponse_buffers (clearTransaction st a.message k.endpoint) a.message k.endpoint
  rw [clearTransaction_requests] at hrequests
  rw [coapReceive_request]
  unfold servedStep at h
  unfold receiveRequest
  generalize initResponse a.message k.endpoint (clearTransaction st a.message k.endpoint) = r at *
  obtain ⟨response, st'⟩ := r
  cases response with
  | none => cases h
  | some response =>
    dsimp only at h ⊢
    split at h
    · rename_i havailable
      cases h
      rw [if_neg (by simp [havailable])]
      refine ⟨⟨st', response, hrequests, ?_⟩, rfl⟩
      unfold serverStep
      rw [if_pos hblock1]
    · cases h

theorem AssemblyInv.step {s : Assembly} (h : AssemblyInv B k s) (a : Block1Request B k) (hcond : InOrder s a) :
    AssemblyInv B k (s.step a) := by
  -- what is handed over has to be the transfer behind the request
  have hdelivered (hnew : ∀ payload, .handler payload ∈ (coapReceive a.env s.engine a.data k.endpoint).2 →
      payload = (s.step a).transfer ∧ payload.length = a.message.block1.offset.toNat + a.message.payload.length) :
      ∀ d ∈ (s.step a).delivered, d.Whole := by
    intro d hd
    rcases List.mem_append.1 hd with hd | hd
    · exact h.delivered d hd
    · obtain ⟨payload, hpayload, rfl⟩ := List.mem_map.1 hd
      exact hnew payload (mem_handedOver.1 hpayload)
  have htransfer : (s.step a).transfer =
    transferAfter s.transfer a.message (servedStep a.env s.engine a.message k.endpoint) := rfl
  have hengine : (s.step a).engine = (coapReceive a.env s.engine a.data k.endpoint).1 := rfl
  rw [htransfer] at hdelivered
  cases hserved : servedStep a.env s.engine a.message k.endpoint with
  | none =>
    obtain ⟨htrimmed, hout⟩ := coapReceive_dropped a s.engine hserved
    refine ⟨?_, hdelivered fun payload hp => ?_⟩
    · rw [htransfer, hserved, hengine]
      exact h.stores.trimmed htrimmed
    · rw [hout] at hp
      exact absurd hp List.not_mem_nil
  | some step =>
    unfold InOrder at hcond
    have hblock := hcond (by rw [hserved]; rfl)
    obtain ⟨⟨st, response, hrequests, hstep⟩, hreceive⟩ := coapReceive_served a s.engine hserved
    rw [hserved, hreceive] at hdelivered
    rw [hreceive] at hengine
    rw [hserved] at htransfer
    have hsettings := a.settings
    have hkey : requestKey a.message k.endpoint = k := a.key
    have hstores : StoresTransfer a.env.settings (requestKey a.message k.endpoint) s.transfer st := by
      rw [hsettings, hkey]
      exact h.stores.trimmed (.of_eq hrequests)
    have hsearch := findBlock1Buffer_congr hrequests a.message k.endpoint
    have hgo : Trimmed step.st (goOn a.env a.env.csmState a.message k.endpoint step).1.scrubBuffers :=
      (trimmed_goOn a.env a.env.csmState a.message k.endpoint step).trans (trimmed_scrubBuffers _)
    have hhandler (payload : OcString)
        (hp : .handler payload ∈ step.out ++ (goOn a.env a.env.csmState a.message k.endpoint step).2) :
        ∃ r rq rs, step.next = .handle r rq rs ∧ payload = requestPayload step.st rq := by
      rcases List.mem_append.1 hp with hp | hp
      · rw [hstep] at hp
        exact absurd hp (not_handler_receiveBlock1 _ _ _ _ _ _ payload)
      · exact handler_goOn _ _ _ _ hp
    by_cases hreset : ∃ rq rs, step.next = .reset rq rs
    · -- the block is refused: its buffer is freed, and nothing is handed over
      obtain ⟨rq, rs, hnext⟩ := hreset
      have hbranch : (receiveBlock1 a.env a.env.csmState st a.message k.endpoint response).next = .reset rq rs := by
        rw [← hstep]
        exact hnext
      have hfound := receiveBlock1_reset hstores hbranch
      rw [← hstep, hkey] at hfound
      refine ⟨?_, hdelivered fun payload hp => ?_⟩
      · rw [hengine]
        refine storesTransfer_none fun c hc => ?_
        -- what is left in the engine was there before, and the buffer of the key has been freed
        cases hfc : k.finds c with
        | false => rfl
        | true =>
          obtain ⟨c₀, hc₀, n, rfl⟩ := hgo c hc
          have hfree : (goOn a.env a.env.csmState a.message k.endpoint step).1 =
              (sendReset a.env a.env.csmState a.message k.endpoint step.st rq rs).1 := by
            unfold goOn
            rw [hnext]
          dsimp only at hc
          rw [hfree, hfound c₀ hc₀ hfc] at hc
          have hne := sendReset_frees a.env a.env.csmState step.st a.message k.endpoint c₀.id rs _ hc
          exact absurd rfl hne
      · obtain ⟨r, rq', rs', hhandle, -⟩ := hhandler payload hp
        rw [hnext] at hhandle
        cases hhandle
    · -- the block is stored: by the condition where the transfer has it
      have hnext : ∀ rq rs, (receiveBlock1 a.env a.env.csmState st a.message k.endpoint response).next ≠ .reset rq rs :=
        fun rq rs heq => hreset ⟨rq, rs, by rw [hstep, heq]⟩
      have hwhole : WholeBlock B a.message → WholeBlock a.env.settings a.message := fun hw => by rw [hsettings]; exact hw
      obtain ⟨htaken, hhanded⟩ := receiveBlock1_taken hstores
        (fun b hb hreach => by
          rw [hsearch] at hb
          rw [hb] at hblock
          exact ⟨hwhole (hblock hreach).1, (hblock hreach).2⟩)
        (fun hb hnum => by
          rw [hsearch] at hb
          rw [hb] at hblock
          exact hwhole (hblock hnum)) hnext
      rw [← hstep, hsettings, hkey] at htaken
      rw [← hstep] at hhanded
      have hafter : transferAfter s.transfer a.message (some step) = transferWith s.transfer a.message := by
        unfold transferAfter
        dsimp only
        cases hbranch : step.next with
        | reset rq rs => exact absurd ⟨rq, rs, hbranch⟩ hreset
        | send r => rfl
        | clear => rfl
        | handle r rq rs => rfl
      rw [hafter] at hdelivered htransfer
      refine ⟨?_, hdelivered fun payload hp => ?_⟩
      · rw [htransfer, hengine]
        exact htaken.trimmed hgo
      · obtain ⟨r, rq, rs, hhandle, rfl⟩ := hhandler payload hp
        obtain ⟨hpayload, hlength⟩ := hhanded r rq rs hhandle
        exact ⟨hpayload, (congrArg List.length hpayload).trans hlength⟩

/-- In every run of requests for one key in which the blocks keep to the condition, from an engine without a request
buffer for the key, what the resource layer is handed for a last block is the transfer, which ends with the block. -/
theorem block1_reassembled (st : Engine) (transfer : OcString) (hnone : ∀ b ∈ st.requests, k.finds b = false)
    (requests : List (Block1Request B k)) (hrun : Guarded Assembly.step InOrder ⟨st, transfer, []⟩ requests) :
    ∀ d ∈ (runFrom Assembly.step ⟨st, transfer, []⟩ requests).delivered, d.Whole := by
  have hstep (s : Assembly) (a : Block1Request B k) (hinv : AssemblyInv B k s) (hcond : InOrder s a) :
      AssemblyInv B k (s.step a) := hinv.step a hcond
  have hstart : AssemblyInv B k ⟨st, transfer, []⟩ :=
    ⟨storesTransfer_none hnone, fun _ hd => absurd hd List.not_mem_nil⟩
  exact (run_invariant hstep requests _ hstart hrun).delivered

end Runs

/-! ## Samples -/

/-- Blocks of 16 bytes, and room for four of them. -/
def fourBlocks : BufferSettings :=
  { defaultSettings with blockSize := 16, maxAppDataSize := 64, blockSize_pow := blockSize_sixteen }

/-- PUT requests to a path from one endpoint. -/
def putKey : BlockwiseKey := ⟨ascii "a", peer false, coapPut, [], .server⟩

/-- A confirmable PUT with a Block1 option of one byte. -/
def putBlock (mid block : UInt8) (payload : OcString) : OcString :=
  [0x40, 3, 0, mid, 0xB1, 97, 0xD1, 3, block, 0xFF] ++ payload

/-- The environment of the requests. -/
def putEnv : EngineEnv := { sampleEnv with settings := fourBlocks }

/-- A block of sixteen bytes that is not the last one, with the number 0. -/
def firstOfTwo (mid byte : UInt8) : OcString := putBlock mid 0x08 (List.replicate 16 byte)

/-- A last block of two bytes, with the number 1. -/
def lastOfTwo (mid byte : UInt8) : OcString := putBlock mid 0x10 [byte, byte]

/-- The first block of a payload. -/
def firstRequest : Block1Request fourBlocks putKey :=
  ⟨putEnv, firstOfTwo 1 65, rfl, by decide, by decide, by decide, by decide⟩

/-- The first block of another payload. -/
def otherRequest : Block1Request fourBlocks putKey :=
  ⟨putEnv, firstOfTwo 2 66, rfl, by decide, by decide, by decide, by decide⟩

/-- The last block of the other payload. -/
def lastRequest : Block1Request fourBlocks putKey :=
  ⟨putEnv, lastOfTwo 3 66, rfl, by decide, by decide, by decide, by decide⟩

/-- The two blocks of one payload are handed over. -/
theorem block1_reassembled_two :
    (runFrom Assembly.step ⟨Engine.init 0, [], []⟩ [otherRequest, lastRequest]).delivered.map (·.payload) =
        [List.replicate 18 66] ∧
      ∀ d ∈ (runFrom Assembly.step ⟨Engine.init 0, [], []⟩ [otherRequest, lastRequest]).delivered, d.Whole := by
  refine ⟨by decide, block1_reassembled _ _ (fun _ h => absurd h List.not_mem_nil) _ ⟨?_, ?_, trivial⟩⟩
  · have hnone : (findBlock1Buffer (Engine.init 0) otherRequest.message putKey.endpoint).1 = none := by decide
    unfold InOrder
    rw [hnone]
    exact fun _ _ => ⟨by decide, by decide⟩
  · have hsome : (findBlock1Buffer (Assembly.step ⟨Engine.init 0, [], []⟩ otherRequest).engine lastRequest.message
        putKey.endpoint).1.map (·.nextBlockOffset) = some 16 := by decide
    obtain ⟨b, hb, hnext⟩ := Option.map_eq_some_iff.1 hsome
    unfold InOrder
    rw [hb]
    refine fun _ _ => ⟨⟨by decide, by decide⟩, by decide, fun hlt => absurd hlt ?_⟩
    rw [hnext]
    decide

/-- The first block of another payload is acknowledged and not stored; its last block completes the wrong payload. -/
theorem block1_mixed :
    ¬ ∀ d ∈ (runFrom Assembly.step ⟨Engine.init 0, [], []⟩ [firstRequest, otherRequest, lastRequest]).delivered,
      d.Whole := by
  have hhanded : (runFrom Assembly.step ⟨Engine.init 0, [], []⟩ [firstRequest, otherRequest, lastRequest]).delivered.map
      (fun d => (d.payload, d.transfer)) = [(List.replicate 16 65 ++ [66, 66], List.replicate 18 66)] := by decide
  intro hall
  have hmem : (List.replicate 16 65 ++ [66, 66], List.replicate 18 66) ∈
      (runFrom Assembly.step ⟨Engine.init 0, [], []⟩ [firstRequest, otherRequest, lastRequest]).delivered.map
        (fun d => (d.payload, d.transfer)) := by
    rw [hhanded]
    exact List.mem_cons_self
  obtain ⟨d, hd, heq⟩ := List.mem_map.1 hmem
  obtain ⟨hpayload, htransfer⟩ := Prod.mk.injEq .. ▸ heq
  have hwrong := (hall d hd).1
  rw [hpayload, htransfer] at hwrong
  exact absurd hwrong (by decide)

end SmartGarage
