/-
Block-wise transfers stay inside their buffers: in every run, for every message and every notification, a block that
`oc_blockwise_dispatch_block` returns ends inside the payload, and `oc_blockwise_handle_block` leaves the write position
inside the memory of the buffer.
-/
import SmartGarage.Messaging.BlockMoves
import SmartGarage.Messaging.CoapGrammar

namespace SmartGarage

open Runs

/-! ## One call -/

variable {B : BufferSettings}

/-- A call is safe, and it leaves the write position of a buffer that blocks are stored in within the memory. -/
structure BlockCall.Sound (B : BufferSettings) (c : BlockCall) : Prop where
  safe : c.Safe B
  requests : c.list = .requests → c.buffer.role = .server → (c.after B).nextBlockOffset.toNat ≤ B.maxAppDataSize
  responses : c.list = .responses → c.buffer.role = .client → (c.after B).nextBlockOffset.toNat ≤ B.maxAppDataSize

theorem handleBlock_le {b b' : BlockwiseState} {offset : UInt32} {block : OcString}
    (h : ocBlockwiseHandleBlock B b offset block = some b') (hb : b.nextBlockOffset.toNat ≤ B.maxAppDataSize) :
    b'.nextBlockOffset.toNat ≤ B.maxAppDataSize := by
  unfold ocBlockwiseHandleBlock at h
  split at h
  · cases h
  · rename_i hguard
    split at h
    · rename_i hplace
      cases h
      have hlow : offset.toNat < B.maxAppDataSize % 2 ^ 32 := Nat.not_le.1 fun h => hguard (.inl h)
      have hlength : block.length ≤ B.maxAppDataSize - offset.toNat := Nat.not_lt.1 fun h => hguard (.inr (.inl h))
      have hmod := Nat.mod_le B.maxAppDataSize (2 ^ 32)
      have hcast : (UInt32.ofNat block.length).toNat ≤ block.length := by
        rw [UInt32.toNat_ofNat']
        exact Nat.mod_le _ _
      have hsum : (b.nextBlockOffset + UInt32.ofNat block.length).toNat ≤ offset.toNat + block.length := by
        rw [UInt32.toNat_add, hplace]
        exact (Nat.mod_le _ _).trans (Nat.add_le_add_left hcast _)
      have hbound : offset.toNat + block.length ≤ B.maxAppDataSize := by omega
      exact hsum.trans hbound
    · cases h
      exact hb

theorem sound_handle (list : BufferList) {b : BlockwiseState} (offset : UInt32) (block : OcString)
    (hb : b.nextBlockOffset.toNat ≤ B.maxAppDataSize) : (BlockCall.handle list b offset block).Sound B := by
  have hafter : ((BlockCall.handle list b offset block).after B).nextBlockOffset.toNat ≤ B.maxAppDataSize := by
    cases h : ocBlockwiseHandleBlock B b offset block with
    | none =>
      rw [BlockCall.after, h]
      exact hb
    | some b' =>
      rw [after_handle h]
      exact handleBlock_le h hb
  exact ⟨hafter, fun _ _ => hafter, fun _ _ => hafter⟩

theorem dispatch_safe (list : BufferList) (b : BlockwiseState) {offset requested : UInt32}
    (h : offset = 0 ∨ requested ≤ offset) : (BlockCall.dispatch list b offset requested).Safe B := by
  intro hsome
  have hlt : offset < b.payloadSize := by
    by_contra hge
    rw [ocBlockwiseDispatchBlock, if_neg hge] at hsome
    cases hsome
  rw [UInt32.lt_iff_toNat_lt] at hlt
  unfold dispatchLength
  split
  · -- a payload below the requested size leaves only the block at its start
    rename_i hshort
    rcases h with rfl | h
    · exact Nat.le_of_eq (Nat.zero_add _)
    · rw [UInt32.lt_iff_toNat_lt] at hshort
      rw [UInt32.le_iff_toNat_le] at h
      omega
  · have hmin : (min requested (b.payloadSize - offset)).toNat ≤ (b.payloadSize - offset).toNat := by
      change (if requested ≤ b.payloadSize - offset then requested else b.payloadSize - offset).toNat ≤ _
      split
      · exact UInt32.le_iff_toNat_le.1 ‹_›
      · exact Nat.le_refl _
    rw [UInt32.toNat_sub_of_le _ _ (UInt32.le_iff_toNat_le.2 hlt.le)] at hmin
    omega

theorem sound_dispatch {list : BufferList} {b : BlockwiseState} {offset requested : UInt32}
    (h : offset = 0 ∨ requested ≤ offset) (hrequests : list = .requests → b.role = .client)
    (hresponses : list = .responses → b.role = .server) : (BlockCall.dispatch list b offset requested).Sound B := by
  refine ⟨dispatch_safe list b h, fun hlist hrole => ?_, fun hlist hrole => ?_⟩
  · cases (hrequests hlist).symm.trans hrole
  · cases (hresponses hlist).symm.trans hrole

/-! ## Block options -/

/-- The offset in a block option is 0 or not below the size that the option encodes, also where it has wrapped around,
and so is the offset of the block behind it. -/
theorem blockRead_offset {b : CoapBlock} (h : BlockRead b) {size : UInt16} (hsize : size ≤ b.size) :
    (b.offset = 0 ∨ size.toUInt32 ≤ b.offset) ∧
      (b.offset + size.toUInt32 = 0 ∨ size.toUInt32 ≤ b.offset + size.toUInt32) := by
  have hle : size.toNat ≤ b.size.toNat := UInt16.le_iff_toNat_le.1 hsize
  have hsize32 : size.toUInt32.toNat = size.toNat := UInt16.toNat_toUInt32 size
  simp only [UInt32.le_iff_toNat_le, ← UInt32.toNat_inj, UInt32.toNat_add, hsize32, UInt32.toNat_zero]
  rcases h with rfl | ⟨value, rfl⟩
  · have hzero : (CoapBlock.zero.size).toNat = 0 := rfl
    have hoffset : (CoapBlock.zero.offset).toNat = 0 := rfl
    rw [hoffset]
    omega
  · obtain ⟨-, hvalue, hoffset⟩ := parseBlock_nat value
    generalize (coapParseIntOption value).toNat = v at hvalue hoffset
    -- both the offset and 2 ^ 32 are multiples of the encoded size
    have hpow : (16 * 2 ^ (v % 8)) ∣ 2 ^ 32 := ⟨2 ^ (28 - v % 8), by
      rw [Nat.mul_assoc, ← Nat.pow_add, Nat.add_sub_cancel' (by omega)]
      rfl⟩
    have hdvd : (16 * 2 ^ (v % 8)) ∣ (parseBlock value).offset.toNat := by
      rw [hoffset, Nat.dvd_mod_iff hpow]
      exact Nat.dvd_mul_left _ _
    rw [← hvalue] at hpow hdvd
    obtain ⟨m, hm⟩ := hpow
    obtain ⟨j, hj⟩ := hdvd
    have hlt := (parseBlock value).offset.toNat_lt
    generalize (parseBlock value).offset.toNat = o at hj hlt ⊢
    generalize (parseBlock value).size.toNat = n at hle hm hj
    have hjm : j < m := by
      by_contra hge
      have hmul := Nat.mul_le_mul_left n (Nat.not_lt.1 hge)
      omega
    have hnext : n * j + n ≤ n * m := by
      rw [← Nat.mul_succ]
      exact Nat.mul_le_mul_left n hjm
    have hfirst : j = 0 ∨ n ≤ n * j := by
      cases j with
      | zero => exact .inl rfl
      | succ j => exact .inr (Nat.le_mul_of_pos_right n (Nat.succ_pos j))
    rcases hfirst with rfl | hfirst
    · omega
    · omega

theorem uint16_min_le (a b : UInt16) : min a b ≤ a := by
  change (if a ≤ b then a else b) ≤ a
  split
  · exact UInt16.le_refl a
  · exact UInt16.le_of_lt (UInt16.not_le.1 ‹_›)

theorem block1Size_le {message : CoapPacket} (h : message.isOption coapOptionBlock1 = true) :
    block1Size B message ≤ message.block1.size := by
  rw [block1Size, if_pos h]
  exact uint16_min_le _ _

theorem block2Size_le {message : CoapPacket} (h : message.isOption coapOptionBlock2 = true) :
    block2Size B message ≤ message.block2.size := by
  rw [block2Size, if_pos h]
  exact uint16_min_le _ _

/-! ## The calls of a request -/

section Request

variable {env : EngineEnv} {csm : CsmState} {message : CoapPacket} {endpoint : OcEndpoint} {st : Engine}
  {response : CoapPacket}

/-- Blocks are stored within the memory, in the requests of a server and in the responses of a client. -/
structure Bounded (B : BufferSettings) (st : Engine) : Prop where
  fresh : ∀ b ∈ st.responses, b.id < st.nextId
  requests : ∀ b ∈ st.requests, b.role = .server → b.nextBlockOffset.toNat ≤ B.maxAppDataSize
  responses : ∀ b ∈ st.responses, b.role = .client → b.nextBlockOffset.toNat ≤ B.maxAppDataSize

theorem NewBuffer.le {role : BlockwiseRole} {l : List BlockwiseState} {n : Nat} {b : BlockwiseState}
    (h : NewBuffer role l n b) : b.nextBlockOffset.toNat ≤ B.maxAppDataSize := by
  rw [h.offset]
  exact Nat.zero_le _

theorem storeCalls_sound : ∀ c ∈ storeCalls env message endpoint st, c.Sound B := by
  intro c hc
  unfold storeCalls at hc
  split at hc
  · cases hc
  · rename_i b st' halloc
    cases List.mem_singleton.1 hc
    exact sound_handle _ _ _ (quiet_allocRequest st halloc fun _ => rfl).2.le

theorem block1Buffer_le (h : Bounded B st) {b : BlockwiseState}
    (hb : (block1Buffer env st message endpoint).1 = some b) :
    b.nextBlockOffset.toNat ≤ B.maxAppDataSize := by
  have hfound : ∀ c, (findBlock1Buffer st message endpoint).1 = some c →
      c.nextBlockOffset.toNat ≤ B.maxAppDataSize := by
    intro c hc
    unfold findBlock1Buffer at hc
    split at hc
    · rename_i a hfind
      split at hc
      · cases hc
      · cases hc
        exact h.requests _ (List.mem_of_find?_eq_some hfind) (finds_spec (List.find?_some hfind)).2.2.1
    · cases hc
  unfold block1Buffer at hb
  generalize findBlock1Buffer st message endpoint = r at hfound hb
  obtain ⟨found, st'⟩ := r
  cases found with
  | some c =>
    cases hb
    exact hfound b rfl
  | none =>
    dsimp only at hb
    split at hb
    · split at hb
      · rename_i c st'' halloc
        cases hb
        exact (quiet_allocRequest st' halloc fun _ => rfl).2.le
      · cases hb
    · cases hb

theorem block1Calls_sound (h : Bounded B st) : ∀ c ∈ block1Calls env message endpoint st, c.Sound B := by
  intro c hc
  unfold block1Calls at hc
  split at hc
  · cases hc
  · rename_i b hb
    cases List.mem_singleton.1 hc
    exact sound_handle _ _ _ (block1Buffer_le h hb)

theorem block2Calls_sound (hread : BlockRead message.block2) (hoption : message.isOption coapOptionBlock2 = true) :
    ∀ c ∈ block2Calls env message endpoint st, c.Sound B := by
  intro c hc
  unfold block2Calls at hc
  split at hc
  · rename_i b st' hfound
    cases List.mem_singleton.1 hc
    have hserver : b.role = .server := by
      unfold findBlock2Buffer at hfound
      split at hfound
      · rename_i a hfind
        split at hfound
        · cases hfound
        · cases hfound
          exact (finds_spec (List.find?_some hfind)).2.2.1
      · cases hfound
    exact sound_dispatch (blockRead_offset hread (block2Size_le hoption)).1 (fun h => absurd h (by decide))
      fun _ => hserver
  · split at hc
    · exact storeCalls_sound c hc
    · cases hc

theorem serverCalls_sound (h : Bounded B st) (hread : BlockRead message.block2) :
    ∀ c ∈ serverCalls env message endpoint st, c.Sound B := by
  intro c hc
  unfold serverCalls at hc
  split at hc
  · exact block1Calls_sound h c hc
  · split at hc
    · exact block2Calls_sound hread ‹_› c hc
    · unfold plainCalls at hc
      split at hc
      · exact storeCalls_sound c hc
      · cases hc

theorem serverStep_handle {response' : CoapPacket} {rq rs : Option Nat}
    (h : (serverStep env csm message endpoint st response).next = .handle response' rq rs) : rs = none := by
  unfold serverStep at h
  split at h
  · unfold receiveBlock1 at h
    split at h
    · cases h
    · split at h
      · cases h
      · dsimp only at h
        split at h
        · cases h
        · cases h
          rfl
  · split at h
    · unfold receiveBlock2 at h
      dsimp only at h
      split at h
      · split at h
        · cases h
        · cases h
      · split at h
        · split at h
          · split at h
            · cases h
              rfl
            · split at h
              · cases h
                rfl
              · cases h
          · cases h
            rfl
        · cases h
    · unfold receivePlain at h
      split at h
      · split at h
        · cases h
        · split at h
          · split at h
            · cases h
            · cases h
              rfl
          · cases h
            rfl
      · cases h

theorem finishHandler_responseBuffer (rq rs : Option Nat) (success ignore : Bool) (code : UInt8)
    (payload answer : OcString) :
    (finishHandler env csm st message endpoint response rq rs success ignore code payload answer).responseBuffer =
      rs := by
  unfold finishHandler
  dsimp only
  split
  · rfl
  · split <;> rfl

/-- The response buffer that is made for a handler is one of the server, and no other one has its address. -/
theorem handlerBuffer_server (hfresh : ∀ b ∈ st.responses, b.id < st.nextId) {id : Nat}
    (hid : (handlerBuffer env st message endpoint none).2.1 = some id) {b : BlockwiseState}
    (hb : b ∈ (handlerBuffer env st message endpoint none).2.2.responses) (hsame : b.id = id) : b.role = .server := by
  unfold handlerBuffer ocBlockwiseAllocResponseBuffer at hid hb
  cases hreached : env.outcome.reached with
  | false =>
    rw [hreached] at hid
    cases hid
  | true =>
    rw [hreached] at hid hb
    by_cases hnone : coapGetHeaderUriPath message = [] ∨ env.bufferAvailable = false
    · simp only [if_pos hnone, if_true] at hid
      cases hid
    · simp only [if_neg hnone, if_true] at hid hb
      cases hid
      rcases List.mem_append.1 hb with hb | hb
      · have hlt := hfresh b hb
        exact absurd hsame (Nat.ne_of_lt hlt)
      · cases List.mem_singleton.1 hb
        rfl

theorem respondCalls_sound (hfresh : ∀ b ∈ st.responses, b.id < st.nextId) (rq : Option Nat) :
    ∀ c ∈ respondCalls env message endpoint (ocRiInvokeCoapEntityHandler env csm st message endpoint response rq none),
      c.Sound B := by
  intro c hc
  unfold respondCalls at hc
  split at hc
  · split at hc
    · rename_i b hb
      have hserver : b.role = .server := by
        obtain ⟨id, hid, hfind⟩ := Option.bind_eq_some_iff.1 hb
        unfold Engine.response at hfind
        have hmem := List.mem_of_find?_eq_some hfind
        have hsame : b.id = id := by simpa using List.find?_some hfind
        unfold ocRiInvokeCoapEntityHandler at hid hmem
        rw [finishHandler_responseBuffer] at hid
        rw [finishHandler_st] at hmem
        have hfreed : (freeParsedRequest st message rq).2.responses = st.responses ∧
            (freeParsedRequest st message rq).2.nextId = st.nextId := by
          unfold freeParsedRequest
          split
          · split
            · exact ⟨rfl, rfl⟩
            · exact ⟨rfl, rfl⟩
          · exact ⟨rfl, rfl⟩
        have hnew {a : BlockwiseState} := @handlerBuffer_server env message endpoint _
          (by rw [hfreed.1, hfreed.2]; exact hfresh) _ hid a
        split at hmem
        · rename_i a ha
          rcases mem_replaceBuffer hmem with rfl | hmem
          · have ha' : a.role = .server := hnew (mem_of_bind_response _ ha) hsame
            exact ha'
          · exact hnew hmem hsame
        · exact hnew hmem hsame
      split at hc
      · cases List.mem_singleton.1 hc
        exact sound_dispatch (.inl rfl) (fun h => absurd h (by decide)) fun _ => hserver
      · cases List.mem_singleton.1 hc
        exact sound_dispatch (.inl rfl) (fun h => absurd h (by decide)) fun _ => hserver
    · cases hc
  · cases hc

theorem Kept.fresh {k : BlockwiseKey} {st' : Engine} (h : Kept k st st')
    (hfresh : ∀ b ∈ st.responses, b.id < st.nextId) : ∀ b ∈ st'.responses, b.id < st'.nextId := by
  intro b hb
  rcases h.responses b hb with ⟨a, ha, hid, -⟩ | ⟨-, hhi, -⟩
  · exact hid ▸ (hfresh a ha).trans_le h.nextId
  · exact hhi

theorem requestCalls_sound (h : Bounded B st) (hread : BlockRead message.block2) :
    ∀ c ∈ requestCalls env csm message endpoint st, c.Sound B := by
  obtain ⟨hrequests, hresponses, hnextId⟩ := initResponse_buffers st message endpoint
  unfold requestCalls
  generalize initResponse message endpoint st = r at hrequests hresponses hnextId ⊢
  obtain ⟨response, st'⟩ := r
  have h' : Bounded B st' := by
    refine ⟨fun b hb => ?_, fun b hb => ?_, fun b hb => ?_⟩
    · rw [hresponses] at hb
      rw [hnextId]
      exact h.fresh b hb
    · rw [hrequests] at hb
      exact h.requests b hb
    · rw [hresponses] at hb
      exact h.responses b hb
  cases response with
  | none => exact fun c hc => absurd hc List.not_mem_nil
  | some response =>
    dsimp only
    split
    · exact fun c hc => absurd hc List.not_mem_nil
    · intro c hc
      rcases List.mem_append.1 hc with hc | hc
      · exact serverCalls_sound h' hread c hc
      · have hfresh := (performed_serverStep st' env csm message endpoint response).kept.fresh h'.fresh
        have hnone {response' : CoapPacket} {rq rs : Option Nat} :=
          @serverStep_handle env csm message endpoint st' response response' rq rs
        unfold goOnCalls at hc
        generalize serverStep env csm message endpoint st' response = step at hfresh hnone hc
        obtain ⟨st'', out, next⟩ := step
        cases next with
        | handle response' rq rs =>
          cases hnone rfl
          exact respondCalls_sound hfresh rq c hc
        | send response' => cases hc
        | clear => cases hc
        | reset rq rs => cases hc

end Request

/-! ## The calls of a response -/

section Response

variable {env : EngineEnv} {message : CoapPacket} {endpoint : OcEndpoint} {st : Engine}

theorem downloadCalls_sound (hresponses : ∀ b ∈ st.responses, b.role = .client → b.nextBlockOffset.toNat ≤ B.maxAppDataSize)
    (cb : Option ClientCb) : ∀ c ∈ downloadCalls env message endpoint st cb, c.Sound B := by
  intro c hc
  have hmoved : Moved B [] st (findDownloadBuffer env st message endpoint cb).2 :=
    .of_quiet (quiet_findDownloadBuffer (k := requestKey message endpoint) st env message endpoint cb)
  have hclient {b : BlockwiseState} := findDownloadBuffer_client st env message endpoint cb (b := b)
  unfold downloadCalls at hc
  generalize findDownloadBuffer env st message endpoint cb = r at hmoved hclient hc
  obtain ⟨found, st'⟩ := r
  cases found with
  | none => cases hc
  | some b =>
    obtain ⟨hmem, hrole⟩ := hclient rfl
    have hle : b.nextBlockOffset.toNat ≤ B.maxAppDataSize := by
      rcases hmoved.responses b hmem with ⟨a, ha, hplace⟩ | hnew | ⟨d, hd, -⟩
      · rw [← hplace.offset]
        exact hresponses a ha (hplace.role.trans hrole)
      · rw [hnew]
        exact Nat.zero_le _
      · cases hd
    dsimp only at hc
    split at hc
    · cases List.mem_singleton.1 hc
      refine sound_handle _ _ _ ?_
      split
      · exact hle
      · exact hle
    · cases hc

theorem uploadCall_sound {b : BlockwiseState} (hread : BlockRead message.block1) (hb : b.role = .client) :
    (uploadCall env message b).Sound B := by
  unfold uploadCall
  split
  · rename_i hoption
    exact sound_dispatch (blockRead_offset hread (block1Size_le hoption)).2 (fun _ => hb)
      fun h => absurd h (by decide)
  · exact sound_dispatch (.inl rfl) (fun _ => hb) fun h => absurd h (by decide)

theorem dropUploadBuffer_responses (b : BlockwiseState) :
    (dropUploadBuffer st message b).2.responses = st.responses := by
  unfold dropUploadBuffer
  split
  · rfl
  · rfl

theorem responseCalls_sound (h : Bounded B st) (hread : BlockRead message.block1) :
    ∀ c ∈ responseCalls env message endpoint st, c.Sound B := by
  unfold responseCalls
  have hresponses : ∀ b ∈ st.getMid.2.responses, b.role = .client → b.nextBlockOffset.toNat ≤ B.maxAppDataSize :=
    h.responses
  generalize st.getMid.2 = st' at hresponses ⊢
  have hdrop (st₀ : Engine) (hst₀ : st₀.responses = st'.responses) (b : BlockwiseState) (cb : Option ClientCb) :
      ∀ c ∈ downloadCalls env message endpoint (dropUploadBuffer st₀ message b).2 cb, c.Sound B :=
    downloadCalls_sound (by rw [dropUploadBuffer_responses, hst₀]; exact hresponses) cb
  dsimp only
  cases hfound : findUploadBuffer st' message endpoint (responseCb st' message) with
  | none => exact downloadCalls_sound hresponses _
  | some b =>
    have hclient := (findUploadBuffer_client st' message endpoint hfound).2
    dsimp only
    split
    · intro c hc
      unfold uploadCalls at hc
      rcases List.mem_cons.1 hc with rfl | hc
      · exact uploadCall_sound hread hclient
      · split at hc
        · rename_i b' payload cb _ _
          split at hc
          · cases hc
          · exact hdrop (st'.setRequest b') rfl b' (some cb) c hc
        · cases hc
        · have hkept : (st'.freeRequest b.id).responses = st'.responses := rfl
          exact downloadCalls_sound (by rw [hkept]; exact hresponses) _ c hc
    · exact hdrop st' rfl b _

end Response

/-! ## Runs -/

theorem parseMessage_blocks (env : EngineEnv) (data : OcString) (endpoint : OcEndpoint) :
    BlockRead (parseMessage env data endpoint).2.block1 ∧
      BlockRead (parseMessage env data endpoint).2.block2 := by
  unfold parseMessage
  split
  · have h := parsed_tcp env.settings data
    exact ⟨h.block1, h.block2⟩
  · have h := parsed_udp env.settings (datagramRead env.behind data)
    exact ⟨h.block1, h.block2⟩

theorem receiveCalls_sound (env : EngineEnv) {st : Engine} (h : Bounded B st) (data : OcString) (endpoint : OcEndpoint) :
    ∀ c ∈ receiveCalls env st data endpoint, c.Sound B := by
  obtain ⟨hblock1, hblock2⟩ := parseMessage_blocks env data endpoint
  unfold receiveCalls
  generalize parseMessage env data endpoint = r at hblock1 hblock2 ⊢
  obtain ⟨status, message⟩ := r
  dsimp only at hblock1 hblock2 ⊢
  obtain ⟨hrequests, hresponses, hnextId⟩ := clearTransaction_buffers st message endpoint
  have h' : Bounded B (clearTransaction st message endpoint) :=
    ⟨by rw [hresponses, hnextId]; exact h.fresh, by rw [hrequests]; exact h.requests,
      by rw [hresponses]; exact h.responses⟩
  split
  · split
    · exact requestCalls_sound h' hblock2
    · exact responseCalls_sound h' hblock1
  · exact fun c hc => absurd hc List.not_mem_nil

theorem firstCall_sound {b : BlockwiseState} (hb : b.role = .server) (payload : OcString) (size : UInt32) :
    (firstCall b payload size).Sound B :=
  sound_dispatch (.inl rfl) (fun h => absurd h (by decide)) fun _ => hb

theorem startCalls_sound {env : EngineEnv} {st : Engine} {href : OcString} {endpoint : OcEndpoint} {method : UInt8}
    {query payload : OcString} {size : UInt32} :
    ∀ c ∈ startCalls env st href endpoint method query payload size, c.Sound B := by
  intro c hc
  unfold startCalls at hc
  split at hc
  · rename_i b st' halloc
    cases List.mem_singleton.1 hc
    exact firstCall_sound (quiet_allocResponse st halloc fun _ => rfl).2.role payload size
  · cases hc

theorem eventCalls_sound {st : Engine} (h : Bounded B st) (e : Event) : ∀ c ∈ e.blockCalls st, c.Sound B := by
  intro c hc
  cases e with
  | receive env data endpoint => exact receiveCalls_sound env h data endpoint c hc
  | openResponse env href endpoint method query payload size =>
    have hopen : c ∈ openCalls env st href endpoint method query payload size := hc
    unfold openCalls at hopen
    split at hopen
    · split at hopen
      · exact startCalls_sound c hopen
      · cases hopen
    · exact startCalls_sound c hopen
  | _ => cases hc

theorem notifyCalls_sound (n : ObservedSend) (o : ObserverTurn) (st : Engine) :
    ∀ c ∈ o.blockCalls n st, c.Sound B := by
  have halloc {st : Engine} {b : BlockwiseState} {st' : Engine}
      (h : allocResponseBuffer o.env st (o.key n) = .allocated b st') : b.role = .server := by
    unfold allocResponseBuffer at h
    split at h
    · rename_i b' st'' halloc
      cases h
      exact (quiet_allocResponse st halloc fun _ => rfl).2.role
    · cases h
  intro c hc
  unfold ObserverTurn.blockCalls at hc
  split at hc
  · split at hc
    · rename_i b st' htake
      cases List.mem_singleton.1 hc
      refine firstCall_sound ?_ _ _
      unfold takeResponseBuffer at htake
      split at htake
      · split at htake
        · exact halloc htake
        · cases htake
      · exact halloc htake
    · cases hc
  · cases hc

theorem Bounded.moved {st st' : Engine} {calls : List BlockCall} (h : Bounded B st) (hmoved : Moved B calls st st')
    (hsound : ∀ c ∈ calls, c.Sound B) (hfresh : ∀ b ∈ st'.responses, b.id < st'.nextId) : Bounded B st' := by
  refine ⟨hfresh, fun b hb hrole => ?_, fun b hb hrole => ?_⟩
  · rcases hmoved.requests b hb with ⟨a, ha, hplace⟩ | hnew | ⟨c, hc, hlist, hplace⟩
    · rw [← hplace.offset]
      exact h.requests a ha (hplace.role.trans hrole)
    · rw [hnew]
      exact Nat.zero_le _
    · rw [← hplace.offset]
      exact (hsound c hc).requests hlist ((after_role c).symm.trans (hplace.role.trans hrole))
  · rcases hmoved.responses b hb with ⟨a, ha, hplace⟩ | hnew | ⟨c, hc, hlist, hplace⟩
    · rw [← hplace.offset]
      exact h.responses a ha (hplace.role.trans hrole)
    · rw [hnew]
      exact Nat.zero_le _
    · rw [← hplace.offset]
      exact (hsound c hc).responses hlist ((after_role c).symm.trans (hplace.role.trans hrole))

theorem bounded_step (sys : System) (e : Event) (he : e.OfBuild B) (h : Bounded B sys.engine) :
    Bounded B (sys.step e).engine := by
  have hmade := madeFor_step sys e
  refine h.moved (moved_step sys e he) (eventCalls_sound h e) fun b hb => ?_
  rcases hmade.responses b hb with ⟨a, ha, hid, -⟩ | ⟨-, hhi, -⟩
  · exact hid ▸ (h.fresh a ha).trans_le hmade.nextId
  · exact hhi

theorem bounded_run : ∀ (events : List Event) (sys : System), (∀ e ∈ events, e.OfBuild B) → Bounded B sys.engine →
    Bounded B (runFrom System.step sys events).engine
  | [], _, _, h => h
  | e :: events, sys, hbuild, h => by
    obtain ⟨he, hrest⟩ := List.forall_mem_cons.1 hbuild
    exact bounded_run events (sys.step e) hrest (bounded_step sys e he h)

/-- In every run of a build, each call that a message or a notification makes is safe: a block that
`oc_blockwise_dispatch_block` returns ends inside the payload, and `oc_blockwise_handle_block` leaves the write position
within `OC_MAX_APP_DATA_SIZE`. -/
theorem blockCalls_safe (B : BufferSettings) (mid : UInt16) (before : List Event) (e : Event) (after : List Event)
    (hbuild : ∀ e' ∈ before ++ e :: after, e'.OfBuild B) :
    (∀ c ∈ e.blockCalls (runFrom System.step (.init mid) before).engine, c.Safe B) ∧
      ∀ (n : ObservedSend) (o : ObserverTurn) (st : Engine), ∀ c ∈ o.blockCalls n st, c.Safe B := by
  have hinit : Bounded B (System.init mid).engine :=
    ⟨fun _ hb => absurd hb List.not_mem_nil, fun _ hb => absurd hb List.not_mem_nil,
      fun _ hb => absurd hb List.not_mem_nil⟩
  have hbounded := bounded_run before (.init mid) (fun e' he' => hbuild e' (List.mem_append_left _ he')) hinit
  exact ⟨fun c hc => (eventCalls_sound hbounded e c hc).safe,
    fun n o st c hc => (notifyCalls_sound n o st c hc).safe⟩

/-- The second block of an upload, behind the first one. -/
theorem blockCalls_safe_second_block :
    (∀ c ∈ (Event.receive sampleEnv (samplePut (ascii "ab") 1) (peer false)).blockCalls
        (runFrom System.step (.init 0) [.receive sampleEnv (samplePut (ascii "ab") 0) (peer false)]).engine,
      c.Safe defaultSettings) ∧
      ∀ (n : ObservedSend) (o : ObserverTurn) (st : Engine), ∀ c ∈ o.blockCalls n st, c.Safe defaultSettings := by
  refine blockCalls_safe defaultSettings 0 [.receive sampleEnv (samplePut (ascii "ab") 0) (peer false)]
    (.receive sampleEnv (samplePut (ascii "ab") 1) (peer false)) [] fun e he => ?_
  rcases List.mem_cons.1 he with rfl | he
  · rfl
  · cases List.mem_singleton.1 he
    rfl

/-- Both blocks are stored by a call each: the one above is not vacuous. -/
example : ((Event.receive sampleEnv (samplePut (ascii "ab") 1) (peer false)).blockCalls
    (runFrom System.step (.init 0) [.receive sampleEnv (samplePut (ascii "ab") 0) (peer false)]).engine).map
      (fun c => ((c.after defaultSettings).nextBlockOffset, c.list)) = [(32, .requests)] := by
  decide

end SmartGarage
