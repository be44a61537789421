/-
The payload of a request without block options, on its way to the resource handler. `coap_receive` checks
its length as a 32-bit number and stores as many bytes as the lower 16 bits of it say, but notes the
whole length in the request buffer.
-/
import SmartGarage.Messaging.Transfers

namespace SmartGarage

open Runs

/-! ## Storing the payload -/

section

variable {env : EngineEnv} {st : Engine} {message response : CoapPacket} {endpoint : OcEndpoint}

/-- The bytes that a new buffer holds behind the store. -/
def storedBytes (env : EngineEnv) (payload : OcString) : OcString :=
  payload.take (payload.length % 2 ^ 16) ++
    memoryBytes env.memory (payload.length % 2 ^ 16) (env.settings.maxAppDataSize - payload.length % 2 ^ 16)

/-- The payload goes on behind the bytes that are stored as the memory of the new buffer does. -/
def GoesOn (env : EngineEnv) (payload : OcString) : Prop :=
  payload.drop (payload.length % 2 ^ 16) =
    memoryBytes env.memory (payload.length % 2 ^ 16) (payload.length - payload.length % 2 ^ 16)

theorem stored_length (payload : OcString) :
    (payload.take (UInt16.ofNat payload.length).toNat).length = payload.length % 2 ^ 16 := by
  rw [List.length_take, UInt16.toNat_ofNat']
  exact Nat.min_eq_left (Nat.mod_le _ _)

theorem storeRequest_some {b : BlockwiseState} {id : Option Nat} {st' : Engine}
    (h : storeRequest env st message endpoint = (some b, id, st')) :
    b.id = st.nextId ∧ b.payloadSize = payloadLen message ∧ b.buffer = storedBytes env message.payload ∧
      ∃ b₀ : BlockwiseState, b₀.id = st.nextId ∧ st'.requests = st.requests ++ [b₀] := by
  unfold storeRequest ocBlockwiseAllocRequestBuffer at h
  by_cases hmade : coapGetHeaderUriPath message = [] ∨ env.bufferAvailable = false
  · simp only [if_pos hmade, Prod.mk.injEq, reduceCtorEq, false_and] at h
  · simp only [if_neg hmade, ocBlockwiseHandleBlock, ocBlockwiseInitBuffer] at h
    split at h
    · simp at h
    · rename_i hstored
      split at hstored
      · cases hstored
      · rw [if_pos trivial] at hstored
        cases hstored
        simp only [Prod.mk.injEq, Option.some.injEq] at h
        obtain ⟨rfl, -, rfl⟩ := h
        refine ⟨rfl, rfl, ?_, _, rfl, rfl⟩
        simp only [writeAt, storedBytes]
        have hzero : (0 : UInt32).toNat = 0 := rfl
        rw [hzero, List.take_zero, List.nil_append, Nat.zero_add, memoryBytes, ← List.map_drop, List.drop_range', Nat.mul_one,
          Nat.zero_add, stored_length, UInt16.toNat_ofNat', memoryBytes]

/-- The addresses of the request buffers have all been handed out. -/
def Engine.IdsBelow (st : Engine) : Prop := ∀ b ∈ st.requests, b.id < st.nextId

theorem find?_replaceLast {l : List BlockwiseState} {b b₀ : BlockwiseState} (hl : ∀ a ∈ l, a.id ≠ b.id)
    (hb : b₀.id = b.id) :
    (replaceBuffer (l ++ [b₀]) b).find? (·.id = b.id) = some b := by
  unfold replaceBuffer
  rw [List.map_append, List.find?_append]
  have hnone : (l.map fun c => if c.id = b.id then b else c).find? (·.id = b.id) = none := by
    rw [List.find?_eq_none]
    intro c hc
    obtain ⟨a, ha, rfl⟩ := List.mem_map.1 hc
    simp [hl a ha]
  rw [hnone]
  simp [hb]

/-- What the resource handler is given: no buffer for an empty payload, or one that holds the payload and
has its length. -/
def HandedOver (st : Engine) (requestBuffer : Option Nat) (payload : OcString) : Prop :=
  match requestBuffer with
  | none => payload = []
  | some id =>
    ∃ b, st.request id = some b ∧ b.payloadSize.toNat = payload.length ∧ b.buffer.take payload.length = payload

theorem plainRequestBuffer_some (hids : st.IdsBelow) {rq : Option Nat} {id : Option Nat} {st' : Engine}
    (h : plainRequestBuffer env st message endpoint = (some rq, id, st')) :
    (message.payload = [] ∧ rq = none) ∨ (message.payload ≠ [] ∧ ∃ i b, rq = some i ∧ st'.request i = some b ∧
      b.payloadSize = payloadLen message ∧ b.buffer = storedBytes env message.payload) := by
  unfold plainRequestBuffer at h
  by_cases hpayload : message.payload.length > 0
  · rw [if_pos hpayload] at h
    have hdrop : ∀ b ∈ (dropRequestBuffer st message endpoint).requests,
        b.id ≠ (dropRequestBuffer st message endpoint).nextId := by
      unfold dropRequestBuffer
      split
      · exact fun b hb => Nat.ne_of_lt (hids b (List.mem_filter.1 hb).1)
      · exact fun b hb => Nat.ne_of_lt (hids b hb)
    cases hstore : storeRequest env (dropRequestBuffer st message endpoint) message endpoint with
    | mk b rest =>
      obtain ⟨id', st₁⟩ := rest
      rw [hstore] at h
      cases b with
      | none => simp at h
      | some b =>
        obtain ⟨hid, hsize, hbuffer, b₀, hid₀, hrequests⟩ := storeRequest_some hstore
        simp only [Prod.mk.injEq, Option.some.injEq] at h
        obtain ⟨rfl, -, rfl⟩ := h
        refine .inr ⟨List.length_pos_iff.1 hpayload, b.id, { b with refCount := 0 }, rfl, ?_, hsize, hbuffer⟩
        unfold Engine.request Engine.setRequest
        rw [hrequests]
        exact find?_replaceLast (b := { b with refCount := 0 }) (fun a ha => hid ▸ hdrop a ha) (hid₀.trans hid.symm)
  · rw [if_neg hpayload] at h
    have hnil : message.payload = [] := by
      cases hp : message.payload with
      | nil => rfl
      | cons a l => simp [hp] at hpayload
    simp only [Prod.mk.injEq, Option.some.injEq] at h
    exact .inl ⟨hnil, h.1.symm⟩

/-- The bytes stored are the whole payload up to 65535 bytes, and beyond that where the payload goes on as the
memory of the new buffer does. -/
theorem storedBytes_take {payload : OcString}
    (hlen : payload.length ≤ env.settings.maxAppDataSize ∨ payload.length < 2 ^ 16) :
    (storedBytes env payload).take payload.length = payload ↔ payload.length < 2 ^ 16 ∨ GoesOn env payload := by
  unfold storedBytes GoesOn
  by_cases hshort : payload.length < 2 ^ 16
  · rw [Nat.mod_eq_of_lt hshort, List.take_length, List.take_left]
    exact ⟨fun _ => .inl hshort, fun _ => rfl⟩
  · have hmod := Nat.mod_le payload.length (2 ^ 16)
    have hmax : payload.length ≤ env.settings.maxAppDataSize := hlen.resolve_right hshort
    have htake : (payload.take (payload.length % 2 ^ 16)).length = payload.length % 2 ^ 16 := by
      rw [List.length_take]
      omega
    rw [List.take_append, htake, memoryBytes, ← List.map_take, List.take_range'_of_length_ge (by omega),
      List.take_of_length_le (by omega), memoryBytes]
    constructor
    · intro h
      have hrest := congrArg (List.drop (payload.length % 2 ^ 16)) h
      rw [List.drop_append, htake, Nat.sub_self, List.drop_zero, List.drop_of_length_le (by omega), List.nil_append]
        at hrest
      exact .inr hrest.symm
    · rintro (h | h)
      · exact absurd h hshort
      · rw [← h, List.take_append_drop]

/-! ## The request -/

theorem plainRequestFits_length (h : plainRequestFits env message endpoint = true)
    (hlen : message.payload.length < 2 ^ 32) :
    message.payload.length ≤ env.settings.maxAppDataSize ∨ message.payload.length < 2 ^ 16 := by
  have hpayload : (payloadLen message).toNat = message.payload.length := by
    rw [payloadLen, UInt32.toNat_ofNat', Nat.mod_eq_of_lt hlen]
  unfold plainRequestFits at h
  split at h
  · have hle := UInt32.le_iff_toNat_le.1 (of_decide_eq_true h)
    rw [hpayload, UInt32.toNat_ofNat'] at hle
    exact .inl (hle.trans (Nat.mod_le _ _))
  · have hle := UInt32.le_iff_toNat_le.1 (of_decide_eq_true h)
    rw [hpayload, UInt16.toNat_toUInt32] at hle
    exact .inr (Nat.lt_of_le_of_lt hle (UInt16.toNat_lt _))

theorem receivePlain_handed (hids : st.IdsBelow) (hlen : message.payload.length < 2 ^ 32) {r : CoapPacket}
    {rq rs : Option Nat} (h : (receivePlain env st message endpoint response).next = .handle r rq rs) :
    HandedOver (receivePlain env st message endpoint response).st rq message.payload ↔
      message.payload.length < 2 ^ 16 ∨ GoesOn env message.payload := by
  unfold receivePlain at h ⊢
  by_cases hfits : plainRequestFits env message endpoint = true
  · rw [if_pos hfits] at h ⊢
    have htake := storedBytes_take (plainRequestFits_length hfits hlen)
    cases hbuffer : plainRequestBuffer env st message endpoint with
    | mk rq' rest =>
      obtain ⟨id, st'⟩ := rest
      rw [hbuffer] at h
      cases rq' with
      | none => cases h
      | some rq' =>
        have hhanded : HandedOver st' rq' message.payload ↔ message.payload.length < 2 ^ 16 ∨
            GoesOn env message.payload := by
          rcases plainRequestBuffer_some hids hbuffer with ⟨hnil, rfl⟩ | ⟨hne, i, b, rfl, hb, hsize, hbytes⟩
          · simp [HandedOver, hnil]
          · rw [← htake, ← hbytes]
            have hnat : b.payloadSize.toNat = message.payload.length := by
              rw [hsize, payloadLen, UInt32.toNat_ofNat', Nat.mod_eq_of_lt hlen]
            constructor
            · rintro ⟨b', hb', -, heq⟩
              rw [hb] at hb'
              cases hb'
              exact heq
            · exact fun heq => ⟨b, hb, hnat, heq⟩
        simp only at h ⊢
        split at h
        · split at h
          · cases h
          · rename_i hmulticast
            cases h
            simp only [hmulticast, reduceIte]
            exact hhanded
        · cases h
          exact hhanded
  · rw [if_neg hfits] at h
    cases h

theorem storeRequest_responses : (storeRequest env st message endpoint).2.2.responses = st.responses := by
  unfold storeRequest ocBlockwiseAllocRequestBuffer
  by_cases hmade : coapGetHeaderUriPath message = [] ∨ env.bufferAvailable = false
  · rw [if_pos hmade]
  · rw [if_neg hmade]
    dsimp only
    split <;> rfl

theorem storeRequest_accepts (hroom : message.payload.length % 2 ^ 16 ≤ env.settings.maxAppDataSize)
    (hmax : 0 < env.settings.maxAppDataSize % 2 ^ 32) (hpath : coapGetHeaderUriPath message ≠ [])
    (havailable : env.bufferAvailable = true) : (storeRequest env st message endpoint).1 ≠ none := by
  have hmade : ¬(coapGetHeaderUriPath message = [] ∨ env.bufferAvailable = false) := by
    simp [hpath, havailable]
  have hzero : (0 : UInt32).toNat = 0 := rfl
  have hstored : ¬((0 : UInt32).toNat ≥ env.settings.maxAppDataSize % 2 ^ 32 ∨
      (message.payload.take (UInt16.ofNat message.payload.length).toNat).length >
        env.settings.maxAppDataSize - (0 : UInt32).toNat ∨ (0 : UInt32) > 0) := by
    rw [stored_length, hzero]
    simp only [UInt32.lt_irrefl, or_false, gt_iff_lt]
    omega
  unfold storeRequest ocBlockwiseAllocRequestBuffer ocBlockwiseHandleBlock
  rw [if_neg hmade]
  dsimp only [ocBlockwiseInitBuffer]
  rw [if_neg hstored, if_pos rfl]
  exact Option.some_ne_none _

theorem receivePlain_accepts (hfits : plainRequestFits env message endpoint = true)
    (hroom : message.payload.length % 2 ^ 16 ≤ env.settings.maxAppDataSize)
    (hmax : 0 < env.settings.maxAppDataSize % 2 ^ 32) (hpath : coapGetHeaderUriPath message ≠ [])
    (havailable : env.bufferAvailable = true) (hresponses : st.responses = []) :
    ∃ rq, (receivePlain env st message endpoint response).next = .handle response rq none := by
  have hdrop : (dropRequestBuffer st message endpoint).responses = [] := by
    unfold dropRequestBuffer
    split <;> exact hresponses
  have hbuffer : (plainRequestBuffer env st message endpoint).1 ≠ none ∧
      (plainRequestBuffer env st message endpoint).2.2.responses = [] := by
    have hstored : (storeRequest env (dropRequestBuffer st message endpoint) message endpoint).1 ≠ none :=
      storeRequest_accepts hroom hmax hpath havailable
    have hsame : (storeRequest env (dropRequestBuffer st message endpoint) message endpoint).2.2.responses = _ :=
      storeRequest_responses
    unfold plainRequestBuffer
    split
    · cases hstore : storeRequest env (dropRequestBuffer st message endpoint) message endpoint with
      | mk b rest =>
        rw [hstore] at hstored hsame
        cases b with
        | none => exact absurd rfl hstored
        | some b => exact ⟨Option.some_ne_none _, hsame.trans hdrop⟩
    · exact ⟨Option.some_ne_none _, hresponses⟩
  unfold receivePlain
  rw [if_pos hfits]
  cases hplain : plainRequestBuffer env st message endpoint with
  | mk rq rest =>
    obtain ⟨id, st'⟩ := rest
    rw [hplain] at hbuffer
    cases rq with
    | none => exact absurd rfl hbuffer.1
    | some rq =>
      simp only at hbuffer ⊢
      rw [hbuffer.2]
      exact ⟨rq, rfl⟩

theorem reached_idsBelow (mid : UInt16) (events : List Event) :
    (runFrom System.step (.init mid) events).engine.IdsBelow := by
  have hsys : (runFrom Owned.step (.init mid) events).sys = runFrom System.step (.init mid) events :=
    runFrom_map (f := Owned.sys) (fun _ _ => rfl) events _
  have howns : OwnsKeys (runFrom Owned.step (.init mid) events) :=
    run_always ownsKeys_step events _ (ownsKeys_init mid)
  rw [← hsys]
  exact fun b hb => (howns b (List.mem_append_left _ hb)).1

/-- The engine as a request finds it behind what has happened: its transaction is cleared, its message id noted. -/
def engineBefore (mid : UInt16) (events : List Event) (message : CoapPacket) (endpoint : OcEndpoint) : Engine :=
  (initResponse message endpoint
    (clearTransaction (runFrom System.step (.init mid) events).engine message endpoint)).2

theorem engineBefore_idsBelow (mid : UInt16) (events : List Event) :
    (engineBefore mid events message endpoint).IdsBelow := by
  obtain ⟨hrequests, -, hnextId⟩ := initResponse_buffers
    (clearTransaction (runFrom System.step (.init mid) events).engine message endpoint) message endpoint
  obtain ⟨hrequests', -, hnextId'⟩ :=
    clearTransaction_buffers (runFrom System.step (.init mid) events).engine message endpoint
  intro b hb
  unfold engineBefore at hb ⊢
  rw [hrequests, hrequests'] at hb
  rw [hnextId, hnextId']
  exact reached_idsBelow mid events b hb

/-- Whatever has happened before, a request without block options hands its payload over iff that is shorter than
2^16 bytes, or goes on behind the bytes that are stored as the memory of the new buffer does. -/
theorem plainRequest_payload_iff (mid : UInt16) (events : List Event) {csm : CsmState}
    (hlen : message.payload.length < 2 ^ 32) (h1 : message.isOption coapOptionBlock1 = false)
    (h2 : message.isOption coapOptionBlock2 = false) {r : CoapPacket} {rq rs : Option Nat}
    (h : (serverStep env csm message endpoint (engineBefore mid events message endpoint) response).next =
      .handle r rq rs) :
    HandedOver (serverStep env csm message endpoint (engineBefore mid events message endpoint) response).st rq
        message.payload ↔
      message.payload.length < 2 ^ 16 ∨ GoesOn env message.payload := by
  have hplain : serverStep env csm message endpoint (engineBefore mid events message endpoint) response =
      receivePlain env (engineBefore mid events message endpoint) message endpoint response := by
    simp [serverStep, h1, h2]
  rw [hplain] at h ⊢
  exact receivePlain_handed (engineBefore_idsBelow mid events) hlen h

end

/-! ## Two requests -/

/-- A POST to `/a`. -/
def postToA : CoapPacket :=
  { coapTcpInitMessage coapPost with options := optionBit coapOptionUriPath, uriPath := ascii "a" }

/-- A POST with a payload. -/
def plainPost (payload : OcString) : CoapPacket := { postToA with payload := payload }

/-- A peer on a TCP connection. -/
def tcpPeer : OcEndpoint := { OcEndpoint.zero with flags := { OcEndpoint.zero.flags with tcp := true } }

/-- A configuration with room for 100000 bytes. -/
def roomyEnv : EngineEnv := { sampleEnv with settings := { defaultSettings with maxAppDataSize := 100000 } }

/-- The POST as the first message over a TCP connection. -/
def postStep (env : EngineEnv) (payload : OcString) : ServerStep :=
  serverStep env .done (plainPost payload) tcpPeer (engineBefore 0 [] (plainPost payload) tcpPeer)
    (coapTcpInitMessage content205)

theorem plainRequest_payload_iff_short :
    HandedOver (postStep sampleEnv (ascii "x")).st (some 0) (ascii "x") ↔
      (ascii "x").length < 2 ^ 16 ∨ GoesOn sampleEnv (ascii "x") := by
  have hnext : (postStep sampleEnv (ascii "x")).next = .handle (coapTcpInitMessage content205) (some 0) none := by
    rfl
  have hlen : (plainPost (ascii "x")).payload.length < 2 ^ 32 := by decide
  exact plainRequest_payload_iff 0 [] hlen rfl rfl hnext

theorem postStep_cut {payload : OcString} (hlen : payload.length = 65537) (hmem : 1 ∈ payload.drop 1) :
    ∃ r rq rs, (postStep roomyEnv payload).next = .handle r rq rs ∧
      ¬ HandedOver (postStep roomyEnv payload).st rq payload := by
  have h1 : (plainPost payload).isOption coapOptionBlock1 = false := by
    show postToA.isOption coapOptionBlock1 = false
    decide
  have h2 : (plainPost payload).isOption coapOptionBlock2 = false := by
    show postToA.isOption coapOptionBlock2 = false
    decide
  have hplain : postStep roomyEnv payload = receivePlain roomyEnv (engineBefore 0 [] (plainPost payload) tcpPeer)
      (plainPost payload) tcpPeer (coapTcpInitMessage content205) := by
    simp [postStep, serverStep, h1, h2]
  have hbytes : (plainPost payload).payload.length = 65537 := hlen
  have hfits : plainRequestFits roomyEnv (plainPost payload) tcpPeer = true := by
    unfold plainRequestFits payloadLen
    rw [hbytes, if_pos (by decide)]
    decide
  have hpath : coapGetHeaderUriPath (plainPost payload) ≠ [] := by
    show coapGetHeaderUriPath postToA ≠ []
    decide
  obtain ⟨rq, hnext⟩ : ∃ rq, (receivePlain roomyEnv (engineBefore 0 [] (plainPost payload) tcpPeer) (plainPost payload)
      tcpPeer (coapTcpInitMessage content205)).next = .handle (coapTcpInitMessage content205) rq none :=
    receivePlain_accepts hfits (by rw [hbytes]; decide) (by decide) hpath rfl rfl
  rw [hplain]
  refine ⟨_, _, _, hnext, ?_⟩
  have hiff := receivePlain_handed (engineBefore_idsBelow 0 []) (by rw [hbytes]; decide) hnext
  rw [show (plainPost payload).payload = payload from rfl, hlen] at hiff
  rw [hiff]
  rintro (h | h)
  · exact absurd h (by decide)
  · unfold GoesOn at h
    rw [hlen] at h
    obtain ⟨i, -, hi⟩ := List.mem_map.1 (h ▸ hmem)
    have hzero : (0 : UInt8) = 1 := hi
    exact absurd hzero (by decide)

/-- Of 65537 bytes the handler gets the first one. -/
theorem plainRequest_payload_cut :
    ∃ r rq rs, (postStep roomyEnv (List.replicate 65537 1)).next = .handle r rq rs ∧
      ¬ HandedOver (postStep roomyEnv (List.replicate 65537 1)).st rq (List.replicate 65537 1) :=
  postStep_cut List.length_replicate (by rw [List.drop_replicate]; exact List.mem_replicate.2 ⟨by decide, rfl⟩)

end SmartGarage
