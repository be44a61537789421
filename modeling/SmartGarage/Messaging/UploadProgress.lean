/-
The request buffer of an upload: it keeps the payload while the client finds it again, and once it is gone, no block
of the upload is sent any more. The block that a response makes the client send is the one that it asks for.
-/
import SmartGarage.Messaging.UploadBlocks

namespace SmartGarage

open Runs

/-! ## The request buffer -/

/-- The client finds the callback of a request by its token, and the request buffer with the payload by the
callback. -/
structure InProgress (cb : ClientCb) (payload : OcString) (b : BlockwiseState) (st : Engine) : Prop where
  token : st.clientCbs.find? (·.token = cb.token) = some cb
  live : st.clientCb cb.id = some cb
  found : st.requests.find? (findsByClientCb cb.endpoint cb.id) = some b
  own : b.clientCb = some cb.id
  size : b.payloadSize.toNat = payload.length
  bytes : b.buffer.take payload.length = payload
  used : b.refCount ≠ 0
  made : b.id < st.nextId

/-- No request buffer has the address any more. -/
structure Gone (id : Nat) (st : Engine) : Prop where
  requests : ∀ b ∈ st.requests, b.id ≠ id
  made : id < st.nextId

theorem Gone.kept {id : Nat} {st st' : Engine} {k : BlockwiseKey} (h : Gone id st) (hkept : Kept k st st') : Gone id st' := by
  refine ⟨fun b hb hid => ?_, Nat.lt_of_lt_of_le h.made hkept.nextId⟩
  rcases hkept.requests b hb with ⟨a, ha, hsame, -⟩ | ⟨hnew, -⟩
  · exact h.requests a ha (hsame.trans hid)
  · have hmade := h.made
    omega

theorem find?_replaceBuffer {p : BlockwiseState → Bool} {a b : BlockwiseState} (hid : b.id = a.id) (hp : p b = true) :
    ∀ {l : List BlockwiseState}, l.find? p = some a → (replaceBuffer l b).find? p = some b
  | [], h => nomatch h
  | c :: l, h => by
    have hcons : replaceBuffer (c :: l) b = (if c.id = b.id then b else c) :: replaceBuffer l b := rfl
    rw [hcons]
    rw [List.find?_cons] at h
    split at h
    · cases h
      rw [if_pos hid.symm, List.find?_cons_of_pos hp]
    · rename_i hc
      split
      · exact List.find?_cons_of_pos hp
      · rw [List.find?_cons_of_neg (by simp [hc])]
        exact find?_replaceBuffer hid hp h

theorem find?_used {p : BlockwiseState → Bool} {b : BlockwiseState} (hused : b.refCount ≠ 0) :
    ∀ {l : List BlockwiseState}, l.find? p = some b → (l.filter (·.refCount ≠ 0)).find? p = some b
  | [], h => nomatch h
  | c :: l, h => by
    rw [List.find?_cons] at h
    split at h
    · rename_i hc
      cases h
      rw [List.filter_cons_of_pos (by simpa using hused), List.find?_cons_of_pos hc]
    · rename_i hc
      have ih := find?_used hused h
      rw [List.filter_cons]
      split
      · rwa [List.find?_cons_of_neg (by simp [hc])]
      · exact ih

theorem InProgress.write {cb : ClientCb} {payload : OcString} {b b' : BlockwiseState} {st st' : Engine}
    (h : InProgress cb payload b st) (hid : b'.id = b.id) (hrole : b'.role = b.role) (hcb : b'.clientCb = b.clientCb)
    (hendpoint : b'.endpoint = b.endpoint) (hsize : b'.payloadSize = b.payloadSize) (hbuffer : b'.buffer = b.buffer)
    (hused : b'.refCount ≠ 0) (hrequests : st'.requests = (replaceBuffer st.requests b').filter (·.refCount ≠ 0))
    (hcbs : st'.clientCbs = st.clientCbs) (hnext : st.nextId ≤ st'.nextId) : InProgress cb payload b' st' := by
  have hp : findsByClientCb cb.endpoint cb.id b' = true := by
    have hp := List.find?_some h.found
    unfold findsByClientCb at hp ⊢
    rwa [hrole, hcb, hendpoint]
  refine ⟨by rw [hcbs]; exact h.token, ?_, ?_, hcb.trans h.own, by rw [hsize]; exact h.size, by rw [hbuffer]; exact h.bytes,
    hused, ?_⟩
  · have hlive := h.live
    unfold Engine.clientCb at hlive ⊢
    rwa [hcbs]
  · rw [hrequests]
    exact find?_used hused (find?_replaceBuffer hid hp h.found)
  · rw [hid]
    exact Nat.lt_of_lt_of_le h.made hnext

/-! ## Blocks that are asked for -/

section Asked

variable {env : EngineEnv} {message : CoapPacket} {b : BlockwiseState} {payload : OcString}

theorem block1Size_le_blockSize (B : BufferSettings) (message : CoapPacket) : (block1Size B message).toNat ≤ B.blockSize := by
  obtain ⟨k, -, hk, hsize⟩ := B.blockSize_pow
  have hpow : 2 ^ k ≤ 2 ^ 11 := Nat.pow_le_pow_right (by omega) hk
  unfold block1Size
  rw [UInt16.toNat_min, UInt16.toNat_ofNat', Nat.mod_eq_of_lt (by omega)]
  exact Nat.min_le_right _ _

theorem askedSize_le (B : BufferSettings) (message : CoapPacket) : (askedSize B message).toNat ≤ B.blockSize := by
  obtain ⟨k, -, hk, hsize⟩ := B.blockSize_pow
  have hpow : 2 ^ k ≤ 2 ^ 11 := Nat.pow_le_pow_right (by omega) hk
  have hblock : (UInt16.ofNat B.blockSize).toNat = B.blockSize := by
    rw [UInt16.toNat_ofNat', Nat.mod_eq_of_lt (by omega)]
  unfold askedSize
  split
  · exact block1Size_le_blockSize B message
  · split
    · rw [UInt16.toNat_min, hblock]
      exact Nat.min_le_right _ _
    · exact Nat.le_of_eq hblock

theorem nextUploadBlock_eq : nextUploadBlock env message b =
    ((ocBlockwiseDispatchBlock b (askedOffset env.settings message) (askedSize env.settings message).toUInt32).map
      fun r => (if message.isOption coapOptionBlock1 then r.1 else { r.1 with refCount := 1 }, r.2),
      askedSize env.settings message) := by
  unfold nextUploadBlock askedOffset askedSize
  by_cases hblock : message.isOption coapOptionBlock1 = true
  · simp [hblock]
  · simp [hblock]

theorem nextUploadBlock_some (hsize : b.payloadSize.toNat = payload.length) (hbytes : b.buffer.take payload.length = payload)
    (hlonger : env.settings.blockSize < payload.length) (hasks : (askedOffset env.settings message).toNat < payload.length) :
    ∃ next refs, nextUploadBlock env message b = (some ({ b with nextBlockOffset := next, refCount := refs },
        (payload.drop (askedOffset env.settings message).toNat).take (askedSize env.settings message).toNat),
        askedSize env.settings message) ∧
      next.toNat = min ((askedOffset env.settings message).toNat + (askedSize env.settings message).toNat) payload.length ∧
      (refs = b.refCount ∨ refs = 1) := by
  have hle := askedSize_le env.settings message
  have hlt := b.payloadSize.toNat_lt
  have hrequested : (askedSize env.settings message).toUInt32.toNat = (askedSize env.settings message).toNat := rfl
  rw [nextUploadBlock_eq]
  generalize askedOffset env.settings message = offset at hasks ⊢
  generalize askedSize env.settings message = size at hle hrequested ⊢
  have hoffset : offset < b.payloadSize := by
    rw [UInt32.lt_iff_toNat_lt]
    omega
  have hlength : (dispatchLength b offset size.toUInt32).toNat = min size.toNat (payload.length - offset.toNat) := by
    unfold dispatchLength
    rw [if_neg (by rw [UInt32.lt_iff_toNat_lt]; omega), UInt32.toNat_min, UInt32.toNat_sub_of_le _ _ (UInt32.le_of_lt hoffset),
      hsize, hrequested]
  have hdata : (b.buffer.drop offset.toNat).take (dispatchLength b offset size.toUInt32).toNat =
      (payload.drop offset.toNat).take size.toNat := by
    rw [hlength]
    conv_rhs => rw [← hbytes, List.drop_take, List.take_take]
  have hnext : (offset + dispatchLength b offset size.toUInt32).toNat = min (offset.toNat + size.toNat) payload.length := by
    rw [UInt32.toNat_add, hlength]
    omega
  refine ⟨offset + dispatchLength b offset size.toUInt32,
    if message.isOption coapOptionBlock1 then b.refCount else 1, ?_, hnext, ?_⟩
  · unfold ocBlockwiseDispatchBlock
    rw [if_pos hoffset]
    dsimp only [Option.map_some]
    rw [hdata]
    split <;> rfl
  · split
    · exact .inl rfl
    · exact .inr rfl

theorem nextUploadBlock_none (hsize : b.payloadSize.toNat = payload.length)
    (hasks : ¬(askedOffset env.settings message).toNat < payload.length) :
    nextUploadBlock env message b = (none, askedSize env.settings message) := by
  rw [nextUploadBlock_eq]
  unfold ocBlockwiseDispatchBlock
  rw [if_neg (by rw [UInt32.lt_iff_toNat_lt]; omega)]
  rfl

end Asked

/-! ## Blocks that are sent -/

/-- The number of the block that a response asks for. -/
def askedNum (message : CoapPacket) : UInt32 :=
  if message.isOption coapOptionBlock1 then message.block1.num + 1 else 0

/-- A packet of the client with a Block1 option and some bytes. -/
structure Carries (B : BufferSettings) (num : UInt32) (more : UInt8) (size : UInt16) (bytes : OcString) (p : CoapPacket) :
    Prop where
  option : p.isOption coapOptionBlock1 = true
  num : p.block1.num = num
  more : p.block1.more = more
  size : p.block1.size = size
  payload : p.payload = bytes.take (min B.blockSize bytes.length % 2 ^ 16)

section Carries

variable {B : BufferSettings} {num : UInt32} {more : UInt8} {size : UInt16} {bytes : OcString} {p : CoapPacket}

theorem Carries.setOption {q : CoapPacket} (h : Carries B num more size bytes p) (opt : Nat)
    (hoptions : q.options = (p.setOption opt).options) (hblock : q.block1 = p.block1) (hpayload : q.payload = p.payload) :
    Carries B num more size bytes q := by
  refine ⟨?_, by rw [hblock]; exact h.num, by rw [hblock]; exact h.more, by rw [hblock]; exact h.size,
    hpayload.trans h.payload⟩
  have hsame : q.isOption coapOptionBlock1 = (p.setOption opt).isOption coapOptionBlock1 := by
    unfold CoapPacket.isOption
    rw [hoptions]
  rw [hsame, isOption_setOption p opt (by decide), h.option, Bool.true_or]

theorem Carries.withQuery (h : Carries B num more size bytes p) (cb : ClientCb) :
    Carries B num more size bytes (withQuery cb p) := by
  unfold SmartGarage.withQuery
  split
  · exact h.setOption coapOptionUriQuery rfl rfl rfl
  · exact h

theorem Carries.setHeaderSize1 (h : Carries B num more size bytes p) (value : UInt32) :
    Carries B num more size bytes (p.setHeaderSize1 value) := h.setOption coapOptionSize1 rfl rfl rfl

theorem Carries.setHeaderAccept (h : Carries B num more size bytes p) (value : UInt32) :
    Carries B num more size bytes (p.setHeaderAccept value) := h.setOption coapOptionAccept rfl rfl rfl

theorem Carries.setHeaderContentFormat (h : Carries B num more size bytes p) (value : UInt32) :
    Carries B num more size bytes (p.setHeaderContentFormat value) :=
  h.setOption coapOptionContentFormat rfl rfl rfl

theorem carries_setHeaderBlock1 (hargs : CoapPacket.blockArgsOk num size = true)
    (hpayload : p.payload = bytes.take (min B.blockSize bytes.length % 2 ^ 16)) :
    Carries B num more size bytes (p.setHeaderBlock1 num more size) := by
  unfold CoapPacket.setHeaderBlock1
  rw [if_pos hargs]
  refine ⟨?_, rfl, rfl, rfl, hpayload⟩
  rw [isOption_setOption _ _ (by decide)]
  simp

theorem blockArgsOk_of (hnum : num.toNat < 2 ^ 20) (hlow : 16 ≤ size.toNat) (hhigh : size.toNat ≤ 2048) :
    CoapPacket.blockArgsOk num size = true := by
  unfold CoapPacket.blockArgsOk
  simp only [Bool.and_eq_true, Bool.not_eq_true', decide_eq_false_iff_not, UInt16.lt_iff_toNat_lt, gt_iff_lt,
    UInt32.lt_iff_toNat_lt]
  have h16 : (16 : UInt16).toNat = 16 := rfl
  have h2048 : (2048 : UInt16).toNat = 2048 := rfl
  have hmax : (0x0FFFFF : UInt32).toNat = 2 ^ 20 - 1 := rfl
  omega

end Carries

theorem uploadMessage_carries {B : BufferSettings} {env : EngineEnv} {message : CoapPacket} {b : BlockwiseState}
    {cb : ClientCb} {mid : UInt16} {bytes : OcString} {size : UInt16} (hB : env.settings = B)
    (hargs : CoapPacket.blockArgsOk (askedNum message) size = true) :
    Carries B (askedNum message) (if b.nextBlockOffset < b.payloadSize then 1 else 0) size bytes
      (blockRequest env message (uploadMessage env message b cb mid bytes size) none) := by
  subst hB
  have hupload : Carries env.settings (askedNum message) (if b.nextBlockOffset < b.payloadSize then 1 else 0) size bytes
      (uploadMessage env message b cb mid bytes size) := by
    unfold uploadMessage askedNum at *
    dsimp only
    have hfirst : (uploadRequest env cb mid bytes).payload =
        bytes.take (min env.settings.blockSize bytes.length % 2 ^ 16) := rfl
    by_cases hblock : message.isOption coapOptionBlock1 = true
    · rw [if_pos hblock] at hargs ⊢
      rw [if_pos hblock]
      exact (((carries_setHeaderBlock1 hargs hfirst).withQuery cb).setHeaderAccept 10000).setHeaderContentFormat 10000
    · rw [if_neg hblock] at hargs ⊢
      rw [if_neg hblock]
      exact ((((carries_setHeaderBlock1 hargs hfirst).setHeaderSize1 _).withQuery cb).setHeaderAccept
        10000).setHeaderContentFormat 10000
  unfold blockRequest isObserved
  by_cases htoken : message.token.length > 0
  · rw [if_pos htoken, if_neg Bool.false_ne_true]
    exact ⟨hupload.option, hupload.num, hupload.more, hupload.size, hupload.payload⟩
  · rw [if_neg htoken]
    exact hupload

theorem parseBlock_offset (value : OcString) :
    (∃ j, j ≤ 7 ∧ (parseBlock value).size.toNat = 16 * 2 ^ j) ∧
      ((parseBlock value).num.toNat < 2 ^ 20 →
        (parseBlock value).offset.toNat = (parseBlock value).num.toNat * (parseBlock value).size.toNat) := by
  obtain ⟨hnum, hsize, hoffset⟩ := parseBlock_nat value
  generalize (coapParseIntOption value).toNat = v at hnum hsize hoffset
  refine ⟨⟨v % 8, by omega, hsize⟩, fun hsmall => ?_⟩
  have hpow : 2 ^ (v % 8) ≤ 2 ^ 7 := Nat.pow_le_pow_right (by omega) (by omega)
  rw [hnum] at hsmall
  rw [hoffset, hnum, hsize, Nat.mod_eq_of_lt]
  calc v / 16 * (16 * 2 ^ (v % 8)) ≤ 2 ^ 20 * (16 * 2 ^ 7) := Nat.mul_le_mul (by omega) (by omega)
    _ < 2 ^ 32 := by decide

section Answers

variable {B : BufferSettings} {cb : ClientCb} {payload : OcString} {a : UploadAnswer B cb}

theorem askedOffset_eq (henc : AskedEncodable payload a) (hasks : AsksForUploadBlock payload a) :
    (askedNum a.message).toNat < 2 ^ 20 ∧
      (askedNum a.message = 0 ∧ (askedOffset B a.message).toNat = 0 ∧ a.message.isOption coapOptionBlock1 = false ∨
        (∃ j, (askedSize B a.message).toNat = 16 * 2 ^ j) ∧
          (askedOffset B a.message).toNat = (askedNum a.message).toNat * (askedSize B a.message).toNat) := by
  have hlow := henc.size
  have hnumber := henc.number
  unfold AsksForUploadBlock at hasks
  unfold askedNum
  by_cases hblock : a.message.isOption coapOptionBlock1 = true
  · obtain ⟨hnum, hsmall⟩ := hnumber hblock hasks
    obtain ⟨value, hvalue⟩ : ∃ value, a.message.block1 = parseBlock value := by
      rcases (parsed_udp B (datagramRead a.env.behind a.data)).block1 with hzero | hread
      · have hnone : (askedSize B a.message).toNat = 0 := by
          unfold askedSize block1Size
          rw [if_pos hblock, if_pos hblock, show a.message.block1 = CoapBlock.zero from hzero, UInt16.toNat_min]
          exact Nat.zero_min _
        omega
      · exact hread
    obtain ⟨⟨j, hj, hsize⟩, hoffset⟩ := parseBlock_offset value
    rw [← hvalue] at hsize hoffset
    obtain ⟨k, hk4, hk, hB⟩ := B.blockSize_pow
    have hpowB : 2 ^ k ≤ 2 ^ 11 := Nat.pow_le_pow_right (by omega) hk
    have hasked : (askedSize B a.message).toNat = min a.message.block1.size.toNat B.blockSize := by
      unfold askedSize block1Size
      rw [if_pos hblock, if_pos hblock, UInt16.toNat_min, UInt16.toNat_ofNat', Nat.mod_eq_of_lt (by omega)]
    -- the smaller one of two powers of two
    have hpow : ∃ j, (askedSize B a.message).toNat = 16 * 2 ^ j := by
      rw [hasked]
      rcases Nat.le_total a.message.block1.size.toNat B.blockSize with hle | hle
      · exact ⟨j, by rw [Nat.min_eq_left hle, hsize]⟩
      · refine ⟨k - 4, ?_⟩
        rw [Nat.min_eq_right hle, hB, show (16 : Nat) = 2 ^ 4 from rfl, ← Nat.pow_add]
        congr 1
        omega
    have hfirst := hoffset (by omega)
    -- the server asks for what is behind the block it acknowledges
    have hsum : (askedOffset B a.message).toNat = a.message.block1.num.toNat * a.message.block1.size.toNat +
        (askedSize B a.message).toNat := by
      have hmul : a.message.block1.num.toNat * a.message.block1.size.toNat ≤ 2 ^ 20 * 2048 := by
        refine Nat.mul_le_mul (by omega) ?_
        have hj' : 2 ^ j ≤ 2 ^ 7 := Nat.pow_le_pow_right (by omega) hj
        omega
      have hle := askedSize_le B a.message
      have hsame : (block1Size B a.message).toUInt32.toNat = (askedSize B a.message).toNat := by
        unfold askedSize
        rw [if_pos hblock]
        rfl
      unfold askedOffset
      rw [if_pos hblock, UInt32.toNat_add, hfirst, hsame, Nat.mod_eq_of_lt (by omega)]
    have hnext : (a.message.block1.num + 1).toNat = a.message.block1.num.toNat + 1 := by
      rw [UInt32.toNat_add]
      have h1 : (1 : UInt32).toNat = 1 := rfl
      omega
    rw [if_pos hblock, hnext]
    refine ⟨hnum, .inr ⟨hpow, ?_⟩⟩
    rw [hsum, Nat.succ_mul]
    rcases hsmall with hzero | hle
    · rw [hzero]
      simp
    · rw [hasked, Nat.min_eq_left hle]
  · rw [if_neg hblock]
    refine ⟨by decide, .inl ⟨rfl, ?_, by simpa using hblock⟩⟩
    unfold askedOffset
    rw [if_neg hblock]
    rfl

/-- The block that a response asks for is one of the payload, from where it is asked for. -/
theorem asked_isBlock {p : CoapPacket} {more : UInt8} (hlonger : B.blockSize < payload.length)
    (henc : AskedEncodable payload a) (hasks : AsksForUploadBlock payload a)
    (hmore : more = 0 ↔ payload.length ≤ (askedOffset B a.message).toNat + (askedSize B a.message).toNat)
    (hp : CoapPacket.blockArgsOk (askedNum a.message) (askedSize B a.message) = true →
      Carries B (askedNum a.message) more (askedSize B a.message)
        ((payload.drop (askedOffset B a.message).toNat).take (askedSize B a.message).toNat) p) :
    IsBlock payload p ∧ (readBlock1 p).offset.toNat = (askedOffset B a.message).toNat := by
  obtain ⟨k, -, hk, hB⟩ := B.blockSize_pow
  have hpowB : 2 ^ k ≤ 2 ^ 11 := Nat.pow_le_pow_right (by omega) hk
  have hle := askedSize_le B a.message
  obtain ⟨hnum, hplace⟩ := askedOffset_eq henc hasks
  have hcarries := hp (blockArgsOk_of hnum henc.size (by omega))
  have hlow := henc.size
  refine isBlock_of (askedOffset B a.message).toNat (by rwa [hcarries.num]) (by rwa [hcarries.size])
    (by rw [hcarries.size]; omega) hcarries.option ?_ ?_ hasks (by rwa [hcarries.more, hcarries.size])
  · rw [hcarries.payload, hcarries.size]
    refine List.take_of_length_le ?_
    have hlength : ((payload.drop (askedOffset B a.message).toNat).take (askedSize B a.message).toNat).length ≤
        (askedSize B a.message).toNat := List.length_take_le _ _
    omega
  · rw [hcarries.num, hcarries.size]
    rcases hplace with ⟨hzero, hstart, -⟩ | hmul
    · exact .inl ⟨hzero, hstart, by omega⟩
    · exact .inr hmul

end Answers

/-! ## One response -/

section Step

variable (env : EngineEnv) (st : Engine) (message : CoapPacket) (endpoint : OcEndpoint)

theorem receiveUpload_sends (csm : CsmState) (mid : UInt16) (cb : ClientCb) {b b' : BlockwiseState} {bytes : OcString}
    {size : UInt16} (hnext : nextUploadBlock env message b = (some (b', bytes), size))
    (havailable : env.transactionAvailable = true) :
    let st' := (receiveUpload env st message endpoint csm mid b (some cb)).1
    st'.requests = (replaceBuffer st.requests { b' with mid := mid }).filter (·.refCount ≠ 0) ∧
      st'.clientCbs = st.clientCbs ∧ st'.nextId = st.nextId := by
  unfold receiveUpload
  rw [hnext]
  dsimp only
  rw [if_pos havailable]
  unfold sendBlockRequest renewTokens isObserved
  simp only [Bool.false_eq_true, and_false, if_false]
  split
  · obtain ⟨hrequests, hcbs, hnextId⟩ := coapSendTransaction_buffers env csm (st.setRequest { b' with mid := mid })
      (uploadMessage env message { b' with mid := mid } cb mid bytes size).mid endpoint
      (coapSerializeMessage (blockRequest env message (uploadMessage env message { b' with mid := mid } cb mid bytes size) none))
    have hmid : (blockRequest env message (uploadMessage env message { b' with mid := mid } cb mid bytes size) none).mid =
        (uploadMessage env message { b' with mid := mid } cb mid bytes size).mid := by
      unfold blockRequest
      split
      · split <;> rfl
      · rfl
    rw [← hmid] at hrequests hcbs hnextId
    exact ⟨congrArg (List.filter _) hrequests, hcbs, hnextId⟩
  · exact ⟨rfl, rfl, rfl⟩

/-- The request buffers of one state are among those of another one. -/
def RequestsWithin (st st' : Engine) : Prop := ∀ b ∈ st.requests, b ∈ st'.requests

theorem requests_freeClientCb (id : Nat) : RequestsWithin (st.freeClientCb id) st := fun _ hb => (List.mem_filter.1 hb).1

theorem requests_freeClientCbs : ∀ (cbs : List ClientCb) (st : Engine),
    RequestsWithin (cbs.foldl (fun st cb => st.freeClientCb cb.id) st) st
  | [], _ => fun _ hb => hb
  | cb :: cbs, st => fun b hb => requests_freeClientCb st cb.id b (requests_freeClientCbs cbs _ b hb)

theorem requests_freeClientCbsByMid (mid : UInt16) : RequestsWithin (st.freeClientCbsByMid mid).1 st :=
  requests_freeClientCbs _ st

theorem requests_settleClientCb (cb : ClientCb) (observe : UInt32) (separate : Bool) (rs : Option Nat) :
    RequestsWithin (settleClientCb st endpoint cb observe separate rs).1 st := by
  unfold settleClientCb
  dsimp only
  split
  · split
    · split
      · exact requests_freeClientCbsByMid (st.setCb _) cb.mid
      · exact fun _ hb => hb
    · exact requests_freeClientCb (st.setCb _) cb.id
  · split
    · split
      · exact requests_freeClientCb ((st.setCb _).setCb _) _
      · exact fun _ hb => hb
    · exact fun _ hb => hb

theorem requests_ocRiInvokeClientCb (cb : ClientCb) (rs : Option Nat) :
    RequestsWithin (ocRiInvokeClientCb env st message endpoint cb rs).1 st := by
  unfold ocRiInvokeClientCb
  dsimp only
  split
  · split
    · split
      · exact requests_freeClientCbsByMid (st.setCb _) cb.mid
      · exact requests_settleClientCb st endpoint cb _ _ rs
    · exact requests_settleClientCb st endpoint cb _ _ rs
  · exact requests_settleClientCb st endpoint cb _ _ rs

theorem finishClient_frees (cb : Option ClientCb) (id : Nat) (rs : Option Nat) :
    ∀ b ∈ (finishClient env st message endpoint cb (some id) rs).1.requests, b.id ≠ id := by
  have hscrubbed {st' : Engine} (hsub : RequestsWithin st' (st.releaseRequest (some id))) :
      ∀ b ∈ st'.scrubBuffers.requests, b.id ≠ id := by
    intro b hb hid
    obtain ⟨hmem, hused⟩ := List.mem_filter.1 hb
    simp [releaseRequest_unused st id b (hsub b hmem) hid] at hused
  have hrelease (st' : Engine) (rs : Option Nat) : (st'.releaseResponse rs).requests = st'.requests := by
    unfold Engine.releaseResponse
    split <;> rfl
  unfold finishClient
  cases cb with
  | none =>
    refine hscrubbed fun b hb => ?_
    rwa [hrelease] at hb
  | some cb =>
    have hinvoke := requests_ocRiInvokeClientCb env (st.releaseRequest (some id)) message endpoint cb rs
    generalize hr : ocRiInvokeClientCb env (st.releaseRequest (some id)) message endpoint cb rs = r at hinvoke
    obtain ⟨st', rs', out⟩ := r
    dsimp only
    rw [hr]
    refine hscrubbed fun b hb => hinvoke b ?_
    dsimp only at hb ⊢
    split at hb
    · split at hb
      · exact hb
      · rwa [hrelease] at hb
    · exact hb

theorem receiveDownload_frees (csm : CsmState) (mid : UInt16) (cb : Option ClientCb) (b : BlockwiseState)
    (hnone : env.transactionAvailable = false) :
    ∀ c ∈ (receiveDownload env st message endpoint csm mid cb (some b)).1.requests, c.id ≠ b.id := by
  unfold receiveDownload
  generalize findDownloadBuffer env st message endpoint cb = r
  obtain ⟨found, st'⟩ := r
  cases found with
  | none => exact finishClient_frees env _ message endpoint cb b.id none
  | some a =>
    dsimp only
    split
    · exact finishClient_frees env _ message endpoint cb b.id _
    · split
      · exact finishClient_frees env _ message endpoint _ b.id _
      · rw [if_neg (by simp [hnone])]
        exact finishClient_frees env _ message endpoint _ b.id _

end Step

section Answered

variable {B : BufferSettings} {cb cb₀ : ClientCb} {payload : OcString} {b : BlockwiseState} {st : Engine}

theorem coapReceive_answer (a : UploadAnswer B cb₀) (hudp : cb₀.endpoint.flags.tcp = false) :
    coapReceive a.env st a.data cb₀.endpoint =
      receiveResponse a.env (clearTransaction st a.message cb₀.endpoint) a.message cb₀.endpoint a.env.csmState := by
  have hparse : parseMessage a.env a.data cb₀.endpoint = (coapNoError, a.message) := by
    unfold parseMessage UploadAnswer.message
    rw [hudp, a.settings, ← a.parsed]
    rfl
  have hcode : a.message.code = continue231 ∨ a.message.code = changed204 ∨ a.message.code = requestEntityTooLarge413 := by
    rcases a.answer.code with ⟨h | h, -⟩ | h
    · exact .inl h
    · exact .inr (.inl h)
    · exact .inr (.inr h)
  have hsignal : coapCheckSignalMessage a.message = false := by
    unfold coapCheckSignalMessage
    rcases hcode with h | h | h <;> rw [h] <;> rfl
  have hrequest : isRequest a.message = false := by
    unfold isRequest
    rcases hcode with h | h | h <;> rw [h] <;> rfl
  unfold coapReceive
  rw [hparse]
  dsimp only
  rw [if_pos rfl, hsignal, hrequest]
  rfl

theorem asksForUpload_answer (a : UploadAnswer B cb₀) : asksForUpload a.message = true := by
  unfold asksForUpload errorResponse
  rcases a.answer.code with ⟨h | h, hblock⟩ | h
  · rw [show a.message.code = continue231 from h, show a.message.isOption coapOptionBlock1 = true from hblock]
    simp [continue231, badRequest400]
  · rw [show a.message.code = changed204 from h, show a.message.isOption coapOptionBlock1 = true from hblock]
    simp [changed204, badRequest400]
  · rw [show a.message.code = requestEntityTooLarge413 from h]
    simp

theorem InProgress.finds (h : InProgress cb payload b st) (a : UploadAnswer B cb₀) (htoken : cb₀.token = cb.token)
    (hendpoint : cb₀.endpoint = cb.endpoint) :
    responseCb st a.message = some cb ∧ findUploadBuffer st a.message cb₀.endpoint (some cb) = some b ∧
      b.clientCb.bind st.clientCb = some cb := by
  refine ⟨?_, ?_, ?_⟩
  · unfold responseCb ocRiFindClientCbByToken
    rw [if_pos (show a.message.type ≠ .rst from a.answer.type), show a.message.token = cb₀.token from a.answer.token, htoken]
    exact h.token
  · unfold findUploadBuffer
    rw [hendpoint]
    exact h.found
  · rw [h.own]
    exact h.live

/-- A response leaves the upload in progress, or its buffer is gone. -/
theorem InProgress.receive (h : InProgress cb payload b st) (a : UploadAnswer B cb₀) (htoken : cb₀.token = cb.token)
    (hendpoint : cb₀.endpoint = cb.endpoint) (hudp : cb₀.endpoint.flags.tcp = false) (hlonger : B.blockSize < payload.length) :
    (∃ b', b'.id = b.id ∧ InProgress cb payload b' (coapReceive a.env st a.data cb₀.endpoint).1) ∨
      Gone b.id (coapReceive a.env st a.data cb₀.endpoint).1 := by
  have hsettings : a.env.settings.blockSize < payload.length := by
    rw [a.settings]
    exact hlonger
  rw [coapReceive_answer a hudp]
  -- the transactions and the message id play no part
  have hmid : InProgress cb payload b ((clearTransaction st a.message cb₀.endpoint).getMid).2 := by
    unfold clearTransaction
    split <;> exact ⟨h.token, h.live, h.found, h.own, h.size, h.bytes, h.used, h.made⟩
  unfold receiveResponse
  generalize (clearTransaction st a.message cb₀.endpoint).getMid = r at hmid ⊢
  obtain ⟨mid, st'⟩ := r
  dsimp only at hmid ⊢
  obtain ⟨hcb, hbuffer, howner⟩ := hmid.finds a htoken hendpoint
  rw [hcb, hbuffer]
  dsimp only
  rw [if_pos (asksForUpload_answer a), howner]
  have hmem : b ∈ st'.requests := List.mem_of_find?_eq_some hmid.found
  by_cases hasks : (askedOffset a.env.settings a.message).toNat < payload.length
  · obtain ⟨next, refs, hnext, -, hrefs⟩ := nextUploadBlock_some h.size h.bytes hsettings hasks
    have hused : refs ≠ 0 := by
      rcases hrefs with rfl | rfl
      · exact h.used
      · decide
    by_cases havailable : a.env.transactionAvailable = true
    · obtain ⟨hrequests, hcbs, hnextId⟩ := receiveUpload_sends a.env st' a.message cb₀.endpoint a.env.csmState mid cb
        hnext havailable
      exact .inl ⟨{ b with nextBlockOffset := next, refCount := refs, mid := mid }, rfl,
        hmid.write rfl rfl rfl rfl rfl rfl hused hrequests hcbs (Nat.le_of_eq hnextId.symm)⟩
    · have hkept := (performed_receiveUpload (k := requestKey a.message cb₀.endpoint) st' a.env a.env.csmState a.message
        cb₀.endpoint mid hmem (some cb)).kept
      refine .inr ⟨?_, Nat.lt_of_lt_of_le hmid.made hkept.nextId⟩
      have hno : a.env.transactionAvailable = false := by simpa using havailable
      unfold receiveUpload
      rw [hnext]
      dsimp only
      rw [if_neg havailable]
      unfold dropUploadBuffer
      have herror : errorResponse a.message = false := by
        have hasksFor := asksForUpload_answer a
        unfold asksForUpload at hasksFor
        simp only [Bool.and_eq_true, Bool.not_eq_true'] at hasksFor
        exact hasksFor.1
      rw [if_neg (by simp [hused, herror])]
      exact receiveDownload_frees a.env _ a.message cb₀.endpoint a.env.csmState mid (some cb) _ hno
  · -- there is no block left
    refine .inr ?_
    unfold receiveUpload
    rw [nextUploadBlock_none h.size hasks]
    dsimp only
    have hgone : Gone b.id (st'.freeRequest b.id) := by
      refine ⟨fun c hc => ?_, hmid.made⟩
      simpa using (List.mem_filter.1 hc).2
    exact hgone.kept (performed_receiveDownload (k := requestKey a.message cb₀.endpoint) _ a.env a.env.csmState a.message
      cb₀.endpoint mid (some cb) (by simp)).kept

/-- The block that a response makes the client send is the one that it asks for. -/
theorem InProgress.sends (h : InProgress cb payload b st) (a : UploadAnswer B cb₀) (htoken : cb₀.token = cb.token)
    (hendpoint : cb₀.endpoint = cb.endpoint) (hlonger : B.blockSize < payload.length) {id : Nat} {p : CoapPacket}
    (hsent : blockSent a.env st a.message cb₀.endpoint = some (id, p)) :
    AsksForUploadBlock payload a ∧ ∃ more : UInt8,
      (more = 0 ↔ payload.length ≤ (askedOffset B a.message).toNat + (askedSize B a.message).toNat) ∧
      (CoapPacket.blockArgsOk (askedNum a.message) (askedSize B a.message) = true →
        Carries B (askedNum a.message) more (askedSize B a.message)
          ((payload.drop (askedOffset B a.message).toNat).take (askedSize B a.message).toNat) p) := by
  have hsettings : a.env.settings.blockSize < payload.length := by
    rw [a.settings]
    exact hlonger
  obtain ⟨hcb, hbuffer, howner⟩ := h.finds a htoken hendpoint
  unfold blockSent at hsent
  rw [hcb, hbuffer] at hsent
  dsimp only at hsent
  rw [howner] at hsent
  split at hsent
  · by_cases hasks : (askedOffset a.env.settings a.message).toNat < payload.length
    · obtain ⟨next, refs, hnext, hend, -⟩ := nextUploadBlock_some h.size h.bytes hsettings hasks
      rw [a.settings] at hasks hend hnext
      rw [hnext] at hsent
      dsimp only at hsent
      split at hsent
      · cases hsent
        refine ⟨hasks, if next < b.payloadSize then 1 else 0, ?_, fun hargs => ?_⟩
        · have hlt : next < b.payloadSize ↔ next.toNat < payload.length := by
            rw [UInt32.lt_iff_toNat_lt, h.size]
          split
          · rename_i hmid
            have hmid' := hlt.1 hmid
            refine iff_of_false (by decide) ?_
            omega
          · rename_i hmid
            refine iff_of_true rfl ?_
            by_contra hgt
            exact hmid (hlt.2 (by omega))
        · exact uploadMessage_carries (b := { b with nextBlockOffset := next, refCount := refs }) a.settings hargs
      · cases hsent
    · rw [nextUploadBlock_none h.size hasks] at hsent
      cases hsent
  · cases hsent

theorem Gone.sends {id id' : Nat} {env : EngineEnv} {message : CoapPacket} {endpoint : OcEndpoint} {p : CoapPacket}
    (h : Gone id st) (hsent : blockSent env st message endpoint = some (id', p)) : id' ≠ id := by
  unfold blockSent at hsent
  split at hsent
  · rename_i b hfound
    have hb : b ∈ st.requests := by
      unfold findUploadBuffer at hfound
      split at hfound
      · exact List.mem_of_find?_eq_some hfound
      · rcases Option.or_eq_some_iff.1 hfound with h | ⟨-, h⟩
        · exact List.mem_of_find?_eq_some h
        · exact List.mem_of_find?_eq_some h
    split at hsent
    · split at hsent
      · dsimp only at hsent
        split at hsent
        · cases hsent
          exact h.requests b hb
        · cases hsent
      · cases hsent
    · cases hsent
  · cases hsent

theorem Gone.receive {id : Nat} (h : Gone id st) (a : UploadAnswer B cb₀) (hudp : cb₀.endpoint.flags.tcp = false) :
    Gone id (coapReceive a.env st a.data cb₀.endpoint).1 := by
  rw [coapReceive_answer a hudp]
  have hclear : Gone id (clearTransaction st a.message cb₀.endpoint) := by
    unfold clearTransaction
    split <;> exact ⟨h.requests, h.made⟩
  exact hclear.kept (performed_receiveResponse (k := requestKey a.message cb₀.endpoint) _ a.env a.env.csmState a.message
    cb₀.endpoint).kept

theorem coapSendTransaction_sends {env : EngineEnv} {csm : CsmState} {st : Engine} {mid : UInt16} {endpoint : OcEndpoint}
    {data : OcString} (hmain : env.mainInitialized = true) :
    (coapSendTransaction env csm st mid endpoint data).2 = coapSendMessage env csm endpoint data := by
  unfold coapSendTransaction
  dsimp only
  rw [if_neg (by simp [hmain])]

/-- The block that a run records is the last message that `coap_receive` sends. -/
theorem blockSent_output {cb₀ : ClientCb} {st : Engine} (a : UploadAnswer B cb₀) (hudp : cb₀.endpoint.flags.tcp = false)
    (hmain : a.env.mainInitialized = true) {id : Nat} {p : CoapPacket}
    (hsent : blockSent a.env st a.message cb₀.endpoint = some (id, p)) :
    ∃ before, (coapReceive a.env st a.data cb₀.endpoint).2 =
      before ++ coapSendMessage a.env a.env.csmState cb₀.endpoint (coapSerializeMessage p) := by
  rw [coapReceive_answer a hudp]
  unfold blockSent at hsent
  split at hsent
  · rename_i b hfound
    split at hsent
    · rename_i hasks
      split at hsent
      · rename_i b' bytes size cb hnext howner
        dsimp only at hsent
        split at hsent
        · rename_i hlength
          cases hsent
          -- the transactions and the message id play no part in what is found
          have hclear : findUploadBuffer ((clearTransaction st a.message cb₀.endpoint).getMid).2 a.message cb₀.endpoint
              (responseCb ((clearTransaction st a.message cb₀.endpoint).getMid).2 a.message) = some b ∧
              b.clientCb.bind ((clearTransaction st a.message cb₀.endpoint).getMid).2.clientCb = some cb ∧
              ((clearTransaction st a.message cb₀.endpoint).getMid).1 = st.currentMid + 1 := by
            unfold clearTransaction
            rw [if_neg (by simp [hudp])]
            exact ⟨hfound, howner, rfl⟩
          unfold receiveResponse
          generalize (clearTransaction st a.message cb₀.endpoint).getMid = r at hclear ⊢
          obtain ⟨mid, st'⟩ := r
          obtain ⟨hfound', howner', hmid⟩ := hclear
          dsimp only at hfound' howner' hmid ⊢
          rw [hfound']
          dsimp only
          rw [if_pos hasks.1, howner']
          unfold receiveUpload
          rw [hnext]
          dsimp only
          rw [if_pos hasks.2]
          unfold sendBlockRequest
          have hpacket : uploadMessage a.env a.message { b' with mid := mid } cb mid bytes size =
              uploadMessage a.env a.message b' cb (st.currentMid + 1) bytes size := by
            rw [hmid]
            rfl
          rw [hpacket]
          dsimp only
          rw [if_pos hlength]
          exact ⟨_, congrArg _ (coapSendTransaction_sends hmain)⟩
        · cases hsent
      · cases hsent
    · cases hsent
  · cases hsent

end Answered

end SmartGarage
