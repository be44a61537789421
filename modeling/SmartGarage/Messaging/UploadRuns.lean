/-
Runs of an upload: every block that the client sends is one of the payload, and the server has a prefix of the payload
throughout, the whole payload when it sees the last block. A response may ask for a size that cannot be encoded: the
client then sends a packet without a block.
-/
import SmartGarage.Messaging.UploadProgress

namespace SmartGarage

open Runs

/-! ## The start -/

theorem find?_append_new {α : Type} {p : α → Bool} {l : List α} {a : α} (hl : ∀ c ∈ l, p c = false) (ha : p a = true) :
    (l ++ [a]).find? p = some a := by
  rw [List.find?_append, List.find?_eq_none.2 (by simpa using hl), Option.none_or, List.find?_cons_of_pos ha]

theorem replaceCb_append_new {l : List ClientCb} {cb cb' : ClientCb} (hl : ∀ c ∈ l, c.id ≠ cb.id) (hid : cb'.id = cb.id) :
    replaceCb (l ++ [cb]) cb' = l ++ [cb'] := by
  unfold replaceCb
  rw [List.map_append, List.map_congr_left fun c hc => if_neg (by rw [hid]; exact hl c hc)]
  simp [hid]

theorem replaceBuffer_append_new {l : List BlockwiseState} {b b' : BlockwiseState} (hl : ∀ c ∈ l, c.id ≠ b.id)
    (hid : b'.id = b.id) : replaceBuffer (l ++ [b]) b' = l ++ [b'] := by
  unfold replaceBuffer
  rw [List.map_append, List.map_congr_left fun c hc => if_neg (by rw [hid]; exact hl c hc)]
  simp [hid]

theorem preparedRequest_udp (cb : ClientCb) : (preparedRequest cb).transportType = .udp := by
  unfold preparedRequest withQuery
  by_cases hobserve : cb.observeSeq ≠ notObserved
  · simp only [if_pos hobserve]
    split <;> rfl
  · simp only [if_neg hobserve]
    split <;> rfl

section Start

variable {B : BufferSettings} (rq : UploadRequest B) {env : EngineEnv} {csm : CsmState} {st : Engine} {u : Upload}

theorem dispatchPayload_first (hB : env.settings = B) (b : BlockwiseState) (hbytes : b.buffer.take rq.payload.length = rq.payload)
    (hint : rq.payload.length < 2 ^ 31) :
    ∃ p next, dispatchPayload env rq.cb (preparedRequest rq.cb) b (encodedPayloadSize rq.payload) =
        (p, { b with payloadSize := UInt32.ofNat rq.payload.length, nextBlockOffset := next }, { rq.cb with highQos := true }) ∧
      Carries B 0 1 (UInt16.ofNat B.blockSize) (rq.payload.take B.blockSize) p := by
  subst hB
  obtain ⟨k, hk4, hk, hsize⟩ := env.settings.blockSize_pow
  have hpow : 2 ^ k ≤ 2 ^ 11 := Nat.pow_le_pow_right (by omega) hk
  have hpow4 : 2 ^ 4 ≤ 2 ^ k := Nat.pow_le_pow_right (by omega) hk4
  have hlonger := rq.longer
  have hint' : encodedPayloadSize rq.payload = rq.payload.length := by
    unfold encodedPayloadSize
    rw [if_pos (by omega)]
    omega
  have hn : (UInt32.ofNat rq.payload.length).toNat = rq.payload.length := by
    rw [UInt32.toNat_ofNat', Nat.mod_eq_of_lt (by omega)]
  have hblock : (UInt32.ofNat env.settings.blockSize).toNat = env.settings.blockSize := by
    rw [UInt32.toNat_ofNat', Nat.mod_eq_of_lt (by omega)]
  have hlength : dispatchLength { b with payloadSize := UInt32.ofNat rq.payload.length } 0 (UInt32.ofNat env.settings.blockSize) =
      UInt32.ofNat env.settings.blockSize := by
    unfold dispatchLength
    rw [if_neg (by rw [UInt32.lt_iff_toNat_lt, hblock, hn]; omega), ← UInt32.toNat_inj, UInt32.toNat_min]
    simp only [UInt32.sub_zero, hn, hblock]
    omega
  have hdata : b.buffer.take env.settings.blockSize = rq.payload.take env.settings.blockSize := by
    rw [← hbytes, List.take_take, Nat.min_eq_left (Nat.le_of_lt hlonger)]
  unfold dispatchPayload
  rw [hint', if_pos (by omega), if_pos (by omega), Int.toNat_natCast]
  unfold ocBlockwiseDispatchBlock
  rw [if_pos (by rw [UInt32.lt_iff_toNat_lt]; show (0 : UInt32).toNat < _; rw [hn]; show 0 < _; omega)]
  dsimp only
  rw [hlength, hblock]
  have hfirst : ((preparedRequest rq.cb).setPayload env.settings (b.buffer.take env.settings.blockSize)).payload =
      (rq.payload.take env.settings.blockSize).take (min env.settings.blockSize
        (rq.payload.take env.settings.blockSize).length % 2 ^ 16) := by
    unfold CoapPacket.setPayload
    rw [preparedRequest_udp, hdata]
  have hargs : CoapPacket.blockArgsOk 0 (UInt16.ofNat env.settings.blockSize) = true := by
    have hsame : (UInt16.ofNat env.settings.blockSize).toNat = env.settings.blockSize := by
      rw [UInt16.toNat_ofNat', Nat.mod_eq_of_lt (by omega)]
    exact blockArgsOk_of (by decide) (by omega) (by omega)
  have hsame : (UInt32.ofNat env.settings.blockSize).toUInt16 = UInt16.ofNat env.settings.blockSize := by
    rw [← UInt16.toNat_inj, UInt32.toNat_toUInt16, hblock, UInt16.toNat_ofNat']
  rw [hsame]
  refine ⟨_, _, rfl, ?_⟩
  have hcarries : Carries env.settings 0 1 (UInt16.ofNat env.settings.blockSize) (rq.payload.take env.settings.blockSize) _ :=
    (carries_setHeaderBlock1 hargs hfirst).setHeaderSize1 (UInt32.ofNat rq.payload.length)
  exact ⟨hcarries.option, hcarries.num, hcarries.more, hcarries.size, hcarries.payload⟩

/-- The buffer of a request is the last one. -/
structure Prepared (st : Engine) (cb : ClientCb) (b : BlockwiseState) (st' : Engine) : Prop where
  requests : st'.requests = st.requests ++ [b]
  clientCbs : st'.clientCbs = st.clientCbs ++ [cb]
  nextId : st'.nextId = st.nextId + 1
  id : b.id = st.nextId
  role : b.role = .client
  owner : b.clientCb = some cb.id
  endpoint : b.endpoint = cb.endpoint
  refCount : b.refCount = 1

variable {cb : ClientCb} {b : BlockwiseState}

theorem prepareCoapRequest_spec {st' : Engine} (hnew : NewCallback st cb)
    (h : prepareCoapRequest env (addClientCb st cb) cb = some (b, st')) : Prepared st cb b st' := by
  unfold prepareCoapRequest ocBlockwiseAllocRequestBuffer at h
  split at h
  · split at h
    · rename_i b' st'' halloc
      split at halloc
      · cases halloc
      · cases halloc
        cases h
        refine ⟨?_, rfl, rfl, rfl, rfl, rfl, rfl, rfl⟩
        exact replaceBuffer_append_new (fun c hc => Nat.ne_of_lt (hnew.own c hc).2) rfl
    · cases h
  · cases h

theorem dispatchSized_spec {payload : OcString} {size : Int} {q : CoapPacket}
    {r : CoapPacket × BlockwiseState × ClientCb}
    (hfirst : dispatchPayload env cb (preparedRequest cb) { b with buffer := writeAt b.buffer 0 payload } size = r)
    (hpos : size > 0) (hused : r.2.1.refCount ≠ 0) (h : (dispatchSized env st cb csm b payload size).1 = some q) :
    q = r.1.setHeaderContentFormat 10000 ∧
      (dispatchSized env st cb csm b payload size).2.1.requests = replaceBuffer st.requests r.2.1 ∧
      (dispatchSized env st cb csm b payload size).2.1.clientCbs = replaceCb st.clientCbs r.2.2 ∧
      (dispatchSized env st cb csm b payload size).2.1.nextId = st.nextId := by
  obtain ⟨p, b', cb'⟩ := r
  unfold dispatchSized at h ⊢
  simp only [hfirst, hpos, hused, if_true, if_false] at h ⊢
  split at h
  · rename_i hdata
    rw [if_pos hdata]
    obtain ⟨hrequests, hcbs, hnext⟩ := coapSendTransaction_buffers env csm ((st.setRequest b').setCb cb') cb.mid cb.endpoint
      (coapSerializeMessage (p.setHeaderContentFormat 10000))
    exact ⟨(Option.some.inj h).symm, hrequests, hcbs, hnext⟩
  · cases h

theorem Upload.started_some {id : Nat} {r : Option CoapPacket × Engine × List Output} (h : Upload.started id r = some u) :
    ∃ p, r.1 = some p ∧ u = ⟨r.2.1, id, [p], serverStore true [] p⟩ := by
  unfold Upload.started at h
  obtain ⟨p, hp, rfl⟩ := Option.map_eq_some_iff.1 h
  exact ⟨p, hp, rfl⟩

theorem dispatchCoapRequest_spec {payload : OcString} {q : CoapPacket} {r : CoapPacket × BlockwiseState × ClientCb}
    (hfirst : dispatchPayload env cb (preparedRequest cb) { b with buffer := writeAt b.buffer 0 payload }
      (encodedPayloadSize payload) = r) (hpos : encodedPayloadSize payload > 0) (hused : r.2.1.refCount ≠ 0)
    (h : (dispatchCoapRequest env st cb csm b payload).1 = some q) :
    q = r.1.setHeaderContentFormat 10000 ∧
      (dispatchCoapRequest env st cb csm b payload).2.1.requests = replaceBuffer st.requests r.2.1 ∧
      (dispatchCoapRequest env st cb csm b payload).2.1.clientCbs = replaceCb st.clientCbs r.2.2 ∧
      (dispatchCoapRequest env st cb csm b payload).2.1.nextId = st.nextId := by
  unfold dispatchCoapRequest at h ⊢
  exact dispatchSized_spec hfirst hpos hused h

theorem Upload.start_spec (hB : env.settings = B) (hint : rq.payload.length < 2 ^ 31) (hnew : NewCallback st rq.cb)
    (hstart : Upload.start rq env csm st = some u) :
    ∃ p b, u.sent = [p] ∧ Carries B 0 1 (UInt16.ofNat B.blockSize) (rq.payload.take B.blockSize) p ∧
      u.store = serverStore true [] p ∧ b.id = u.buffer ∧ InProgress { rq.cb with highQos := true } rq.payload b u.client := by
  have hlonger := rq.longer
  unfold Upload.start at hstart
  obtain ⟨⟨b, st'⟩, hprepare, hstarted⟩ := Option.bind_eq_some_iff.1 hstart
  have hprepared := prepareCoapRequest_spec hnew hprepare
  have hbytes : (writeAt b.buffer 0 rq.payload).take rq.payload.length = rq.payload := by
    unfold writeAt
    rw [List.take_zero, List.nil_append, List.take_append_of_le_length (Nat.le_refl _), List.take_length]
  have hpos : encodedPayloadSize rq.payload > 0 := by
    unfold encodedPayloadSize
    rw [if_pos (by omega)]
    omega
  obtain ⟨p, next, hfirst, hcarries⟩ := dispatchPayload_first rq hB { b with buffer := writeAt b.buffer 0 rq.payload } hbytes hint
  have hrefs : b.refCount ≠ 0 := by
    rw [hprepared.refCount]
    decide
  obtain ⟨q, hpacket, rfl⟩ := Upload.started_some hstarted
  obtain ⟨rfl, hrequests, hcbs, hnextId⟩ := dispatchCoapRequest_spec hfirst hpos hrefs hpacket
  refine ⟨_, { b with
    buffer := writeAt b.buffer 0 rq.payload, payloadSize := UInt32.ofNat rq.payload.length, nextBlockOffset := next },
    rfl, hcarries.setHeaderContentFormat 10000, rfl, rfl, ?_⟩
  have hcbs' : (dispatchCoapRequest env st' rq.cb csm b rq.payload).2.1.clientCbs =
      st.clientCbs ++ [{ rq.cb with highQos := true }] := by
    rw [hcbs, hprepared.clientCbs]
    exact replaceCb_append_new hnew.id rfl
  have hrequests' : (dispatchCoapRequest env st' rq.cb csm b rq.payload).2.1.requests = st.requests ++ [{ b with
      buffer := writeAt b.buffer 0 rq.payload, payloadSize := UInt32.ofNat rq.payload.length, nextBlockOffset := next }] := by
    rw [hrequests, hprepared.requests]
    refine replaceBuffer_append_new (fun c hc => ?_) rfl
    rw [hprepared.id]
    exact Nat.ne_of_lt (hnew.own c hc).2
  -- the new buffer and callback are found by the answers
  refine ⟨?_, ?_, ?_, hprepared.owner, ?_, hbytes, hrefs, ?_⟩
  · rw [hcbs']
    exact find?_append_new (fun c hc => by simpa using hnew.token c hc) (by simp)
  · unfold Engine.clientCb
    rw [hcbs']
    exact find?_append_new (fun c hc => by simpa using hnew.id c hc) (by simp)
  · rw [hrequests']
    refine find?_append_new (fun c hc => ?_) ?_
    · unfold findsByClientCb
      have hne : (c.clientCb == some rq.cb.id) = false := by simpa using (hnew.own c hc).1
      simp [hne]
    · unfold findsByClientCb
      have hsame : ocEndpointCompare rq.cb.endpoint rq.cb.endpoint = true := by
        simp [ocEndpointCompare, rq.network]
      simp [hprepared.role, hprepared.owner, hprepared.endpoint, hsame]
  · show (UInt32.ofNat rq.payload.length).toNat = rq.payload.length
    rw [UInt32.toNat_ofNat', Nat.mod_eq_of_lt (by omega)]
  · rw [hnextId, hprepared.nextId]
    show b.id < st.nextId + 1
    rw [hprepared.id]
    exact Nat.lt_succ_self _

end Start

/-! ## Runs -/

section Runs

variable {B : BufferSettings} {rq : UploadRequest B} {u : Upload}

/-- What holds throughout an upload. -/
structure UploadInv (rq : UploadRequest B) (u : Upload) : Prop where
  client : (∃ b, b.id = u.buffer ∧ InProgress { rq.cb with highQos := true } rq.payload b u.client) ∨ Gone u.buffer u.client
  sent : ∀ p ∈ u.sent, IsBlock rq.payload p
  store : u.store <+: rq.payload

theorem UploadInv.step_cases (h : UploadInv rq u) (a : UploadAnswer B rq.cb) (henc : AskedEncodable rq.payload a) :
    (u.step a).sent = u.sent ∧ (u.step a).store = u.store ∨
      ∃ p, (u.step a).sent = u.sent ++ [p] ∧ (u.step a).store = serverStore a.again u.store p ∧ IsBlock rq.payload p ∧
        AsksForUploadBlock rq.payload a ∧ (readBlock1 p).offset.toNat = (askedOffset B a.message).toNat := by
  unfold Upload.step
  dsimp only
  cases hsent : blockSent a.env u.client a.message rq.cb.endpoint with
  | none => exact .inl ⟨rfl, rfl⟩
  | some r =>
    obtain ⟨id, p⟩ := r
    dsimp only
    by_cases hid : id = u.buffer
    · rw [if_pos hid]
      rcases h.client with ⟨b, -, hprogress⟩ | hgone
      · obtain ⟨hasks, more, hmore, hcarries⟩ := hprogress.sends a rfl rfl rq.longer hsent
        obtain ⟨hblock, hoffset⟩ := asked_isBlock rq.longer henc hasks hmore hcarries
        exact .inr ⟨p, rfl, rfl, hblock, hasks, hoffset⟩
      · exact absurd hid (hgone.sends hsent)
    · rw [if_neg hid]
      exact .inl ⟨rfl, rfl⟩

theorem Upload.step_client {cb : ClientCb} (u : Upload) (a : UploadAnswer B cb) :
    (u.step a).client = (coapReceive a.env u.client a.data cb.endpoint).1 ∧ (u.step a).buffer = u.buffer := by
  unfold Upload.step
  dsimp only
  split
  · split <;> exact ⟨rfl, rfl⟩
  · exact ⟨rfl, rfl⟩

theorem UploadInv.step (h : UploadInv rq u) (a : UploadAnswer B rq.cb) (henc : AskedEncodable rq.payload a) :
    UploadInv rq (u.step a) := by
  obtain ⟨hclient, hbuffer⟩ := u.step_client a
  have hnext : (∃ b, b.id = (u.step a).buffer ∧ InProgress { rq.cb with highQos := true } rq.payload b (u.step a).client) ∨
      Gone (u.step a).buffer (u.step a).client := by
    rw [hclient, hbuffer]
    rcases h.client with ⟨b, hid, hprogress⟩ | hgone
    · rcases hprogress.receive a rfl rfl rq.udp rq.longer with ⟨b', hid', hprogress'⟩ | hgone
      · exact .inl ⟨b', hid'.trans hid, hprogress'⟩
      · exact .inr (hid ▸ hgone)
    · exact .inr (hgone.receive a rq.udp)
  rcases h.step_cases a henc with ⟨hsent, hstore⟩ | ⟨p, hsent, hstore, hblock, -, -⟩
  · exact ⟨hnext, by rw [hsent]; exact h.sent, by rw [hstore]; exact h.store⟩
  · refine ⟨hnext, ?_, ?_⟩
    · rw [hsent]
      intro q hq
      rcases List.mem_append.1 hq with hq | hq
      · exact h.sent q hq
      · rwa [List.mem_singleton.1 hq]
    · rw [hstore]
      exact serverStore_isPrefix a.again h.store hblock

theorem UploadInv.reassembles (h : UploadInv rq u) (hwhole : Reassembled rq.payload u) (a : UploadAnswer B rq.cb)
    (henc : AskedEncodable rq.payload a) (hknown : AskedKnown rq.payload u a) : Reassembled rq.payload (u.step a) := by
  rcases h.step_cases a henc with ⟨hsent, hstore⟩ | ⟨p, hsent, hstore, hblock, hasks, hoffset⟩
  · unfold Reassembled
    rw [hsent, hstore]
    exact hwhole
  · unfold Reassembled
    rw [hsent, hstore, List.getLast?_concat]
    intro q hq hlast
    cases hq
    exact serverStore_last a.again h.store hblock (by rw [hoffset]; exact hknown hasks) hlast

theorem UploadInv.start {env : EngineEnv} {csm : CsmState} {st : Engine} (hB : env.settings = B)
    (hint : rq.payload.length < 2 ^ 31) (hnew : NewCallback st rq.cb) (hstart : Upload.start rq env csm st = some u) :
    UploadInv rq u ∧ Reassembled rq.payload u := by
  obtain ⟨k, hk4, hk, hsize⟩ := B.blockSize_pow
  have hpow : 2 ^ k ≤ 2 ^ 11 := Nat.pow_le_pow_right (by omega) hk
  have hpow4 : 2 ^ 4 ≤ 2 ^ k := Nat.pow_le_pow_right (by omega) hk4
  have hlonger := rq.longer
  have hsame : (UInt16.ofNat B.blockSize).toNat = B.blockSize := by
    rw [UInt16.toNat_ofNat', Nat.mod_eq_of_lt (by omega)]
  obtain ⟨p, b, hsent, hcarries, hstore, hid, hprogress⟩ := Upload.start_spec rq hB hint hnew hstart
  have hblock : IsBlock rq.payload p ∧ (readBlock1 p).offset.toNat = 0 := by
    refine isBlock_of 0 (by rw [hcarries.num]; decide) (by rw [hcarries.size]; omega) (by rw [hcarries.size]; omega)
      hcarries.option ?_ ?_ (by omega) ?_
    · rw [hcarries.payload, hcarries.size, hsame, List.drop_zero]
      refine List.take_of_length_le ?_
      rw [List.length_take]
      omega
    · rw [hcarries.num, hcarries.size, hsame]
      exact .inl ⟨rfl, rfl, hlonger⟩
    · rw [hcarries.more, hcarries.size, hsame]
      exact iff_of_false (by decide) (by omega)
  refine ⟨⟨.inl ⟨b, hid, hprogress⟩, ?_, ?_⟩, ?_⟩
  · rw [hsent]
    exact List.forall_mem_singleton.2 hblock.1
  · rw [hstore]
    exact serverStore_isPrefix true List.nil_prefix hblock.1
  · unfold Reassembled
    rw [hsent, hstore]
    intro q hq hlast
    cases hq
    exact serverStore_last true List.nil_prefix hblock.1 (by rw [hblock.2]; exact Nat.zero_le _) hlast

/-- An upload whose responses ask for blocks that can be encoded sends blocks of the payload only, and where each
response asks for a block that begins within what the server has, or right behind it, the server has the payload when
it sees the last block. -/
theorem upload_blocks (rq : UploadRequest B) {env : EngineEnv} {csm : CsmState} {st : Engine} (hB : env.settings = B)
    (hint : rq.payload.length < 2 ^ 31) (hnew : NewCallback st rq.cb) (hstart : Upload.start rq env csm st = some u)
    (answers : List (UploadAnswer B rq.cb))
    (henc : Guarded Upload.step (fun _ a => AskedEncodable rq.payload a) u answers) :
    (∀ p ∈ (runFrom Upload.step u answers).sent, IsBlock rq.payload p) ∧
      (Guarded Upload.step (AskedKnown rq.payload) u answers → Reassembled rq.payload (runFrom Upload.step u answers)) := by
  obtain ⟨hinv, hwhole⟩ := UploadInv.start hB hint hnew hstart
  refine ⟨(run_invariant (fun u a hinv henc => hinv.step a henc) answers u hinv henc).sent, fun hknown => ?_⟩
  have hboth : Guarded Upload.step (fun u a => AskedEncodable rq.payload a ∧ AskedKnown rq.payload u a) u answers :=
    hknown.and_forall (guarded_iff_forall.1 henc)
  have hstep (u : Upload) (a : UploadAnswer B rq.cb) (h : UploadInv rq u ∧ Reassembled rq.payload u)
      (hg : AskedEncodable rq.payload a ∧ AskedKnown rq.payload u a) :
      UploadInv rq (u.step a) ∧ Reassembled rq.payload (u.step a) :=
    ⟨h.1.step a hg.1, h.1.reassembles h.2 a hg.1 hg.2⟩
  exact (run_invariant hstep answers u ⟨hinv, hwhole⟩ hboth).2

end Runs

/-! ## Samples -/

/-- Blocks of 16 bytes. -/
def smallSettings : BufferSettings := { defaultSettings with blockSize := 16, blockSize_pow := blockSize_sixteen }

/-- A POST of 20 bytes. -/
def sampleUpload : UploadRequest smallSettings where
  cb := ⟨0, ascii "/a", [], { OcEndpoint.zero with flags := { TransportFlags.zero with ipv4 := true } }, coapPost, 1, [1],
    notObserved, false, false, false, false, 0, false, by decide⟩
  payload := ascii "abcdefghijklmnopqrst"
  udp := rfl
  network := .inr rfl
  putOrPost := .inr rfl
  longer := by decide
  fits := by decide

/-- The environment of the request and of the responses to it. -/
def uploadEnv : EngineEnv := { sampleEnv with settings := smallSettings }

/-- The upload behind its first block. -/
def uploadBegun : Option Upload := Upload.start sampleUpload uploadEnv .done (Engine.init 0)

/-- 2.31 for the first block. -/
def continueAnswer : UploadAnswer smallSettings sampleUpload.cb where
  env := uploadEnv
  data := [0x61, 0x5F, 0, 1, 1, 0xD1, 14, 8]
  again := false
  settings := rfl
  parsed := by decide
  answer := ⟨by decide, by decide, .inl ⟨.inl (by decide), by decide⟩⟩

/-- 4.13 with the value 65536 in its Size1 option. -/
def tooLargeAnswer : UploadAnswer smallSettings sampleUpload.cb where
  env := uploadEnv
  data := [0x61, 0x8D, 0, 1, 1, 0xD3, 47, 1, 0, 0]
  again := false
  settings := rfl
  parsed := by decide
  answer := ⟨by decide, by decide, .inr (by decide)⟩

theorem newCallback_init (mid : UInt16) (cb : ClientCb) : NewCallback (Engine.init mid) cb :=
  ⟨fun _ h => absurd h List.not_mem_nil, fun _ h => absurd h List.not_mem_nil, fun _ h => absurd h List.not_mem_nil⟩

/-- The 20 bytes in two blocks. -/
theorem upload_blocks_two : ∃ u, uploadBegun = some u ∧
    (∀ p ∈ (runFrom Upload.step u [continueAnswer]).sent, IsBlock sampleUpload.payload p) ∧
      Reassembled sampleUpload.payload (runFrom Upload.step u [continueAnswer]) := by
  obtain ⟨u, hstart⟩ : ∃ u, uploadBegun = some u := Option.isSome_iff_exists.1 (by decide)
  have hlength : uploadBegun.map (·.store.length) = some 16 := by decide
  rw [hstart, Option.map_some, Option.some.injEq] at hlength
  have hasked : (askedOffset smallSettings continueAnswer.message).toNat = 16 := by decide
  obtain ⟨hsent, hwhole⟩ := upload_blocks sampleUpload rfl (by decide) (newCallback_init 0 _) hstart [continueAnswer]
    ⟨⟨by decide, fun _ _ => ⟨by decide, by decide⟩⟩, trivial⟩
  refine ⟨u, hstart, hsent, hwhole ⟨fun _ => ?_, trivial⟩⟩
  rw [hasked, hlength]

/-- Behind the 4.13 the client sends a packet without a block option. -/
theorem upload_blocks_refused : ∃ u, uploadBegun = some u ∧
    ¬ ∀ p ∈ (runFrom Upload.step u [tooLargeAnswer]).sent, IsBlock sampleUpload.payload p := by
  obtain ⟨u, hstart⟩ : ∃ u, uploadBegun = some u := Option.isSome_iff_exists.1 (by decide)
  have hlast : (uploadBegun.bind fun u => (u.step tooLargeAnswer).sent.getLast?).map (·.isOption coapOptionBlock1) =
      some false := by decide
  refine ⟨u, hstart, fun hall => ?_⟩
  rw [hstart, Option.bind_some] at hlast
  obtain ⟨p, hp, hoption⟩ := Option.map_eq_some_iff.1 hlast
  have hblock := (hall p (List.mem_of_getLast? hp)).option
  rw [hoption] at hblock
  exact absurd hblock Bool.false_ne_true

end SmartGarage
