/-
`coap_receive` over TCP, the client branch: the requests for further blocks are of the UDP format. With
the branch of requests this gives the exact condition under which everything that is sent is framed.
-/
import SmartGarage.Messaging.ReceiveTcp

namespace SmartGarage

/-! ## Calls of response handlers -/

theorem inSync_freeClientCbsByMid {endpoint : OcEndpoint} (st : Engine) (mid : UInt16) :
    InSync endpoint (st.freeClientCbsByMid mid).2 := by
  refine inSync_of_no_send fun data hd => ?_
  obtain ⟨cb, -, hcb⟩ := List.mem_map.1 hd
  cases hcb

section Callbacks

variable (env : EngineEnv) (st : Engine) (message : CoapPacket) (endpoint : OcEndpoint)

theorem inSync_settleClientCb (cb : ClientCb) (observe : UInt32) (separate : Bool) (rs : Option Nat) :
    InSync endpoint (settleClientCb st endpoint cb observe separate rs).2.2 := by
  unfold settleClientCb
  dsimp only
  split
  · split
    · split
      · exact inSync_freeClientCbsByMid _ _
      · exact inSync_nil
    · exact inSync_nil
  · split
    · split
      · exact inSync_nil
      · exact inSync_nil
    · exact inSync_nil

theorem inSync_callback (cb : Nat) (code : UInt8) (payload : OcString) : InSync endpoint [.callback cb code payload] :=
  inSync_of_no_send fun _ hd => Output.noConfusion (List.mem_singleton.1 hd)

theorem inSync_ocRiInvokeClientCb (cb : ClientCb) (rs : Option Nat) :
    InSync endpoint (ocRiInvokeClientCb env st message endpoint cb rs).2.2 := by
  have hcalled (payload : OcString) (c : Prop) [Decidable c] :
      InSync endpoint (if c then [] else [.callback cb.id message.code payload]) := by
    split
    · exact inSync_nil
    · exact inSync_callback _ _ _ _
  unfold ocRiInvokeClientCb
  generalize responseData st rs = d
  obtain ⟨observe, payload⟩ := d
  dsimp only
  split
  · split
    · split
      · exact inSync_append.2 ⟨inSync_callback _ _ _ _, inSync_freeClientCbsByMid _ _⟩
      · exact inSync_append.2 ⟨inSync_callback _ _ _ _, inSync_settleClientCb _ _ _ _ _ _⟩
    · exact inSync_append.2 ⟨hcalled _ _, inSync_settleClientCb _ _ _ _ _ _⟩
  · exact inSync_append.2 ⟨hcalled _ _, inSync_settleClientCb _ _ _ _ _ _⟩

theorem inSync_finishClient (cb : Option ClientCb) (rq rs : Option Nat) :
    InSync endpoint (finishClient env st message endpoint cb rq rs).2 := by
  unfold finishClient
  cases cb with
  | none => exact inSync_nil
  | some cb => exact inSync_ocRiInvokeClientCb env _ message endpoint cb rs

end Callbacks

/-! ## Requests for further blocks -/

theorem method_code {p : CoapPacket} {cb : ClientCb} (h : p.code = cb.method) :
    p.code ≠ 0 ∧ coapCheckSignalMessage p = false := by
  refine isRequest_code (decide_eq_true ?_)
  rw [h]
  exact cb.method_request

section Client

variable (env : EngineEnv) (csm : CsmState) (st : Engine) (message : CoapPacket) (endpoint : OcEndpoint)

theorem withQuery_spec (cb : ClientCb) {p : CoapPacket} :
    (withQuery cb p).code = p.code ∧ (UdpCon p → UdpCon (withQuery cb p)) ∧ (UdpReply p → UdpReply (withQuery cb p)) := by
  unfold withQuery
  split
  · exact ⟨rfl, fun h => h.apply defaultSettings (.uriQuery cb.query),
      fun h => h.apply defaultSettings (.uriQuery cb.query) nofun⟩
  · exact ⟨rfl, id, id⟩

theorem uploadMessage_spec (b : BlockwiseState) (cb : ClientCb) (mid : UInt16) (payload : OcString) (size : UInt16) :
    UdpReply (uploadMessage env message b cb mid payload size) ∧
      (uploadMessage env message b cb mid payload size).code = cb.method := by
  -- the setters up to the query
  have hblock (cs : List CoapSetter) :
      let p := CoapSetter.applyAll env.settings (uploadRequest env cb mid payload) cs
      UdpReply (((withQuery cb p).setHeaderAccept 10000).setHeaderContentFormat 10000) ∧ (withQuery cb p).code = cb.method := by
    intro p
    have hp : p = CoapSetter.applyAll env.settings (coapUdpInitMessage .con cb.method mid)
        (.uriPath cb.uri :: .payload payload :: cs) := rfl
    have hframe := sameFrame_applyAll env.settings (coapUdpInitMessage .con cb.method mid)
      (.uriPath cb.uri :: .payload payload :: cs)
    have hcon : UdpCon p := hp ▸ (udpCon_init cb.method mid).applyAll env.settings _
    obtain ⟨hcode, hquery, -⟩ := withQuery_spec cb (p := p)
    exact ⟨(hquery hcon).setHeaderAccept.apply env.settings (.contentFormat 10000) nofun, hcode.trans (hp ▸ hframe.code)⟩
  unfold uploadMessage
  dsimp only
  split
  · exact hblock [.block1 (message.block1.num + 1) _ size]
  · exact hblock [.block1 0 _ size, .size1 b.payloadSize]

theorem downloadMessage_spec (cb : ClientCb) (mid : UInt16) :
    UdpReply (downloadMessage env message cb mid) ∧ (downloadMessage env message cb mid).code = cb.method := by
  let cs : List CoapSetter := [.accept 10000, .block2 (message.block2.num + 1) 0 (block2Size env.settings message),
    .uriPath cb.uri]
  have hframe := sameFrame_applyAll env.settings (coapUdpInitMessage .con cb.method mid) cs
  have hreply : UdpReply (CoapSetter.applyAll env.settings (coapUdpInitMessage .con cb.method mid) cs) :=
    ((udpCon_init cb.method mid).setHeaderAccept.apply env.settings (.block2 _ _ _) nofun).apply env.settings
      (.uriPath cb.uri) nofun
  obtain ⟨hcode, -, hquery⟩ := withQuery_spec cb (p := CoapSetter.applyAll env.settings
    (coapUdpInitMessage .con cb.method mid) cs)
  exact ⟨hquery hreply, hcode.trans hframe.code⟩

theorem blockRequest_spec {request : CoapPacket} (h : UdpReply request) (rs : Option BlockwiseState) :
    UdpReply (blockRequest env message request rs) ∧ (blockRequest env message request rs).code = request.code := by
  unfold blockRequest
  split
  · split
    · exact ⟨⟨⟨h.transportType, h.type, by simp [coapTokenLen]⟩, h.accept⟩, rfl⟩
    · exact ⟨h.apply env.settings (.token message.token) (fun _ hne => CoapSetter.noConfusion hne), rfl⟩
  · exact ⟨h, rfl⟩

theorem inSync_sendBlockRequest {request : CoapPacket} {cb : ClientCb} (h : UdpReply request)
    (hcode : request.code = cb.method) (rq rs : Option BlockwiseState) :
    InSync endpoint (sendBlockRequest env st message endpoint csm request rq rs).2 ↔
      ¬(env.mainInitialized = true ∧ coapSerializeMessage (blockRequest env message request rs) ≠ []) := by
  obtain ⟨hreply, hrcode⟩ := blockRequest_spec env message h rs
  obtain ⟨hne, hsig⟩ := method_code (hrcode.trans hcode)
  unfold sendBlockRequest
  dsimp only
  split
  · rename_i hpos
    have hfits := List.length_pos_iff.1 hpos
    have hunframed := hreply.unframed hne hsig hfits
    rw [inSync_coapSendTransaction]
    exact ⟨fun hsync h => hunframed (hsync h.1), fun hnot hmain => absurd ⟨hmain, hfits⟩ hnot⟩
  · rename_i hempty
    exact iff_of_true inSync_nil fun h => hempty (List.length_pos_iff.2 h.2)

/-- The response buffer with the value of the Observe option. -/
def observedBuffer (b : BlockwiseState) : BlockwiseState :=
  if message.isOption coapOptionObserve then { b with observeSeq := message.observe } else b

/-- The response is a block that is accepted and not the last one, and the request for the next one fits. -/
def AsksForBlock (mid : UInt16) (cb : Option ClientCb) : Prop :=
  errorResponse message = false ∧ message.payload.length > 0 ∧ message.isOption coapOptionBlock2 = true ∧
    message.block2.more ≠ 0 ∧
    ∃ b ∈ (findDownloadBuffer env st message endpoint cb).1,
      ∃ b' ∈ ocBlockwiseHandleBlock env.settings (observedBuffer message b) message.block2.offset message.payload,
        ∃ c ∈ b.clientCb.bind (findDownloadBuffer env st message endpoint cb).2.clientCb,
          coapSerializeMessage (blockRequest env message (downloadMessage env message c mid) (some { b' with mid := mid })) ≠ []

theorem inSync_receiveDownload (mid : UInt16) (cb : Option ClientCb) (rq : Option BlockwiseState) :
    InSync endpoint (receiveDownload env st message endpoint csm mid cb rq).2 ↔
      ¬(env.transactionAvailable = true ∧ env.mainInitialized = true ∧
        AsksForBlock env st message endpoint mid cb) := by
  unfold receiveDownload AsksForBlock
  generalize findDownloadBuffer env st message endpoint cb = found
  obtain ⟨found, st'⟩ := found
  dsimp only
  cases found with
  | none => exact iff_of_true (inSync_finishClient _ _ _ _ _ _ _) (by simp)
  | some b =>
    cases herror : errorResponse message with
    | true => exact iff_of_true (inSync_finishClient _ _ _ _ _ _ _) (by simp)
    | false =>
      have hobserved : (if message.isOption coapOptionObserve = true then { b with observeSeq := message.observe } else b) =
        observedBuffer message b := rfl
      simp only [Bool.false_eq_true, reduceIte, hobserved]
      by_cases hpay : message.payload.length > 0
      · simp only [if_pos hpay]
        cases hhandle : ocBlockwiseHandleBlock env.settings (observedBuffer message b) message.block2.offset
          message.payload with
        | none =>
          refine iff_of_true (inSync_finishClient _ _ _ _ _ _ _) ?_
          rintro ⟨-, -, -, -, -, -, b₀, hb₀, b', hb', -⟩
          cases hb₀
          rw [hhandle] at hb'
          cases hb'
        | some b' =>
          dsimp only
          split
          · rename_i hmore
            -- a further block is asked for, if its callback is still there
            cases hcb : b.clientCb.bind st'.clientCb with
            | none =>
              refine iff_of_true inSync_nil ?_
              rintro ⟨-, -, -, -, -, -, b₀, hb₀, -, -, cb, hcb₀, -⟩
              cases hb₀
              rw [hcb] at hcb₀
              cases hcb₀
            | some cb =>
              obtain ⟨hreply, hcode⟩ := downloadMessage_spec env message cb mid
              dsimp only
              rw [inSync_sendBlockRequest env csm _ message endpoint hreply hcode]
              constructor
              · rintro hnot ⟨-, hmain, -, -, -, -, b₀, hb₀, b₁, hb₁, cb₀, hcb₀, hfits⟩
                cases hb₀
                rw [hhandle] at hb₁
                cases hb₁
                rw [hcb] at hcb₀
                cases hcb₀
                exact hnot ⟨hmain, hfits⟩
              · rintro hnot ⟨hmain, hfits⟩
                exact hnot ⟨hmore.2.2, hmain, trivial, hpay, hmore.1, hmore.2.1, b, rfl, b', hhandle, cb, hcb, hfits⟩
          · rename_i hmore
            refine iff_of_true (inSync_finishClient _ _ _ _ _ _ _) ?_
            exact fun h => hmore ⟨h.2.2.2.2.1, h.2.2.2.2.2.1, h.1⟩
      · simp only [if_neg hpay]
        exact iff_of_true (inSync_finishClient _ _ _ _ _ _ _) fun h => hpay h.2.2.2.1

/-- The response asks for a block of an upload that is left, and the request with it fits. -/
def SendsUpload (mid : UInt16) : Prop :=
  ∃ b ∈ findUploadBuffer st message endpoint (responseCb st message),
    asksForUpload message = true ∧ ∃ r ∈ (nextUploadBlock env message b).1, ∃ cb ∈ b.clientCb.bind st.clientCb,
      coapSerializeMessage (blockRequest env message (uploadMessage env message { r.1 with mid := mid } cb mid r.2
        (nextUploadBlock env message b).2) none) ≠ []

/-- The state and the callback with which the search for a response buffer begins, unless the response is one
to an upload that goes on. -/
def downloadStart : Option (Engine × Option ClientCb) :=
  match findUploadBuffer st message endpoint (responseCb st message) with
  | none => some (st, responseCb st message)
  | some b =>
    if asksForUpload message then
      match nextUploadBlock env message b with
      | (some _, _) => none
      | (none, _) => some (st.freeRequest b.id, b.clientCb.bind st.clientCb)
    else some ((dropUploadBuffer st message b).2, responseCb st message)

/-- A response that a request of the UDP format follows. -/
def FollowedOverUdp (mid : UInt16) : Prop :=
  SendsUpload env st message endpoint mid ∨
    ∃ s ∈ downloadStart env st message endpoint, AsksForBlock env s.1 message endpoint mid s.2

theorem inSync_receiveUpload (mid : UInt16) {b : BlockwiseState}
    (hb : findUploadBuffer st message endpoint (responseCb st message) = some b) (hask : asksForUpload message = true) :
    InSync endpoint (receiveUpload env st message endpoint csm mid b (b.clientCb.bind st.clientCb)).2 ↔
      ¬(env.transactionAvailable = true ∧ env.mainInitialized = true ∧ FollowedOverUdp env st message endpoint mid) := by
  unfold receiveUpload FollowedOverUdp
  cases hnext : nextUploadBlock env message b with
  | mk next size =>
    cases next with
    | none =>
      dsimp only
      rw [inSync_receiveDownload]
      refine not_congr (and_congr_right fun _ => and_congr_right fun _ => ?_)
      simp [SendsUpload, downloadStart, hb, hask, hnext]
    | some r =>
      obtain ⟨b', payload⟩ := r
      have hstart : downloadStart env st message endpoint = none := by simp [downloadStart, hb, hask, hnext]
      dsimp only
      cases hcb : b.clientCb.bind st.clientCb with
      | none => exact iff_of_true inSync_nil (by simp [SendsUpload, hb, hcb, hstart])
      | some cb =>
        cases htx : env.transactionAvailable with
        | false =>
          dsimp only
          rw [if_neg Bool.false_ne_true, inSync_receiveDownload, htx]
          simp
        | true =>
          obtain ⟨hreply, hcode⟩ := uploadMessage_spec env message { b' with mid := mid } cb mid payload size
          dsimp only
          rw [if_pos rfl, inSync_sendBlockRequest env csm _ message endpoint hreply hcode]
          simp [SendsUpload, hstart, hb, hnext, hcb, hask]

theorem inSync_receiveResponse (hnon : message.type = .non) :
    InSync endpoint (receiveResponse env st message endpoint csm).2 ↔
      ¬(env.transactionAvailable = true ∧ env.mainInitialized = true ∧
        FollowedOverUdp env st.getMid.2 message endpoint st.getMid.1) := by
  unfold receiveResponse
  generalize st.getMid = m
  obtain ⟨mid, st⟩ := m
  dsimp only
  rw [if_neg (by rw [hnon]; decide), List.nil_append]
  cases hb : findUploadBuffer st message endpoint (responseCb st message) with
  | none =>
    dsimp only
    rw [inSync_receiveDownload]
    refine not_congr (and_congr_right fun _ => and_congr_right fun _ => ?_)
    simp [FollowedOverUdp, SendsUpload, downloadStart, hb]
  | some b =>
    cases hask : asksForUpload message with
    | true =>
      dsimp only
      rw [if_pos rfl]
      exact inSync_receiveUpload env csm st message endpoint mid hb hask
    | false =>
      dsimp only
      rw [if_neg Bool.false_ne_true, inSync_receiveDownload]
      refine not_congr (and_congr_right fun _ => and_congr_right fun _ => ?_)
      simp [FollowedOverUdp, SendsUpload, downloadStart, hb, hask]

end Client

/-! ## Messages -/

section Receive

variable (env : EngineEnv) (st : Engine) (data : OcString) (endpoint : OcEndpoint)

/-- The branches of `coap_receive` that send a message of the UDP format over TCP. -/
inductive OutOfStep : Prop
  | refused (hstatus : (coapTcpParseMessage env.settings data).1 ≠ coapNoError) (hmessage : env.messageAvailable = true)
  | request (hstatus : (coapTcpParseMessage env.settings data).1 = coapNoError)
      (hcode : isRequest (coapTcpParseMessage env.settings data).2 = true)
      (htransaction : env.transactionAvailable = true) (hmain : env.mainInitialized = true)
      (h : AnsweredOverUdp env st (coapTcpParseMessage env.settings data).2 endpoint)
  | response (hstatus : (coapTcpParseMessage env.settings data).1 = coapNoError)
      (hcode : ¬isRequest (coapTcpParseMessage env.settings data).2 = true)
      (htransaction : env.transactionAvailable = true) (hmain : env.mainInitialized = true)
      (h : FollowedOverUdp env st.getMid.2 (coapTcpParseMessage env.settings data).2 endpoint st.getMid.1)

theorem inSync_handleSignal (message : CoapPacket) : InSync endpoint (handleCoapSignalMessage env message endpoint).1 := by
  unfold handleCoapSignalMessage
  split
  · split
    · exact inSync_nil
    · dsimp only
      split
      · exact inSync_signal env endpoint (size_csmMessage env)
      · exact inSync_nil
  · split
    · exact inSync_signal env endpoint (size_pongMessage message)
    · exact inSync_nil

theorem inSync_refused (csm : CsmState) (token : OcString) {status : UInt8} (hstatus : status ≠ 0) :
    InSync endpoint (coapSendEmptyResponse env csm .non 0 token status endpoint) ↔ env.messageAvailable ≠ true := by
  obtain ⟨hne, hunframed⟩ := empty_unframed status 0 token hstatus
  unfold coapSendEmptyResponse
  split
  · rename_i hmessage
    dsimp only
    rw [if_pos (List.length_pos_iff.2 hne), inSync_coapSendMessage]
    exact iff_of_false hunframed fun h => h hmessage
  · rename_i hmessage
    exact iff_of_true inSync_nil hmessage

/-- Over TCP everything that `coap_receive` sends is framed exactly when none of the branches that initialise
a message for UDP is taken. -/
theorem coapReceive_framed_iff (htcp : endpoint.flags.tcp = true) :
    (∀ reply, Output.send endpoint reply ∈ (coapReceive env st data endpoint).2 →
      coapTcpGetPacketSize reply = reply.length) ↔ ¬OutOfStep env st data endpoint := by
  have hnon := coapTcpParseMessage_type env.settings data
  change InSync endpoint (coapReceive env st data endpoint).2 ↔ _
  unfold coapReceive parseMessage clearTransaction
  simp only [if_pos htcp]
  by_cases hstatus : (coapTcpParseMessage env.settings data).1 = coapNoError
  · simp only [if_pos hstatus]
    have hsignals : InSync endpoint (if coapCheckSignalMessage (coapTcpParseMessage env.settings data).2 = true then
        handleCoapSignalMessage env (coapTcpParseMessage env.settings data).2 endpoint else ([], env.csmState)).1 := by
      split
      · exact inSync_handleSignal env endpoint _
      · exact inSync_nil
    rw [inSync_append]
    by_cases hcode : isRequest (coapTcpParseMessage env.settings data).2 = true
    · rw [if_pos hcode, inSync_receiveRequest env _ st _ endpoint htcp hnon]
      constructor
      · rintro ⟨-, hnot⟩ (⟨h, -⟩ | ⟨-, -, htx, hmain, h⟩ | ⟨-, h, -⟩)
        · exact h hstatus
        · exact hnot ⟨htx, hmain, h⟩
        · exact h hcode
      · exact fun hnot => ⟨hsignals, fun h => hnot (.request hstatus hcode h.1 h.2.1 h.2.2)⟩
    · rw [if_neg hcode, inSync_receiveResponse env _ st _ endpoint hnon]
      constructor
      · rintro ⟨-, hnot⟩ (⟨h, -⟩ | ⟨-, h, -⟩ | ⟨-, -, htx, hmain, h⟩)
        · exact h hstatus
        · exact hcode h
        · exact hnot ⟨htx, hmain, h⟩
      · exact fun hnot => ⟨hsignals, fun h => hnot (.response hstatus hcode h.1 h.2.1 h.2.2)⟩
  · simp only [if_neg hstatus]
    rw [inSync_refused env endpoint _ _ hstatus]
    constructor
    · rintro hmessage (⟨-, h⟩ | ⟨h, -⟩ | ⟨h, -⟩)
      · exact hmessage h
      · exact hstatus h
      · exact hstatus h
    · exact fun hnot hmessage => hnot (.refused hstatus hmessage)

end Receive

/-- A GET whose Accept option asks for plain text. -/
def plainTextGet : OcString := [0x20, 0x01, 0xD0, 0x04]

theorem coapReceive_framed_iff_get : (peer true).flags.tcp = true ∧
    ((∀ reply, Output.send (peer true) reply ∈ (coapReceive sampleEnv (Engine.init 0) plainTextGet (peer true)).2 →
      coapTcpGetPacketSize reply = reply.length) ↔ ¬OutOfStep sampleEnv (Engine.init 0) plainTextGet (peer true)) :=
  ⟨rfl, coapReceive_framed_iff sampleEnv (Engine.init 0) plainTextGet (peer true) rfl⟩

/-- It is refused with a message of four bytes that a reader of TCP takes for seven. -/
theorem coapReceive_unframed : (peer true).flags.tcp = true ∧
    Output.send (peer true) [0x50, 0x86, 0, 0] ∈ (coapReceive sampleEnv (Engine.init 0) plainTextGet (peer true)).2 ∧
    coapTcpGetPacketSize [0x50, 0x86, 0, 0] ≠ [0x50, 0x86, 0, (0 : UInt8)].length := by
  decide

end SmartGarage
