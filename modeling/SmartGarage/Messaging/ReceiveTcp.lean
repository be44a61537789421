/-
`coap_receive` over TCP: exactly which of its branches send a message that is not framed. Four places
of the source initialise a message with `coap_udp_init_message` whatever the transport is: the answer to
a message that cannot be parsed, the response behind the last block of a request, the response with the
last block of a payload, and the client's request for a further block.
-/
import SmartGarage.Messaging.Framing

namespace SmartGarage

variable {response : CoapPacket} {data : OcString}

/-! ## Outputs -/

/-- Every message is framed: the length field of its header gives its length. -/
def InSync (endpoint : OcEndpoint) (out : List Output) : Prop :=
  ∀ data, Output.send endpoint data ∈ out → coapTcpGetPacketSize data = data.length

section

variable {endpoint : OcEndpoint}

theorem inSync_nil : InSync endpoint [] := nofun

theorem inSync_append {out out' : List Output} : InSync endpoint (out ++ out') ↔ InSync endpoint out ∧ InSync endpoint out' := by
  constructor
  · intro h
    exact ⟨fun d hd => h d (List.mem_append_left _ hd), fun d hd => h d (List.mem_append_right _ hd)⟩
  · rintro ⟨h, h'⟩ d hd
    rcases List.mem_append.1 hd with hd | hd
    · exact h d hd
    · exact h' d hd

theorem inSync_send :
    InSync endpoint [.send endpoint data] ↔ coapTcpGetPacketSize data = data.length := by
  constructor
  · exact fun h => h data List.mem_cons_self
  · intro h d hd
    cases List.mem_singleton.1 hd
    exact h

theorem inSync_of_no_send {out : List Output} (h : ∀ data, Output.send endpoint data ∉ out) :
    InSync endpoint out :=
  fun data hd => absurd hd (h data)

theorem inSync_handler (payload : OcString) : InSync endpoint [.handler payload] :=
  inSync_of_no_send fun _ hd => Output.noConfusion (List.mem_singleton.1 hd)

end

section Send

variable (env : EngineEnv) (csm : CsmState) (endpoint : OcEndpoint)

theorem inSync_signal (h : coapTcpGetPacketSize data = data.length) :
    InSync endpoint (coapSendSignalMessage env endpoint data) := by
  unfold coapSendSignalMessage
  split
  · exact inSync_send.2 h
  · exact inSync_nil

theorem size_csmMessage : coapTcpGetPacketSize (csmMessage env) = (csmMessage env).length := by
  have h0 : Framed { coapTcpInitMessage csm701 with token := env.randomToken.toList } :=
    ⟨rfl, rfl, rfl, by simp [coapTokenLen], Nat.two_pow_pos 32⟩
  obtain ⟨h, hcode⟩ := h0.apply env.settings (.signal (.maxMsgSize (UInt32.ofNat (ocPduSize env.settings))))
  exact framed_signal h (.inl hcode)

theorem size_pongMessage (message : CoapPacket) :
    coapTcpGetPacketSize (pongMessage message) = (pongMessage message).length := by
  obtain ⟨h, hcode⟩ := (framed_tcpInit pong703).apply defaultSettings (.request (.token message.token))
  unfold pongMessage
  dsimp only
  split
  · obtain ⟨h', hcode'⟩ := h.apply defaultSettings (.signal (.custody message.custody))
    exact framed_signal h' (.inr (hcode'.trans hcode))
  · exact framed_signal h (.inr hcode)

/-- A CSM that goes first is framed, so that only the message itself counts. -/
theorem inSync_coapSendMessage :
    InSync endpoint (coapSendMessage env csm endpoint data) ↔ coapTcpGetPacketSize data = data.length := by
  unfold coapSendMessage
  rw [inSync_append, inSync_send]
  constructor
  · exact And.right
  · refine fun h => ⟨?_, h⟩
    split
    · exact inSync_signal env endpoint (size_csmMessage env)
    · exact inSync_nil

theorem inSync_coapSendTransaction {st : Engine} {mid : UInt16} :
    InSync endpoint (coapSendTransaction env csm st mid endpoint data).2 ↔
      (env.mainInitialized = true → coapTcpGetPacketSize data = data.length) := by
  unfold coapSendTransaction
  cases env.mainInitialized with
  | false => exact iff_of_true inSync_nil nofun
  | true => simp only [Bool.true_eq_false, reduceIte, inSync_coapSendMessage, forall_const]

end Send

/-! ## Answers to requests -/

/-- The setters that an answer may go through behind its Accept option. -/
structure AnswerSetter (c : CoapSetter) : Prop where
  accept : ∀ v, c ≠ .accept v
  uriPath : ∀ v, c ≠ .uriPath v
  uriQuery : ∀ v, c ≠ .uriQuery v

/-- A property that an answer keeps until it is sent. -/
structure AnswerInv (B : BufferSettings) (P : CoapPacket → Prop) : Prop where
  setter : ∀ p c, AnswerSetter c → P p → P (c.apply B p)
  code : ∀ p (code : UInt8), P p → P { p with code := code }

theorem answerInv_framed (B : BufferSettings) : AnswerInv B Framed :=
  ⟨fun _ c _ h => (h.apply B (.request c)).1, fun _ _ h => ⟨h.transportType, h.type, h.mid, h.token, h.payload⟩⟩

/-- An answer of the UDP format that fits into a message. -/
def ShortUdp (p : CoapPacket) : Prop := UdpReply p ∧ ShortReply p

theorem answerInv_udp (B : BufferSettings) : AnswerInv B ShortUdp := by
  constructor
  · exact fun p c hc h => ⟨h.1.apply B c hc.accept, h.2.apply B c hc.uriPath hc.uriQuery⟩
  · exact fun p code h => ⟨⟨⟨h.1.transportType, h.1.type, h.1.token⟩, h.1.accept⟩, h.2.uriPath, h.2.uriQuery, h.2.etag⟩

section Answers

variable (env : EngineEnv) (csm : CsmState) (message : CoapPacket) (endpoint : OcEndpoint)

theorem sendResponse_eq (st : Engine) (response : CoapPacket) :
    ∃ p, (sendResponse env csm message endpoint st response).2 =
        (if (coapSerializeMessage p).length > 0 then
          coapSendTransaction env csm st p.mid endpoint (coapSerializeMessage p) else (st, [])).2 ∧
      p.code = response.code ∧ ∀ P, AnswerInv env.settings P → P response → P p := by
  by_cases h : response.type ≠ .rst ∧ message.token.length > 0
  · refine ⟨response.setToken message.token, ?_, rfl, fun P hP hr => ?_⟩
    · unfold sendResponse
      rw [if_pos h]
    · exact hP.setter response (.token message.token) ⟨nofun, nofun, nofun⟩ hr
  · refine ⟨response, ?_, rfl, fun _ _ hr => hr⟩
    unfold sendResponse
    rw [if_neg h]

theorem inSync_sendResponse (st : Engine) (h : Framed response) (hcode : response.code ≠ 0) :
    InSync endpoint (sendResponse env csm message endpoint st response).2 := by
  obtain ⟨p, hout, hp, hkeep⟩ := sendResponse_eq env csm message endpoint st response
  rw [hout]
  split
  · rename_i hpos
    exact (inSync_coapSendTransaction env csm endpoint).2 fun _ =>
      (hkeep Framed (answerInv_framed _) h).size (hp.trans_ne hcode) hpos
  · exact inSync_nil

theorem inSync_sendResponse_udp (st : Engine) (h : ShortUdp response) (hcode : response.code ≠ 0)
    (hsig : coapCheckSignalMessage response = false) :
    InSync endpoint (sendResponse env csm message endpoint st response).2 ↔ env.mainInitialized ≠ true := by
  obtain ⟨p, hout, hp, hkeep⟩ := sendResponse_eq env csm message endpoint st response
  obtain ⟨hudp, hshort⟩ := hkeep ShortUdp (answerInv_udp _) h
  have hpsig : coapCheckSignalMessage p = false := by rw [← hsig, coapCheckSignalMessage, coapCheckSignalMessage, hp]
  have hne := hshort.fits hpsig hudp.token
  have hunframed := hudp.unframed (hp.trans_ne hcode) hpsig hne
  rw [hout, if_pos (List.length_pos_iff.2 hne), inSync_coapSendTransaction]
  exact ⟨fun hsync hmain => hunframed (hsync hmain), fun hmain h => absurd h hmain⟩

theorem inSync_sendReset (htcp : endpoint.flags.tcp = true) (st : Engine) (rq rs : Option Nat) :
    InSync endpoint (sendReset env csm message endpoint st rq rs).2 := by
  unfold sendReset
  rw [if_pos htcp]
  exact inSync_sendResponse env csm message endpoint _ (framed_tcpInit _) (by decide)

end Answers

/-! ## The resource layer -/

section Handler

variable (env : EngineEnv) (csm : CsmState) (st : Engine) (message : CoapPacket) (endpoint : OcEndpoint)
  (response : CoapPacket)

/-- The resource layer gets the response buffer that it needs. -/
def responseAllocated : Bool :=
  !env.outcome.reached || (decide (coapGetHeaderUriPath message ≠ []) && env.bufferAvailable)

/-- The code that the resource layer leaves. -/
def answerCode : UInt8 := if responseAllocated env message then env.outcome.code else badRequest400

/-- The request is left without an answer: a separate response is to follow, or none. -/
def answerCleared : Bool :=
  (env.outcome.separate && (env.outcome.success && env.outcome.reached && responseAllocated env message)) ||
    (env.outcome.ignore || (endpoint.flags.multicast && decide (answerCode env message ≥ badRequest400)))

theorem handlerBuffer_allocated : (handlerBuffer env st message endpoint none).1 = responseAllocated env message := by
  unfold handlerBuffer responseAllocated ocBlockwiseAllocResponseBuffer
  cases env.outcome.reached with
  | false => rfl
  | true =>
    by_cases hpath : coapGetHeaderUriPath message = []
    · simp [hpath]
    · cases env.bufferAvailable <;> simp [hpath]

theorem inSync_finishHandler (hnon : message.type = .non) (rq rs : Option Nat) (success ignore : Bool) (code : UInt8)
    (payload answer : OcString) :
    InSync endpoint (finishHandler env csm st message endpoint response rq rs success ignore code payload answer).out := by
  have hout : InSync endpoint (if success then [.handler payload] else [] : List Output) := by
    split
    · exact inSync_handler payload
    · exact inSync_nil
  unfold finishHandler
  dsimp only
  split
  · refine inSync_append.2 ⟨hout, ?_⟩
    rw [if_neg (by rw [hnon]; decide)]
    exact inSync_nil
  · split
    · exact hout
    · exact hout

theorem finishHandler_response (rq rs : Option Nat) (success ignore : Bool) (code : UInt8) (payload answer : OcString) :
    let r := finishHandler env csm st message endpoint response rq rs success ignore code payload answer
    r.clear = (env.outcome.separate && success || ignore) ∧ (r.clear = false → r.response.code = code) ∧
      ∀ P, AnswerInv env.settings P → P response → P r.response := by
  have hobserve (P : CoapPacket → Prop) (hP : AnswerInv env.settings P) (hr : P response) :
      P (if success = true ∧ code < badRequest400 ∧ env.outcome.observe = true then response.setHeaderObserve 0
        else response) := by
    split
    · exact hP.setter response (.observe 0) ⟨nofun, nofun, nofun⟩ hr
    · exact hr
  unfold finishHandler
  dsimp only
  split
  · rename_i hsep
    exact ⟨by rw [hsep, Bool.true_or], nofun, hobserve⟩
  · rename_i hsep
    rw [Bool.eq_false_iff.2 hsep, Bool.false_or]
    split
    · rename_i hignore
      exact ⟨hignore.symm, nofun, hobserve⟩
    · rename_i hignore
      refine ⟨(Bool.eq_false_iff.2 hignore).symm, fun _ => rfl, fun P hP hr => hP.code _ _ ?_⟩
      have hformat (p : CoapPacket) (hp : P p) : P (if answer.length > 0 ∧ env.outcome.contentFormat > 0 then
          p.setHeaderContentFormat env.outcome.contentFormat.toUInt32 else p) := by
        split
        · exact hP.setter p (.contentFormat _) ⟨nofun, nofun, nofun⟩ hp
        · exact hp
      split
      · exact hP.setter _ (.size1 _) ⟨nofun, nofun, nofun⟩ (hformat _ (hobserve P hP hr))
      · exact hformat _ (hobserve P hP hr)

theorem invoke_response (rq : Option Nat) :
    let r := ocRiInvokeCoapEntityHandler env csm st message endpoint response rq none
    r.clear = answerCleared env message endpoint ∧ (r.clear = false → r.response.code = answerCode env message) ∧
      ∀ P, AnswerInv env.settings P → P response → P r.response := by
  have hbuffer := handlerBuffer_allocated env (freeParsedRequest st message rq).2 message endpoint
  unfold ocRiInvokeCoapEntityHandler answerCleared answerCode
  dsimp only
  rw [← hbuffer]
  exact finishHandler_response env csm _ message endpoint response _ _ _ _ _ _ _

theorem inSync_invoke (hnon : message.type = .non) (rq : Option Nat) :
    InSync endpoint (ocRiInvokeCoapEntityHandler env csm st message endpoint response rq none).out := by
  unfold ocRiInvokeCoapEntityHandler
  exact inSync_finishHandler env csm _ message endpoint response hnon _ _ _ _ _ _ _

theorem firstBlock_response (htcp : endpoint.flags.tcp = true) (b : BlockwiseState) :
    (firstBlock env st message endpoint response b).2.code = response.code ∧
      ∀ P, AnswerInv env.settings P → P response → P (firstBlock env st message endpoint response b).2 := by
  unfold firstBlock
  rw [if_pos htcp]
  split
  · rename_i b' payload _
    refine ⟨(sameFrame_apply env.settings response (.payload payload)).code, fun P hP hr => ?_⟩
    exact hP.setter response (.payload payload) ⟨nofun, nofun, nofun⟩ hr
  · exact ⟨rfl, fun _ _ hr => hr⟩

theorem respond_response (htcp : endpoint.flags.tcp = true) (r : HandlerResult) :
    (respond env message endpoint r).2.code = r.response.code ∧
      ∀ P, AnswerInv env.settings P → P r.response → P (respond env message endpoint r).2 := by
  unfold respond
  split
  · split
    · exact firstBlock_response env r.st message endpoint r.response htcp _
    · exact ⟨rfl, fun _ _ hr => hr⟩
  · exact ⟨rfl, fun _ _ hr => hr⟩

theorem inSync_handleRequest (htcp : endpoint.flags.tcp = true) (hnon : message.type = .non) (h : Framed response)
    (rq : Option Nat) : InSync endpoint (handleRequest env csm message endpoint st response rq none).2 := by
  obtain ⟨-, -, hkeep⟩ := invoke_response env csm st message endpoint response rq
  have hsync := inSync_invoke env csm st message endpoint response hnon rq
  unfold handleRequest
  generalize ocRiInvokeCoapEntityHandler env csm st message endpoint response rq none = r at *
  have hframed := (respond_response env message endpoint htcp r).2 Framed (answerInv_framed _)
    (hkeep Framed (answerInv_framed _) h)
  dsimp only
  split
  · exact hsync
  · refine inSync_append.2 ⟨hsync, ?_⟩
    split
    · rename_i hcode
      exact inSync_sendResponse env csm message endpoint _ hframed hcode
    · exact inSync_sendReset env csm message endpoint htcp _ _ _

/-- The codes of the resource layer are no signals. -/
theorem answerCode_not_signal (p : CoapPacket) (h : p.code = answerCode env message) :
    coapCheckSignalMessage p = false := by
  unfold coapCheckSignalMessage
  rw [h]
  unfold answerCode HandlerOutcome.code
  split
  · split
    · rename_i status _
      cases status <;> decide
    · decide
  · decide

theorem inSync_handleRequest_udp (htcp : endpoint.flags.tcp = true) (hnon : message.type = .non) (h : ShortUdp response)
    (rq : Option Nat) :
    InSync endpoint (handleRequest env csm message endpoint st response rq none).2 ↔
      ¬(env.mainInitialized = true ∧ answerCleared env message endpoint = false ∧ answerCode env message ≠ 0) := by
  obtain ⟨hclear, hcode, hkeep⟩ := invoke_response env csm st message endpoint response rq
  have hsync := inSync_invoke env csm st message endpoint response hnon rq
  unfold handleRequest
  generalize ocRiInvokeCoapEntityHandler env csm st message endpoint response rq none = r at *
  obtain ⟨hrcode, hrkeep⟩ := respond_response env message endpoint htcp r
  dsimp only
  rw [← hclear]
  cases hc : r.clear with
  | true =>
    rw [if_pos rfl]
    exact iff_of_true hsync (by simp)
  | false =>
    have hanswer := hrcode.trans (hcode hc)
    rw [if_neg Bool.false_ne_true, inSync_append, ← hanswer]
    split
    · rename_i hne
      rw [inSync_sendResponse_udp env csm message endpoint (respond env message endpoint r).1
        (hrkeep ShortUdp (answerInv_udp _) (hkeep ShortUdp (answerInv_udp _) h)) hne
        (answerCode_not_signal env message _ hanswer)]
      exact ⟨fun h hmain => h.2 hmain.1, fun h => ⟨hsync, fun hmain => h ⟨hmain, rfl, hne⟩⟩⟩
    · rename_i h0
      exact iff_of_true ⟨hsync, inSync_sendReset env csm message endpoint htcp _ _ _⟩ fun h => h0 h.2.2

end Handler

/-! ## Requests -/

/-- Where a branch goes on with an answer of the TCP format. -/
inductive TcpNext : Next → Prop
  | send {p : CoapPacket} (h : Framed p) (hcode : p.code ≠ 0) : TcpNext (.send p)
  | clear : TcpNext .clear
  | handle {p : CoapPacket} (h : Framed p) (rq : Option Nat) : TcpNext (.handle p rq none)
  | reset (rq rs : Option Nat) : TcpNext (.reset rq rs)

section Requests

variable (env : EngineEnv) (csm : CsmState) (st : Engine) (message : CoapPacket) (endpoint : OcEndpoint)

/-- The block is accepted, and it is the last one of its request. -/
def CompletesUpload : Prop :=
  message.isOption coapOptionBlock1 = true ∧ message.block1.more = 0 ∧
    ∃ b ∈ (block1Buffer env st message endpoint).1,
      (ocBlockwiseHandleBlock env.settings b message.block1.offset (incomingBlock1 env message)).isSome

/-- The block that is asked for is dispatched, and it is the last one of its response. -/
def CompletesDownload : Prop :=
  message.isOption coapOptionBlock1 = false ∧ message.isOption coapOptionBlock2 = true ∧
    ∃ b ∈ (findBlock2Buffer env st message endpoint).1,
      ∃ r ∈ ocBlockwiseDispatchBlock b message.block2.offset (block2Size env.settings message).toUInt32,
        ¬r.1.nextBlockOffset < r.1.payloadSize

/-- A branch in which every message is of the TCP format. -/
structure TcpStep (step : ServerStep) : Prop where
  out : step.out = []
  next : TcpNext step.next

theorem receiveBlock1_tcp (hnon : message.type = .non) (h : Framed response)
    (hopt : message.isOption coapOptionBlock1 = true) :
    let step := receiveBlock1 env csm st message endpoint response
    (¬CompletesUpload env st message endpoint ∧ TcpStep step) ∨
      (CompletesUpload env st message endpoint ∧ step.out = [] ∧ ∃ p rq, ShortUdp p ∧ step.next = .handle p rq none) := by
  unfold receiveBlock1 CompletesUpload
  dsimp only
  split
  · rename_i hnone
    rw [hnone]
    exact .inl ⟨by simp, rfl, .reset _ _⟩
  · rename_i b st' hsome
    rw [hsome]
    split
    · rename_i hrefused
      refine .inl ⟨?_, rfl, .reset _ _⟩
      rintro ⟨-, -, b', hb', haccept⟩
      cases hb'
      rw [hrefused] at haccept
      cases haccept
    · rename_i b' haccept
      split
      · rename_i hmore
        refine .inl ⟨fun hcompletes => hmore hcompletes.2.1, rfl, .send ?_ ?_⟩
        · exact (answerInv_framed env.settings).setter _ (.block1 message.block1.num message.block1.more
            (block1Size env.settings message)) ⟨nofun, nofun, nofun⟩ ((answerInv_framed env.settings).code _ _ h)
        · have hcode := (sameFrame_apply env.settings { response with code := continue231 } (.block1 message.block1.num
            message.block1.more (block1Size env.settings message))).code
          have hcontinue : continue231 ≠ 0 := by decide
          exact hcode.trans_ne hcontinue
      · rename_i hmore
        refine .inr ⟨⟨hopt, Decidable.not_not.1 hmore, b, rfl, ?_⟩, ?_, _, _, ⟨?_, ?_⟩, rfl⟩
        · rw [haccept]
          rfl
        · rw [if_neg (by rw [hnon]; decide)]
        · exact ((udpCon_init content205 st'.getMid.1).apply env.settings (.block1 message.block1.num message.block1.more
            (block1Size env.settings message))).setHeaderAccept
        · exact ShortReply.apply env.settings (ShortReply.apply env.settings (shortReply_init .con content205 st'.getMid.1)
            (.block1 message.block1.num message.block1.more (block1Size env.settings message)) nofun nofun)
            (.accept 10000) nofun nofun

/-- The options and the payload of a block of a response. -/
def block2Response (response : CoapPacket) (payload : OcString) (more : UInt8) (etag : OcString) : CoapPacket :=
  (((response.setHeaderContentFormat 10000).setPayload env.settings payload).setHeaderBlock2 message.block2.num more
    (block2Size env.settings message)).setHeaderEtag etag

theorem block2Response_spec (response : CoapPacket) (payload : OcString) (more : UInt8) (etag : OcString) :
    (block2Response env message response payload more etag).code = response.code ∧
      ∀ P, AnswerInv env.settings P → P response → P (block2Response env message response payload more etag) := by
  let cs : List CoapSetter := [.contentFormat 10000, .payload payload,
    .block2 message.block2.num more (block2Size env.settings message), .etag etag]
  have hall : block2Response env message response payload more etag = CoapSetter.applyAll env.settings response cs := rfl
  refine ⟨hall ▸ (sameFrame_applyAll env.settings response cs).code, fun P hP hr => ?_⟩
  refine hP.setter _ (.etag etag) ⟨nofun, nofun, nofun⟩ ?_
  refine hP.setter _ (.block2 _ _ _) ⟨nofun, nofun, nofun⟩ ?_
  refine hP.setter _ (.payload payload) ⟨nofun, nofun, nofun⟩ ?_
  exact hP.setter _ (.contentFormat 10000) ⟨nofun, nofun, nofun⟩ hr

theorem shortUdp_con (mid : UInt16) : ShortUdp ((coapUdpInitMessage .con content205 mid).setHeaderAccept 10000) :=
  ⟨(udpCon_init content205 mid).setHeaderAccept,
    ShortReply.apply defaultSettings (shortReply_init .con content205 mid) (.accept 10000) nofun nofun⟩

theorem receiveBlock2_tcp (hnon : message.type = .non) (h : Framed response)
    (hcode : response.code ≠ 0) (hopt1 : message.isOption coapOptionBlock1 = false)
    (hopt2 : message.isOption coapOptionBlock2 = true) :
    let step := receiveBlock2 env csm st message endpoint response
    (¬CompletesDownload env st message endpoint ∧ TcpStep step) ∨
      (CompletesDownload env st message endpoint ∧ step.out = [] ∧
        ∃ p, ShortUdp p ∧ p.code = content205 ∧ step.next = .send p) := by
  unfold receiveBlock2 CompletesDownload
  dsimp only
  split
  · rename_i b st' hsome
    rw [hsome]
    split
    · rename_i b' payload hdispatch
      by_cases hlast : b'.nextBlockOffset < b'.payloadSize
      · simp only [if_pos hlast]
        obtain ⟨hc, hkeep⟩ := block2Response_spec env message response payload 1 b'.etag
        refine .inl ⟨?_, ?_, .send (hkeep Framed (answerInv_framed _) h) (hc.trans_ne hcode)⟩
        · rintro ⟨-, -, b₀, hb₀, r, hr, hdone⟩
          cases hb₀
          rw [hdispatch] at hr
          cases hr
          exact hdone hlast
        · dsimp only
          rw [if_neg fun hcon => absurd hcon.1 (by decide)]
      · simp only [if_neg hlast]
        obtain ⟨hc, hkeep⟩ := block2Response_spec env message
          ((coapUdpInitMessage .con content205 st'.getMid.1).setHeaderAccept 10000) payload 0 b'.etag
        -- the last block is answered by a UDP packet
        refine .inr ⟨⟨hopt1, hopt2, b, rfl, (b', payload), hdispatch, hlast⟩, ?_, _,
          hkeep ShortUdp (answerInv_udp _) (shortUdp_con _), hc, rfl⟩
        rw [if_neg (by rw [hnon]; simp)]
    · rename_i hdispatch
      refine .inl ⟨?_, rfl, .reset _ _⟩
      rintro ⟨-, -, b₀, hb₀, r, hr, -⟩
      cases hb₀
      rw [hdispatch] at hr
      cases hr
  · rename_i st' hnone
    rw [hnone]
    refine .inl ⟨by simp, ?_⟩
    split
    · split
      · split
        · exact ⟨rfl, .handle h _⟩
        · split
          · exact ⟨rfl, .handle h _⟩
          · exact ⟨rfl, .reset _ _⟩
      · exact ⟨rfl, .handle h _⟩
    · exact ⟨rfl, .reset _ _⟩

theorem receivePlain_tcp (h : Framed response) :
    TcpStep (receivePlain env st message endpoint response) := by
  unfold receivePlain
  split
  · split
    · exact ⟨rfl, .reset _ _⟩
    · split
      · split
        · exact ⟨rfl, .clear⟩
        · exact ⟨rfl, .handle h _⟩
      · exact ⟨rfl, .handle h _⟩
  · exact ⟨rfl, .reset _ _⟩

/-- The request is answered with a message of the UDP format. -/
def AnsweredOverUdp : Prop :=
  (CompletesUpload env st message endpoint ∧ answerCleared env message endpoint = false ∧ answerCode env message ≠ 0) ∨
    CompletesDownload env st message endpoint

theorem inSync_goOn (htcp : endpoint.flags.tcp = true) (hnon : message.type = .non) {step : ServerStep}
    (h : TcpStep step) : InSync endpoint (goOn env csm message endpoint step).2 := by
  obtain ⟨st', out, next⟩ := step
  obtain ⟨-, hnext⟩ := h
  cases hnext with
  | send hp hcode => exact inSync_sendResponse env csm message endpoint st' hp hcode
  | clear => exact inSync_nil
  | handle hp rq => exact inSync_handleRequest env csm st' message endpoint _ htcp hnon hp rq
  | reset rq rs => exact inSync_sendReset env csm message endpoint htcp st' rq rs

theorem serverStep_tcp (hnon : message.type = .non) :
    let step := serverStep env csm message endpoint st (coapTcpInitMessage content205)
    (¬CompletesUpload env st message endpoint ∧ ¬CompletesDownload env st message endpoint ∧ TcpStep step) ∨
      (step.out = [] ∧ CompletesUpload env st message endpoint ∧ ¬CompletesDownload env st message endpoint ∧
        ∃ p rq, ShortUdp p ∧ step.next = .handle p rq none) ∨
      (step.out = [] ∧ CompletesDownload env st message endpoint ∧
        ∃ p, ShortUdp p ∧ p.code = content205 ∧ step.next = .send p) := by
  have hframed := framed_tcpInit content205
  unfold serverStep
  cases h1 : message.isOption coapOptionBlock1 with
  | true =>
    have hdown : ¬CompletesDownload env st message endpoint := fun h => absurd (h1.symm.trans h.1) (by decide)
    rw [if_pos rfl]
    rcases receiveBlock1_tcp env csm st message endpoint hnon hframed h1 with ⟨hup, htcp⟩ | ⟨hup, hout, hnext⟩
    · exact .inl ⟨hup, hdown, htcp⟩
    · exact .inr (.inl ⟨hout, hup, hdown, hnext⟩)
  | false =>
    have hup : ¬CompletesUpload env st message endpoint := fun h => absurd (h1.symm.trans h.1) (by decide)
    rw [if_neg Bool.false_ne_true]
    cases h2 : message.isOption coapOptionBlock2 with
    | true =>
      rw [if_pos rfl]
      rcases receiveBlock2_tcp env csm st message endpoint hnon hframed (by decide) h1 h2 with
        ⟨hdown, htcp⟩ | ⟨hdown, hout, hnext⟩
      · exact .inl ⟨hup, hdown, htcp⟩
      · exact .inr (.inr ⟨hout, hdown, hnext⟩)
    | false =>
      rw [if_neg Bool.false_ne_true]
      exact .inl ⟨hup, fun h => absurd (h2.symm.trans h.2.1) (by decide),
        receivePlain_tcp env st message endpoint hframed⟩

/-- Exactly the requests that are answered over UDP bring the stream out of step. -/
theorem inSync_receiveRequest (htcp : endpoint.flags.tcp = true) (hnon : message.type = .non) :
    InSync endpoint (receiveRequest env csm message endpoint st).2 ↔
      ¬(env.transactionAvailable = true ∧ env.mainInitialized = true ∧ AnsweredOverUdp env st message endpoint) := by
  unfold receiveRequest initResponse
  rw [if_pos htcp]
  dsimp only
  cases htx : env.transactionAvailable with
  | false => exact iff_of_true inSync_nil (by simp)
  | true =>
    rw [if_neg (by decide), inSync_append]
    generalize hstep : serverStep env csm message endpoint st (coapTcpInitMessage content205) = step
    have hcases := serverStep_tcp env csm st message endpoint hnon
    rw [hstep] at hcases
    rcases hcases with ⟨hup, hdown, hstep⟩ | ⟨hout, hup, hdown, p, rq, hp, hnext⟩ | ⟨hout, hdown, p, hp, hcode, hnext⟩
    · refine iff_of_true ⟨hstep.out ▸ inSync_nil, inSync_goOn env csm message endpoint htcp hnon hstep⟩ ?_
      rintro ⟨-, -, h | h⟩
      · exact hup h.1
      · exact hdown h
    · rw [hout, goOn, hnext]
      dsimp only
      rw [inSync_handleRequest_udp env csm step.st message endpoint p htcp hnon hp rq]
      constructor
      · rintro ⟨-, hsync⟩ ⟨-, hmain, h | h⟩
        · exact hsync ⟨hmain, h.2⟩
        · exact hdown h
      · intro hnot
        exact ⟨inSync_nil, fun h => hnot ⟨rfl, h.1, .inl ⟨hup, h.2⟩⟩⟩
    · rw [hout, goOn, hnext]
      have hsig : coapCheckSignalMessage p = false := by
        rw [coapCheckSignalMessage, hcode]
        decide
      have hsend := inSync_sendResponse_udp env csm message endpoint step.st hp (hcode.trans_ne (by decide)) hsig
      constructor
      · rintro ⟨-, hsync⟩ ⟨-, hmain, -⟩
        exact hsend.1 hsync hmain
      · intro hnot
        exact ⟨inSync_nil, hsend.2 fun hmain => hnot ⟨rfl, hmain, .inr hdown⟩⟩

end Requests

end SmartGarage
