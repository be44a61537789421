/-
`engine.c`: `coap_receive` and what it calls, for requests (the server branch with Block1, Block2 and
plain requests) and for everything else (the client branch).
-/
import SmartGarage.Messaging.Engine

namespace SmartGarage

/-! ## Block options -/

/-- `block1_size`, cut to `OC_BLOCK_SIZE`. -/
def block1Size (B : BufferSettings) (p : CoapPacket) : UInt16 :=
  min (if p.isOption coapOptionBlock1 then p.block1.size else UInt16.ofNat B.blockSize) (UInt16.ofNat B.blockSize)

/-- `block2_size`, cut to `OC_BLOCK_SIZE`. -/
def block2Size (B : BufferSettings) (p : CoapPacket) : UInt16 :=
  min (if p.isOption coapOptionBlock2 then p.block2.size else UInt16.ofNat B.blockSize) (UInt16.ofNat B.blockSize)

/-- `coap_get_header_uri_path` -/
def coapGetHeaderUriPath (p : CoapPacket) : OcString := if p.isOption coapOptionUriPath then p.uriPath else []

/-- `payload_len` -/
def payloadLen (p : CoapPacket) : UInt32 := UInt32.ofNat p.payload.length

/-! ## Requests -/

/-- Where a branch of the request handling goes on: `goto send_message`, the same with the status
`CLEAR_TRANSACTION`, `goto request_handler`, or `goto init_reset_message`. -/
inductive Next
  | send (response : CoapPacket)
  | clear
  | handle (response : CoapPacket) (requestBuffer responseBuffer : Option Nat)
  | reset (requestBuffer responseBuffer : Option Nat)

/-- The state, the messages sent on the way, and where to go on. -/
structure ServerStep where
  st : Engine
  out : List Output
  next : Next

section Server

variable (env : EngineEnv) (csm : CsmState) (st : Engine) (message : CoapPacket) (endpoint : OcEndpoint)
  (response : CoapPacket)

/-- The key of the buffers of a request. -/
def requestKey : BlockwiseKey := ⟨coapGetHeaderUriPath message, endpoint, message.code, message.uriQuery, .server⟩

/-- The request buffer of an earlier block; one whose transfer is complete is freed, unless this block is
its last one. -/
def findBlock1Buffer : Option BlockwiseState × Engine :=
  match st.requests.find? (requestKey message endpoint).finds with
  | some b =>
    if b.payloadSize = b.nextBlockOffset ∧ b.nextBlockOffset - payloadLen message ≠ message.block1.offset then
      (none, st.freeRequest b.id)
    else (some b, st)
  | none => (none, st)

/-- The buffer for a block: only the block with number 0 makes a new one. -/
def block1Buffer : Option BlockwiseState × Engine :=
  match findBlock1Buffer st message endpoint with
  | (some b, st) => (some b, st)
  | (none, st) =>
    if message.block1.num = 0 then
      match ocBlockwiseAllocRequestBuffer env st (coapGetHeaderUriPath message) endpoint message.code .server
        message.uriQuery with
      | some (b, st) => (some b, st)
      | none => (none, st)
    else (none, st)

/-- The bytes of a block that are stored. -/
def incomingBlock1 : OcString :=
  message.payload.take (min (UInt16.ofNat message.payload.length) (block1Size env.settings message)).toNat

/-- A request with a Block1 option. -/
def receiveBlock1 : ServerStep :=
  match block1Buffer env st message endpoint with
  | (none, st) => ⟨st, [], .reset none none⟩
  | (some b, st) =>
    match ocBlockwiseHandleBlock env.settings b message.block1.offset (incomingBlock1 env message) with
    | none => ⟨st, [], .reset (some b.id) none⟩
    | some b =>
      let size := block1Size env.settings message
      if message.block1.more ≠ 0 then
        ⟨st.setRequest { b with refCount := 1 }, [],
          .send ({ response with code := continue231 }.setHeaderBlock1 message.block1.num message.block1.more size)⟩
      else
        let (mid, st) := st.getMid
        let response := (coapUdpInitMessage .con content205 mid).setHeaderBlock1 message.block1.num message.block1.more size
        ⟨st.setRequest { b with payloadSize := b.nextBlockOffset },
          if message.type = .con then coapSendEmptyResponse env csm .ack message.mid [] 0 endpoint else [],
          .handle (response.setHeaderAccept 10000) (some b.id) none⟩

/-- The response buffer of an earlier block, unless it has moved on by more than a block. -/
def findBlock2Buffer : Option BlockwiseState × Engine :=
  match st.responses.find? (requestKey message endpoint).finds with
  | some b =>
    if b.nextBlockOffset - message.block2.offset > (block2Size env.settings message).toUInt32 then
      (none, st.freeResponse b.id)
    else (some b, st)
  | none => (none, st)

/-- The buffer for the payload of a request without Block1: the bytes are stored from the start. -/
def storeRequest : Option BlockwiseState × Option Nat × Engine :=
  match ocBlockwiseAllocRequestBuffer env st (coapGetHeaderUriPath message) endpoint message.code .server
    message.uriQuery with
  | none => (none, none, st)
  | some (b, st) =>
    match ocBlockwiseHandleBlock env.settings b 0
      (message.payload.take (UInt16.ofNat message.payload.length).toNat) with
    | none => (none, some b.id, st)
    | some b => (some { b with payloadSize := payloadLen message }, some b.id, st)

/-- A request with a Block2 option and no Block1 option. -/
def receiveBlock2 : ServerStep :=
  let size := block2Size env.settings message
  match findBlock2Buffer env st message endpoint with
  | (some b, st) =>
    match ocBlockwiseDispatchBlock b message.block2.offset size.toUInt32 with
    | some (b, payload) =>
      let more : UInt8 := if b.nextBlockOffset < b.payloadSize then 1 else 0
      let (mid, st') := st.getMid
      let response :=
        if more = 0 then (coapUdpInitMessage .con content205 mid).setHeaderAccept 10000 else response
      let response := ((response.setHeaderContentFormat 10000).setPayload env.settings payload).setHeaderBlock2
        message.block2.num more size
      ⟨(if more = 0 then st' else st).setResponse b,
        if more = 0 ∧ message.type = .con then coapSendEmptyResponse env csm .ack message.mid [] 0 endpoint else [],
        .send (response.setHeaderEtag b.etag)⟩
    | none => ⟨st, [], .reset none (some b.id)⟩
  | (none, st) =>
    if message.block2.num = 0 then
      if message.payload.length > 0 then
        match st.requests.find? (requestKey message endpoint).finds with
        | some b => ⟨st, [], .handle response (some b.id) none⟩
        | none =>
          match storeRequest env st message endpoint with
          | (some b, _, st) => ⟨st.setRequest b, [], .handle response (some b.id) none⟩
          | (none, id, st) => ⟨st, [], .reset id none⟩
      else ⟨st, [], .handle response none none⟩
    else ⟨st, [], .reset none none⟩

/-- `incoming_block_len` is within what a plain request may have. -/
def plainRequestFits : Bool :=
  if endpoint.flags.tcp then payloadLen message ≤ UInt32.ofNat env.settings.maxAppDataSize
  else payloadLen message ≤ (block1Size env.settings message).toUInt32

/-- A plain request frees the request buffer that is found for it. -/
def dropRequestBuffer : Engine :=
  match st.requests.find? (requestKey message endpoint).finds with
  | some b => st.freeRequest b.id
  | none => st

/-- The request buffer of a plain request, in place of any other one for its key. -/
def plainRequestBuffer : Option (Option Nat) × Option Nat × Engine :=
  if message.payload.length > 0 then
    match storeRequest env (dropRequestBuffer st message endpoint) message endpoint with
    | (some b, _, st) => (some (some b.id), none, st.setRequest { b with refCount := 0 })
    | (none, id, st) => (none, id, st)
  else (some none, none, st)

/-- A request without block options. -/
def receivePlain : ServerStep :=
  if plainRequestFits env message endpoint then
    match plainRequestBuffer env st message endpoint with
    | (none, id, st) => ⟨st, [], .reset id none⟩
    | (some rq, _, st) =>
      match st.responses.find? (requestKey message endpoint).finds with
      | some b =>
        if endpoint.flags.multicast = true ∧ b.nextBlockOffset < b.payloadSize then ⟨st, [], .clear⟩
        else ⟨st.freeResponse b.id, [], .handle response rq none⟩
      | none => ⟨st, [], .handle response rq none⟩
  else ⟨st, [], .reset none none⟩

end Server

/-! ## The resource layer -/

/-- What `oc_ri_invoke_coap_entity_handler` leaves behind. -/
structure HandlerResult where
  st : Engine
  out : List Output
  response : CoapPacket
  requestBuffer : Option Nat
  responseBuffer : Option Nat
  success : Bool
  clear : Bool

section Handler

variable (env : EngineEnv) (csm : CsmState) (st : Engine) (message : CoapPacket) (endpoint : OcEndpoint)
  (response : CoapPacket)

/-- `coap_get_header_content_format` gives one of the CBOR formats. -/
def isCbor : Bool := message.isOption coapOptionContentFormat && message.contentFormat == applicationVndOcfCbor

/-- The payload that the request buffer holds. -/
def requestPayload (requestBuffer : Option Nat) : OcString :=
  match requestBuffer.bind st.request with
  | some b => b.buffer.take b.payloadSize.toNat
  | none => []

/-- The request buffer is freed as soon as its payload has been parsed. -/
def freeParsedRequest (requestBuffer : Option Nat) : Option Nat × Engine :=
  match requestBuffer with
  | some id => if (requestPayload st requestBuffer).length > 0 ∧ isCbor message = true then (none, st.freeRequest id)
    else (some id, st)
  | none => (none, st)

/-- The response buffer, made where there is none; the result is false when that fails. -/
def handlerBuffer (responseBuffer : Option Nat) : Bool × Option Nat × Engine :=
  if env.outcome.reached then
    match responseBuffer with
    | some id => (true, some id, st)
    | none =>
      match ocBlockwiseAllocResponseBuffer env st (coapGetHeaderUriPath message) endpoint message.code .server
        message.uriQuery none with
      | some (b, st) => (true, some b.id, st)
      | none => (false, none, st)
  else (true, responseBuffer, st)

/-- The response of a handler: its payload is in the response buffer already, the rest goes to the
packet. -/
def handlerResponse (code : UInt8) (payload : OcString) : CoapPacket :=
  let response := if payload.length > 0 ∧ env.outcome.contentFormat > 0 then
    response.setHeaderContentFormat env.outcome.contentFormat.toUInt32 else response
  let response := if code = requestEntityTooLarge413 then
    response.setHeaderSize1 (UInt32.ofNat env.settings.blockSize) else response
  { response with code := code }

/-- The end of `oc_ri_invoke_coap_entity_handler`: `code` is what the resource layer has left, and `answer`
the payload of the response. -/
def finishHandler (requestBuffer responseBuffer : Option Nat) (success ignore : Bool) (code : UInt8)
    (payload answer : OcString) : HandlerResult :=
  let response := if success = true ∧ code < badRequest400 ∧ env.outcome.observe = true then
    response.setHeaderObserve 0 else response
  let out : List Output := if success then [.handler payload] else []
  if env.outcome.separate && success then
    ⟨st, out ++ (if message.type = .con then coapSendEmptyResponse env csm .ack message.mid [] 0 endpoint else []),
      response, requestBuffer, responseBuffer, success, true⟩
  else if ignore then ⟨st, out, response, requestBuffer, responseBuffer, success, true⟩
  else ⟨st, out, handlerResponse env response code answer, requestBuffer, responseBuffer, success, false⟩

/-- `oc_ri_invoke_coap_entity_handler` -/
def ocRiInvokeCoapEntityHandler (requestBuffer responseBuffer : Option Nat) : HandlerResult :=
  let payload := requestPayload st requestBuffer
  let (requestBuffer, st) := freeParsedRequest st message requestBuffer
  let (allocated, responseBuffer, st) := handlerBuffer env st message endpoint responseBuffer
  let success := env.outcome.success && env.outcome.reached && allocated
  let code := if allocated then env.outcome.code else badRequest400
  -- an error is not sent to a group
  let ignore := env.outcome.ignore || (endpoint.flags.multicast && decide (code ≥ badRequest400))
  let answer : OcString := if success then env.outcome.payload else []
  let st := match responseBuffer.bind st.response with
    | some b => st.setResponse { b with
        buffer := writeAt b.buffer 0 answer
        payloadSize := if answer.length > 0 ∧ env.outcome.separate = false ∧ ignore = false then
          UInt32.ofNat answer.length else b.payloadSize }
    | none => st
  finishHandler env csm st message endpoint response requestBuffer responseBuffer success ignore code payload answer

/-- The first block of the response behind the handler, or all of it over TCP. -/
def firstBlock (b : BlockwiseState) : Engine × CoapPacket :=
  let size := block2Size env.settings message
  if endpoint.flags.tcp then
    match ocBlockwiseDispatchBlock b 0 (b.payloadSize + 1) with
    | some (b, payload) => (st.setResponse { b with refCount := 0 }, response.setPayload env.settings payload)
    | none => (st.setResponse { b with refCount := 0 }, response)
  else
    let (b, response) := match ocBlockwiseDispatchBlock b 0 size.toUInt32 with
      | some (b, payload) => (b, response.setPayload env.settings payload)
      | none => (b, response)
    if message.isOption coapOptionBlock2 = true ∨ b.payloadSize > size.toUInt32 then
      (st.setResponse b, ((response.setHeaderBlock2 0 (if b.payloadSize > size.toUInt32 then 1 else 0) size).setHeaderSize2
        b.payloadSize).setHeaderEtag b.etag)
    else (st.setResponse { b with refCount := 0 }, response)

end Handler

/-! ## Responses to requests -/

section Finish

variable (env : EngineEnv) (csm : CsmState) (message : CoapPacket) (endpoint : OcEndpoint)

/-- `send_message` for a request: the token of the request goes back. -/
def sendResponse (st : Engine) (response : CoapPacket) : Engine × List Output :=
  let response := if response.type ≠ .rst ∧ message.token.length > 0 then response.setToken message.token else response
  let data := coapSerializeMessage response
  if data.length > 0 then coapSendTransaction env csm st response.mid endpoint data else (st, [])

/-- `init_reset_message`, and `send_message` behind it. -/
def sendReset (st : Engine) (requestBuffer responseBuffer : Option Nat) : Engine × List Output :=
  let response := if endpoint.flags.tcp then coapTcpInitMessage internalServerError500
    else coapUdpInitMessage .rst 0 message.mid
  sendResponse env csm message endpoint ((st.releaseRequest requestBuffer).releaseResponse responseBuffer) response

/-- The state and the response behind the resource layer; a handler that failed gives its buffers up. -/
def respond (r : HandlerResult) : Engine × CoapPacket :=
  if r.success then
    match r.responseBuffer.bind r.st.response with
    | some b => firstBlock env r.st message endpoint r.response b
    | none => (r.st, r.response)
  else ((r.st.releaseRequest r.requestBuffer).releaseResponse r.responseBuffer, r.response)

/-- What follows `request_handler`. -/
def handleRequest (st : Engine) (response : CoapPacket) (requestBuffer responseBuffer : Option Nat) :
    Engine × List Output :=
  let r := ocRiInvokeCoapEntityHandler env csm st message endpoint response requestBuffer responseBuffer
  let (st, response) := respond env message endpoint r
  if r.clear then (st, r.out)
  else
    let (st, out) := if response.code ≠ 0 then sendResponse env csm message endpoint st response
      else sendReset env csm message endpoint st r.requestBuffer r.responseBuffer
    (st, r.out ++ out)

/-- The response as it is initialised, or none for a request that is dropped as a duplicate. -/
def initResponse (st : Engine) : Option CoapPacket × Engine :=
  if endpoint.flags.tcp then (some (coapTcpInitMessage content205), st)
  else if message.type = .con then (some (coapUdpInitMessage .ack content205 message.mid), st)
  else
    let entry := (message.mid, UInt8.ofNat endpoint.device)
    if st.history.contains entry then (none, st)
    else
      let st := { st with history := st.history.set st.idx entry, idx := (st.idx + 1) % ocRequestHistorySize }
      let (mid, st) := st.getMid
      if coapGetHeaderUriPath message = ascii "oic/res" then (some (coapUdpInitMessage .con content205 mid), st)
      else (some (coapUdpInitMessage .non content205 mid), st)

/-- The branch of a request by its block options. -/
def serverStep (st : Engine) (response : CoapPacket) : ServerStep :=
  if message.isOption coapOptionBlock1 then receiveBlock1 env csm st message endpoint response
  else if message.isOption coapOptionBlock2 then receiveBlock2 env csm st message endpoint response
  else receivePlain env st message endpoint response

/-- Where a branch of the request handling ends. -/
def goOn (step : ServerStep) : Engine × List Output :=
  match step.next with
  | .send response => sendResponse env csm message endpoint step.st response
  | .clear => (step.st, [])
  | .handle response rq rs => handleRequest env csm message endpoint step.st response rq rs
  | .reset rq rs => sendReset env csm message endpoint step.st rq rs

/-- The part of `coap_receive` for requests. -/
def receiveRequest (st : Engine) : Engine × List Output :=
  match initResponse message endpoint st with
  | (none, st) => (st, [])
  | (some response, st) =>
    -- without a transaction nothing is sent
    if env.transactionAvailable = false then (st.scrubBuffers, [])
    else
      let step := serverStep env csm message endpoint st response
      let (st, out) := goOn env csm message endpoint step
      (st.scrubBuffers, step.out ++ out)

end Finish

/-! ## Client callbacks -/

/-- -1 as it is stored in `observe_seq`. -/
def notObserved : UInt32 := 0xFFFFFFFF

/-- The list of callbacks with one in place of the one with its address. -/
def replaceCb (l : List ClientCb) (cb : ClientCb) : List ClientCb := l.map fun c => if c.id = cb.id then cb else c

namespace Engine

variable (st : Engine)

/-- A callback by its address. -/
def clientCb (id : Nat) : Option ClientCb := st.clientCbs.find? (·.id = id)

/-- A callback has been written to. -/
def setCb (cb : ClientCb) : Engine := { st with clientCbs := replaceCb st.clientCbs cb }

/-- `free_client_cb`, with `oc_blockwise_scrub_buffers_for_client_cb`. -/
def freeClientCb (id : Nat) : Engine :=
  { st with
    clientCbs := st.clientCbs.filter (·.id ≠ id)
    requests := st.requests.filter (·.clientCb ≠ some id)
    responses := st.responses.filter (·.clientCb ≠ some id) }

/-- `oc_ri_free_client_cbs_by_mid`: each one is told 5.03. -/
def freeClientCbsByMid (mid : UInt16) : Engine × List Output :=
  let cbs := st.clientCbs.filter fun cb =>
    !cb.multicast && !cb.discovery && cb.refCount == 0 && cb.mid == mid
  (cbs.foldl (fun st cb => st.freeClientCb cb.id) st, cbs.map fun cb => .callback cb.id 163 [])

end Engine

section Client

variable (env : EngineEnv) (st : Engine) (message : CoapPacket) (endpoint : OcEndpoint)

/-- The duplicate that an observe response drops: another callback that observes the same. -/
def duplicateObserve (cb : ClientCb) (dup : ClientCb) : Bool :=
  dup.id != cb.id && dup.observeSeq != notObserved && dup.token == cb.token && dup.uri == cb.uri &&
    ocEndpointCompare dup.endpoint endpoint

/-- The part of `oc_ri_invoke_client_cb` behind the response handler: a callback that observes nothing
and waits for nothing is freed. The address of the response buffer is kept or cleared. -/
def settleClientCb (cb : ClientCb) (observe : UInt32) (separate : Bool) (responseBuffer : Option Nat) :
    Engine × Option Nat × List Output :=
  let st := st.setCb { cb with refCount := 0, separate := cb.separate || separate }
  if observe = notObserved ∧ separate = false ∧ cb.discovery = false then
    if cb.multicast then
      if cb.stopMulticastReceive then
        let (st, out) := st.freeClientCbsByMid cb.mid
        (st, none, out)
      else (st, none, [])
    else (st.freeClientCb cb.id, none, [])
  else
    let st := st.setCb { cb with refCount := 0, separate := cb.separate || separate, observeSeq := observe }
    if observe = 0 then
      match st.clientCbs.find? (duplicateObserve endpoint cb) with
      | some dup => (st.freeClientCb dup.id, responseBuffer, [])
      | none => (st, responseBuffer, [])
    else (st, responseBuffer, [])

/-- The value of the Observe option and the payload that the response buffer holds. -/
def responseData (responseBuffer : Option Nat) : UInt32 × OcString :=
  match responseBuffer.bind st.response with
  | some b => (b.observeSeq, b.buffer.take b.payloadSize.toNat)
  | none => (notObserved, [])

/-- `oc_ri_invoke_client_cb` -/
def ocRiInvokeClientCb (cb : ClientCb) (responseBuffer : Option Nat) : Engine × Option Nat × List Output :=
  let (observe, payload) := responseData st responseBuffer
  let called : List Output := [.callback cb.id message.code payload]
  if payload.length > 0 then
    if cb.discovery then
      if env.stopDiscovery then
        let (st, out) := (st.setCb { cb with refCount := 0 }).freeClientCbsByMid cb.mid
        (st, none, called ++ out)
      else
        let (st, rs, out) := settleClientCb st endpoint cb observe false responseBuffer
        (st, rs, called ++ out)
    else
      let (st, rs, out) := settleClientCb st endpoint cb observe false responseBuffer
      -- a CBOR payload is only handed over when it can be parsed
      (st, rs, (if isCbor message = true ∧ env.parses payload = false then [] else called) ++ out)
  else
    let separate := decide (message.type = .ack ∧ message.code = 0)
    let (st, rs, out) := settleClientCb st endpoint cb observe separate responseBuffer
    (st, rs, (if separate = true ∨ cb.discovery = true then [] else called) ++ out)

/-- `b->observe_seq != -1`, where there is a response buffer. -/
def isObserved (responseBuffer : Option BlockwiseState) : Bool :=
  match responseBuffer with
  | some b => b.observeSeq != notObserved
  | none => false

/-- The token of the request for a further block: a transfer of an observed response gets a new one. -/
def blockRequest (request : CoapPacket) (responseBuffer : Option BlockwiseState) : CoapPacket :=
  if message.token.length > 0 then
    if isObserved responseBuffer then { request with token := env.randomToken.toList }
    else request.setToken message.token
  else request

/-- The buffers with the new token of such a transfer. -/
def renewTokens (requestBuffer responseBuffer : Option BlockwiseState) : Engine :=
  if message.token.length > 0 ∧ isObserved responseBuffer = true then
    let st := match requestBuffer with
      | some b => st.setRequest { b with token := env.randomToken.toList }
      | none => st
    match responseBuffer with
    | some b => st.setResponse { b with token := env.randomToken.toList }
    | none => st
  else st

/-- `send_message` for the request of a further block. -/
def sendBlockRequest (csm : CsmState) (request : CoapPacket) (requestBuffer responseBuffer : Option BlockwiseState) :
    Engine × List Output :=
  let st := renewTokens env st message requestBuffer responseBuffer
  let request := blockRequest env message request responseBuffer
  let data := coapSerializeMessage request
  if data.length > 0 then coapSendTransaction env csm st request.mid endpoint data else (st, [])

/-- The request for the next block of an upload, without its Block1 option. -/
def uploadRequest (cb : ClientCb) (mid : UInt16) (payload : OcString) : CoapPacket :=
  ((coapUdpInitMessage .con cb.method mid).setHeaderUriPath cb.uri).setPayload env.settings payload

/-- The options that end the request for a block. -/
def withQuery (cb : ClientCb) (p : CoapPacket) : CoapPacket :=
  if cb.query.length > 0 then p.setHeaderUriQuery cb.query else p

/-- The block of an upload that a response asks for: the buffer behind it, the bytes, and the size in the
option. -/
def nextUploadBlock (b : BlockwiseState) : Option (BlockwiseState × OcString) × UInt16 :=
  if message.isOption coapOptionBlock1 then
    let size := block1Size env.settings message
    (ocBlockwiseDispatchBlock b (message.block1.offset + size.toUInt32) size.toUInt32, size)
  else
    let size := if message.isOption coapOptionSize1 then
        min message.size1.toUInt16 (UInt16.ofNat env.settings.blockSize)
      else UInt16.ofNat env.settings.blockSize
    ((ocBlockwiseDispatchBlock b 0 size.toUInt32).map fun r => ({ r.1 with refCount := 1 }, r.2), size)

/-- The request for a further block of an upload. -/
def uploadMessage (b : BlockwiseState) (cb : ClientCb) (mid : UInt16) (payload : OcString) (size : UInt16) : CoapPacket :=
  let more : UInt8 := if b.nextBlockOffset < b.payloadSize then 1 else 0
  let request := uploadRequest env cb mid payload
  let request := if message.isOption coapOptionBlock1 then request.setHeaderBlock1 (message.block1.num + 1) more size
    else (request.setHeaderBlock1 0 more size).setHeaderSize1 b.payloadSize
  ((withQuery cb request).setHeaderAccept 10000).setHeaderContentFormat 10000

/-- The request for the next block of a response. -/
def downloadMessage (cb : ClientCb) (mid : UInt16) : CoapPacket :=
  withQuery cb ((((coapUdpInitMessage .con cb.method mid).setHeaderAccept 10000).setHeaderBlock2 (message.block2.num + 1) 0
    (block2Size env.settings message)).setHeaderUriPath cb.uri)

/-- `error_response` -/
def errorResponse : Bool :=
  decide (message.type ≠ .rst) && decide (message.code ≥ badRequest400) && message.code != requestEntityTooLarge413

/-- `oc_ri_find_client_cb_by_token` -/
def ocRiFindClientCbByToken : Option ClientCb := st.clientCbs.find? (·.token = message.token)

/-- The callback of a response, which a reset has not. -/
def responseCb : Option ClientCb := if message.type ≠ .rst then ocRiFindClientCbByToken st message else none

/-- The request buffer of a response. -/
def findUploadBuffer (cb : Option ClientCb) : Option BlockwiseState :=
  match cb with
  | some cb => st.requests.find? (findsByClientCb endpoint cb.id)
  | none => (st.requests.find? (findsByMid message.mid)).or (st.requests.find? (findsByToken message.token))

/-- The response buffer of a response, made for a callback that has none. -/
def findDownloadBuffer (cb : Option ClientCb) : Option BlockwiseState × Engine :=
  match cb with
  | some cb =>
    match st.responses.find? (findsByClientCb endpoint cb.id) with
    | some b => (some b, st)
    | none =>
      match ocBlockwiseAllocResponseBuffer env st cb.uri.tail endpoint cb.method .client [] (some cb.id) with
      | some (b, st) => (some b, st)
      | none => (none, st)
  | none => ((st.responses.find? (findsByMid message.mid)).or (st.responses.find? (findsByToken message.token)), st)

/-- The end of the client branch: the response handler is called. Without a callback the buffers are
given up at `init_reset_message`, and nothing is sent because there is no transaction. -/
def finishClient (cb : Option ClientCb) (requestBuffer responseBuffer : Option Nat) : Engine × List Output :=
  match cb with
  | none => (((st.releaseRequest requestBuffer).releaseResponse responseBuffer).scrubBuffers, [])
  | some cb =>
    let st := st.releaseRequest requestBuffer
    let (st, rs, out) := ocRiInvokeClientCb env st message endpoint cb responseBuffer
    let st := match st.clientCb cb.id with
      | some cb => if cb.separate then st.setCb { cb with separate := false } else st.releaseResponse rs
      | none => st
    (st.scrubBuffers, out)

/-- The client branch from the search for the response buffer on. -/
def receiveDownload (csm : CsmState) (mid : UInt16) (cb : Option ClientCb) (requestBuffer : Option BlockwiseState) :
    Engine × List Output :=
  let (found, st) := findDownloadBuffer env st message endpoint cb
  match found with
  | none =>
    -- `response_buffer` stays NULL
    finishClient env st message endpoint cb (requestBuffer.map (·.id)) none
  | some b =>
    if errorResponse message then finishClient env st message endpoint cb (requestBuffer.map (·.id)) (some b.id)
    else
      let cb := b.clientCb.bind st.clientCb
      let b := if message.isOption coapOptionObserve then { b with observeSeq := message.observe } else b
      match if message.payload.length > 0 then ocBlockwiseHandleBlock env.settings b message.block2.offset message.payload
        else none with
      | none => finishClient env (st.setResponse b) message endpoint cb (requestBuffer.map (·.id)) (some b.id)
      | some b =>
        if message.isOption coapOptionBlock2 = true ∧ message.block2.more ≠ 0 ∧ env.transactionAvailable = true then
          match cb with
          | some cb =>
            let b := { b with mid := mid }
            let (st, out) := sendBlockRequest env (st.setResponse b) message endpoint csm (downloadMessage env message cb mid)
              requestBuffer (some b)
            (st.scrubBuffers, out)
          | none => (st.scrubBuffers, [])
        else
          finishClient env (st.setResponse { b with payloadSize := b.nextBlockOffset }) message endpoint cb
            (requestBuffer.map (·.id)) (some b.id)

/-- The request buffer is freed when it is not used any more. -/
def dropUploadBuffer (b : BlockwiseState) : Option BlockwiseState × Engine :=
  if b.refCount = 0 ∨ errorResponse message = true then (none, st.freeRequest b.id) else (some b, st)

/-- The response asks for a block of an upload. -/
def asksForUpload : Bool :=
  !errorResponse message && (message.isOption coapOptionBlock1 || message.code == requestEntityTooLarge413)

/-- A response to an upload: the request for the next block, unless there is none left. -/
def receiveUpload (csm : CsmState) (mid : UInt16) (b : BlockwiseState) (cb : Option ClientCb) : Engine × List Output :=
  match nextUploadBlock env message b with
  | (some (b, payload), size) =>
    match cb with
    | some cb =>
      if env.transactionAvailable then
        let b := { b with mid := mid }
        let (st, out) := sendBlockRequest env (st.setRequest b) message endpoint csm
          (uploadMessage env message b cb mid payload size) (some b) none
        (st.scrubBuffers, out)
      else
        let (rq, st) := dropUploadBuffer (st.setRequest b) message b
        receiveDownload env st message endpoint csm mid (some cb) rq
    | none => (st.scrubBuffers, [])
  | (none, _) => receiveDownload env (st.freeRequest b.id) message endpoint csm mid cb none

/-- The part of `coap_receive` for responses, acknowledgements, resets and signals. -/
def receiveResponse (csm : CsmState) : Engine × List Output :=
  let (mid, st) := st.getMid
  let cb := responseCb st message
  let ack := if message.type = .con then coapSendEmptyResponse env csm .ack message.mid [] 0 endpoint else []
  let (st, out) := match findUploadBuffer st message endpoint cb with
    | none => receiveDownload env st message endpoint csm mid cb none
    | some b =>
      if asksForUpload message then receiveUpload env st message endpoint csm mid b (b.clientCb.bind st.clientCb)
      else
        let (rq, st) := dropUploadBuffer st message b
        receiveDownload env st message endpoint csm mid cb rq
  (st, ack ++ out)

end Client

/-! ## Messages -/

/-- The message is parsed in the format of its transport: a datagram with what header and token take of its buffer. -/
def parseMessage (env : EngineEnv) (data : OcString) (endpoint : OcEndpoint) : UInt8 × CoapPacket :=
  if endpoint.flags.tcp then coapTcpParseMessage env.settings data
  else coapUdpParseMessage env.settings (datagramRead env.behind data)

/-- A message over UDP clears the first transaction with its message id. -/
def clearTransaction (st : Engine) (message : CoapPacket) (endpoint : OcEndpoint) : Engine :=
  if endpoint.flags.tcp then st else { st with transactions := st.transactions.eraseP (·.mid = message.mid) }

/-- `message->code >= COAP_GET && message->code <= COAP_DELETE` -/
def isRequest (message : CoapPacket) : Bool := decide (coapGet ≤ message.code ∧ message.code ≤ coapDelete)

theorem isRequest_code {p : CoapPacket} (h : isRequest p = true) : p.code ≠ 0 ∧ coapCheckSignalMessage p = false := by
  obtain ⟨hle, hge⟩ : coapGet ≤ p.code ∧ p.code ≤ coapDelete := of_decide_eq_true h
  rw [UInt8.le_iff_toNat_le] at hle hge
  have hget : coapGet.toNat = 1 := rfl
  have hdelete : coapDelete.toNat = 4 := rfl
  have hne (c : UInt8) (hc : c.toNat = 0 ∨ 4 < c.toNat) : p.code ≠ c := by
    rintro rfl
    omega
  refine ⟨hne 0 (.inl rfl), ?_⟩
  unfold coapCheckSignalMessage
  simp only [Bool.or_eq_false_iff, beq_eq_false_iff_ne]
  exact ⟨⟨⟨⟨hne _ (.inr (by decide)), hne _ (.inr (by decide))⟩, hne _ (.inr (by decide))⟩, hne _ (.inr (by decide))⟩,
    hne _ (.inr (by decide))⟩

/-- `coap_receive` -/
def coapReceive (env : EngineEnv) (st : Engine) (data : OcString) (endpoint : OcEndpoint) : Engine × List Output :=
  let (status, message) := parseMessage env data endpoint
  if status = coapNoError then
    let (signals, csm) := if coapCheckSignalMessage message then handleCoapSignalMessage env message endpoint
      else ([], env.csmState)
    let st := clearTransaction st message endpoint
    let (st, out) := if isRequest message then receiveRequest env csm message endpoint st
      else receiveResponse env st message endpoint csm
    (st, signals ++ out)
  else
    (st, if endpoint.flags.tcp then coapSendEmptyResponse env env.csmState .non 0 message.token status endpoint
      else coapSendEmptyResponse env env.csmState (if message.type = .con then .ack else .non) message.mid message.token status
        endpoint)

/-! ## Samples -/

/-- A handler that answers 2.04 without a payload. -/
def changedOutcome : HandlerOutcome := ⟨true, true, some .changed, false, false, false, 10000, [], by decide⟩

/-- Everything is available, and the TCP session is up. -/
def sampleEnv : EngineEnv where
  settings := defaultSettings
  behind := fun _ => 0
  memory := fun _ => 0
  mainInitialized := true
  transactionAvailable := true
  messageAvailable := true
  bufferAvailable := true
  randomToken := Vector.replicate 8 0
  randomEtag := Vector.replicate 8 0
  csmState := .done
  endpointVersion1 := true
  outcome := changedOutcome
  parses := fun _ => true
  stopDiscovery := false

/-- An endpoint over IPv6, with or without the TCP flag. -/
def peer (tcp : Bool) : OcEndpoint :=
  { OcEndpoint.zero with flags := { TransportFlags.zero with ipv6 := true, tcp := tcp }, address := [1], port := 5683 }

end SmartGarage
