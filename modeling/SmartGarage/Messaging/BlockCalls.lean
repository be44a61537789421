/-
The calls of `oc_blockwise_dispatch_block` and `oc_blockwise_handle_block` that a message makes, and a response that
is started without one.
-/
import SmartGarage.Messaging.Receive

namespace SmartGarage

/-! ## Calls -/

/-- The list that a buffer is in: `oc_blockwise_requests` or `oc_blockwise_responses`. -/
inductive BufferList
  | requests | responses
deriving DecidableEq

/-- A call of `oc_blockwise_dispatch_block` or of `oc_blockwise_handle_block`. -/
inductive BlockCall
  | dispatch (list : BufferList) (b : BlockwiseState) (offset requested : UInt32)
  | handle (list : BufferList) (b : BlockwiseState) (offset : UInt32) (block : OcString)

/-- The list of the buffer of a call. -/
def BlockCall.list : BlockCall → BufferList
  | .dispatch list _ _ _ => list
  | .handle list _ _ _ => list

/-- The buffer that a call is given. -/
def BlockCall.buffer : BlockCall → BlockwiseState
  | .dispatch _ b _ _ => b
  | .handle _ b _ _ => b

/-- The buffer behind a call, which is left as it is where no block is returned or the block is refused. -/
def BlockCall.after (B : BufferSettings) : BlockCall → BlockwiseState
  | .dispatch _ b offset requested =>
    match ocBlockwiseDispatchBlock b offset requested with
    | some (b, _) => b
    | none => b
  | .handle _ b offset block => (ocBlockwiseHandleBlock B b offset block).getD b

/-- A block that is returned ends inside the payload, and behind a block that is handled the write position is inside
the memory of the buffer. -/
def BlockCall.Safe (B : BufferSettings) : BlockCall → Prop
  | .dispatch _ b offset requested => (ocBlockwiseDispatchBlock b offset requested).isSome = true →
      offset.toNat + (dispatchLength b offset requested).toNat ≤ b.payloadSize.toNat
  | .handle list b offset block =>
      ((BlockCall.handle list b offset block).after B).nextBlockOffset.toNat ≤ B.maxAppDataSize

/-! ## Calls of a request -/

section Request

variable (env : EngineEnv) (csm : CsmState) (message : CoapPacket) (endpoint : OcEndpoint) (st : Engine)
  (response : CoapPacket)

/-- The call of `storeRequest` -/
def storeCalls : List BlockCall :=
  match ocBlockwiseAllocRequestBuffer env st (coapGetHeaderUriPath message) endpoint message.code .server
    message.uriQuery with
  | none => []
  | some (b, _) => [.handle .requests b 0 (message.payload.take (UInt16.ofNat message.payload.length).toNat)]

/-- The call of `receiveBlock1` -/
def block1Calls : List BlockCall :=
  match (block1Buffer env st message endpoint).1 with
  | none => []
  | some b => [.handle .requests b message.block1.offset (incomingBlock1 env message)]

/-- The calls of `receiveBlock2` -/
def block2Calls : List BlockCall :=
  match findBlock2Buffer env st message endpoint with
  | (some b, _) => [.dispatch .responses b message.block2.offset (block2Size env.settings message).toUInt32]
  | (none, st) =>
    if message.block2.num = 0 ∧ message.payload.length > 0 ∧
        (st.requests.find? (requestKey message endpoint).finds).isNone = true then
      storeCalls env message endpoint st
    else []

/-- The calls of `receivePlain` -/
def plainCalls : List BlockCall :=
  if plainRequestFits env message endpoint = true ∧ message.payload.length > 0 then
    storeCalls env message endpoint (dropRequestBuffer st message endpoint)
  else []

/-- The calls of `serverStep` -/
def serverCalls : List BlockCall :=
  if message.isOption coapOptionBlock1 then block1Calls env message endpoint st
  else if message.isOption coapOptionBlock2 then block2Calls env message endpoint st
  else plainCalls env message endpoint st

/-- The call of `respond` -/
def respondCalls (r : HandlerResult) : List BlockCall :=
  if r.success then
    match r.responseBuffer.bind r.st.response with
    | some b =>
      if endpoint.flags.tcp then [.dispatch .responses b 0 (b.payloadSize + 1)]
      else [.dispatch .responses b 0 (block2Size env.settings message).toUInt32]
    | none => []
  else []

/-- The calls of `goOn` -/
def goOnCalls (step : ServerStep) : List BlockCall :=
  match step.next with
  | .handle response rq rs =>
    respondCalls env message endpoint (ocRiInvokeCoapEntityHandler env csm step.st message endpoint response rq rs)
  | _ => []

/-- The calls of `receiveRequest` -/
def requestCalls : List BlockCall :=
  match initResponse message endpoint st with
  | (none, _) => []
  | (some response, st) =>
    if env.transactionAvailable = false then []
    else serverCalls env message endpoint st ++
      goOnCalls env csm message endpoint (serverStep env csm message endpoint st response)

end Request

/-! ## Calls of a response -/

section Response

variable (env : EngineEnv) (message : CoapPacket) (endpoint : OcEndpoint) (st : Engine)

/-- The call of `nextUploadBlock` -/
def uploadCall (b : BlockwiseState) : BlockCall :=
  if message.isOption coapOptionBlock1 then
    .dispatch .requests b (message.block1.offset + (block1Size env.settings message).toUInt32)
      (block1Size env.settings message).toUInt32
  else .dispatch .requests b 0 (nextUploadBlock env message b).2.toUInt32

/-- The call of `receiveDownload` -/
def downloadCalls (cb : Option ClientCb) : List BlockCall :=
  match (findDownloadBuffer env st message endpoint cb).1 with
  | none => []
  | some b =>
    if errorResponse message = false ∧ message.payload.length > 0 then
      [.handle .responses (if message.isOption coapOptionObserve then { b with observeSeq := message.observe } else b)
        message.block2.offset message.payload]
    else []

/-- The calls of `receiveUpload` -/
def uploadCalls (b : BlockwiseState) (cb : Option ClientCb) : List BlockCall :=
  uploadCall env message b ::
    match (nextUploadBlock env message b).1, cb with
    | some (b, _), some cb =>
      if env.transactionAvailable then []
      else downloadCalls env message endpoint (dropUploadBuffer (st.setRequest b) message b).2 (some cb)
    | some _, none => []
    | none, cb => downloadCalls env message endpoint (st.freeRequest b.id) cb

/-- The calls of `receiveResponse` -/
def responseCalls : List BlockCall :=
  let st := st.getMid.2
  let cb := responseCb st message
  match findUploadBuffer st message endpoint cb with
  | none => downloadCalls env message endpoint st cb
  | some b =>
    if asksForUpload message then uploadCalls env message endpoint st b (b.clientCb.bind st.clientCb)
    else downloadCalls env message endpoint (dropUploadBuffer st message b).2 cb

end Response

/-! ## Calls of a message, and of a response without one -/

/-- The calls of `coapReceive` -/
def receiveCalls (env : EngineEnv) (st : Engine) (data : OcString) (endpoint : OcEndpoint) : List BlockCall :=
  let (status, message) := parseMessage env data endpoint
  if status = coapNoError then
    let csm := if coapCheckSignalMessage message then (handleCoapSignalMessage env message endpoint).2
      else env.csmState
    let st := clearTransaction st message endpoint
    if isRequest message then requestCalls env csm message endpoint st else responseCalls env message endpoint st
  else []

/-- The call that fills the first block of a response whose buffer has just been made. -/
def firstCall (b : BlockwiseState) (payload : OcString) (size : UInt32) : BlockCall :=
  .dispatch .responses
    { b with buffer := writeAt b.buffer 0 payload, payloadSize := UInt32.ofNat payload.length } 0 size

/-- The call of `startResponse` -/
def startCalls (env : EngineEnv) (st : Engine) (href : OcString) (endpoint : OcEndpoint) (method : UInt8)
    (query : OcString) (payload : OcString) (size : UInt32) : List BlockCall :=
  match ocBlockwiseAllocResponseBuffer env st href endpoint method .server query none with
  | some (b, _) => [firstCall b payload size]
  | none => []

/-- The call of `openResponse` -/
def openCalls (env : EngineEnv) (st : Engine) (href : OcString) (endpoint : OcEndpoint) (method : UInt8)
    (query : OcString) (payload : OcString) (size : UInt32) : List BlockCall :=
  match st.responses.find? (BlockwiseKey.finds ⟨href, endpoint, method, query, .server⟩) with
  | some b =>
    if b.payloadSize = b.nextBlockOffset then
      startCalls env (st.freeResponse b.id) href endpoint method query payload size
    else []
  | none => startCalls env st href endpoint method query payload size

end SmartGarage
