/-
`engine.c`: the state of the engine, what it gets from the rest of the stack during one call, and
the parts of `coap_receive`. What an application does with a request, and what it answers, is an
input here; everything that the engine does around it is as in the source.
-/
import SmartGarage.Messaging.Blockwise
import SmartGarage.Messaging.CoapTcp

namespace SmartGarage

/-! ## State -/

/-- `oc_client_cb_t`, as the engine uses it; its method is an `oc_method_t`. -/
structure ClientCb where
  id : Nat
  uri : OcString
  query : OcString
  endpoint : OcEndpoint
  method : UInt8
  mid : UInt16
  token : OcString
  observeSeq : UInt32
  highQos : Bool
  discovery : Bool
  multicast : Bool
  stopMulticastReceive : Bool
  refCount : UInt8
  separate : Bool
  method_request : coapGet ≤ method ∧ method ≤ coapDelete
deriving DecidableEq

/-- `coap_transaction_t`: a message that is kept until it is acknowledged. `id` stands for the address. -/
structure Transaction where
  id : Nat
  mid : UInt16
  endpoint : OcEndpoint
  data : OcString
  retransCounter : UInt8
deriving DecidableEq

/-- The variables of `engine.c`, `coap.c`, `transactions.c` and `oc_ri.c` that `coap_receive` reads and
writes. `nextId` and `nextTransaction` are the addresses of the next buffer and the next transaction. -/
structure Engine where
  requests : List BlockwiseState
  responses : List BlockwiseState
  clientCbs : List ClientCb
  transactions : List Transaction
  currentMid : UInt16
  history : List (UInt16 × UInt8)
  idx : Nat
  nextId : Nat
  nextTransaction : Nat

/-- `OC_REQUEST_HISTORY_SIZE` -/
def ocRequestHistorySize : Nat := 250

/-- The engine at the start. -/
def Engine.init (mid : UInt16) : Engine := ⟨[], [], [], [], mid, List.replicate ocRequestHistorySize (0, 0), 0, 0, 0⟩

/-- What leaves the engine: a message, a call of a resource handler with the payload of the request, a
call of a response handler with the code and the payload of the response. -/
inductive Output
  | send (endpoint : OcEndpoint) (data : OcString)
  | handler (payload : OcString)
  | callback (cb : Nat) (code : UInt8) (payload : OcString)
deriving DecidableEq

/-- `tcp_csm_state_t` -/
inductive CsmState
  | none | sent | done | error
deriving DecidableEq

/-- `oc_status_code` -/
def ocStatusCode : OcStatus → UInt8
  | .ok => 69
  | .created => 65
  | .changed => 68
  | .deleted => 66
  | .notModified => 67
  | .badRequest => 128
  | .unauthorized => 129
  | .badOption => 130
  | .forbidden => 131
  | .notFound => 132
  | .methodNotAllowed => 133
  | .notAcceptable => 134
  | .requestEntityTooLarge => 141
  | .unsupportedMediaType => 143
  | .internalServerError => 160
  | .notImplemented => 161
  | .badGateway => 162
  | .serviceUnavailable => 163
  | .gatewayTimeout => 164
  | .proxyingNotSupported => 165

/-- What the resource layer does with a request: `reached` when the resource exists and accepts payload and
interface, `success` when its handler is called, and the response that is then left in `response_buffer`,
which has no code when the handler did not answer. A response is written to a buffer whose size is a
`uint16_t`. -/
structure HandlerOutcome where
  reached : Bool
  success : Bool
  status : Option OcStatus
  ignore : Bool
  separate : Bool
  observe : Bool
  contentFormat : UInt16
  payload : OcString
  payload_lt : payload.length < 2 ^ 16

/-- `response_buffer.code` behind the resource layer. -/
def HandlerOutcome.code (o : HandlerOutcome) : UInt8 :=
  match o.status with
  | some status => ocStatusCode status
  | none => 0

/-- The inputs of one call of `coap_receive` besides the message: the settings, what lies behind the message in
its buffer, what the memory of a new buffer holds, which allocations succeed, random values, the state of the TCP
session, and what the application does. -/
structure EngineEnv where
  settings : BufferSettings
  behind : Nat → UInt8
  memory : Nat → UInt8
  mainInitialized : Bool
  transactionAvailable : Bool
  messageAvailable : Bool
  bufferAvailable : Bool
  randomToken : Vector UInt8 8
  randomEtag : Vector UInt8 8
  csmState : CsmState
  endpointVersion1 : Bool
  outcome : HandlerOutcome
  parses : OcString → Bool
  stopDiscovery : Bool

/-! ## Lists of buffers -/

/-- The list with a buffer in place of the one with its address. -/
def replaceBuffer (l : List BlockwiseState) (b : BlockwiseState) : List BlockwiseState :=
  l.map fun c => if c.id = b.id then b else c

/-- The list without the buffer with an address. -/
def removeBuffer (l : List BlockwiseState) (id : Nat) : List BlockwiseState := l.filter (·.id ≠ id)

namespace Engine

variable (st : Engine)

/-- A request buffer by its address. -/
def request (id : Nat) : Option BlockwiseState := st.requests.find? (·.id = id)

/-- A response buffer by its address. -/
def response (id : Nat) : Option BlockwiseState := st.responses.find? (·.id = id)

/-- A request buffer has been written to. -/
def setRequest (b : BlockwiseState) : Engine := { st with requests := replaceBuffer st.requests b }

/-- A response buffer has been written to. -/
def setResponse (b : BlockwiseState) : Engine := { st with responses := replaceBuffer st.responses b }

/-- `oc_blockwise_free_request_buffer` -/
def freeRequest (id : Nat) : Engine := { st with requests := removeBuffer st.requests id }

/-- `oc_blockwise_free_response_buffer` -/
def freeResponse (id : Nat) : Engine := { st with responses := removeBuffer st.responses id }

/-- `oc_blockwise_scrub_buffers(false)` -/
def scrubBuffers : Engine :=
  { st with requests := st.requests.filter (·.refCount ≠ 0), responses := st.responses.filter (·.refCount ≠ 0) }

/-- `request_buffer->ref_count = 0`, where there is a buffer. -/
def releaseRequest (id : Option Nat) : Engine :=
  match id.bind st.request with
  | some b => st.setRequest { b with refCount := 0 }
  | none => st

/-- `response_buffer->ref_count = 0`, where there is a buffer. -/
def releaseResponse (id : Option Nat) : Engine :=
  match id.bind st.response with
  | some b => st.setResponse { b with refCount := 0 }
  | none => st

/-- `coap_get_mid` -/
def getMid : UInt16 × Engine := (st.currentMid + 1, { st with currentMid := st.currentMid + 1 })

end Engine

section Alloc

variable (env : EngineEnv) (st : Engine) (href : OcString) (endpoint : OcEndpoint) (method : UInt8)
  (role : BlockwiseRole)

/-- `oc_blockwise_alloc_request_buffer`, and the query that the callers store behind it. -/
def ocBlockwiseAllocRequestBuffer (query : OcString) : Option (BlockwiseState × Engine) :=
  if href = [] ∨ env.bufferAvailable = false then none
  else
    let b := { ocBlockwiseInitBuffer env.settings env.memory st.nextId href endpoint method role with uriQuery := query }
    some (b, { st with requests := st.requests ++ [b], nextId := st.nextId + 1 })

/-- `oc_blockwise_alloc_response_buffer`, and the query and callback that the callers store behind it. -/
def ocBlockwiseAllocResponseBuffer (query : OcString) (cb : Option Nat) : Option (BlockwiseState × Engine) :=
  if href = [] ∨ env.bufferAvailable = false then none
  else
    let b := { ocBlockwiseInitBuffer env.settings env.memory st.nextId href endpoint method role with
      uriQuery := query, clientCb := cb, etag := env.randomEtag.toList }
    some (b, { st with responses := st.responses ++ [b], nextId := st.nextId + 1 })

end Alloc

/-! ## Sending -/

/-- `OC_PDU_SIZE` in a build with TCP. -/
def ocPduSize (B : BufferSettings) : Nat := B.maxAppDataSize + coapMaxHeaderSize

/-- The message of `coap_send_csm_message(endpoint, OC_PDU_SIZE, 0)`. -/
def csmMessage (env : EngineEnv) : OcString :=
  coapSerializeMessage
    ({ coapTcpInitMessage csm701 with token := env.randomToken.toList }.signalSetMaxMsgSize
      (UInt32.ofNat (ocPduSize env.settings)))

/-- The message of `coap_send_pong_message`. -/
def pongMessage (message : CoapPacket) : OcString :=
  let pong := (coapTcpInitMessage pong703).setToken message.token
  coapSerializeMessage (if message.custody ≠ 0 then pong.signalSetCustody message.custody else pong)

/-- `coap_send_signal_message` -/
def coapSendSignalMessage (env : EngineEnv) (endpoint : OcEndpoint) (data : OcString) : List Output :=
  if env.messageAvailable = true then [.send endpoint data] else []

/-- `coap_send_message`: over TCP a CSM goes first when none has been exchanged. -/
def coapSendMessage (env : EngineEnv) (csm : CsmState) (endpoint : OcEndpoint) (data : OcString) : List Output :=
  (if endpoint.flags.tcp = true ∧ env.endpointVersion1 = true ∧ csm = .none then
    coapSendSignalMessage env endpoint (csmMessage env) else []) ++ [.send endpoint data]

/-- `coap_send_empty_response` -/
def coapSendEmptyResponse (env : EngineEnv) (csm : CsmState) (type : CoapMessageType) (mid : UInt16) (token : OcString)
    (code : UInt8) (endpoint : OcEndpoint) : List Output :=
  if env.messageAvailable = true then
    let msg := coapUdpInitMessage type code mid
    let data := coapSerializeMessage (if token.length > 0 then msg.setToken token else msg)
    if data.length > 0 then coapSendMessage env csm endpoint data else []
  else []

/-- `confirmable` of `coap_send_transaction`: the type bits of the first byte. -/
def isConfirmable (data : OcString) : Bool := (0x30 &&& data.getD 0 0) >>> 4 == CoapMessageType.con.code

/-- `coap_send_transaction` for a transaction that has just been made: over UDP a confirmable message is
kept. -/
def coapSendTransaction (env : EngineEnv) (csm : CsmState) (st : Engine) (mid : UInt16) (endpoint : OcEndpoint)
    (data : OcString) : Engine × List Output :=
  let kept : Engine := { st with
    transactions := st.transactions ++ [⟨st.nextTransaction, mid, endpoint, data, 0⟩]
    nextTransaction := st.nextTransaction + 1 }
  if env.mainInitialized = false then (kept, [])
  else
    (if endpoint.flags.tcp = false ∧ isConfirmable data = true then kept else st, coapSendMessage env csm endpoint data)

/-! ## Signals -/

/-- `handle_coap_signal_message`: what it sends, and the state of the session behind it. -/
def handleCoapSignalMessage (env : EngineEnv) (message : CoapPacket) (endpoint : OcEndpoint) : List Output × CsmState :=
  if message.code = csm701 then
    if env.csmState = .done then ([], .done)
    else (if env.csmState = .none then coapSendSignalMessage env endpoint (csmMessage env) else [], .done)
  else if message.code = ping702 then (coapSendSignalMessage env endpoint (pongMessage message), env.csmState)
  else ([], env.csmState)

end SmartGarage
