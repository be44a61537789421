/-
`oc_ri_invoke_coap_entity_handler`: what a request meets between the messaging layer and the handlers of the
resources. The outcomes of parsing, searching, the interface and the access check are flags that are put in
order at the end.
-/
import SmartGarage.Messaging.Observe
import SmartGarage.Messaging.Receive

namespace SmartGarage.Invoke

open Observe

/-! ## Queries -/

/-- `tolower`, as `strncasecmp` compares. -/
def lower (b : UInt8) : UInt8 := if 65 ≤ b ∧ b ≤ 90 then b + 32 else b

/-- `oc_ri_get_query_nth_key_value` for the first pair: the key, the value, and the rest of the query. The key
ends at the first `=`, wherever a `&` may be. -/
def firstKeyValue (query : OcString) : Option (OcString × OcString × OcString) :=
  let key := query.takeWhile (· ≠ 61)
  if key.length < query.length then
    let value := (query.drop (key.length + 1)).takeWhile (· ≠ 38)
    some (key, value, query.drop (key.length + 1 + value.length + 1))
  else none

/-- The loop of `oc_ri_get_query_value`, for a number of pairs. -/
def queryValue (key : OcString) : Nat → OcString → Option OcString
  | 0, _ => none
  | fuel + 1, query =>
    match firstKeyValue query with
    | none => none
    | some (k, value, rest) => if k.map lower = key.map lower then some value else queryValue key fuel rest

/-- `oc_ri_get_query_value`: every pair takes one byte of the query at least. -/
def ocRiGetQueryValue (query key : OcString) : Option OcString := queryValue key query.length query

/-! ## The call -/

/-- `response_buffer.code`: not set, a status, or `OC_IGNORE`. -/
inductive ResponseCode
  | unset
  | status (s : OcStatus)
  | ignore
deriving DecidableEq

/-- The number in `response_buffer.code`. -/
def ResponseCode.code : ResponseCode → UInt8
  | unset => 0
  | status s => ocStatusCode s
  | ignore => 21

/-- `response_buffer.code >= oc_status_code(OC_STATUS_BAD_REQUEST)` -/
def ResponseCode.isError (c : ResponseCode) : Bool := decide (badRequest400 ≤ c.code)

/-- What `oc_parse_rep` reports of a payload that it does not parse. -/
inductive CborError
  | unexpectedEof
  | other
deriving DecidableEq

/-- A call of the handler of a resource, or of the one for collections. -/
structure HandlerCall where
  resource : Resource
  collection : Bool
  method : OcMethod
  ifaceMask : InterfaceMask
  query : OcString
  payload : OcString

/-- What a handler leaves in the response. -/
structure Answer where
  code : ResponseCode
  contentFormat : UInt16
  payload : OcString
  separate : Bool

/-- The response as no handler has touched it. -/
def noAnswer : Answer := ⟨.unset, 0, [], false⟩

/-- What a request meets: the platform, what `oc_parse_rep` says, which allocations succeed, what the handlers
answer, and the random bytes of an ETag. -/
structure InvokeEnv where
  platform : Platform
  settings : BufferSettings
  parse : OcString → Option CborError
  responseAvailable : Bool
  memory : Nat → UInt8
  responseId : Nat
  etag : OcString
  answer : HandlerCall → Answer
  observe : ObserveEnv

/-- The server, its security state, and the buffers of the transfer the request belongs to. -/
structure InvokeState where
  server : Server
  sec : SecState
  requestState : Option BlockwiseState
  responseState : Option BlockwiseState

/-- The request, the response so far, and the sender. -/
structure Request where
  packet : CoapPacket
  response : CoapPacket
  endpoint : OcEndpoint
  block2Size : UInt16

/-- The method of a request; the engine passes on the four codes of `oc_method_t` only. -/
def Request.method (rq : Request) : OcMethod :=
  if rq.packet.code = coapGet then .get
  else if rq.packet.code = coapPost then .post
  else if rq.packet.code = coapPut then .put
  else .delete

/-- The query of a request. -/
def Request.query (rq : Request) : OcString :=
  if rq.packet.isOption coapOptionUriQuery then rq.packet.uriQuery else []

/-- `iface_query` -/
def Request.ifaceQuery (rq : Request) : InterfaceMask :=
  match ocRiGetQueryValue rq.query (ascii "if") with
  | some iface => ocRiGetInterfaceMask iface
  | none => 0

/-- The payload is in one of the CBOR formats. -/
def Request.isCbor (rq : Request) : Bool :=
  rq.packet.isOption coapOptionContentFormat && (rq.packet.contentFormat == 60 || rq.packet.contentFormat == 10000)

/-- The payload, which is in the request buffer. -/
def InvokeState.payload (st : InvokeState) : OcString :=
  match st.requestState with
  | some b => b.buffer.take b.payloadSize.toNat
  | none => []

/-! ## The search -/

/-- What is known of a request before its handler: the resource, the selected interface, and the flags. -/
structure Found where
  cur : Option Resource
  ifaceMask : InterfaceMask
  badRequest : Bool
  forbidden : Bool
  entityTooLarge : Bool

section Stages

variable (env : InvokeEnv) (st : InvokeState) (rq : Request)

/-- The payload is handed to `oc_parse_rep`. -/
def isParsed : Bool := !st.payload.isEmpty && rq.isCbor

/-- `parse_error` -/
def parseError : Option CborError := if isParsed st rq then env.parse st.payload else none

/-- The interface of a request to a resource: the one of the query, or else the default one. -/
def selectedInterface (cur : Resource) : InterfaceMask :=
  if rq.ifaceQuery = 0 then cur.defaultInterface else rq.ifaceQuery

/-- The test of the interface and the method. -/
def isUnsupported (cur : Resource) : Bool :=
  selectedInterface rq cur &&& ~~~cur.interfaces != 0 || !doesInterfaceSupportMethod (selectedInterface rq cur) rq.method

/-- The resource of the request's path, on the device of its endpoint. -/
def resourceOf : Option Resource :=
  findResource env.platform.ocfD st.server.resources (coapGetHeaderUriPath rq.packet) rq.endpoint.device

/-- Parsing, and the search for the resource where that has gone well. -/
def search : Found :=
  match parseError env st rq with
  | some error => ⟨none, 0, true, false, error == .unexpectedEof⟩
  | none =>
    match resourceOf env st rq with
    | some cur => ⟨some cur, selectedInterface rq cur, isUnsupported rq cur, isUnsupported rq cur, false⟩
    | none => ⟨none, 0, false, false, false⟩

/-- The response buffer is made where there is none. -/
def prepare (found : Found) : Found × Option BlockwiseState :=
  if found.cur.isSome && !found.badRequest then
    match st.responseState with
    | some b => (found, some b)
    | none =>
      if env.responseAvailable && !(coapGetHeaderUriPath rq.packet).isEmpty then
        (found, some { ocBlockwiseInitBuffer env.settings env.memory env.responseId (coapGetHeaderUriPath rq.packet)
          rq.endpoint rq.packet.code .server with uriQuery := rq.query, etag := env.etag })
      else ({ found with badRequest := true }, none)
  else (found, st.responseState)

/-! ## The handler -/

/-- What the access check and the choice of the handler leave. -/
structure Dispatched where
  calls : List HandlerCall
  methodImpl : Bool
  authorized : Bool
  sec : SecState

/-- `resource_is_collection`: core resources are not looked for among the collections. -/
def isCollection (cur : Resource) : Bool := cur.coreIndex.isNone && cur.isCollection

/-- The access check, and the call of the handler. -/
def dispatch (found : Found) : Dispatched :=
  match found.cur with
  | none => ⟨[], true, true, st.sec⟩
  | some cur =>
    if found.badRequest then ⟨[], true, true, st.sec⟩
    else
      let (allowed, sec) := ocSecCheckAcl env.platform st.sec rq.method cur.toOcResource rq.endpoint
      if allowed = false then ⟨[], true, false, sec⟩
      else if isCollection cur || cur.handles rq.method then
        ⟨[⟨cur, isCollection cur, rq.method, found.ifaceMask, rq.query, st.payload⟩], true, true, sec⟩
      else ⟨[], false, true, sec⟩

/-- The answer of the handler, if one has been called. -/
def answerOf (calls : List HandlerCall) : Answer :=
  match calls with
  | call :: _ => env.answer call
  | [] => noAnswer

/-- The order of the flags: the status of a failed request, or none for a success. -/
def failure (found : Found) (d : Dispatched) : Option OcStatus :=
  if found.forbidden then some .forbidden
  else if found.entityTooLarge then some .requestEntityTooLarge
  else if found.badRequest then some .badRequest
  else if found.cur.isNone then some .notFound
  else if d.methodImpl = false then some .methodNotAllowed
  else if d.authorized = false then some .unauthorized
  else none

end Stages

/-! ## The end of the call -/

/-- What the call leaves: the state, the handlers that were called, the response packet, the value of the call,
and what else it has asked for: to clear the transaction, to accept a separate response with an observe value,
and to notify the observers of a resource. -/
structure Invoked where
  state : InvokeState
  calls : List HandlerCall
  response : CoapPacket
  success : Bool
  cleared : Bool
  separate : Option UInt32
  notified : Option Nat

section Finish

variable (env : InvokeEnv) (rq : Request)

/-- The observe option of a request that has been answered without an error: the server, the response, and the
value of the option, 2 where it has not been read. -/
def readObserve (cur : Option Resource) (server : Server) (code : ResponseCode) : Server × CoapPacket × UInt32 :=
  match cur with
  | none => (server, rq.response, 2)
  | some cur =>
    if code.isError || !rq.packet.isOption coapOptionObserve then (server, rq.response, 2)
    else
      let (server, set) := observeRequest env.observe ⟨rq.packet, rq.response.code, rq.endpoint, rq.ifaceQuery⟩ cur
        (isCollection cur) server
      (server, if set then rq.response.setHeaderObserve 0 else rq.response, rq.packet.observe)

/-- An error is not sent to a group. -/
def sentCode (code : ResponseCode) : ResponseCode :=
  if rq.endpoint.flags.multicast && code.isError then .ignore else code

/-- The response packet that is sent. -/
def fillResponse (response : CoapPacket) (code : ResponseCode) (contentFormat : UInt16) (payload : OcString) :
    CoapPacket :=
  let response := if payload.length > 0 ∧ contentFormat > 0 then
    response.setHeaderContentFormat contentFormat.toUInt32 else response
  let response := if code = .status .requestEntityTooLarge then
    response.setHeaderSize1 (UInt32.ofNat env.settings.blockSize) else response
  { response with code := code.code }

/-- The response buffer with the payload of the handler, and its size where the response is sent now. -/
def fillBuffer (payload : OcString) (sent : Bool) (b : BlockwiseState) : BlockwiseState :=
  { b with
    buffer := writeAt b.buffer 0 payload
    payloadSize := if payload.length > 0 ∧ sent = true then UInt32.ofNat payload.length else b.payloadSize }

/-- A request that may have changed its resource has the observers notified. -/
def notifiedResource (cur : Option Resource) (code : ResponseCode) : Option Nat :=
  match cur with
  | some cur => if !isCollection cur && (rq.method == .put || rq.method == .post) && !code.isError then some cur.id else none
  | none => none

/-- What is done with the answer: it waits for a separate response, is not sent, or is sent. -/
def conclude (state : InvokeState) (cur : Option Resource) (calls : List HandlerCall) (success : Bool)
    (response : CoapPacket) (observe : UInt32) (code : ResponseCode) (answer : Answer) : Invoked :=
  let state := { state with
    responseState := state.responseState.map (fillBuffer answer.payload (!answer.separate && code != .ignore)) }
  if answer.separate then ⟨state, calls, response, success, false, some observe, none⟩
  else if code = .ignore then ⟨state, calls, response, success, true, none, none⟩
  else ⟨state, calls, fillResponse env response code answer.contentFormat answer.payload, success, false, none,
    notifiedResource rq cur code⟩

end Finish

/-- `oc_ri_invoke_coap_entity_handler` -/
def ocRiInvokeCoapEntityHandler (env : InvokeEnv) (st : InvokeState) (rq : Request) : Invoked :=
  let (found, responseState) := prepare env st rq (search env st rq)
  let d := dispatch env st rq found
  let requestState := if isParsed st rq then none else st.requestState
  match failure found d with
  | some status =>
    conclude env rq ⟨st.server, d.sec, requestState, responseState⟩ found.cur d.calls false rq.response 2
      (sentCode rq (.status status)) noAnswer
  | none =>
    let answer := answerOf env d.calls
    let (server, response, observe) := readObserve env rq found.cur st.server answer.code
    conclude env rq ⟨server, d.sec, requestState, responseState⟩ found.cur d.calls true response observe
      (sentCode rq answer.code) answer

end SmartGarage.Invoke
