/-
The end of a separate response, `oc_send_separate_response`: every request that waits gets a transaction, and a
response longer than a block a buffer for the blocks behind the first one. A request whose observe value is that of a
notification is left to `coap_notify_observers`.
-/
import SmartGarage.Messaging.Separate
import SmartGarage.Messaging.Transactions

namespace SmartGarage

/-! ## Transactions -/

/-- The engine, and the addresses of the transactions that have been handed to `coap_send_transaction`. -/
structure Sending where
  engine : Engine
  handed : List Nat

/-- The engine has been changed. -/
def Sending.setEngine (s : Sending) (st : Engine) : Sending := { s with engine := st }

/-- `coap_new_transaction(coap_get_mid(), endpoint)`; the number is drawn before anything is allocated. -/
def coapNewTransaction (env : EngineEnv) (st : Engine) (endpoint : OcEndpoint) : Option Transaction × Engine :=
  let (mid, st) := st.getMid
  if env.transactionAvailable = true ∧ env.messageAvailable = true then
    let t : Transaction := ⟨st.nextTransaction, mid, endpoint, [], 0⟩
    (some t, { st with transactions := st.transactions ++ [t], nextTransaction := st.nextTransaction + 1 })
  else (none, st)

/-- `coap_send_transaction` for a transaction of the list whose message has just been written. -/
def Sending.send (env : EngineEnv) (s : Sending) (t : Transaction) (data : OcString) : Sending × List Output :=
  let kept := { s.engine with transactions := replaceTransaction s.engine.transactions { t with data := data } }
  let cleared := { s.engine with transactions := s.engine.transactions.filter (·.id ≠ t.id) }
  if env.mainInitialized = false then (⟨kept, s.handed ++ [t.id]⟩, [])
  else
    (⟨if t.endpoint.flags.tcp = false ∧ isConfirmable data = true then kept else cleared, s.handed ++ [t.id]⟩,
      coapSendMessage env env.csmState t.endpoint data)

/-- The message is serialised and sent, or the transaction is cleared. -/
def Sending.finish (env : EngineEnv) (s : Sending) (t : Transaction) (p : CoapPacket) : Sending × List Output :=
  let data := coapSerializeMessage p
  if data.length > 0 then s.send env t data
  else (s.setEngine { s.engine with transactions := s.engine.transactions.filter (·.id ≠ t.id) }, [])

/-! ## The buffer of a long response -/

/-- Whether a response goes block by block. -/
def needsBlocks (endpoint : OcEndpoint) (payload : OcString) (block2Size : UInt16) : Bool :=
  !endpoint.flags.tcp && decide (block2Size.toNat < payload.length)

/-- What the search for a buffer comes to: one that is in use, none, or a new one. -/
inductive BufferSearch
  | inUse
  | unavailable (st : Engine)
  | allocated (b : BlockwiseState) (st : Engine)

/-- `oc_blockwise_alloc_response_buffer`, with the query that a caller stores behind it. -/
def allocResponseBuffer (env : EngineEnv) (st : Engine) (key : BlockwiseKey) : BufferSearch :=
  match ocBlockwiseAllocResponseBuffer env st key.href key.endpoint key.method key.role key.query none with
  | some (b, st) => .allocated b st
  | none => .unavailable st

/-- `oc_blockwise_find_response_buffer`, where a buffer that has been read to its end makes room for a new one. -/
def takeResponseBuffer (env : EngineEnv) (st : Engine) (key : BlockwiseKey) : BufferSearch :=
  match st.responses.find? key.finds with
  | some b =>
    if b.payloadSize = b.nextBlockOffset then allocResponseBuffer env (st.freeResponse b.id) key else .inUse
  | none => allocResponseBuffer env st key

/-- The payload is written to the buffer, and its first block goes into the packet. -/
def dispatchFirst (B : BufferSettings) (b : BlockwiseState) (payload : OcString) (block2Size : UInt16) (p : CoapPacket) :
    BlockwiseState × CoapPacket :=
  let b := { b with buffer := writeAt b.buffer 0 payload, payloadSize := UInt32.ofNat payload.length }
  match ocBlockwiseDispatchBlock b 0 block2Size.toUInt32 with
  | some (b, block) =>
    (b, (((p.setPayload B block).setHeaderBlock2 0 1 block2Size).setHeaderSize2 b.payloadSize).setHeaderEtag b.etag)
  | none => (b, p)

/-! ## Notifications -/

/-- An observer in its turn, with what its `coap_observer_t` holds and what the platform gives it then. -/
structure ObserverTurn where
  env : EngineEnv
  endpoint : OcEndpoint
  token : OcString
  block2Size : UInt16
  obsCounter : UInt32
  query : OcString

/-- What a loop over observers sends: the path without its first slash, the code and the payload, and whether the
resource counts its observers. -/
structure ObservedSend where
  uri : OcString
  code : UInt8
  payload : OcString
  observed : Bool

/-- `COAP_OBSERVE_REFRESH_INTERVAL` -/
def coapObserveRefreshInterval : UInt32 := 5

/-- One round of a loop over observers: the loop goes on, or is left, or finds a buffer in use. -/
inductive NotifyRound
  | next (s : Sending) (out : List Output)
  | leave (s : Sending)
  | inUse

section Notify

variable (n : ObservedSend) (o : ObserverTurn)

/-- The search for the buffer of an observer. -/
def ObserverTurn.key : BlockwiseKey := ⟨n.uri, o.endpoint, coapGet, o.query, .server⟩

/-- The notification before its payload; `con` makes it a confirmable one. -/
def ObserverTurn.packet (con : Bool) : CoapPacket :=
  if o.endpoint.flags.tcp then { coapTcpInitMessage content205 with type := if con then .con else .non }
  else coapUdpInitMessage (if con then .con else .non) content205 0

/-- The options of a notification, and the transaction it is sent with. -/
def ObserverTurn.sendPacket (s : Sending) (p : CoapPacket) : Sending × List Output :=
  let p := { p with code := n.code }
  let p := if n.code < badRequest400 ∧ n.observed = true then p.setHeaderObserve o.obsCounter else p.setHeaderObserve 1
  let p := (p.setHeaderContentFormat 10000).setToken o.token
  match coapNewTransaction o.env s.engine o.endpoint with
  | (some t, st) => (s.setEngine st).finish o.env t { p with mid := t.mid }
  | (none, st) => (s.setEngine st, [])

/-- One round of `coap_notify_observers` and of `coap_notify_collection_observers`. -/
def ObserverTurn.notify (s : Sending) : NotifyRound :=
  if needsBlocks o.endpoint n.payload o.block2Size then
    match takeResponseBuffer o.env s.engine (o.key n) with
    | .inUse => .inUse
    | .unavailable st => .leave (s.setEngine st)
    | .allocated b st =>
      let (b, p) := dispatchFirst o.env.settings b n.payload o.block2Size (o.packet true)
      let (s, out) := o.sendPacket n (s.setEngine (st.setResponse b)) p
      .next s out
  else
    let con := !o.endpoint.flags.tcp && decide (o.obsCounter % coapObserveRefreshInterval = 0)
    let (s, out) := o.sendPacket n s ((o.packet con).setPayload o.env.settings n.payload)
    .next s out

end Notify

/-- The loop of `coap_notify_observers`: at an observer whose buffer is in use it goes round for ever. -/
def notifyObservers (n : ObservedSend) : List ObserverTurn → Sending → Option (Sending × List Output)
  | [], s => some (s, [])
  | o :: rest, s =>
    match o.notify n s with
    | .next s out => (notifyObservers n rest s).map fun r => (r.1, out ++ r.2)
    | .leave s => some (s, [])
    | .inUse => none

/-- The loop of `coap_notify_collection_observers`, which passes over such an observer. -/
def notifyCollectionObservers (n : ObservedSend) : List ObserverTurn → Sending → Sending × List Output
  | [], s => (s, [])
  | o :: rest, s =>
    match o.notify n s with
    | .next s out =>
      let r := notifyCollectionObservers n rest s
      (r.1, out ++ r.2)
    | .leave s => (s, [])
    | .inUse => notifyCollectionObservers n rest s

/-- `coap_notify_collections`: the collections that link the resource, with what their handlers answer. -/
def notifyCollections : List (ObservedSend × List ObserverTurn) → Sending → Sending × List Output
  | [], s => (s, [])
  | (n, observers) :: rest, s =>
    let r := notifyCollectionObservers n observers s
    let r' := notifyCollections rest r.1
    (r'.1, r.2 ++ r'.2)

/-- What `coap_notify_observers` finds: whether the device is in RFNOP, the resource without its first slash, its
observers at the endpoint, and the collections that link it. -/
structure NotifyInput where
  rfnop : Bool
  uri : OcString
  observed : Bool
  observers : List ObserverTurn
  collections : List (ObservedSend × List ObserverTurn)

/-- `coap_notify_observers` for a response that is given. -/
def coapNotifyObservers (input : NotifyInput) (code : UInt8) (payload : OcString) (s : Sending) :
    Option (Sending × List Output) :=
  if input.rfnop = false then some (s, [])
  else
    let observers := if input.observed then input.observers else []
    (notifyObservers ⟨input.uri, code, payload, input.observed⟩ observers s).map fun r =>
      let r' := notifyCollections input.collections r.1
      (r'.1, r.2 ++ r'.2)

/-! ## The response -/

/-- The response that an application gives: its status, and the payload in the buffer of the handle. -/
structure SeparateReply where
  status : OcStatus
  payload : OcString
  payload_lt : payload.length < 2 ^ 16

/-- A request in its turn, with what the platform gives it then, and the resource of its path if there is one. -/
structure SeparateTurn where
  entry : SeparateEntry
  env : EngineEnv
  resource : Option NotifyInput

section Turn

variable (reply : SeparateReply) (turn : SeparateTurn)

/-- `coap_separate_resume` -/
def coapSeparateResume (e : SeparateEntry) (code : UInt8) (mid : UInt16) : CoapPacket :=
  let p := if e.endpoint.flags.tcp then coapTcpInitMessage code else coapUdpInitMessage e.type code mid
  let p := if e.token.length ≠ 0 then p.setToken e.token else p
  if e.observe = 0 then p.setHeaderObserve 0 else p

/-- The search for the buffer of a request. -/
def SeparateEntry.bufferKey (e : SeparateEntry) : BlockwiseKey := ⟨e.uri, e.endpoint, e.method, [], .server⟩

/-- The response to a plain request: a transaction is left as it is where the buffer is in use or there is none. -/
def sendPlain (s : Sending) : Sending × List Output :=
  let e := turn.entry
  match coapNewTransaction turn.env s.engine e.endpoint with
  | (none, st) => (s.setEngine st, [])
  | (some t, st) =>
    let s := s.setEngine st
    let response := (coapSeparateResume e (ocStatusCode reply.status) t.mid).setHeaderContentFormat 10000
    if needsBlocks e.endpoint reply.payload e.block2Size then
      match takeResponseBuffer turn.env st e.bufferKey with
      | .inUse => (s, [])
      | .unavailable st => (s.setEngine st, [])
      | .allocated b st =>
        let (b, response) := dispatchFirst turn.env.settings b reply.payload e.block2Size response
        (s.setEngine (st.setResponse b)).finish turn.env t { response with code := ocStatusCode reply.status }
    else
      let response := if reply.payload.length > 0 then response.setPayload turn.env.settings reply.payload else response
      s.finish turn.env t { response with code := ocStatusCode reply.status }

/-- One round of the loop of `oc_send_separate_response`. -/
def sendTurn (s : Sending) : Option (Sending × List Output) :=
  if turn.entry.observe < 3 then some (sendPlain reply turn s)
  else match turn.resource with
    | some input => coapNotifyObservers input (ocStatusCode reply.status) reply.payload s
    | none => some (s, [])

end Turn

/-- `oc_send_separate_response`: what is sent for each of the requests, all of which are cleared. -/
def ocSendSeparateResponse (reply : SeparateReply) : List SeparateTurn → Sending → Option (Sending × List (List Output))
  | [], s => some (s, [])
  | turn :: rest, s =>
    match sendTurn reply turn s with
    | some (s, out) => (ocSendSeparateResponse reply rest s).map fun r => (r.1, out :: r.2)
    | none => none

end SmartGarage
