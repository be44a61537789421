/-
`oc_buffer.c` in the build with static allocation: messages of two pools that are counted by their users, and the
queue of ten events they go through, to `message_buffer_handler` and on to the TLS handler and the CoAP engine.
-/
import SmartGarage.Messaging.Transactions
import SmartGarage.Lib.RefCount

namespace SmartGarage.MessageBuffers

open RefCount

/-! ## Messages and events -/

/-- `oc_incoming_buffers` and `oc_outgoing_buffers` -/
inductive Pool
  | incoming
  | outgoing
deriving DecidableEq

/-- `oc_message_t`, without its count and the bytes. -/
structure Message where
  pool : Pool
  endpoint : OcEndpoint
  encrypted : Bool

/-- A message of `oc_internal_allocate_outgoing_message`, with its endpoint. -/
def Message.outgoing (endpoint : OcEndpoint) : Message := ⟨.outgoing, endpoint, false⟩

/-- An event in the queue, with the process it is for: `message_buffer_handler`, `oc_tls_handler`, `coap_engine`, or
some other one. `TLS_CLOSE_ALL_SESSIONS` is posted to `message_buffer_handler` first, and by that as `closeAllSessions`
to `oc_tls_handler`. -/
inductive EventData
  | inboundNetwork (message : Nat)
  | outboundNetwork (message : Nat)
  | tlsCloseAllSessions
  | closeAllSessions
  | udpToTls (message : Nat)
  | initTlsConn (message : Nat)
  | riToTls (message : Nat)
  | inboundRi (message : Nat)
  | other
deriving DecidableEq

/-- The message that goes with an event. -/
def EventData.message? : EventData → Option Nat
  | inboundNetwork id | outboundNetwork id | udpToTls id | initTlsConn id | riToTls id | inboundRi id => some id
  | tlsCloseAllSessions | closeAllSessions | other => none

/-- `OC_PROCESS_NUMEVENTS` -/
def ocProcessNumEvents : Nat := 10

/-- `OC_MAX_NUM_CONCURRENT_REQUESTS`, the size of either pool, and `COAP_MAX_OPEN_TRANSACTIONS`. -/
structure Limits where
  messages : Nat
  transactions : Nat

/-- `coap_transaction_t`, with the bytes that have been written to its message. -/
structure OpenTransaction where
  message : Nat
  data : OcString
  retransCounter : UInt8

/-- The messages and where they are: with the thread of the adapter, in `network_events`, in the queue, in
`transactions_list`, with the process that handles an event, and in the queues of the TLS sessions. -/
structure Buffers where
  heap : Heap 8 Message
  adapter : Option Nat
  network : List Nat
  events : List EventData
  transactions : List OpenTransaction
  inHand : Option Nat
  queued : List Nat

/-- Nothing has been allocated. -/
def Buffers.init : Buffers := ⟨.empty, none, [], [], [], none, []⟩

/-- The users of messages, each as often as it is one. -/
def Buffers.users (s : Buffers) : List Nat :=
  s.adapter.toList ++ s.network ++ s.events.filterMap (·.message?) ++ s.transactions.map (·.message) ++
    s.inHand.toList ++ s.queued

/-- What a call finds of the stack: `oc_main_initialized`, the version of the endpoint, the state of its TCP session,
and the transactions and the queued messages that go with a TLS session that is closed. -/
structure SendEnv where
  mainInitialized : Bool
  endpointVersion1 : Bool
  csmState : CsmState
  session : List Nat × List Nat

section Operations

variable (L : Limits) (s : Buffers)

/-- The messages that are left in a pool. -/
def Buffers.numFree (pool : Pool) : Nat := L.messages - s.heap.live.countP fun o => o.val.pool = pool

/-- `allocate_message`: the message, which is given its endpoint and its `encrypted` right behind. -/
def Buffers.allocateMessage (m : Message) : Option (Nat × Buffers) :=
  if 0 < s.numFree L m.pool then some (s.heap.next, { s with heap := s.heap.alloc m }) else none

/-- `oc_message_add_ref` -/
def Buffers.ocMessageAddRef (id : Nat) : Buffers := { s with heap := s.heap.retain id }

/-- `oc_message_unref` -/
def Buffers.ocMessageUnref (id : Nat) : Buffers := { s with heap := s.heap.release id }

/-- A message is read. -/
def Buffers.withMessage (id : Nat) (k : Obj 8 Message → Buffers) : Buffers :=
  match s.heap.get? id with
  | some o => k o
  | none => { s with heap := { s.heap with faults := s.heap.faults + 1 } }

/-- `oc_process_post`, or nothing for `OC_PROCESS_ERR_FULL`. -/
def Buffers.ocProcessPost (e : EventData) : Option Buffers :=
  if s.events.length = ocProcessNumEvents then none else some { s with events := s.events ++ [e] }

/-- `oc_process_post` where the result is not looked at. -/
def Buffers.post (e : EventData) : Buffers := (s.ocProcessPost e).getD s

/-! ## Receiving and sending -/

/-- `oc_recv_message` -/
def Buffers.ocRecvMessage (id : Nat) : Buffers :=
  (s.ocProcessPost (.inboundNetwork id)).getD (s.ocMessageUnref id)

/-- `oc_send_message`: a message that cannot be posted is counted down, and stays. -/
def Buffers.ocSendMessage (id : Nat) : Buffers :=
  (s.ocProcessPost (.outboundNetwork id)).getD { s with heap := s.heap.drop id }

/-- `coap_send_signal_message` -/
def Buffers.coapSendSignalMessage (endpoint : OcEndpoint) : Buffers :=
  match s.allocateMessage L (.outgoing endpoint) with
  | some (id, s) => s.ocSendMessage id
  | none => s

/-- Whether `coap_send_message` sends a CSM first. -/
def SendEnv.needsCsm (env : SendEnv) (endpoint : OcEndpoint) : Bool :=
  endpoint.flags.tcp && env.endpointVersion1 && decide (env.csmState = .none)

/-- `coap_send_message` -/
def Buffers.coapSendMessage (env : SendEnv) (id : Nat) : Buffers :=
  s.withMessage id fun o =>
    (if env.needsCsm o.val.endpoint then s.coapSendSignalMessage L o.val.endpoint else s).ocSendMessage id

/-- A message that is not part of a transaction is allocated and sent, and freed if its count is zero behind that. -/
def Buffers.sendEmpty (env : SendEnv) (endpoint : OcEndpoint) (data : OcString) : Buffers :=
  match s.allocateMessage L (.outgoing endpoint) with
  | some (id, s) =>
    let s := if data.length > 0 then s.coapSendMessage L env id else s
    s.withMessage id fun o => if o.count = 0#8 then s.ocMessageUnref id else s
  | none => s

/-- `coap_send_empty_response` -/
def Buffers.coapSendEmptyResponse (env : SendEnv) (type : CoapMessageType) (mid : UInt16) (token : OcString)
    (code : UInt8) (endpoint : OcEndpoint) : Buffers :=
  let msg := coapUdpInitMessage type code mid
  s.sendEmpty L env endpoint (coapSerializeMessage (if token.length > 0 then msg.setToken token else msg))

/-- The acknowledgement of `coap_separate_accept`. -/
def Buffers.sendSeparateAck (env : SendEnv) (mid : UInt16) (endpoint : OcEndpoint) : Buffers :=
  s.sendEmpty L env endpoint (coapSerializeMessage (coapUdpInitMessage .ack 0 mid))

/-! ## Transactions -/

/-- `coap_new_transaction` -/
def Buffers.coapNewTransaction (endpoint : OcEndpoint) : Buffers :=
  if s.transactions.length < L.transactions then
    match s.allocateMessage L (.outgoing endpoint) with
    | some (id, s) => { s with transactions := s.transactions ++ [⟨id, [], 0⟩] }
    | none => s
  else s

/-- `coap_clear_transaction` for the transaction of a message, if there is one. -/
def Buffers.coapClearTransaction (id : Nat) : Buffers :=
  if id ∈ s.transactions.map (·.message) then
    let s := s.ocMessageUnref id
    { s with transactions := s.transactions.filter (·.message ≠ id) }
  else s

/-- A message is taken out of the queues of a TLS session, if it is there, and released. -/
def Buffers.releaseQueued (id : Nat) : Buffers :=
  if id ∈ s.queued then
    let s := s.ocMessageUnref id
    { s with queued := s.queued.erase id }
  else s

/-- `oc_tls_close_connection` -/
def Buffers.ocTlsCloseConnection (session : List Nat × List Nat) : Buffers :=
  session.2.foldl Buffers.releaseQueued (session.1.foldl Buffers.coapClearTransaction s)

/-- `coap_send_transaction` -/
def Buffers.coapSendTransaction (env : SendEnv) (t : OpenTransaction) : Buffers :=
  if env.mainInitialized = false then s
  else
    s.withMessage t.message fun o =>
      if !o.val.endpoint.flags.tcp && isConfirmable t.data then
        if t.retransCounter < coapMaxRetransmit then
          (s.ocMessageAddRef t.message).coapSendMessage L env t.message
        else if o.val.endpoint.flags.secured then s.ocTlsCloseConnection env.session
        else s.coapClearTransaction t.message
      else ((s.ocMessageAddRef t.message).coapSendMessage L env t.message).coapClearTransaction t.message

/-- The transaction of a message is changed, and sent. -/
def Buffers.sendAs (env : SendEnv) (id : Nat) (f : OpenTransaction → OpenTransaction) : Buffers :=
  match s.transactions.find? (·.message = id) with
  | some t =>
    let t := { f t with message := id }
    let transactions := s.transactions.map fun u => if u.message = id then t else u
    { s with transactions := transactions }.coapSendTransaction L env t
  | none => s

/-! ## Events -/

/-- `message_buffer_handler`; `connected` is `oc_tls_connected` for the endpoint of the message. -/
def Buffers.messageBufferHandler (connected : Bool) : EventData → Buffers
  | .inboundNetwork id =>
    s.withMessage id fun o => s.post (if o.val.encrypted then .udpToTls id else .inboundRi id)
  | .outboundNetwork id =>
    s.withMessage id fun o =>
      if o.val.endpoint.flags.discovery then s.ocMessageUnref id
      else if o.val.endpoint.flags.secured then s.post (if connected then .riToTls id else .initTlsConn id)
      else s.ocMessageUnref id
  | .tlsCloseAllSessions => s.post .closeAllSessions
  | _ => s

/-- `do_event`: the first event goes to its process. The TLS handler and the CoAP engine have the message in hand
until they are done with it; what the TLS handler does to the messages of the sessions it closes are actions of their
own. -/
def Buffers.doEvent (connected : Bool) : Buffers :=
  match s.events with
  | [] => s
  | e :: rest =>
    let s := { s with events := rest }
    match e with
    | .udpToTls id | .initTlsConn id | .riToTls id | .inboundRi id => { s with inHand := some id }
    | .closeAllSessions | .other => s
    | e => s.messageBufferHandler connected e

/-- The process is done with its event: the message is released, or a TLS session keeps it in a queue where it is
not yet. -/
def Buffers.finish (keep : Bool) : Buffers :=
  match s.inHand with
  | some id =>
    let s := { s with inHand := none }
    if keep ∧ id ∉ s.queued then { s with queued := s.queued ++ [id] } else s.ocMessageUnref id
  | none => s

/-- `oc_process_network_event` -/
def Buffers.ocProcessNetworkEvent : Buffers := s.network.foldl Buffers.ocRecvMessage { s with network := [] }

/-- The thread of an adapter takes a message. -/
def Buffers.takeIncoming (endpoint : OcEndpoint) (encrypted : Bool) : Buffers :=
  match s.adapter with
  | some _ => s
  | none =>
    match s.allocateMessage L ⟨.incoming, endpoint, encrypted⟩ with
    | some (id, s) => { s with adapter := some id }
    | none => s

/-- The thread of an adapter has read a message: `oc_network_event`, which gives it back if `oc_network_events` is not
running; or it could not read it, and gives it back. -/
def Buffers.handOver (received running : Bool) : Buffers :=
  match s.adapter with
  | some id =>
    let s := { s with adapter := none }
    if received ∧ running then { s with network := s.network ++ [id] } else s.ocMessageUnref id
  | none => s

/-- `read_application_data`, once a session is up; `read` is whether `mbedtls_ssl_read` gives some data. -/
def Buffers.readApplicationData (endpoint : OcEndpoint) (read : Bool) : Buffers :=
  match s.allocateMessage L ⟨.incoming, endpoint, false⟩ with
  | some (id, s) =>
    if read then (s.ocProcessPost (.inboundRi id)).getD (s.ocMessageUnref id) else s.ocMessageUnref id
  | none => s

end Operations

/-- What can happen to the messages. Between `deliver` and `finish`, everything else is done by the process that
handles the event. -/
inductive Action
  | takeIncoming (endpoint : OcEndpoint) (encrypted : Bool)
  | handOver (received running : Bool)
  | poll
  | post (e : Bool)
  | newTransaction (endpoint : OcEndpoint)
  | sendTransaction (env : SendEnv) (id : Nat) (data : OcString)
  | expire (env : SendEnv) (id : Nat)
  | clearTransaction (id : Nat)
  | emptyResponse (env : SendEnv) (type : CoapMessageType) (mid : UInt16) (token : OcString) (code : UInt8)
      (endpoint : OcEndpoint)
  | separateAck (env : SendEnv) (mid : UInt16) (endpoint : OcEndpoint)
  | signal (endpoint : OcEndpoint)
  | readApplicationData (endpoint : OcEndpoint) (read : Bool)
  | releaseQueued (id : Nat)
  | deliver (connected : Bool)
  | finish (keep : Bool)

/-- What an action does. -/
def step (L : Limits) (s : Buffers) : Action → Buffers
  | .takeIncoming endpoint encrypted => s.takeIncoming L endpoint encrypted
  | .handOver received running => s.handOver received running
  | .poll => s.ocProcessNetworkEvent
  -- a timer, or `oc_close_all_tls_sessions_for_device`
  | .post close => s.post (if close then .tlsCloseAllSessions else .other)
  | .newTransaction endpoint => s.coapNewTransaction L endpoint
  | .sendTransaction env id data => s.sendAs L env id fun t => { t with data := data }
  | .expire env id => s.sendAs L env id fun t => { t with retransCounter := t.retransCounter + 1 }
  | .clearTransaction id => s.coapClearTransaction id
  | .emptyResponse env type mid token code endpoint => s.coapSendEmptyResponse L env type mid token code endpoint
  | .separateAck env mid endpoint => s.sendSeparateAck L env mid endpoint
  | .signal endpoint => s.coapSendSignalMessage L endpoint
  | .readApplicationData endpoint read => s.readApplicationData L endpoint read
  | .releaseQueued id => s.releaseQueued id
  -- a handler runs to its end before the next event is taken
  | .deliver connected => if s.inHand.isSome then s else s.doEvent connected
  | .finish keep => s.finish keep

end SmartGarage.MessageBuffers
