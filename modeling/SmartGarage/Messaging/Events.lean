/-
Runs of the system: messages arrive, timers expire, the application makes requests, and sessions come and
go, in any order. What only drops buffers and callbacks is told apart from what may make new ones.
-/
import SmartGarage.Lib.Run
import SmartGarage.Messaging.Transactions

namespace SmartGarage

/-! ## Events -/

/-- What can happen to the system. A request of the application is made of a new callback, of a request buffer
for its payload and of a transaction; a notification and a separate response are made of a response buffer
and of a transaction. -/
inductive Event
  | receive (env : EngineEnv) (data : OcString) (endpoint : OcEndpoint)
  | check (main : Bool) (expired : List Nat)
  | transact (env : EngineEnv) (mid : UInt16) (endpoint : OcEndpoint) (data : OcString)
  | newCb (cb : ClientCb)
  | freeCb (id : Nat)
  | openRequest (env : EngineEnv) (href : OcString) (endpoint : OcEndpoint) (method : UInt8) (cb : Option Nat)
  | openResponse (env : EngineEnv) (href : OcString) (endpoint : OcEndpoint) (method : UInt8) (query : OcString)
      (payload : OcString) (size : UInt32)
  | requestTimeout (id : Nat)
  | responseTimeout (id : Nat)
  | releaseResponse (href : OcString) (endpoint : OcEndpoint) (query : OcString)
  | openSession (peer : OcEndpoint)
  | closeSession (endpoint : OcEndpoint)
  | shutdown

/-- The request buffer of an upload: `prepare_coap_request`. -/
def openRequest (env : EngineEnv) (st : Engine) (href : OcString) (endpoint : OcEndpoint) (method : UInt8)
    (cb : Option Nat) : Engine :=
  match ocBlockwiseAllocRequestBuffer env st href endpoint method .client [] with
  | some (b, st) => st.setRequest { b with clientCb := cb }
  | none => st

section Notify

variable (env : EngineEnv) (st : Engine) (href : OcString) (endpoint : OcEndpoint) (method : UInt8) (query : OcString)

/-- A new response buffer with a payload of which the first block is sent. -/
def startResponse (payload : OcString) (size : UInt32) : Engine :=
  match ocBlockwiseAllocResponseBuffer env st href endpoint method .server query none with
  | some (b, st) =>
    let b := { b with buffer := writeAt b.buffer 0 payload, payloadSize := UInt32.ofNat payload.length }
    match ocBlockwiseDispatchBlock b 0 size with
    | some (b, _) => st.setResponse b
    | none => st.setResponse b
  | none => st

/-- The response buffer of a notification (`coap_notify_observers`, `coap_notify_collections`) or of a separate
response (`oc_send_separate_response`) that is longer than a block: one that is still in use is left alone. -/
def openResponse (payload : OcString) (size : UInt32) : Engine :=
  match st.responses.find? (BlockwiseKey.finds ⟨href, endpoint, method, query, .server⟩) with
  | some b =>
    if b.payloadSize = b.nextBlockOffset then
      startResponse env (st.freeResponse b.id) href endpoint method query payload size
    else st
  | none => startResponse env st href endpoint method query payload size

/-- The response buffer of an observer that is removed: `coap_remove_observer`. -/
def releaseObserved : Engine :=
  st.releaseResponse ((st.responses.find? (BlockwiseKey.finds ⟨href, endpoint, coapGet, query, .server⟩)).map (·.id))

end Notify

/-- `oc_ri_shutdown` and `oc_tls_shutdown` -/
def shutdown (sys : System) : System :=
  ⟨{ sys.engine with transactions := [], clientCbs := [], requests := [], responses := [] }, []⟩

/-- One event. -/
def System.step (sys : System) : Event → System
  | .receive env data endpoint => { sys with engine := (coapReceive env sys.engine data endpoint).1 }
  | .check main expired => (coapCheckTransactions main sys expired).sys
  | .transact env mid endpoint data =>
    { sys with engine := (coapSendTransaction env env.csmState sys.engine mid endpoint data).1 }
  | .newCb cb => { sys with engine := { sys.engine with clientCbs := sys.engine.clientCbs ++ [cb] } }
  | .freeCb id => { sys with engine := sys.engine.freeClientCb id }
  | .openRequest env href endpoint method cb =>
    { sys with engine := openRequest env sys.engine href endpoint method cb }
  | .openResponse env href endpoint method query payload size =>
    { sys with engine := openResponse env sys.engine href endpoint method query payload size }
  | .requestTimeout id => { sys with engine := sys.engine.freeRequest id }
  | .responseTimeout id => { sys with engine := sys.engine.freeResponse id }
  | .releaseResponse href endpoint query => { sys with engine := releaseObserved sys.engine href endpoint query }
  | .openSession peer => if (sys.ocTlsGetPeer peer).isSome then sys else { sys with peers := sys.peers ++ [peer] }
  | .closeSession endpoint => (sys.ocTlsCloseConnection endpoint).1
  | .shutdown => shutdown sys

/-- The system at the start. -/
def System.init (mid : UInt16) : System := ⟨.init mid, []⟩

/-! ## What only drops -/

/-- Buffers may have gone, and nothing else has happened to the buffers and to the request history. -/
structure Dropped (st st' : Engine) : Prop where
  nextId : st'.nextId = st.nextId
  requests : st'.requests ⊆ st.requests
  responses : st'.responses ⊆ st.responses
  history : st'.history = st.history
  idx : st'.idx = st.idx
  nextTransaction : st'.nextTransaction = st.nextTransaction

theorem Dropped.refl (st : Engine) : Dropped st st := ⟨rfl, fun _ h => h, fun _ h => h, rfl, rfl, rfl⟩

theorem Dropped.trans {st st' st'' : Engine} (h : Dropped st st') (h' : Dropped st' st'') : Dropped st st'' :=
  ⟨h'.nextId.trans h.nextId, fun _ hb => h.requests (h'.requests hb), fun _ hb => h.responses (h'.responses hb),
    h'.history.trans h.history, h'.idx.trans h.idx, h'.nextTransaction.trans h.nextTransaction⟩

variable (st : Engine)

theorem dropped_freeClientCb (id : Nat) : Dropped st (st.freeClientCb id) :=
  ⟨rfl, fun _ => List.mem_of_mem_filter, fun _ => List.mem_of_mem_filter, rfl, rfl, rfl⟩

theorem dropped_scrubBuffers : Dropped st st.scrubBuffers :=
  ⟨rfl, fun _ => List.mem_of_mem_filter, fun _ => List.mem_of_mem_filter, rfl, rfl, rfl⟩

theorem dropped_freeClientCbs : ∀ (cbs : List ClientCb) (st : Engine),
    Dropped st (cbs.foldl (fun st cb => st.freeClientCb cb.id) st)
  | [], st => .refl st
  | cb :: cbs, st => (dropped_freeClientCb st cb.id).trans (dropped_freeClientCbs cbs _)

theorem dropped_freeClientCbsOf (l : List Transaction) : Dropped st (freeClientCbsOf st l).1 := by
  unfold freeClientCbsOf
  generalize ([] : List Output) = out
  induction l generalizing st out with
  | nil => exact .refl st
  | cons t l ih => exact (dropped_freeClientCbs _ st).trans (ih _ _)

theorem dropped_ocTlsFreePeer (sys : System) (peer : OcEndpoint) :
    Dropped sys.engine (sys.ocTlsFreePeer peer).1.engine := by
  have htransactions : Dropped sys.engine (coapFreeTransactionsByEndpoint sys.engine peer).1 := by
    have h := dropped_freeClientCbsOf sys.engine
      (sys.engine.transactions.filter fun t => ocEndpointCompare t.endpoint peer)
    exact ⟨h.nextId, h.requests, h.responses, h.history, h.idx, h.nextTransaction⟩
  exact htransactions.trans (dropped_freeClientCbs _ _)

theorem dropped_ocTlsCloseConnection (sys : System) (endpoint : OcEndpoint) :
    Dropped sys.engine (sys.ocTlsCloseConnection endpoint).1.engine := by
  unfold System.ocTlsCloseConnection
  split
  · exact dropped_ocTlsFreePeer sys _
  · exact .refl _

theorem dropped_timeOut (sys : System) (t : Transaction) : Dropped sys.engine (timeOut sys t).1.engine := by
  have hfree : Dropped sys.engine (sys.engine.freeClientCbsByMid t.mid).1.scrubBuffers :=
    (dropped_freeClientCbs _ _).trans (dropped_scrubBuffers _)
  unfold timeOut
  dsimp only
  split
  · exact hfree.trans (dropped_ocTlsCloseConnection { sys with engine := _ } t.endpoint)
  · exact ⟨hfree.nextId, hfree.requests, hfree.responses, hfree.history, hfree.idx, hfree.nextTransaction⟩

theorem dropped_expire (main : Bool) (sys : System) (t : Transaction) :
    Dropped sys.engine (expire main sys t).sys.engine := by
  have hset (l : List Transaction) : Dropped sys.engine (sys.setTransactions l).engine :=
    ⟨rfl, fun _ h => h, fun _ h => h, rfl, rfl, rfl⟩
  unfold expire
  dsimp only
  split
  · exact hset _
  · split
    · split
      · exact hset _
      · exact (hset _).trans (dropped_timeOut _ _)
    · exact hset _

theorem dropped_checkFrom (main : Bool) (sys : System) (expired : List Nat) (todo : List Transaction) :
    Dropped sys.engine (checkFrom main sys expired todo).sys.engine := by
  fun_induction checkFrom main sys expired todo with
  | case1 sys expired => exact .refl _
  | case2 sys expired t rest hmem r c ih => exact (dropped_expire main sys t).trans ih
  | case3 sys expired t rest hmem ih => exact ih

/-! ## Events without a message -/

/-- The key of the transfer that an event of the server belongs to. -/
def Event.key : Event → Option BlockwiseKey
  | .receive env data endpoint =>
    let (status, message) := parseMessage env data endpoint
    if status = coapNoError ∧ isRequest message = true then some (requestKey message endpoint) else none
  | .openResponse _ href endpoint method query _ _ => some ⟨href, endpoint, method, query, .server⟩
  | .releaseResponse href endpoint query => some ⟨href, endpoint, coapGet, query, .server⟩
  | _ => none

/-- The calls of an event. -/
def Event.blockCalls (st : Engine) : Event → List BlockCall
  | .receive env data endpoint => receiveCalls env st data endpoint
  | .openResponse env href endpoint method query payload size =>
    openCalls env st href endpoint method query payload size
  | _ => []

/-- The settings of a build, which an application chooses in front of `oc_main_init`, are those of an event. -/
def Event.OfBuild (B : BufferSettings) : Event → Prop
  | .receive env _ _ => env.settings = B
  | .openResponse env _ _ _ _ _ _ => env.settings = B
  | _ => True

theorem performed_openRequest {B : BufferSettings} {k : BlockwiseKey} (env : EngineEnv) (href : OcString)
    (endpoint : OcEndpoint) (method : UInt8) (cb : Option Nat) :
    Performed B k [] st (openRequest env st href endpoint method cb) := by
  unfold openRequest
  split
  · rename_i b st' halloc
    obtain ⟨hquiet, hnew⟩ := quiet_allocRequest (k := k) st halloc nofun
    exact hquiet.performed (.setRequest ((Put.self hnew.mem).same rfl rfl rfl))
  · exact .refl st

section Notify

variable (env : EngineEnv) (href : OcString) (endpoint : OcEndpoint) (method : UInt8) (query : OcString)

theorem performed_startResponse (payload : OcString) (size : UInt32) :
    Performed env.settings ⟨href, endpoint, method, query, .server⟩
      (startCalls env st href endpoint method query payload size) st
      (startResponse env st href endpoint method query payload size) := by
  unfold startResponse startCalls
  cases halloc : ocBlockwiseAllocResponseBuffer env st href endpoint method .server query none with
  | none => exact .refl st
  | some r =>
    obtain ⟨b, st'⟩ := r
    obtain ⟨hquiet, hnew⟩ := quiet_allocResponse st halloc fun _ => rfl
    have hput (calls : List BlockCall) : Put env.settings .responses calls st'.responses
        { b with buffer := writeAt b.buffer 0 payload, payloadSize := UInt32.ofNat payload.length } :=
      (Put.self hnew.mem).same rfl rfl rfl
    dsimp only
    split
    · rename_i b' block hdispatch
      exact hquiet.performed (.setResponse ((hput []).dispatched hdispatch))
    · exact hquiet.performed (.setResponse (hput _))

/-- The response buffer of a notification has the key of the notification. -/
theorem performed_openResponse (payload : OcString) (size : UInt32) :
    Performed env.settings ⟨href, endpoint, method, query, .server⟩
      (openCalls env st href endpoint method query payload size) st
      (openResponse env st href endpoint method query payload size) := by
  unfold openResponse openCalls
  cases st.responses.find? (BlockwiseKey.finds ⟨href, endpoint, method, query, .server⟩) with
  | none => exact performed_startResponse st env href endpoint method query payload size
  | some b =>
    dsimp only
    split
    · exact (quiet_freeResponse st b.id).performed (performed_startResponse _ env href endpoint method query payload size)
    · exact .refl st

end Notify

theorem step_openSession_engine (sys : System) (peer : OcEndpoint) : (sys.step (.openSession peer)).engine = sys.engine := by
  unfold System.step
  dsimp only
  split
  · rfl
  · rfl

/-- What an event without a message does: it drops buffers, or it performs its calls for the key it has. -/
theorem step_performed {B : BufferSettings} (sys : System) {e : Event}
    (he : ∀ env data endpoint, e ≠ .receive env data endpoint) (hbuild : e.OfBuild B) :
    Dropped sys.engine (sys.step e).engine ∨
      ∀ k, (∀ k' ∈ e.key, k = k') → Performed B k (e.blockCalls sys.engine) sys.engine (sys.step e).engine := by
  cases e with
  | receive env data endpoint => exact absurd rfl (he env data endpoint)
  | check main expired => exact .inl (dropped_checkFrom main sys expired _)
  | transact env mid endpoint data =>
    exact .inr fun _ _ => .of_quiet (quiet_coapSendTransaction sys.engine env _ mid endpoint data)
  | newCb cb => exact .inl ⟨rfl, fun _ h => h, fun _ h => h, rfl, rfl, rfl⟩
  | freeCb id => exact .inl (dropped_freeClientCb sys.engine id)
  | openRequest env href endpoint method cb =>
    exact .inr fun _ _ => performed_openRequest sys.engine env href endpoint method cb
  | openResponse env href endpoint method query payload size =>
    have hsettings : env.settings = B := hbuild
    refine .inr fun k hk => ?_
    rw [hk _ rfl, ← hsettings]
    exact performed_openResponse sys.engine env href endpoint method query payload size
  | requestTimeout id => exact .inr fun _ _ => .of_quiet (quiet_freeRequest sys.engine id)
  | responseTimeout id => exact .inr fun _ _ => .of_quiet (quiet_freeResponse sys.engine id)
  | releaseResponse href endpoint query => exact .inr fun _ _ => .of_quiet (quiet_releaseResponse sys.engine _)
  | openSession peer =>
    rw [step_openSession_engine]
    exact .inl (.refl _)
  | closeSession endpoint => exact .inl (dropped_ocTlsCloseConnection sys endpoint)
  | shutdown => exact .inl ⟨rfl, List.nil_subset _, List.nil_subset _, rfl, rfl, rfl⟩

theorem Event.exists_build (e : Event) : ∃ B, e.OfBuild B := by
  cases e <;> first | exact ⟨_, rfl⟩ | exact ⟨⟨16, 0, 4, by decide⟩, trivial⟩

theorem step_history (sys : System) (e : Event) (he : ∀ env data endpoint, e ≠ .receive env data endpoint) :
    (sys.step e).engine.history = sys.engine.history ∧ (sys.step e).engine.idx = sys.engine.idx := by
  obtain ⟨B, hbuild⟩ := e.exists_build
  obtain hdropped | hperformed := step_performed sys he hbuild
  · exact ⟨hdropped.history, hdropped.idx⟩
  · have hkept := (hperformed (e.key.getD ⟨[], OcEndpoint.zero, 0, [], .server⟩) fun k' hk => by rw [hk]; rfl).kept
    exact ⟨hkept.history, hkept.idx⟩

end SmartGarage
