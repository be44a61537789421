/-
`transactions.c` and the part of `oc_tls.c` that ends a session: retransmissions, timeouts, and the
transactions that go with a session. The system is the engine together with the TLS sessions.
-/
import SmartGarage.Messaging.EngineFrame

namespace SmartGarage

/-! ## The system -/

/-- `COAP_MAX_RETRANSMIT` -/
def coapMaxRetransmit : UInt8 := 4

/-- The engine, and the endpoints of `tls_peers`. -/
structure System where
  engine : Engine
  peers : List OcEndpoint

/-- A confirmable message over UDP. -/
def Transaction.confirmable (t : Transaction) : Bool := !t.endpoint.flags.tcp && isConfirmable t.data

namespace System

variable (sys : System)

/-- `transactions_list` -/
def transactions : List Transaction := sys.engine.transactions

/-- The transactions have been changed. -/
def setTransactions (l : List Transaction) : System := { sys with engine := { sys.engine with transactions := l } }

end System

/-- The list with a transaction in place of the one with its address. -/
def replaceTransaction (l : List Transaction) (t : Transaction) : List Transaction :=
  l.map fun s => if s.id = t.id then t else s

/-! ## Sessions -/

/-- `oc_ri_free_client_cbs_by_mid` for each of some transactions. -/
def freeClientCbsOf (st : Engine) (l : List Transaction) : Engine × List Output :=
  l.foldl (fun r t => let s := r.1.freeClientCbsByMid t.mid; (s.1, r.2 ++ s.2)) (st, [])

/-- `coap_free_transactions_by_endpoint` -/
def coapFreeTransactionsByEndpoint (st : Engine) (endpoint : OcEndpoint) : Engine × List Output :=
  let (st', out) := freeClientCbsOf st (st.transactions.filter fun t => ocEndpointCompare t.endpoint endpoint)
  ({ st' with transactions := st.transactions.filter fun t => !ocEndpointCompare t.endpoint endpoint }, out)

/-- `oc_ri_free_client_cbs_by_endpoint` -/
def freeClientCbsByEndpoint (st : Engine) (endpoint : OcEndpoint) : Engine × List Output :=
  let cbs := st.clientCbs.filter fun cb =>
    !cb.multicast && !cb.discovery && cb.refCount == 0 && ocEndpointCompare cb.endpoint endpoint
  (cbs.foldl (fun st cb => st.freeClientCb cb.id) st, cbs.map fun cb => .callback cb.id 163 [])

/-- `oc_tls_free_peer` -/
def System.ocTlsFreePeer (sys : System) (peer : OcEndpoint) : System × List Output :=
  let (st, out) := coapFreeTransactionsByEndpoint sys.engine peer
  let (st, out') := freeClientCbsByEndpoint st peer
  (⟨st, sys.peers.erase peer⟩, out ++ out')

/-- `oc_tls_get_peer` -/
def System.ocTlsGetPeer (sys : System) (endpoint : OcEndpoint) : Option OcEndpoint :=
  sys.peers.find? fun peer => ocEndpointCompare peer endpoint

/-- `oc_tls_close_connection`, as far as this side is concerned, and `oc_tls_remove_peer`. -/
def System.ocTlsCloseConnection (sys : System) (endpoint : OcEndpoint) : System × List Output :=
  match sys.ocTlsGetPeer endpoint with
  | some peer => sys.ocTlsFreePeer peer
  | none => (sys, [])

/-! ## Retransmissions -/

/-- `coap_clear_transaction` -/
def System.clear (sys : System) (id : Nat) : System := sys.setTransactions (sys.transactions.filter (·.id ≠ id))

/-- The end of a transaction that nobody has acknowledged: over a session it is left to the end of the
session. -/
def timeOut (sys : System) (t : Transaction) : System × List Output :=
  let (st, out) := sys.engine.freeClientCbsByMid t.mid
  let sys := { sys with engine := st.scrubBuffers }
  if t.endpoint.flags.secured then
    let (sys, out') := sys.ocTlsCloseConnection t.endpoint
    (sys, out ++ out')
  else (sys.clear t.id, out)

/-- What an expired timer does: the system, the message that is sent again, and whether the timer is
restarted. -/
structure Expiry where
  sys : System
  resent : List Transaction
  restarted : Bool
  out : List Output

/-- The body of the loop of `coap_check_transactions` for an expired timer, with `coap_send_transaction`. -/
def expire (mainInitialized : Bool) (sys : System) (t : Transaction) : Expiry :=
  let t := { t with retransCounter := t.retransCounter + 1 }
  let sys := sys.setTransactions (replaceTransaction sys.transactions t)
  if mainInitialized = false then ⟨sys, [], false, []⟩
  else if t.confirmable then
    if t.retransCounter < coapMaxRetransmit then ⟨sys, [t], true, []⟩
    else
      let (sys, out) := timeOut sys t
      ⟨sys, [], false, out⟩
  else ⟨sys.clear t.id, [t], true, []⟩

theorem length_replaceTransaction (l : List Transaction) (t : Transaction) : (replaceTransaction l t).length = l.length :=
  List.length_map _

theorem freeClientCbs_transactions : ∀ (cbs : List ClientCb) (st : Engine),
    (cbs.foldl (fun st cb => st.freeClientCb cb.id) st).transactions = st.transactions
  | [], _ => rfl
  | cb :: cbs, st => freeClientCbs_transactions cbs (st.freeClientCb cb.id)

theorem ocTlsFreePeer_transactions (sys : System) (peer : OcEndpoint) :
    (sys.ocTlsFreePeer peer).1.transactions = sys.transactions.filter fun t => !ocEndpointCompare t.endpoint peer :=
  freeClientCbs_transactions _ _

theorem timeOut_transactions (sys : System) (t : Transaction) :
    (timeOut sys t).1.transactions =
      if t.endpoint.flags.secured then
        match sys.ocTlsGetPeer t.endpoint with
        | some peer => sys.transactions.filter fun s => !ocEndpointCompare s.endpoint peer
        | none => sys.transactions
      else sys.transactions.filter (·.id ≠ t.id) := by
  have hfree : (sys.engine.freeClientCbsByMid t.mid).1.scrubBuffers.transactions = sys.transactions :=
    freeClientCbs_transactions _ sys.engine
  unfold timeOut
  dsimp only
  split
  · unfold System.ocTlsCloseConnection System.ocTlsGetPeer
    dsimp only
    split
    · rw [ocTlsFreePeer_transactions]
      simp only [System.transactions]
      rw [hfree]
      rfl
    · exact hfree
  · simp only [System.clear, System.setTransactions, System.transactions]
    rw [hfree]
    rfl

theorem length_timeOut (sys : System) (t : Transaction) :
    (timeOut sys t).1.transactions.length ≤ sys.transactions.length := by
  rw [timeOut_transactions]
  split
  · split
    · exact List.length_filter_le _ _
    · exact Nat.le_refl _
  · exact List.length_filter_le _ _

theorem length_expire (main : Bool) (sys : System) (t : Transaction) :
    (expire main sys t).sys.transactions.length ≤ sys.transactions.length := by
  have hreplace : (sys.setTransactions (replaceTransaction sys.transactions { t with
      retransCounter := t.retransCounter + 1 })).transactions.length = sys.transactions.length :=
    length_replaceTransaction _ _
  unfold expire
  dsimp only
  split
  · exact Nat.le_of_eq hreplace
  · split
    · split
      · exact Nat.le_of_eq hreplace
      · exact (length_timeOut _ _).trans (Nat.le_of_eq hreplace)
    · exact (List.length_filter_le _ _).trans (Nat.le_of_eq hreplace)

/-- What a run of the timers leaves: the system and the messages that were sent again. -/
structure Checked where
  sys : System
  resent : List Transaction
  out : List Output

/-- The expired timers behind one of them: a timer that has been restarted is not expired any more. -/
def Expiry.remaining (r : Expiry) (t : Transaction) (expired : List Nat) : List Nat :=
  if r.restarted then expired.filter (· ≠ t.id) else expired

/-- Where the loop goes on: when more than one transaction has gone, at the head of the list. -/
def Expiry.following (r : Expiry) (sys : System) (rest : List Transaction) : List Transaction :=
  if r.sys.transactions.length + 1 < sys.transactions.length then r.sys.transactions else rest

/-- The loop of `coap_check_transactions` from a place in the list on: `expired` are the transactions whose
timers have expired. -/
def checkFrom (main : Bool) (sys : System) (expired : List Nat) (todo : List Transaction) : Checked :=
  match todo with
  | [] => ⟨sys, [], []⟩
  | t :: rest =>
    if t.id ∈ expired then
      let r := expire main sys t
      let c := checkFrom main r.sys (r.remaining t expired) (r.following sys rest)
      ⟨c.sys, r.resent ++ c.resent, r.out ++ c.out⟩
    else checkFrom main sys expired rest
termination_by (sys.transactions.length, todo.length)
decreasing_by
  · have hle := length_expire main sys t
    unfold Expiry.following
    split
    · rename_i hgone
      exact Prod.Lex.left _ _ (Nat.lt_of_succ_lt hgone)
    · exact Prod.Lex.right' _ hle (Nat.lt_succ_self _)
  · exact Prod.Lex.right _ (Nat.lt_succ_self _)

/-- `coap_check_transactions` -/
def coapCheckTransactions (main : Bool) (sys : System) (expired : List Nat) : Checked :=
  checkFrom main sys expired sys.transactions

end SmartGarage
