/-
The life of a transaction in every run: when it leaves the list, and that it does not come back. A message
clears the first transaction with its message id, whatever the message is and wherever it comes from, and a
secured transaction without a session is never removed; in the runs in which neither happens, a transaction
leaves when it is acknowledged, when it has timed out, or with its session.
-/
import SmartGarage.Messaging.Retransmissions

namespace SmartGarage

variable {t : Transaction}

open Runs

/-! ## Runs -/

/-- The system, and how often the timer of each transaction has expired. -/
structure Timed where
  sys : System
  expiries : Nat → Nat

/-- One event. -/
def Timed.step (s : Timed) (e : Event) : Timed where
  sys := s.sys.step e
  expiries := match e with
    | .check _ expired => fun id =>
      if id ∈ expired ∧ (∃ t ∈ s.sys.transactions, t.id = id) then s.expiries id + 1 else s.expiries id
    | _ => s.expiries

/-- The start. -/
def Timed.init (mid : UInt16) : Timed := ⟨.init mid, fun _ => 0⟩

/-- The transactions whose messages an event sends again. -/
def resentBy (sys : System) : Event → List Transaction
  | .check main expired => (coapCheckTransactions main sys expired).resent
  | _ => []

/-- A message over UDP is an acknowledgement or a reset for a transaction, from the endpoint of that
transaction. -/
def Acknowledges (env : EngineEnv) (data : OcString) (endpoint : OcEndpoint) (t : Transaction) : Prop :=
  let message := (parseMessage env data endpoint).2
  (message.type = .ack ∨ message.type = .rst) ∧ message.mid = t.mid ∧ ocEndpointCompare t.endpoint endpoint = true

/-- The condition on an event: a message over UDP with the message id of a confirmable transaction acknowledges
it, and when a secured transaction is about to time out it has a session. -/
def Orderly (s : Timed) : Event → Prop
  | .receive env data endpoint =>
    (parseMessage env data endpoint).1 = coapNoError → endpoint.flags.tcp = false →
      ∀ t ∈ s.sys.transactions.find? (·.mid = (parseMessage env data endpoint).2.mid),
        t.confirmable = true → Acknowledges env data endpoint t
  | .check main expired => main = true ∧ ∀ t ∈ s.sys.transactions, t.id ∈ expired → HasSession s.sys t
  | _ => True

instance (env : EngineEnv) (data : OcString) (endpoint : OcEndpoint) (t : Transaction) :
    Decidable (Acknowledges env data endpoint t) := inferInstanceAs (Decidable ((_ ∨ _) ∧ _ ∧ _))

instance (sys : System) (t : Transaction) : Decidable (HasSession sys t) := inferInstanceAs (Decidable (_ → _ → _ → _))

instance (s : Timed) : ∀ e, Decidable (Orderly s e)
  | .receive .. => inferInstanceAs (Decidable (_ → _ → ∀ t ∈ (_ : Option Transaction), _ → _))
  | .check .. => inferInstanceAs (Decidable (_ ∧ ∀ t ∈ s.sys.transactions, _ → _))
  | .transact .. | .newCb .. | .freeCb .. | .openRequest .. | .openResponse .. | .requestTimeout ..
  | .responseTimeout .. | .releaseResponse .. | .openSession .. | .closeSession .. | .shutdown => .isTrue trivial

/-- Why a transaction leaves the list. -/
inductive Leaves (s : Timed) (t : Transaction) : Event → Prop
  | acknowledged (env : EngineEnv) (data : OcString) (endpoint : OcEndpoint) :
      Acknowledges env data endpoint t → Leaves s t (.receive env data endpoint)
  | timedOut (main : Bool) (expired : List Nat) :
      (s.step (.check main expired)).expiries t.id = coapMaxRetransmit.toNat → Leaves s t (.check main expired)
  | sessionEnded (e : Event) : SessionEnded s.sys (s.sys.step e) t.endpoint → Leaves s t e
  | shutdown : Leaves s t .shutdown

/-! ## Events without timers -/

/-- What an event does to the transactions: some leave, for a reason, and new ones stand at the end. -/
structure Turnover (s : Timed) (e : Event) (l : List Transaction) : Prop where
  stays : l.Sublist s.sys.transactions
  leaves : ∀ t ∈ s.sys.transactions, t.confirmable = true → t ∉ l → Leaves s t e
  added : Appended l s.sys.engine.nextTransaction (s.sys.step e).transactions (s.sys.step e).engine.nextTransaction

theorem find?_of_not_mem_eraseP {l : List Transaction} {p : Transaction → Bool} (ht : t ∈ l)
    (h : t ∉ l.eraseP p) : l.find? p = some t := by
  induction l with
  | nil => cases ht
  | cons a l ih =>
    cases hpa : p a with
    | true =>
      rw [List.eraseP_cons_of_pos hpa] at h
      rcases List.mem_cons.1 ht with rfl | hl
      · exact List.find?_cons_of_pos hpa
      · exact absurd hl h
    | false =>
      rw [List.eraseP_cons_of_neg (by simp [hpa]), List.mem_cons] at h
      rw [List.find?_cons_of_neg (by simp [hpa])]
      rcases List.mem_cons.1 ht with rfl | hl
      · exact absurd (.inl rfl) h
      · exact ih hl fun hmem => h (.inr hmem)

theorem turnover_same {s : Timed} {e : Event} (hadded : Appended s.sys.transactions s.sys.engine.nextTransaction
      (s.sys.step e).transactions (s.sys.step e).engine.nextTransaction) : Turnover s e s.sys.transactions :=
  ⟨.refl _, fun _ ht _ hnot => absurd ht hnot, hadded⟩

theorem turnover_kept {s : Timed} {e : Event} (htransactions : (s.sys.step e).transactions = s.sys.transactions)
    (hnext : (s.sys.step e).engine.nextTransaction = s.sys.engine.nextTransaction) : Turnover s e s.sys.transactions := by
  refine turnover_same ?_
  rw [htransactions, hnext]
  exact .refl _ _

theorem initResponse_transactions (st : Engine) (message : CoapPacket) (endpoint : OcEndpoint) :
    (initResponse message endpoint st).2.transactions = st.transactions ∧
      (initResponse message endpoint st).2.nextTransaction = st.nextTransaction := by
  unfold initResponse
  dsimp only
  repeat' split
  all_goals exact ⟨rfl, rfl⟩

theorem clearTransaction_nextTransaction (st : Engine) (message : CoapPacket) (endpoint : OcEndpoint) :
    (clearTransaction st message endpoint).nextTransaction = st.nextTransaction := by
  unfold clearTransaction
  split
  · rfl
  · rfl

theorem coapReceive_transactions (st : Engine) (env : EngineEnv) (data : OcString) (endpoint : OcEndpoint) :
    ((parseMessage env data endpoint).1 ≠ coapNoError ∧ (coapReceive env st data endpoint).1 = st) ∨
    ((parseMessage env data endpoint).1 = coapNoError ∧
      Appended (clearTransaction st (parseMessage env data endpoint).2 endpoint).transactions st.nextTransaction
        (coapReceive env st data endpoint).1.transactions (coapReceive env st data endpoint).1.nextTransaction) := by
  rcases coapReceive_kept st env data endpoint with hrefused | ⟨hstatus, -, hkept⟩ | ⟨hstatus, -, hkept⟩
  · exact .inl hrefused
  · have happended := hkept.transactions
    obtain ⟨htransactions, hnext⟩ := initResponse_transactions
      (clearTransaction st (parseMessage env data endpoint).2 endpoint) (parseMessage env data endpoint).2
      endpoint
    rw [htransactions, hnext, clearTransaction_nextTransaction] at happended
    exact .inr ⟨hstatus, happended⟩
  · have happended := (hkept ⟨[], endpoint, 0, [], .server⟩).transactions
    rw [clearTransaction_nextTransaction] at happended
    exact .inr ⟨hstatus, happended⟩

theorem turnover_receive {s : Timed} {env : EngineEnv} {data : OcString} {endpoint : OcEndpoint}
    (hguard : Orderly s (.receive env data endpoint)) : ∃ l, Turnover s (.receive env data endpoint) l := by
  rcases coapReceive_transactions s.sys.engine env data endpoint with ⟨-, hsame⟩ | ⟨hstatus, happended⟩
  · refine ⟨_, turnover_kept ?_ ?_⟩
    · exact congrArg Engine.transactions hsame
    · exact congrArg Engine.nextTransaction hsame
  · unfold clearTransaction at happended
    by_cases htcp : endpoint.flags.tcp = true
    · rw [if_pos htcp] at happended
      exact ⟨_, turnover_same happended⟩
    · rw [if_neg htcp] at happended
      refine ⟨_, List.eraseP_sublist, fun t ht hconfirmable hgone => ?_, happended⟩
      exact .acknowledged _ _ _ (hguard hstatus (Bool.eq_false_iff.2 htcp) t (find?_of_not_mem_eraseP ht hgone) hconfirmable)

theorem turnover_closeSession (s : Timed) (endpoint : OcEndpoint) : ∃ l, Turnover s (.closeSession endpoint) l := by
  have hnext : (s.sys.step (.closeSession endpoint)).engine.nextTransaction = s.sys.engine.nextTransaction :=
    (dropped_ocTlsCloseConnection s.sys endpoint).nextTransaction
  cases hpeer : s.sys.ocTlsGetPeer endpoint with
  | none =>
    have hsame : s.sys.step (.closeSession endpoint) = s.sys := by
      show (s.sys.ocTlsCloseConnection endpoint).1 = s.sys
      unfold System.ocTlsCloseConnection
      rw [hpeer]
    exact ⟨_, turnover_kept (congrArg System.transactions hsame) hnext⟩
  | some peer =>
    obtain ⟨hpeers, htransactions⟩ := ocTlsCloseConnection_some hpeer
    obtain ⟨hmem, -⟩ := ocTlsGetPeer_spec hpeer
    refine ⟨s.sys.transactions.filter fun t => !ocEndpointCompare t.endpoint peer, List.filter_sublist, ?_, ?_⟩
    · intro t ht _ hgone
      refine .sessionEnded _ ⟨peer, hmem, ?_, ?_⟩
      · by_contra hother
        exact hgone (List.mem_filter.2 ⟨ht, by simp [Bool.eq_false_iff.2 hother]⟩)
      · rw [show (s.sys.step (.closeSession endpoint)).peers = _ from hpeers, List.count_erase_self]
        have hpos := List.count_pos_iff.2 hmem
        omega
    · rw [hnext, show (s.sys.step (.closeSession endpoint)).transactions = _ from htransactions]
      exact .refl _ _

theorem turnover {s : Timed} {e : Event} (hguard : Orderly s e) (he : ∀ main expired, e ≠ .check main expired) :
    ∃ l, Turnover s e l := by
  have hkept {k : BlockwiseKey} (h : Kept k s.sys.engine (s.sys.step e).engine) : ∃ l, Turnover s e l :=
    ⟨_, turnover_same h.transactions⟩
  cases e with
  | receive env data endpoint => exact turnover_receive hguard
  | check main expired => exact absurd rfl (he main expired)
  | transact env mid endpoint data =>
    exact hkept (quiet_coapSendTransaction (k := ⟨[], endpoint, 0, [], .server⟩) _ env _ mid endpoint data).toKept
  | newCb cb => exact ⟨_, turnover_kept rfl rfl⟩
  | freeCb id => exact ⟨_, turnover_kept rfl rfl⟩
  | openRequest env href endpoint method cb =>
    exact hkept (performed_openRequest (B := env.settings) (k := ⟨[], endpoint, 0, [], .server⟩) _ env href endpoint method cb).kept
  | openResponse env href endpoint method query payload size =>
    exact hkept (performed_openResponse _ env href endpoint method query payload size).kept
  | requestTimeout id => exact ⟨_, turnover_kept rfl rfl⟩
  | responseTimeout id => exact ⟨_, turnover_kept rfl rfl⟩
  | releaseResponse href endpoint query =>
    exact hkept (quiet_releaseResponse (k := ⟨[], endpoint, 0, [], .server⟩) _ _).toKept
  | openSession peer =>
    have hengine := step_openSession_engine s.sys peer
    exact ⟨_, turnover_kept (congrArg Engine.transactions hengine) (congrArg Engine.nextTransaction hengine)⟩
  | closeSession endpoint => exact turnover_closeSession s endpoint
  | shutdown => exact ⟨[], List.nil_sublist _, fun _ _ _ _ => .shutdown, .refl _ _⟩

/-! ## The invariant -/

/-- The transactions stand in the order of their addresses, the counter of each is the number of times its timer has
expired, and none has timed out. -/
structure Counted (s : Timed) : Prop where
  sorted : Sorted s.sys.transactions
  bound : ∀ t ∈ s.sys.transactions, t.id < s.sys.engine.nextTransaction
  counter : ∀ t ∈ s.sys.transactions, s.expiries t.id = t.retransCounter.toNat ∧ t.retransCounter < coapMaxRetransmit
  fresh : ∀ id, s.sys.engine.nextTransaction ≤ id → s.expiries id = 0

theorem counted_init (mid : UInt16) : Counted (.init mid) :=
  ⟨.nil, fun _ ht => absurd ht List.not_mem_nil, fun _ ht => absurd ht List.not_mem_nil, fun _ _ => rfl⟩

theorem Turnover.counted {s : Timed} {e : Event} {l : List Transaction} (h : Turnover s e l) (hs : Counted s)
    (hexpiries : (s.step e).expiries = s.expiries) : Counted (s.step e) := by
  obtain ⟨hle, new, htransactions, hnew, hsorted⟩ := h.added
  have htransactions' : (s.step e).sys.transactions = l ++ new := htransactions
  have hmem {t : Transaction} (ht : t ∈ (s.step e).sys.transactions) : t ∈ s.sys.transactions ∨ t ∈ new := by
    rw [htransactions'] at ht
    exact (List.mem_append.1 ht).imp (fun ht => h.stays.subset ht) id
  constructor
  · rw [htransactions']
    refine List.pairwise_append.2 ⟨hs.sorted.sublist h.stays, hsorted, fun t ht t' ht' => ?_⟩
    have hlt := hs.bound t (h.stays.subset ht)
    have hge := (hnew t' ht').1
    omega
  · intro t ht
    rcases hmem ht with ht | ht
    · exact (hs.bound t ht).trans_le hle
    · exact (hnew t ht).2.1
  · intro t ht
    rw [hexpiries]
    rcases hmem ht with ht | ht
    · exact hs.counter t ht
    · obtain ⟨hlo, -, hzero⟩ := hnew t ht
      rw [hs.fresh t.id hlo, hzero]
      exact ⟨rfl, by decide⟩
  · intro id hid
    rw [hexpiries]
    exact hs.fresh id (hle.trans hid)

theorem bump_counter (hlt : t.retransCounter < coapMaxRetransmit) (hlast : t.lastExpiry = false) :
    t.bump.retransCounter.toNat = t.retransCounter.toNat + 1 ∧ t.bump.retransCounter < coapMaxRetransmit := by
  have hbound : t.retransCounter.toNat < 4 := UInt8.lt_iff_toNat_lt.1 hlt
  have hbump : t.bump.retransCounter < coapMaxRetransmit := by
    have hlt' : t.retransCounter + 1 < coapMaxRetransmit := by simpa [Transaction.lastExpiry] using hlast
    exact hlt'
  refine ⟨?_, hbump⟩
  show (t.retransCounter + 1).toNat = _
  rw [UInt8.toNat_add]
  show (t.retransCounter.toNat + 1) % 256 = _
  omega

/-- The last expiry is the fourth one. -/
theorem lastExpiry_counter (hlt : t.retransCounter < coapMaxRetransmit) (hlast : t.lastExpiry = true) :
    t.retransCounter.toNat + 1 = coapMaxRetransmit.toNat := by
  have hbound : t.retransCounter.toNat < 4 := UInt8.lt_iff_toNat_lt.1 hlt
  have hmax : coapMaxRetransmit.toNat = 4 := rfl
  have hge : ¬(t.retransCounter + 1).toNat < 4 := by
    unfold Transaction.lastExpiry at hlast
    simp only [Bool.not_eq_true', decide_eq_false_iff_not] at hlast
    exact fun h => hlast (UInt8.lt_iff_toNat_lt.2 h)
  rw [UInt8.toNat_add] at hge
  have hone : (1 : UInt8).toNat = 1 := rfl
  omega

section Check

variable {s : Timed} {expired : List Nat}

theorem expiries_of_expired {main : Bool} (ht : t ∈ s.sys.transactions) (hid : t.id ∈ expired) :
    (s.step (.check main expired)).expiries t.id = s.expiries t.id + 1 := if_pos ⟨hid, t, ht, rfl⟩

theorem expiries_of_not_expired {main : Bool} {id : Nat} (hid : id ∉ expired) :
    (s.step (.check main expired)).expiries id = s.expiries id := if_neg fun h => hid h.1

theorem counted_check (hs : Counted s) (hsession : ∀ t ∈ s.sys.transactions, t.id ∈ expired → HasSession s.sys t) :
    Counted (s.step (.check true expired)) := by
  obtain ⟨hsorted, horigin, -, -⟩ := coapCheckTransactions_spec hs.sorted hsession
  have hnext : (s.step (.check true expired)).sys.engine.nextTransaction = s.sys.engine.nextTransaction :=
    (dropped_checkFrom true s.sys expired _).nextTransaction
  refine ⟨hsorted, fun u hu => ?_, fun u hu => ?_, fun id hid => ?_⟩
  · rw [hnext]
    rcases horigin u hu with ⟨hmem, -⟩ | ⟨t, ht, ⟨rfl, -⟩⟩
    · exact hs.bound u hmem
    · exact hs.bound t ht
  · rcases horigin u hu with ⟨hmem, hnot⟩ | ⟨t, ht, ⟨rfl, hexpired, -, hlast⟩⟩
    · rw [expiries_of_not_expired hnot]
      exact hs.counter u hmem
    · obtain ⟨hcount, hlt⟩ := hs.counter t ht
      obtain ⟨hbump, hlt'⟩ := bump_counter hlt hlast
      refine ⟨?_, hlt'⟩
      rw [hbump, ← hcount]
      show (s.step (.check true expired)).expiries t.id = _
      exact expiries_of_expired ht hexpired
  · rw [hnext] at hid
    have hnone : ¬(id ∈ expired ∧ ∃ t ∈ s.sys.transactions, t.id = id) := by
      rintro ⟨-, t, ht, rfl⟩
      have hlt := hs.bound t ht
      omega
    rw [show (s.step (.check true expired)).expiries id = s.expiries id from if_neg hnone]
    exact hs.fresh id hid

end Check

theorem step_expiries {s : Timed} {e : Event} (he : ∀ main expired, e ≠ .check main expired) :
    (s.step e).expiries = s.expiries := by
  unfold Timed.step
  dsimp only
  split
  · exact absurd rfl (he _ _)
  · rfl

theorem check_or_not (e : Event) : (∃ main expired, e = .check main expired) ∨ ∀ main expired, e ≠ .check main expired := by
  by_cases h : ∃ main expired, e = .check main expired
  · exact .inl h
  · exact .inr fun main expired he => h ⟨main, expired, he⟩

theorem counted_step (s : Timed) (e : Event) (hs : Counted s) (hguard : Orderly s e) : Counted (s.step e) := by
  rcases check_or_not e with ⟨main, expired, rfl⟩ | he
  · obtain ⟨rfl, hsession⟩ := hguard
    exact counted_check hs hsession
  · obtain ⟨l, hturnover⟩ := turnover hguard he
    exact hturnover.counted hs (step_expiries he)

/-! ## Leaving -/

theorem leaves_of_gone {s : Timed} {e : Event} (hs : Counted s) (hguard : Orderly s e)
    (ht : t ∈ s.sys.transactions) (hconfirmable : t.confirmable = true)
    (hgone : ∀ t' ∈ (s.sys.step e).transactions, t'.id ≠ t.id) : Leaves s t e := by
  rcases check_or_not e with ⟨main, expired, rfl⟩ | he
  · obtain ⟨rfl, hsession⟩ := hguard
    obtain ⟨-, -, hfate, -⟩ := coapCheckTransactions_spec hs.sorted hsession
    rcases hfate t ht hconfirmable with ⟨t', ht', hid⟩ | ⟨hexpired, hlast⟩ | hended
    · exact absurd hid (hgone t' ht')
    · obtain ⟨hcount, hlt⟩ := hs.counter t ht
      refine .timedOut _ _ ?_
      rw [expiries_of_expired ht hexpired, hcount]
      exact lastExpiry_counter hlt hlast
    · exact .sessionEnded _ hended
  · obtain ⟨l, hturnover⟩ := turnover hguard he
    refine hturnover.leaves t ht hconfirmable fun hmem => ?_
    obtain ⟨-, new, htransactions, -⟩ := hturnover.added
    exact hgone t (htransactions ▸ List.mem_append_left _ hmem) rfl

theorem resentBy_mem {s : Timed} {e : Event} (hs : Counted s) (hguard : Orderly s e) {u : Transaction}
    (hu : u ∈ resentBy s.sys e) : ∃ t ∈ s.sys.transactions, u.id = t.id ∧ (t.confirmable = true → t.lastExpiry = false) := by
  rcases check_or_not e with ⟨main, expired, rfl⟩ | he
  · obtain ⟨rfl, hsession⟩ := hguard
    obtain ⟨-, -, -, hresent⟩ := coapCheckTransactions_spec hs.sorted hsession
    exact hresent u hu
  · unfold resentBy at hu
    split at hu
    · exact absurd rfl (he _ _)
    · cases hu

/-- The number of expiries never goes down. -/
theorem expiries_mono (id : Nat) : ∀ (events : List Event) (s : Timed),
    s.expiries id ≤ (runFrom Timed.step s events).expiries id
  | [], _ => Nat.le_refl _
  | e :: events, s => by
    have hstep : s.expiries id ≤ (s.step e).expiries id := by
      unfold Timed.step
      dsimp only
      split
      · split
        · exact Nat.le_succ _
        · exact Nat.le_refl _
      · exact Nat.le_refl _
    exact hstep.trans (expiries_mono id events (s.step e))

/-- In every run in which a message over UDP with the message id of a confirmable transaction is an acknowledgement
or a reset from its endpoint, and in which a secured transaction that is about to time out has a session: a
confirmable transaction leaves the list only when it is acknowledged, when it has timed out after
`COAP_MAX_RETRANSMIT` expiries, or when its session ends or the stack is shut down; and one that has timed out at
any earlier point is not in the list and is not sent again. -/
theorem transaction_leaves (mid : UInt16) (events : List Event) (hrun : Guarded Timed.step Orderly (.init mid) events)
    (before : List Event) (e : Event) (after : List Event) (hevents : events = before ++ e :: after) :
    let s := runFrom Timed.step (.init mid) before
    (∀ t ∈ s.sys.transactions, t.confirmable = true → (∀ t' ∈ (s.step e).sys.transactions, t'.id ≠ t.id) → Leaves s t e) ∧
    ∀ earlier, earlier <+: before → ∀ id,
      coapMaxRetransmit.toNat ≤ (runFrom Timed.step (.init mid) earlier).expiries id →
      (∀ t ∈ s.sys.transactions, t.id ≠ id) ∧ ∀ t ∈ resentBy s.sys e, t.id ≠ id := by
  intro s
  rw [hevents] at hrun
  obtain ⟨hbefore, hguard⟩ := hrun.at_step
  have hs : Counted s := run_invariant counted_step before _ (counted_init mid) hbefore
  refine ⟨fun t ht hconfirmable hgone => leaves_of_gone hs hguard ht hconfirmable hgone, ?_⟩
  rintro earlier ⟨later, rfl⟩ id hid
  have hmono : (runFrom Timed.step (.init mid) earlier).expiries id ≤ s.expiries id := by
    have hsplit : s = runFrom Timed.step (runFrom Timed.step (.init mid) earlier) later := List.foldl_append
    rw [hsplit]
    exact expiries_mono id later _
  have hlisted {t : Transaction} (ht : t ∈ s.sys.transactions) : t.id ≠ id := by
    rintro rfl
    obtain ⟨hcount, hlt⟩ := hs.counter t ht
    have hlt' := UInt8.lt_iff_toNat_lt.1 hlt
    omega
  refine ⟨fun t ht => hlisted ht, fun u hu => ?_⟩
  obtain ⟨t, ht, hid', -⟩ := resentBy_mem hs hguard hu
  rw [hid']
  exact hlisted ht

/-- A confirmable GET with message id 1, to an endpoint over UDP. -/
def sampleTransact (endpoint : OcEndpoint) : Event := .transact sampleEnv 1 endpoint [0x40, 0x01, 0x00, 0x01]

theorem transaction_leaves_ack :
    let s := runFrom Timed.step (.init 0) [sampleTransact (peer false)]
    ∃ t ∈ s.sys.transactions, t.confirmable = true ∧
      Leaves s t (.receive sampleEnv [0x60, 0x00, 0x00, 0x01] (peer false)) := by
  refine ⟨⟨0, 1, peer false, [0x40, 0x01, 0x00, 0x01], 0⟩, by decide, by decide, ?_⟩
  refine (transaction_leaves 0 [sampleTransact (peer false), .receive sampleEnv [0x60, 0x00, 0x00, 0x01] (peer false)]
    (by decide) [sampleTransact (peer false)] (.receive sampleEnv [0x60, 0x00, 0x00, 0x01] (peer false)) []
    rfl).1 _ (by decide) (by decide) (by decide)

theorem stays_without_session {s : Timed} (htransactions : s.sys.transactions = [t])
    (hpeers : s.sys.peers = []) (hconfirmable : t.confirmable = true) (hsecured : t.endpoint.flags.secured = true) :
    let s' := s.step (.check true [t.id])
    s'.sys.transactions = [t.bump] ∧ s'.sys.peers = [] ∧ s'.expiries t.id = s.expiries t.id + 1 := by
  have hreplace : replaceTransaction s.sys.transactions t.bump = [t.bump] := by
    rw [htransactions]
    exact congrArg (fun u => [u]) (if_pos rfl)
  have hexpire : (expire true s.sys t).sys.transactions = [t.bump] ∧ (expire true s.sys t).sys.peers = [] := by
    have hnone : (s.sys.setTransactions [t.bump]).ocTlsGetPeer t.bump.endpoint = none := by
      unfold System.ocTlsGetPeer
      rw [show (s.sys.setTransactions [t.bump]).peers = [] from hpeers]
      rfl
    have hsecured' : t.bump.endpoint.flags.secured = true := hsecured
    rw [expire_eq, if_pos hconfirmable, hreplace]
    split
    · refine ⟨?_, ?_⟩
      · show (timeOut _ t.bump).1.transactions = _
        rw [timeOut_transactions, if_pos hsecured', hnone]
        rfl
      · show (timeOut _ t.bump).1.peers = _
        rw [timeOut_peers, if_pos hsecured', hnone]
        exact hpeers
    · exact ⟨rfl, hpeers⟩
  have hcheck : (coapCheckTransactions true s.sys [t.id]).sys = (expire true s.sys t).sys := by
    unfold coapCheckTransactions
    rw [htransactions, checkFrom, if_pos List.mem_cons_self]
    have hfollowing : (expire true s.sys t).following s.sys [] = [] := by
      refine if_neg ?_
      rw [hexpire.1, htransactions]
      exact Nat.lt_irrefl _ ∘ Nat.lt_of_succ_lt
    dsimp only
    rw [hfollowing, checkFrom]
  refine ⟨?_, ?_, expiries_of_expired (htransactions ▸ List.mem_cons_self) List.mem_cons_self⟩
  · rw [← hexpire.1, ← hcheck]
    rfl
  · rw [← hexpire.2, ← hcheck]
    rfl

/-- A request of another endpoint with the same message id clears a transaction, and a secured transaction without
a session is still in the list when it has timed out. -/
theorem transaction_lost :
    (¬∀ (mid : UInt16) (events : List Event) (e : Event) (t : Transaction),
      t ∈ (runFrom Timed.step (.init mid) events).sys.transactions → t.confirmable = true →
      (∀ t' ∈ ((runFrom Timed.step (.init mid) events).step e).sys.transactions, t'.id ≠ t.id) →
      Leaves (runFrom Timed.step (.init mid) events) t e) ∧
    ¬∀ (mid : UInt16) (events : List Event) (id : Nat),
      coapMaxRetransmit.toNat ≤ (runFrom Timed.step (.init mid) events).expiries id →
      ∀ t ∈ (runFrom Timed.step (.init mid) events).sys.transactions, t.id ≠ id := by
  constructor
  · intro h
    let other : OcEndpoint := { peer false with address := [2] }
    have hleaves := h 0 [sampleTransact (peer false)] (.receive sampleEnv [0x40, 0x01, 0x00, 0x01] other)
      ⟨0, 1, peer false, [0x40, 0x01, 0x00, 0x01], 0⟩ (by decide) (by decide) (by decide)
    cases hleaves with
    | acknowledged _ _ _ hack => exact absurd hack (by decide)
    | sessionEnded _ hended =>
      obtain ⟨_, hpeer, -⟩ := hended
      cases hpeer
  · intro h
    let secured : OcEndpoint := { peer false with flags := { (peer false).flags with secured := true } }
    let t : Transaction := ⟨0, 1, secured, [0x40, 0x01, 0x00, 0x01], 0⟩
    let s₁ := runFrom Timed.step (.init 0) [sampleTransact secured]
    obtain ⟨h₂, hp₂, he₂⟩ := stays_without_session (s := s₁) (t := t) (by decide) rfl (by decide) rfl
    obtain ⟨h₃, hp₃, he₃⟩ := stays_without_session h₂ hp₂ (by decide) rfl
    obtain ⟨h₄, hp₄, he₄⟩ := stays_without_session h₃ hp₃ (by decide) rfl
    obtain ⟨h₅, hp₅, he₅⟩ := stays_without_session h₄ hp₄ (by decide) rfl
    have hexpiries : (runFrom Timed.step (.init 0) [sampleTransact secured, .check true [0], .check true [0],
        .check true [0], .check true [0]]).expiries 0 = 4 := by
      have he := he₂.trans (congrArg (· + 1) (rfl : s₁.expiries t.id = 0))
      exact he₅.trans (congrArg (· + 1) (he₄.trans (congrArg (· + 1) (he₃.trans (congrArg (· + 1) he)))))
    refine h 0 [sampleTransact secured, .check true [0], .check true [0], .check true [0], .check true [0]] 0
      (Nat.le_of_eq hexpiries.symm) t.bump.bump.bump.bump ?_ rfl
    exact h₅ ▸ List.mem_cons_self

end SmartGarage
