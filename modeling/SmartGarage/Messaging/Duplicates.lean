/-
The request history: which requests are dropped as duplicates. The history is one ring for all clients, is
keyed by message id and device, and starts with zeros, so that a request can be dropped because of another
client's request, or of none at all.
-/
import SmartGarage.Lib.Ring
import SmartGarage.Messaging.Events

namespace SmartGarage

open Runs

/-! ## The history -/

/-- What is stored of a request. -/
def historyEntry (mid : UInt16) (endpoint : OcEndpoint) : UInt16 × UInt8 := (mid, UInt8.ofNat endpoint.device)

/-- A request as the history sees it. -/
structure Arrival where
  mid : UInt16
  endpoint : OcEndpoint
deriving DecidableEq

/-- The entry of a request that has been recorded. -/
def Arrival.entry (a : Arrival) : UInt16 × UInt8 := historyEntry a.mid a.endpoint

/-- The request that a message carries. -/
def arrival (env : EngineEnv) (data : OcString) (endpoint : OcEndpoint) : Option Arrival :=
  let (status, message) := parseMessage env data endpoint
  if status = coapNoError ∧ isRequest message = true then some ⟨message.mid, endpoint⟩ else none

/-- The request of a message that is checked against the history: over UDP, and not confirmable. -/
def checkedArrival (env : EngineEnv) (data : OcString) (endpoint : OcEndpoint) : Option Arrival :=
  if endpoint.flags.tcp = false ∧ (parseMessage env data endpoint).2.type ≠ .con then arrival env data endpoint
  else none

/-- `coap_receive` drops the message as a duplicate. -/
def droppedAsDuplicate (st : Engine) (env : EngineEnv) (data : OcString) (endpoint : OcEndpoint) : Bool :=
  let (status, message) := parseMessage env data endpoint
  decide (status = coapNoError) && isRequest message &&
    (initResponse message endpoint (clearTransaction st message endpoint)).1.isNone

/-! ## Runs -/

/-- The system, and the requests that have been recorded, the oldest first. -/
structure Recorded where
  sys : System
  recorded : List Arrival

/-- One event, with the request that it records. -/
def Recorded.step (s : Recorded) (e : Event) : Recorded :=
  ⟨s.sys.step e,
    match e with
    | .receive env data endpoint =>
      if droppedAsDuplicate s.sys.engine env data endpoint then s.recorded
      else s.recorded ++ (checkedArrival env data endpoint).toList
    | _ => s.recorded⟩

/-- The start. -/
def Recorded.init (mid : UInt16) : Recorded := ⟨.init mid, []⟩

/-- No other client is mixed up with this one: as long as the history is not full, message id 0 is not used on
device 0, and the requests that the history holds under this entry come from the same endpoint. -/
def Distinguished (s : Recorded) (a : Arrival) : Prop :=
  (s.recorded.length < ocRequestHistorySize → a.entry ≠ (0, 0)) ∧
    ∀ r ∈ s.recorded.drop (s.recorded.length - ocRequestHistorySize), r.entry = a.entry →
      ocEndpointCompare r.endpoint a.endpoint = true

instance (s : Recorded) (a : Arrival) : Decidable (Distinguished s a) := inferInstanceAs (Decidable (_ ∧ _))

/-- The condition on an event. -/
def Distinguishing (s : Recorded) : Event → Prop
  | .receive env data endpoint => ∀ a ∈ checkedArrival env data endpoint, Distinguished s a
  | _ => True

instance (s : Recorded) : ∀ e, Decidable (Distinguishing s e)
  | .receive env data endpoint =>
    inferInstanceAs (Decidable (∀ a ∈ checkedArrival env data endpoint, Distinguished s a))
  | .check .. | .transact .. | .newCb .. | .freeCb .. | .openRequest .. | .openResponse .. | .requestTimeout ..
  | .responseTimeout .. | .releaseResponse .. | .openSession .. | .closeSession .. | .shutdown => .isTrue trivial

/-! ## One message -/

section Message

variable (st : Engine) (env : EngineEnv) (data : OcString) (endpoint : OcEndpoint)

theorem initResponse_history (message : CoapPacket) :
    let entry := historyEntry message.mid endpoint
    let r := initResponse message endpoint st
    (endpoint.flags.tcp = false ∧ message.type ≠ .con ∧ entry ∈ st.history ∧ r.1 = none ∧ r.2 = st) ∨
    (endpoint.flags.tcp = false ∧ message.type ≠ .con ∧ entry ∉ st.history ∧ r.1.isSome = true ∧
      r.2.history = st.history.set st.idx entry ∧ r.2.idx = (st.idx + 1) % ocRequestHistorySize) ∨
    (¬(endpoint.flags.tcp = false ∧ message.type ≠ .con) ∧ r.1.isSome = true ∧ r.2 = st) := by
  unfold initResponse
  dsimp only
  by_cases htcp : endpoint.flags.tcp = true
  · rw [if_pos htcp]
    exact .inr (.inr ⟨fun h => by simp [htcp] at h, rfl, rfl⟩)
  · rw [if_neg htcp]
    have hudp : endpoint.flags.tcp = false := Bool.eq_false_iff.2 htcp
    by_cases hcon : message.type = .con
    · rw [if_pos hcon]
      exact .inr (.inr ⟨fun h => h.2 hcon, rfl, rfl⟩)
    · rw [if_neg hcon]
      by_cases hmem : historyEntry message.mid endpoint ∈ st.history
      · refine .inl ⟨hudp, hcon, hmem, ?_⟩
        have hcontains : st.history.contains (message.mid, UInt8.ofNat endpoint.device) = true :=
          List.contains_iff_mem.2 hmem
        rw [if_pos hcontains]
        exact ⟨rfl, rfl⟩
      · refine .inr (.inl ⟨hudp, hcon, hmem, ?_⟩)
        have hcontains : ¬st.history.contains (message.mid, UInt8.ofNat endpoint.device) = true :=
          fun h => hmem (List.contains_iff_mem.1 h)
        rw [if_neg hcontains]
        split
        · exact ⟨rfl, rfl, rfl⟩
        · exact ⟨rfl, rfl, rfl⟩

theorem clearTransaction_history (message : CoapPacket) :
    (clearTransaction st message endpoint).history = st.history ∧
      (clearTransaction st message endpoint).idx = st.idx := by
  unfold clearTransaction
  split
  · exact ⟨rfl, rfl⟩
  · exact ⟨rfl, rfl⟩

theorem droppedAsDuplicate_iff :
    droppedAsDuplicate st env data endpoint = true ↔
      ∃ a, checkedArrival env data endpoint = some a ∧ a.entry ∈ st.history := by
  unfold droppedAsDuplicate checkedArrival arrival
  generalize parseMessage env data endpoint = r
  obtain ⟨status, message⟩ := r
  dsimp only
  have hclear := clearTransaction_history st endpoint message
  have hinit := initResponse_history (clearTransaction st message endpoint) endpoint message
  rw [hclear.1, hclear.2] at hinit
  constructor
  · intro h
    simp only [Bool.and_eq_true, decide_eq_true_eq] at h
    rcases hinit with ⟨hudp, hcon, hmem, -, -⟩ | ⟨-, -, -, hsome, -⟩ | ⟨-, hsome, -⟩
    · exact ⟨⟨message.mid, endpoint⟩, by rw [if_pos ⟨hudp, hcon⟩, if_pos h.1], hmem⟩
    · rw [← Option.not_isSome, hsome] at h
      exact absurd h.2 (by decide)
    · rw [← Option.not_isSome, hsome] at h
      exact absurd h.2 (by decide)
  · rintro ⟨a, ha, hmem⟩
    split at ha
    · rename_i hchecked
      split at ha
      · rename_i hrequest
        rw [← Option.some.inj ha] at hmem
        rcases hinit with ⟨-, -, -, hnone, -⟩ | ⟨-, -, hnew, -⟩ | ⟨hno, -⟩
        · simp [hrequest.1, hrequest.2, hnone]
        · exact absurd hmem hnew
        · exact absurd hchecked hno
      · cases ha
    · cases ha

/-- A message that is dropped clears the transaction with its message id, as every message does, and has no
other effect. -/
theorem coapReceive_of_dropped (h : droppedAsDuplicate st env data endpoint = true) :
    coapReceive env st data endpoint =
      (clearTransaction st (parseMessage env data endpoint).2 endpoint, []) := by
  unfold droppedAsDuplicate at h
  unfold coapReceive
  generalize parseMessage env data endpoint = r at h ⊢
  obtain ⟨status, message⟩ := r
  simp only [Bool.and_eq_true, decide_eq_true_eq] at h
  obtain ⟨⟨hstatus, hrequest⟩, hnone⟩ := h
  have hsignal : coapCheckSignalMessage message = false := (isRequest_code hrequest).2
  have hinit := initResponse_history (clearTransaction st message endpoint) endpoint message
  dsimp only at hinit ⊢
  rw [if_pos hstatus, if_pos hrequest, hsignal]
  rcases hinit with ⟨-, -, -, -, hsame⟩ | ⟨-, -, -, hsome, -⟩ | ⟨-, hsome, -⟩
  · unfold receiveRequest
    generalize initResponse message endpoint (clearTransaction st message endpoint) = r at hnone hsame
    obtain ⟨_ | response, st'⟩ := r
    · cases hsame
      rfl
    · exact absurd hnone (by simp)
  · rw [← Option.not_isSome, hsome] at hnone
    exact absurd hnone (by decide)
  · rw [← Option.not_isSome, hsome] at hnone
    exact absurd hnone (by decide)

theorem coapReceive_history (hdropped : droppedAsDuplicate st env data endpoint = false) :
    let st' := (coapReceive env st data endpoint).1
    match checkedArrival env data endpoint with
    | some a => st'.history = st.history.set st.idx a.entry ∧ st'.idx = (st.idx + 1) % ocRequestHistorySize
    | none => st'.history = st.history ∧ st'.idx = st.idx := by
  have hkept := coapReceive_kept st env data endpoint
  unfold droppedAsDuplicate at hdropped
  unfold checkedArrival arrival
  generalize parseMessage env data endpoint = r at hdropped hkept ⊢
  obtain ⟨status, message⟩ := r
  have hclear := clearTransaction_history st endpoint message
  dsimp only at hdropped hkept ⊢
  rcases hkept with ⟨hstatus, hst⟩ | ⟨hstatus, hrequest, hkept⟩ | ⟨-, hrequest, hkept⟩
  · rw [if_neg fun h : status = coapNoError ∧ _ => hstatus h.1, ite_self, hst]
    exact ⟨rfl, rfl⟩
  · have hinit := initResponse_history (clearTransaction st message endpoint) endpoint message
    rw [hclear.1, hclear.2] at hinit
    rw [hkept.history, hkept.idx]
    rcases hinit with ⟨-, -, -, hnone, -⟩ | ⟨hudp, hcon, -, -, hhistory, hidx⟩ | ⟨hno, -, hsame⟩
    · simp [hstatus, hrequest, hnone] at hdropped
    · rw [if_pos ⟨hudp, hcon⟩, if_pos ⟨hstatus, hrequest⟩]
      exact ⟨hhistory, hidx⟩
    · rw [if_neg hno, hsame]
      exact hclear
  · have hkept := hkept (requestKey message endpoint)
    rw [if_neg fun h : status = coapNoError ∧ _ => absurd h.2 (by simp [hrequest]), ite_self, hkept.history, hkept.idx]
    exact hclear

end Message

/-! ## Every run -/

/-- The cells of the history hold the entries of the last requests that were recorded. -/
def HistoryHolds (s : Recorded) : Prop :=
  Ring.Holds ((0, 0) : UInt16 × UInt8) ocRequestHistorySize s.sys.engine.history s.sys.engine.idx
    (s.recorded.map Arrival.entry)

theorem historyHolds_init (mid : UInt16) : HistoryHolds (.init mid) := .init (by decide)

theorem historyHolds_step (s : Recorded) (e : Event) (h : HistoryHolds s) : HistoryHolds (s.step e) := by
  -- only a datagram that is taken is entered
  have hother (he : ∀ env data endpoint, e ≠ .receive env data endpoint) (hrecorded : (s.step e).recorded = s.recorded) :
      HistoryHolds (s.step e) := by
    obtain ⟨hhistory, hidx⟩ := step_history s.sys e he
    unfold HistoryHolds
    rw [hrecorded]
    show Ring.Holds _ _ (s.sys.step e).engine.history (s.sys.step e).engine.idx _
    rw [hhistory, hidx]
    exact h
  cases e with
  | receive env data endpoint =>
    unfold HistoryHolds Recorded.step System.step
    dsimp only
    cases hdropped : droppedAsDuplicate s.sys.engine env data endpoint with
    | true =>
      rw [coapReceive_of_dropped _ _ _ _ hdropped, if_pos rfl]
      dsimp only
      obtain ⟨hhistory, hidx⟩ := clearTransaction_history s.sys.engine endpoint
        (parseMessage env data endpoint).2
      rw [hhistory, hidx]
      exact h
    | false =>
      rw [if_neg Bool.false_ne_true]
      have hhistory := coapReceive_history s.sys.engine env data endpoint hdropped
      dsimp only at hhistory
      cases ha : checkedArrival env data endpoint with
      | none =>
        rw [ha] at hhistory
        rw [hhistory.1, hhistory.2, Option.toList_none, List.append_nil]
        exact h
      | some a =>
        rw [ha] at hhistory
        rw [hhistory.1, hhistory.2, Option.toList_some, List.map_append]
        exact h.push a.entry
  | check main expired => exact hother (by simp) rfl
  | transact env mid endpoint data => exact hother (by simp) rfl
  | newCb cb => exact hother (by simp) rfl
  | freeCb id => exact hother (by simp) rfl
  | openRequest env href endpoint method cb => exact hother (by simp) rfl
  | openResponse env href endpoint method query payload size => exact hother (by simp) rfl
  | requestTimeout id => exact hother (by simp) rfl
  | responseTimeout id => exact hother (by simp) rfl
  | releaseResponse href endpoint query => exact hother (by simp) rfl
  | openSession peer => exact hother (by simp) rfl
  | closeSession endpoint => exact hother (by simp) rfl
  | shutdown => exact hother (by simp) rfl

/-- An earlier request with the same message id from the same endpoint. -/
def Earlier (events : List Event) (a : Arrival) : Prop :=
  ∃ env data endpoint, .receive env data endpoint ∈ events ∧
    ∃ r, arrival env data endpoint = some r ∧ r.mid = a.mid ∧ ocEndpointCompare r.endpoint a.endpoint = true

theorem arrival_of_checkedArrival {env : EngineEnv} {data : OcString} {endpoint : OcEndpoint} {a : Arrival}
    (h : checkedArrival env data endpoint = some a) : arrival env data endpoint = some a := by
  unfold checkedArrival at h
  split at h
  · exact h
  · cases h

/-- What is recorded has arrived. -/
theorem arrived_of_recorded : ∀ (events : List Event) (s : Recorded) (r : Arrival),
    r ∈ (runFrom Recorded.step s events).recorded → r ∈ s.recorded ∨
      ∃ env data endpoint, .receive env data endpoint ∈ events ∧ arrival env data endpoint = some r
  | [], _, _, hr => .inl hr
  | e :: events, s, r, hr => by
    rcases arrived_of_recorded events (s.step e) r hr with hr | ⟨env, data, endpoint, hmem, harrival⟩
    · unfold Recorded.step at hr
      dsimp only at hr
      split at hr
      · rename_i env data endpoint _
        split at hr
        · exact .inl hr
        · rcases List.mem_append.1 hr with hr | hr
          · exact .inl hr
          · refine .inr ⟨env, data, endpoint, List.mem_cons_self, ?_⟩
            exact arrival_of_checkedArrival (Option.mem_toList.1 hr)
      · exact .inl hr
    · exact .inr ⟨env, data, endpoint, List.mem_cons_of_mem _ hmem, harrival⟩

/-- In every state that is reached, a request is dropped when the history still holds a zero of the start and
its entry is zero, or when one of the last requests that were recorded has the same entry. -/
theorem dropped_iff (mid : UInt16) (events : List Event) (env : EngineEnv) (data : OcString) (endpoint : OcEndpoint) :
    let s := runFrom Recorded.step (.init mid) events
    droppedAsDuplicate s.sys.engine env data endpoint = true ↔ ∃ a, checkedArrival env data endpoint = some a ∧
      ((a.entry = (0, 0) ∧ s.recorded.length < ocRequestHistorySize) ∨
        ∃ r ∈ s.recorded.drop (s.recorded.length - ocRequestHistorySize), r.entry = a.entry) := by
  intro s
  have hholds : HistoryHolds s := run_always historyHolds_step events _ (historyHolds_init mid)
  rw [droppedAsDuplicate_iff]
  refine exists_congr fun a => and_congr_right fun _ => ?_
  rw [hholds.mem_iff, List.length_map, ← List.map_drop, List.mem_map]

/-- In every run in which no message id and device are shared by two clients within the last 250 requests, and
in which message id 0 is not used on device 0 before the history is full, a request is dropped as a duplicate
only when an earlier request had the same message id and came from the same endpoint. -/
theorem dropped_only_duplicates (mid : UInt16) (events : List Event)
    (hrun : Guarded Recorded.step Distinguishing (.init mid) events) (before : List Event) (env : EngineEnv)
    (data : OcString) (endpoint : OcEndpoint) (after : List Event)
    (hevents : events = before ++ .receive env data endpoint :: after)
    (hdropped : droppedAsDuplicate (runFrom System.step (.init mid) before).engine env data endpoint = true) :
    ∃ a, checkedArrival env data endpoint = some a ∧ Earlier before a := by
  rw [hevents] at hrun
  obtain ⟨-, hguard⟩ := hrun.at_step
  have hsys : (runFrom Recorded.step (.init mid) before).sys = runFrom System.step (.init mid) before :=
    runFrom_map (f := Recorded.sys) (fun _ _ => rfl) before _
  rw [← hsys] at hdropped
  obtain ⟨a, ha, hentry⟩ := (dropped_iff mid before env data endpoint).1 hdropped
  obtain ⟨hzero, hsame⟩ := hguard a ha
  refine ⟨a, ha, ?_⟩
  rcases hentry with ⟨hentry, hlength⟩ | ⟨r, hr, hentry⟩
  · exact absurd hentry (hzero hlength)
  · rcases arrived_of_recorded before _ r (List.mem_of_mem_drop hr) with hr' | ⟨env', data', endpoint', hmem, harrival⟩
    · cases hr'
    · exact ⟨env', data', endpoint', hmem, r, harrival, congrArg Prod.fst hentry, hsame r hr hentry⟩

/-- A non-confirmable GET for the path "a". -/
def sampleGet (mid : UInt8) : OcString := [0x50, 0x01, 0x00, mid, 0xB1, 0x61]

theorem dropped_only_duplicates_repeated :
    ∃ a, checkedArrival sampleEnv (sampleGet 7) (peer false) = some a ∧
      Earlier [.receive sampleEnv (sampleGet 7) (peer false)] a :=
  dropped_only_duplicates 0
    [.receive sampleEnv (sampleGet 7) (peer false), .receive sampleEnv (sampleGet 7) (peer false)]
    (by decide) [.receive sampleEnv (sampleGet 7) (peer false)] sampleEnv (sampleGet 7) (peer false) []
    rfl (by decide)

/-- The first request of all is dropped when it has message id 0. -/
theorem dropped_first_request :
    ¬∀ (mid : UInt16) (events : List Event) (env : EngineEnv) (data : OcString) (endpoint : OcEndpoint) (a : Arrival),
      checkedArrival env data endpoint = some a →
      droppedAsDuplicate (runFrom System.step (.init mid) events).engine env data endpoint = true → Earlier events a := by
  intro h
  obtain ⟨_, _, _, hmem, -⟩ := h 0 [] sampleEnv (sampleGet 0) (peer false) ⟨0, peer false⟩ (by decide)
    (by decide)
  cases hmem

/-- The requests of the events that are checked against the history. -/
def checkedArrivals (events : List Event) : List Arrival :=
  events.flatMap fun
    | .receive env data endpoint => (checkedArrival env data endpoint).toList
    | _ => []

theorem recorded_within : ∀ (events : List Event) (s : Recorded), ∃ l, l.length ≤ (checkedArrivals events).length ∧
    (runFrom Recorded.step s events).recorded = s.recorded ++ l
  | [], s => ⟨[], Nat.le_refl _, (List.append_nil _).symm⟩
  | e :: events, s => by
    have hstep : ∃ l, l.length ≤ (checkedArrivals [e]).length ∧ (s.step e).recorded = s.recorded ++ l := by
      have hnone : s.recorded = s.recorded ++ [] := (List.append_nil _).symm
      cases e with
      | receive env data endpoint =>
        unfold Recorded.step
        dsimp only
        split
        · exact ⟨[], Nat.zero_le _, hnone⟩
        · exact ⟨_, by simp [checkedArrivals], rfl⟩
      | _ => exact ⟨[], Nat.zero_le _, hnone⟩
    obtain ⟨l, hl, hrecorded⟩ := hstep
    obtain ⟨l', hl', hrecorded'⟩ := recorded_within events (s.step e)
    refine ⟨l ++ l', ?_, ?_⟩
    · rw [show checkedArrivals (e :: events) = checkedArrivals [e] ++ checkedArrivals events by simp [checkedArrivals],
        List.length_append, List.length_append]
      exact Nat.add_le_add hl hl'
    · show (runFrom Recorded.step (s.step e) events).recorded = _
      rw [hrecorded', hrecorded, List.append_assoc]

/-- A request that has been accepted is not accepted again: in every run, one with the same message id and device is dropped
as long as fewer than 250 requests have been checked in between. -/
theorem repeated_dropped (mid : UInt16) (before between : List Event) {env env' : EngineEnv} {data data' : OcString}
    {endpoint endpoint' : OcEndpoint} {a a' : Arrival} (ha : checkedArrival env data endpoint = some a)
    (ha' : checkedArrival env' data' endpoint' = some a') (hentry : a.entry = a'.entry)
    (haccepted : droppedAsDuplicate (runFrom System.step (.init mid) before).engine env data endpoint = false)
    (hbetween : (checkedArrivals between).length < ocRequestHistorySize) :
    droppedAsDuplicate (runFrom System.step (.init mid) (before ++ .receive env data endpoint :: between)).engine
      env' data' endpoint' = true := by
  have hsys : ∀ events, (runFrom Recorded.step (.init mid) events).sys = runFrom System.step (.init mid) events :=
    fun events => runFrom_map (f := Recorded.sys) (fun _ _ => rfl) events _
  rw [← hsys] at haccepted ⊢
  refine (dropped_iff mid _ env' data' endpoint').2 ⟨a', ha', .inr ⟨a, ?_, hentry⟩⟩
  rw [runFrom, List.foldl_append, List.foldl_cons]
  change a ∈ (runFrom _ (Recorded.step (runFrom Recorded.step _ before) _) between).recorded.drop
    ((runFrom _ (Recorded.step (runFrom Recorded.step _ before) _) between).recorded.length - _)
  -- the request is recorded, and what is recorded behind it does not fill the history
  generalize runFrom Recorded.step (.init mid) before = s at haccepted
  have hrecorded : (s.step (.receive env data endpoint)).recorded = s.recorded ++ [a] := by
    unfold Recorded.step
    dsimp only
    rw [haccepted, ha]
    rfl
  obtain ⟨l, hl, hrun⟩ := recorded_within between (s.step (.receive env data endpoint))
  rw [hrun, hrecorded, List.append_assoc, List.drop_append_of_le_length]
  · exact List.mem_append_right _ (List.mem_append_left _ (List.mem_singleton_self a))
  · rw [List.length_append, List.length_append, List.length_singleton]
    omega

theorem repeated_dropped_again :
    droppedAsDuplicate (runFrom System.step (.init 0) [.receive sampleEnv (sampleGet 7) (peer false)]).engine
      sampleEnv (sampleGet 7) (peer false) = true :=
  have ha : checkedArrival sampleEnv (sampleGet 7) (peer false) = some ⟨7, peer false⟩ := by decide
  repeated_dropped 0 [] [] ha ha rfl (by decide) (by decide)

end SmartGarage
