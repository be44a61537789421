/-
The Observe option of a response and the entry it stands for: `oc_ri_invoke_coap_entity_handler` decides on
the one, `coap_observe_handler` on the other. They say the same of a client that is registered, and of one that
is not unless the registration has failed in a way that is not looked at.
-/
import SmartGarage.Api.InvokeAdmitted
import SmartGarage.Messaging.ObservePeriodic

namespace SmartGarage.Observe

/-! ## The links of a collection -/

section Request

variable {env : ObserveEnv} {rq : ObserveRequest} {cur : Resource} {st : Server}

theorem resource?_config {st st' : Server} (h : st'.resources.map config = st.resources.map config) (id : Nat) :
    (st'.resource? id).map config = (st.resource? id).map config := by
  have hfind (l : List Resource) : (l.find? (·.id = id)).map config = (l.map config).find? (·.id = id) := by
    rw [List.find?_map]
    rfl
  unfold Server.resource?
  rw [hfind, hfind, h]

theorem linksAllowed_config {st st' : Server} (h : st'.resources.map config = st.resources.map config)
    (env : ObserveEnv) (cur : Resource) : linksAllowed env (st'.linked cur) = linksAllowed env (st.linked cur) := by
  have hall (l : List Resource) : linksAllowed env l = linksAllowed env (l.map config) := by
    unfold linksAllowed
    rw [List.all_map]
    rfl
  rw [hall, hall (st.linked cur)]
  unfold Server.linked
  rw [List.map_filterMap, List.map_filterMap]
  simp only [resource?_config h]

/-! ## Registration -/

/-- The client may read what the collection links to. -/
def readable (env : ObserveEnv) (cur : Resource) (isCollection : Bool) (st : Server) : Bool :=
  linksAllowed env (if isCollection then st.linked cur else [])

/-- The resource needs no polling, is polled, or can be. -/
def pollable (env : ObserveEnv) (cur : Resource) (st : Server) : Bool :=
  !cur.periodic || decide (cur.id ∈ st.callbacks) || env.callbackAvailable cur.id

theorem pollCurrent_set (env : ObserveEnv) (cur : Resource) (added : Server × Int) :
    (pollCurrent env cur added).2 = (decide (added.2 < 0) || pollable env cur added.1) := by
  unfold pollCurrent Server.addPeriodicObserveCallback pollable
  by_cases hadded : added.2 < 0
  · simp [hadded, Int.not_le.2 hadded]
  · by_cases hperiodic : cur.periodic = true
    · rw [if_pos ⟨Int.not_lt.1 hadded, hperiodic⟩]
      by_cases hpolled : cur.id ∈ added.1.callbacks
      · simp [hpolled]
      · cases havailable : env.callbackAvailable cur.id <;> simp [hpolled, hadded, hperiodic]
    · rw [if_neg fun h => hperiodic h.2]
      simp [hperiodic]

theorem register_set (isCollection : Bool)
    (h : (handled env rq cur st).1.resources.map config = st.resources.map config) :
    (register env rq cur isCollection st).2 =
      ((pollCurrent env cur (handled env rq cur st)).2 && readable env cur isCollection st) := by
  have hresources := (pollCurrent_onlyCallbacks env cur (handled env rq cur st)).resources
  have hreadable : linksAllowed env
      (if isCollection then (pollCurrent env cur (handled env rq cur st)).1.linked cur else []) =
        readable env cur isCollection st := by
    unfold readable
    cases isCollection with
    | false => rfl
    | true => exact linksAllowed_config ((congrArg _ hresources).trans h) env cur
  unfold register
  dsimp only
  rw [← handled, hreadable]
  split
  · rename_i hset
    exact hset.symm
  · rename_i hset
    exact (Bool.not_eq_true _ ▸ hset).symm

theorem polled_observers (polled : Server × Bool) (links : List Resource) :
    let r := if polled.2 && linksAllowed env links then
        (if rq.ifaceQuery = ifB then pollLinks env links polled.1 else polled.1, true)
      else ((polled.1.coapRemoveObserverByToken rq.endpoint rq.packet.token).1, false)
    r.1.observers =
      if r.2 then polled.1.observers else polled.1.observers.eraseP (hasToken rq.endpoint rq.packet.token) := by
  dsimp only
  split
  · show (if rq.ifaceQuery = ifB then _ else _ : Server).observers = _
    split
    · exact (pollLinks_onlyCallbacks env _ _).observers
    · rfl
  · exact removeFirst_observers _ _

theorem register_observers (isCollection : Bool) :
    (register env rq cur isCollection st).1.observers =
      if (register env rq cur isCollection st).2 then (handled env rq cur st).1.observers
      else (handled env rq cur st).1.observers.eraseP (hasToken rq.endpoint rq.packet.token) := by
  rw [← (pollCurrent_onlyCallbacks env cur (handled env rq cur st)).observers]
  exact polled_observers _ _

theorem cancel_observers (isCollection : Bool) :
    (cancel env rq cur isCollection st).observers = (handled env rq cur st).1.observers := by
  unfold cancel
  dsimp only
  rw [← handled]
  split
  · rw [(foldl_onlyCallbacks (f := fun st (link : Resource) => st.removePeriodicObserveCallback link.id)
      (fun _ _ => ⟨rfl, rfl, rfl⟩) _ _).observers]
    split <;> rfl
  · rfl

/-- The entries that a registration leaves where they are. -/
def others (rq : ObserveRequest) (st : Server) : List Observer :=
  st.observers.eraseP (isRegistration rq.endpoint rq.packet.uriPath rq.ifaceQuery)

/-- What the observe handler of a request that asks to be added leaves: its value says whether there is an entry. -/
theorem handled_add (hcode : rq.responseCode < 128) (hoption : rq.packet.isOption coapOptionObserve = true)
    (hobserve : rq.packet.observe = 0) :
    (handled env rq cur st).1.resources.map config = st.resources.map config ∧
      (handled env rq cur st).1.callbacks = st.callbacks ∧
      (handled env rq cur st).1.observers =
        (if rq.packet.code = coapGet then
          if env.observerAvailable then others rq st ++ [newEntry rq cur] else others rq st
        else st.observers) ∧
      ((handled env rq cur st).2 < 0 ↔ ¬(rq.packet.code = coapGet ∧ env.observerAvailable = true)) := by
  have hreplaced := replaced_removes rq st
  have hothers : (replaced rq st).observers = others rq st := removeFirst_observers st _
  unfold handled Server.coapObserveHandler Server.addObserver
  by_cases hget : rq.packet.code = coapGet
  · rw [if_pos ⟨hget, hcode, hoption⟩, if_pos hobserve, if_pos hget]
    dsimp only
    cases havailable : env.observerAvailable with
    | true =>
      have hconfig := (config_entered (replaced rq st) (newEntry rq cur)).trans hreplaced.resources
      refine ⟨hconfig, hreplaced.callbacks, ?_, ?_⟩
      · rw [if_pos rfl, if_pos rfl, ← hothers]
        rfl
      · exact ⟨fun h => absurd h (Int.not_lt.2 (Int.natCast_nonneg _)), fun h => absurd ⟨hget, rfl⟩ h⟩
    | false =>
      refine ⟨hreplaced.resources, hreplaced.callbacks, ?_, ?_⟩
      · rw [if_neg Bool.false_ne_true, if_neg Bool.false_ne_true, ← hothers]
        rfl
      · exact ⟨fun _ h => Bool.false_ne_true h.2, fun _ => Int.negSucc_lt_zero 0⟩
  · rw [if_neg fun h => hget h.1, if_neg hget]
    exact ⟨rfl, rfl, rfl, ⟨fun _ h => hget h.1, fun _ => Int.negSucc_lt_zero 0⟩⟩

theorem handled_cancel_observers (hcode : rq.responseCode < 128)
    (hoption : rq.packet.isOption coapOptionObserve = true) (hobserve : rq.packet.observe = 1) :
    (handled env rq cur st).1.observers =
      if rq.packet.code = coapGet then st.observers.eraseP (hasToken rq.endpoint rq.packet.token)
      else st.observers := by
  have hzero : ¬ rq.packet.observe = 0 := by
    rw [hobserve]
    decide
  unfold handled Server.coapObserveHandler
  by_cases hget : rq.packet.code = coapGet
  · rw [if_pos ⟨hget, hcode, hoption⟩, if_neg hzero, if_pos hobserve, if_pos hget]
    exact removeFirst_observers st _
  · rw [if_neg fun h => hget h.1, if_neg hget]

/-! ## The option and the entry -/

/-- There is an entry of the client with the token of its request on a resource. -/
def ListedIn (rq : ObserveRequest) (cur : Resource) (l : List Observer) : Prop :=
  ∃ o ∈ l, hasToken rq.endpoint rq.packet.token o = true ∧ o.resource = cur.id

/-- When a request that reads the observe option of an observable resource ends with the option for a client that
is listed and without it for one that is not. -/
def OptionKept (env : ObserveEnv) (rq : ObserveRequest) (cur : Resource) (isCollection : Bool) (st : Server) : Prop :=
  if rq.packet.observe = 0 then
    if rq.packet.code = coapGet then
      if env.observerAvailable then
        -- the entry is made, and stays unless the first one of the token is another
        (pollable env cur st = true ∧ readable env cur isCollection st = true) ∨
          ∀ o ∈ others rq st, hasToken rq.endpoint rq.packet.token o = false
      else if readable env cur isCollection st then ListedIn rq cur (others rq st)
      else ¬ListedIn rq cur ((others rq st).eraseP (hasToken rq.endpoint rq.packet.token))
    else if readable env cur isCollection st then ListedIn rq cur st.observers
    else ¬ListedIn rq cur (st.observers.eraseP (hasToken rq.endpoint rq.packet.token))
  else if rq.packet.observe = 1 ∧ rq.packet.code = coapGet then
    ¬ListedIn rq cur (st.observers.eraseP (hasToken rq.endpoint rq.packet.token))
  else ¬ListedIn rq cur st.observers

theorem listedIn_entered (hself : ocEndpointCompare rq.endpoint rq.endpoint = true) (l : List Observer) :
    ListedIn rq cur (l ++ [newEntry rq cur]) ∧
      (ListedIn rq cur ((l ++ [newEntry rq cur]).eraseP (hasToken rq.endpoint rq.packet.token)) ↔
        ∃ o ∈ l, hasToken rq.endpoint rq.packet.token o = true) := by
  have hnew : hasToken rq.endpoint rq.packet.token (newEntry rq cur) = true := by
    simp [hasToken, newEntry, hself]
  refine ⟨⟨newEntry rq cur, List.mem_append_right _ List.mem_cons_self, hnew, rfl⟩, ?_⟩
  by_cases hothers : ∃ o ∈ l, hasToken rq.endpoint rq.packet.token o = true
  · obtain ⟨o, ho, htoken⟩ := hothers
    rw [List.eraseP_append_left htoken _ ho]
    have hlast : newEntry rq cur ∈ l.eraseP (hasToken rq.endpoint rq.packet.token) ++ [newEntry rq cur] :=
      List.mem_append_right _ List.mem_cons_self
    exact ⟨fun _ => ⟨o, ho, htoken⟩, fun _ => ⟨newEntry rq cur, hlast, hnew, rfl⟩⟩
  · have hnone : ∀ o ∈ l, hasToken rq.endpoint rq.packet.token o ≠ true := fun o ho htoken => hothers ⟨o, ho, htoken⟩
    rw [List.eraseP_append_right _ hnone, List.eraseP_cons_of_pos hnew, List.append_nil]
    refine ⟨?_, fun h => absurd h hothers⟩
    rintro ⟨o, ho, htoken, -⟩
    exact ⟨o, ho, htoken⟩

theorem observeRequest_kept (hself : ocEndpointCompare rq.endpoint rq.endpoint = true) (hcode : rq.responseCode < 128)
    (hoption : rq.packet.isOption coapOptionObserve = true) (hobservable : cur.observable = true)
    (isCollection : Bool) :
    ((observeRequest env rq cur isCollection st).2 = true ↔
        ListedIn rq cur (observeRequest env rq cur isCollection st).1.observers) ↔
      OptionKept env rq cur isCollection st := by
  unfold observeRequest OptionKept
  rw [if_pos ⟨hoption, hobservable⟩]
  by_cases hadd : rq.packet.observe = 0
  · rw [if_pos hadd, if_pos hadd]
    obtain ⟨hconfig, hcallbacks, hobservers, hvalue⟩ := 
      @handled_add env rq cur st hcode hoption hadd
    -- the option goes with a failed entry or a polled resource, if it is readable
    have hset : (register env rq cur isCollection st).2 =
        ((decide ((handled env rq cur st).2 < 0) || pollable env cur st) && readable env cur isCollection st) := by
      rw [register_set isCollection hconfig, pollCurrent_set]
      unfold pollable
      rw [hcallbacks]
    rw [register_observers, hobservers, hset]
    by_cases hget : rq.packet.code = coapGet
    · rw [if_pos hget, if_pos hget]
      cases havailable : env.observerAvailable with
      | true =>
        have hmade : ¬(handled env rq cur st).2 < 0 := fun h => hvalue.1 h ⟨hget, havailable⟩
        obtain ⟨hlisted, herased⟩ := @listedIn_entered rq cur hself (others rq st)
        rw [if_pos rfl, if_pos rfl, decide_eq_false hmade, Bool.false_or, ← Bool.and_eq_true]
        cases pollable env cur st && readable env cur isCollection st with
        | true => exact ⟨fun _ => .inl rfl, fun _ => ⟨fun _ => hlisted, fun _ => rfl⟩⟩
        | false =>
          rw [if_neg Bool.false_ne_true, herased]
          simp
      | false =>
        have hfailed : (handled env rq cur st).2 < 0 :=
          hvalue.2 fun h => Bool.false_ne_true (havailable.symm.trans h.2)
        rw [if_neg Bool.false_ne_true, if_neg Bool.false_ne_true, decide_eq_true hfailed, Bool.true_or, Bool.true_and]
        cases readable env cur isCollection st with
        | true => simp
        | false => simp
    · have hfailed : (handled env rq cur st).2 < 0 := hvalue.2 fun h => hget h.1
      rw [if_neg hget, if_neg hget, decide_eq_true hfailed, Bool.true_or, Bool.true_and]
      cases readable env cur isCollection st with
      | true => simp
      | false => simp
  · rw [if_neg hadd, if_neg hadd]
    by_cases hremove : rq.packet.observe = 1
    · rw [if_pos hremove, cancel_observers, handled_cancel_observers hcode hoption hremove]
      by_cases hget : rq.packet.code = coapGet
      · rw [if_pos hget, if_pos ⟨hremove, hget⟩]
        simp
      · rw [if_neg hget, if_neg fun h => hget h.2]
        simp
    · rw [if_neg hremove, if_neg fun h => hremove h.1]
      simp

end Request

end SmartGarage.Observe

namespace SmartGarage.Invoke

open Observe

/-! ## The requests that are answered -/

section Stages

variable {env : InvokeEnv} {st : InvokeState} {rq : Request} {cur : Resource}

/-- The request reaches the handler of a resource. -/
structure Reaches (env : InvokeEnv) (st : InvokeState) (rq : Request) (cur : Resource) : Prop where
  admitted : Admitted env st rq cur
  handles : (isCollection cur || cur.handles rq.method) = true
  buffer : st.responseState.isSome = true ∨ env.responseAvailable = true ∧ coapGetHeaderUriPath rq.packet ≠ []

/-- What the handler of a resource answers. -/
def handlerAnswer (env : InvokeEnv) (st : InvokeState) (rq : Request) (cur : Resource) : Answer :=
  env.answer ⟨cur, isCollection cur, rq.method, selectedInterface rq cur, rq.query, st.payload⟩

theorem prepare_consistent {found : Found} (h : Consistent found) : Consistent (prepare env st rq found).1 := by
  unfold prepare
  split
  · split
    · exact h
    · split
      · exact h
      · exact ⟨fun _ => rfl, fun _ => rfl⟩
  · exact h

theorem failure_of_call {found : Found} (hconsistent : Consistent found) {call : HandlerCall}
    (h : call ∈ (dispatch env st rq found).calls) :
    failure found (dispatch env st rq found) = none ∧ found.cur = some call.resource ∧
      (isCollection call.resource || call.resource.handles rq.method) = true := by
  unfold dispatch at h ⊢
  cases hcur : found.cur with
  | none =>
    rw [hcur] at h
    cases h
  | some cur =>
    rw [hcur] at h
    dsimp only at h ⊢
    cases hbad : found.badRequest with
    | true =>
      rw [hbad] at h
      cases h
    | false =>
      rw [hbad, if_neg Bool.false_ne_true] at h
      rw [if_neg Bool.false_ne_true]
      split at h
      · cases h
      · rename_i hallowed
        rw [if_neg hallowed]
        split at h
        · rename_i hhandles
          rw [if_pos hhandles]
          rw [List.mem_singleton] at h
          subst h
          have hforbidden : ¬ found.forbidden = true := fun h => Bool.false_ne_true (hbad ▸ hconsistent.1 h)
          have hlarge : ¬ found.entityTooLarge = true := fun h => Bool.false_ne_true (hbad ▸ hconsistent.2 h)
          exact ⟨by simp [failure, hforbidden, hlarge, hbad, hcur], rfl, hhandles⟩
        · cases h

theorem buffer_of_prepared {found : Found} (hcur : found.cur.isSome = true)
    (h : (prepare env st rq found).1.badRequest = false) :
    st.responseState.isSome = true ∨ env.responseAvailable = true ∧ coapGetHeaderUriPath rq.packet ≠ [] := by
  have hgood := (prepare_cur env st rq found).2 h
  unfold prepare at h
  rw [hcur, hgood, Bool.not_false, Bool.and_self, if_pos rfl] at h
  cases hstate : st.responseState with
  | some b => exact .inl rfl
  | none =>
    rw [hstate] at h
    dsimp only at h
    split at h
    · rename_i hmake
      right
      simpa using hmake
    · cases h

theorem calls_of_reaches (h : Reaches env st rq cur) :
    (dispatch env st rq (prepared env st rq)).calls =
      [⟨cur, isCollection cur, rq.method, selectedInterface rq cur, rq.query, st.payload⟩] :=
  (invoke_calls env st rq).symm.trans (call_of_admitted env st rq h.admitted h.handles h.buffer)

theorem reaches_of_call {call : HandlerCall} (h : call ∈ (dispatch env st rq (prepared env st rq)).calls) :
    Reaches env st rq call.resource := by
  have hconsistent : Consistent (prepared env st rq) := prepare_consistent (search_consistent env st rq)
  obtain ⟨-, hcur, hhandles⟩ := failure_of_call hconsistent h
  refine ⟨(admitted_of_call env st rq ((invoke_calls env st rq).symm ▸ h)).2, hhandles, ?_⟩
  rcases dispatch_cases env st rq (prepared env st rq) with ⟨hnone, -⟩ | ⟨_, -, -, hgood, -⟩
  · rw [hnone] at h
    cases h
  · have hfound : (search env st rq).cur.isSome = true := by
      rw [← (prepare_cur env st rq (search env st rq)).1]
      exact hcur ▸ rfl
    exact buffer_of_prepared hfound hgood

end Stages

/-! ## The response and the server -/

section

variable {env : InvokeEnv} {st : InvokeState} {rq : Request} {cur : Resource}

theorem isOption_observe_setOption (p : CoapPacket) {opt : Nat} (hopt : ¬ opt = coapOptionObserve) :
    (p.setOption opt).isOption coapOptionObserve = p.isOption coapOptionObserve := by
  rw [isOption_setOption p opt (by decide), decide_eq_false hopt, Bool.or_false]

theorem conclude_observe (state : InvokeState) (found : Option Resource) (calls : List HandlerCall) (success : Bool)
    (response : CoapPacket) (observe : UInt32) (code : ResponseCode) (answer : Answer) :
    (conclude env rq state found calls success response observe code answer).state.server = state.server ∧
      (conclude env rq state found calls success response observe code answer).response.isOption coapOptionObserve =
        response.isOption coapOptionObserve := by
  have hfill : (fillResponse env response code answer.contentFormat answer.payload).isOption coapOptionObserve =
      response.isOption coapOptionObserve := by
    unfold fillResponse CoapPacket.setHeaderContentFormat CoapPacket.setHeaderSize1
    dsimp only
    show (ite _ _ _ : CoapPacket).isOption _ = _
    split
    · rw [isOption_observe_setOption _ (by decide)]
      show (ite _ _ _ : CoapPacket).isOption _ = _
      split
      · exact isOption_observe_setOption _ (by decide)
      · rfl
    · split
      · exact isOption_observe_setOption _ (by decide)
      · rfl
  unfold conclude
  dsimp only
  split
  · exact ⟨rfl, rfl⟩
  · split
    · exact ⟨rfl, rfl⟩
    · exact ⟨rfl, hfill⟩

theorem invoke_unreached (h : ∀ cur, ¬Reaches env st rq cur) :
    (ocRiInvokeCoapEntityHandler env st rq).state.server = st.server ∧
      (ocRiInvokeCoapEntityHandler env st rq).response.isOption coapOptionObserve =
        rq.response.isOption coapOptionObserve := by
  have hnone : (dispatch env st rq (prepared env st rq)).calls = [] :=
    List.eq_nil_iff_forall_not_mem.2 fun call hcall => h call.resource (reaches_of_call hcall)
  obtain ⟨status, -, hfailed⟩ := failure_of_no_call hnone
  unfold ocRiInvokeCoapEntityHandler
  dsimp only
  rw [← prepared, hfailed]
  exact conclude_observe _ _ _ _ _ _ _ _

theorem invoke_reached (h : Reaches env st rq cur) :
    (ocRiInvokeCoapEntityHandler env st rq).state.server =
        (readObserve env rq (some cur) st.server (handlerAnswer env st rq cur).code).1 ∧
      (ocRiInvokeCoapEntityHandler env st rq).response.isOption coapOptionObserve =
        (readObserve env rq (some cur) st.server (handlerAnswer env st rq cur).code).2.1.isOption
          coapOptionObserve := by
  have hcalls := calls_of_reaches h
  have hconsistent : Consistent (prepared env st rq) := prepare_consistent (search_consistent env st rq)
  obtain ⟨hgood, hcur, -⟩ := failure_of_call hconsistent (hcalls ▸ List.mem_cons_self)
  have hanswer : answerOf env (dispatch env st rq (prepared env st rq)).calls = handlerAnswer env st rq cur := by
    rw [hcalls]
    rfl
  unfold ocRiInvokeCoapEntityHandler
  dsimp only
  rw [← prepared, hgood]
  dsimp only
  rw [hanswer, hcur]
  exact conclude_observe _ _ _ _ _ _ _ _

/-! ## The option and the entry -/

/-- The observe option of a request is looked at: it is there, the handler has answered without an error, and the
resource is observable. -/
structure Observes (env : InvokeEnv) (st : InvokeState) (rq : Request) (cur : Resource) : Prop where
  reaches : Reaches env st rq cur
  answered : (handlerAnswer env st rq cur).code.isError = false
  option : rq.packet.isOption coapOptionObserve = true
  observable : cur.observable = true

/-- The request as the observe part sees it. -/
def Request.observed (rq : Request) : ObserveRequest := ⟨rq.packet, rq.response.code, rq.endpoint, rq.ifaceQuery⟩

/-- The call of a request has left an entry of the client with its token on the requested resource. -/
def Listed (env : InvokeEnv) (st : InvokeState) (rq : Request) (server : Server) : Prop :=
  ∃ cur, resourceOf env st rq = some cur ∧ ListedIn rq.observed cur server.observers

/-- When the response says whether the client is listed: the observe option is looked at, and is kept in step with
the entries, or it is not, and there is no entry from before. -/
def OptionTrue (env : InvokeEnv) (st : InvokeState) (rq : Request) : Prop :=
  ∀ cur, resourceOf env st rq = some cur →
    (Observes env st rq cur → OptionKept env.observe rq.observed cur (isCollection cur) st.server) ∧
      (¬Observes env st rq cur → ¬ListedIn rq.observed cur st.server.observers)

/-- The response as the messaging layer makes it. -/
structure Fresh (response : CoapPacket) : Prop where
  code : response.code < 128
  option : response.isOption coapOptionObserve = false

theorem readObserve_idle (h : Reaches env st rq cur) (hidle : ¬Observes env st rq cur) :
    (readObserve env rq (some cur) st.server (handlerAnswer env st rq cur).code).1 = st.server ∧
      (readObserve env rq (some cur) st.server (handlerAnswer env st rq cur).code).2.1 = rq.response := by
  unfold readObserve
  dsimp only
  split
  · exact ⟨rfl, rfl⟩
  · rename_i hread
    simp only [Bool.or_eq_true, Bool.not_eq_true', not_or, Bool.not_eq_true, Bool.not_eq_false] at hread
    have hunobservable : ¬ cur.observable = true := fun hobservable => hidle ⟨h, hread.1, hread.2, hobservable⟩
    unfold observeRequest
    rw [if_neg fun h => hunobservable h.2]
    exact ⟨rfl, rfl⟩

theorem readObserve_observes (h : Observes env st rq cur) (hfresh : Fresh rq.response) :
    (readObserve env rq (some cur) st.server (handlerAnswer env st rq cur).code).1 =
        (observeRequest env.observe rq.observed cur (isCollection cur) st.server).1 ∧
      (readObserve env rq (some cur) st.server (handlerAnswer env st rq cur).code).2.1.isOption coapOptionObserve =
        (observeRequest env.observe rq.observed cur (isCollection cur) st.server).2 := by
  unfold readObserve
  dsimp only
  rw [if_neg (by simp [h.answered, h.option])]
  refine ⟨rfl, ?_⟩
  show (if (observeRequest env.observe rq.observed cur (isCollection cur) st.server).2 then
    rq.response.setHeaderObserve 0 else rq.response).isOption coapOptionObserve = _
  cases (observeRequest env.observe rq.observed cur (isCollection cur) st.server).2 with
  | true =>
    rw [if_pos rfl]
    unfold CoapPacket.setHeaderObserve
    rw [isOption_setOption _ _ (by decide), decide_eq_true rfl, Bool.or_true]
  | false =>
    rw [if_neg Bool.false_ne_true]
    exact hfresh.option

/-- The response to a request carries the Observe option iff the client is listed with its token at the requested
resource behind the call: exactly under the condition. -/
theorem option_iff_listed (env : InvokeEnv) (st : InvokeState) (rq : Request) (hfresh : Fresh rq.response)
    (hself : ocEndpointCompare rq.endpoint rq.endpoint = true) :
    ((ocRiInvokeCoapEntityHandler env st rq).response.isOption coapOptionObserve = true ↔
        Listed env st rq (ocRiInvokeCoapEntityHandler env st rq).state.server) ↔
      OptionTrue env st rq := by
  unfold OptionTrue Listed
  by_cases hfound : ∃ cur, resourceOf env st rq = some cur
  · obtain ⟨cur, hcur⟩ := hfound
    simp only [hcur, Option.some.injEq, exists_eq_left', forall_eq']
    have hidle : (ocRiInvokeCoapEntityHandler env st rq).state.server = st.server →
        (ocRiInvokeCoapEntityHandler env st rq).response.isOption coapOptionObserve =
          rq.response.isOption coapOptionObserve → ¬Observes env st rq cur →
        (((ocRiInvokeCoapEntityHandler env st rq).response.isOption coapOptionObserve = true ↔
            ListedIn rq.observed cur (ocRiInvokeCoapEntityHandler env st rq).state.server.observers) ↔
          (Observes env st rq cur → OptionKept env.observe rq.observed cur (isCollection cur) st.server) ∧
            (¬Observes env st rq cur → ¬ListedIn rq.observed cur st.server.observers)) := by
      intro hserver hoption hno
      rw [hserver, hoption, hfresh.option]
      simp [hno]
    by_cases hreaches : Reaches env st rq cur
    · obtain ⟨hserver, hoption⟩ := invoke_reached hreaches
      by_cases hobserves : Observes env st rq cur
      · obtain ⟨hread, hset⟩ := readObserve_observes hobserves hfresh
        rw [hserver, hoption, hread, hset,
          @observeRequest_kept env.observe rq.observed cur st.server hself hfresh.code hobserves.option
            hobserves.observable]
        exact ⟨fun h => ⟨fun _ => h, fun hno => absurd hobserves hno⟩, fun h => h.1 hobserves⟩
      · obtain ⟨hread, hset⟩ := readObserve_idle hreaches hobserves
        exact hidle (hserver.trans hread) (hoption.trans (congrArg (·.isOption coapOptionObserve) hset)) hobserves
    · have hnone : ∀ c, ¬Reaches env st rq c := fun c hc => by
        have hsame : c = cur := Option.some.inj (hc.admitted.found.symm.trans hcur)
        exact hreaches (hsame ▸ hc)
      obtain ⟨hserver, hoption⟩ := invoke_unreached hnone
      exact hidle hserver hoption fun h => hreaches h.reaches
  · have hnone : ∀ c, ¬Reaches env st rq c := fun c hc => hfound ⟨c, hc.admitted.found⟩
    obtain ⟨-, hoption⟩ := invoke_unreached hnone
    rw [hoption, hfresh.option]
    refine iff_of_true ⟨fun h => absurd h Bool.false_ne_true, ?_⟩ fun c hc => absurd ⟨c, hc⟩ hfound
    rintro ⟨c, hc, -⟩
    exact absurd ⟨c, hc⟩ hfound

end

/-! ## Two requests -/

/-- An ACL by which everyone may read everything. -/
def openAcl : OcSecAcl := ⟨[⟨[⟨[], .wcAll⟩], .conn .anonClear, 1, 31⟩], OcUuid.nil⟩

/-- A server with one observable resource, which nobody observes. -/
def quietState : InvokeState where
  server := ⟨[sampleResource], [], [], 1⟩
  sec := { SecState.empty .rfnop with aclist := fun _ => openAcl }
  requestState := none
  responseState := none

/-- Every handler answers 2.05; there may or may not be memory for an observer. -/
def quietEnv (observerAvailable : Bool) : InvokeEnv where
  platform := Platform.simple Mbedtls.rejecting
  settings := defaultSettings
  parse _ := none
  responseAvailable := true
  memory _ := 0
  responseId := 0
  etag := []
  answer _ := ⟨.status .ok, 0, [], false⟩
  observe := ⟨observerAvailable, fun _ => true, fun _ => true⟩

/-- A GET with the observe value 0. -/
def joinRequest : Request where
  packet := { coapUdpInitMessage .non coapGet 1 with
    token := [1], uriPath := ascii "a", options := optionBit coapOptionUriPath }.setHeaderObserve 0
  response := coapUdpInitMessage .non content205 2
  endpoint := peer false
  block2Size := 1024

theorem joinRequest_observes (observerAvailable : Bool) :
    Observes (quietEnv observerAvailable) quietState joinRequest sampleResource := by
  have hfound : resourceOf (quietEnv observerAvailable) quietState joinRequest = some sampleResource := by
    rfl
  have hok : (ResponseCode.status .ok).isError = false := by decide
  refine ⟨⟨⟨fun _ => rfl, hfound, findResource_onDevice hfound, by decide, by decide, ?_⟩, rfl, .inr ⟨rfl, ?_⟩⟩, hok,
    by decide, rfl⟩
  swap
  · decide
  show (ocSecCheckAcl (Platform.simple Mbedtls.rejecting) quietState.sec joinRequest.method
    sampleResource.toOcResource joinRequest.endpoint).1 = true
  simp only [ocSecCheckAcl, connectionAllowed, subjectPermissions, ocAceGetPermission, Search.foldMatches_eq]
  decide

theorem joinRequest_fresh : Fresh joinRequest.response := ⟨by decide, by decide⟩

theorem option_iff_listed_joined :
    ((ocRiInvokeCoapEntityHandler (quietEnv true) quietState joinRequest).response.isOption coapOptionObserve = true ↔
        Listed (quietEnv true) quietState joinRequest
          (ocRiInvokeCoapEntityHandler (quietEnv true) quietState joinRequest).state.server) ↔
      OptionTrue (quietEnv true) quietState joinRequest :=
  option_iff_listed (quietEnv true) quietState joinRequest joinRequest_fresh (by decide)

/-- Without memory for an observer the client is told that it is one. -/
theorem option_without_entry :
    (ocRiInvokeCoapEntityHandler (quietEnv false) quietState joinRequest).response.isOption coapOptionObserve = true ∧
      ¬Listed (quietEnv false) quietState joinRequest
        (ocRiInvokeCoapEntityHandler (quietEnv false) quietState joinRequest).state.server := by
  have hobserves := joinRequest_observes false
  obtain ⟨hserver, hoption⟩ := invoke_reached hobserves.reaches
  obtain ⟨hread, hset⟩ := readObserve_observes hobserves joinRequest_fresh
  rw [hoption, hserver, hset, hread]
  have hgiven : (observeRequest (quietEnv false).observe joinRequest.observed sampleResource
      (isCollection sampleResource) quietState.server).2 = true := by
    decide
  have hempty : (observeRequest (quietEnv false).observe joinRequest.observed sampleResource
      (isCollection sampleResource) quietState.server).1.observers = [] := by
    decide
  refine ⟨hgiven, ?_⟩
  rintro ⟨cur, -, o, ho, -⟩
  rw [hempty] at ho
  cases ho

end SmartGarage.Invoke
