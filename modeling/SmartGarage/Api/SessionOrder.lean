/-
The order of the calls of `oc_handle_session`: those for an endpoint come in the order in which its events were
posted, if and only if no event is taken from its list while an earlier one of the endpoint is in the other list.
-/
import SmartGarage.Api.SessionEvents

namespace SmartGarage

open Runs

variable {pending : List (SessionEntry × OcSessionState)} {s : SessionEvents} {state : OcSessionState}
  {event : SessionEntry} {rest : List SessionEntry}

/-! ## The order of an endpoint's events -/

/-- The states of the events of an endpoint, in their order. -/
def statesOf (endpoint : OcEndpoint) (events : List (OcEndpoint × OcSessionState)) : List OcSessionState :=
  (events.filter fun e => e.1 = endpoint).map Prod.snd

/-- The endpoint and the state of each of the entries. -/
def eventsOf (entries : List (SessionEntry × OcSessionState)) : List (OcEndpoint × OcSessionState) :=
  entries.map fun e => (e.1.endpoint, e.2)

/-- `oc_handle_session` is called for every endpoint with its states in the order in which they were posted. -/
def CallsInOrder (s : SessionEvents) : Prop :=
  ∀ endpoint, statesOf endpoint (eventsOf s.calls) <+: statesOf endpoint s.posted

/-- The other state. -/
def OcSessionState.other : OcSessionState → OcSessionState
  | connected => disconnected
  | disconnected => connected

/-- No event is taken from its list while one of its endpoint that was posted earlier is in the other list. -/
def takesInOrder (s : SessionEvents) (a : SessionAction) : Prop :=
  match a, s.routine with
  | .proceed _, .pop state =>
    ∀ event ∈ (s.events state).head?, ∀ other ∈ s.events state.other,
      other.endpoint = event.endpoint → event.number < other.number
  | _, _ => True

@[simp] theorem statesOf_append (endpoint : OcEndpoint) (xs ys : List (OcEndpoint × OcSessionState)) :
    statesOf endpoint (xs ++ ys) = statesOf endpoint xs ++ statesOf endpoint ys := by
  unfold statesOf
  rw [List.filter_append, List.map_append]

@[simp] theorem eventsOf_append (xs ys : List (SessionEntry × OcSessionState)) :
    eventsOf (xs ++ ys) = eventsOf xs ++ eventsOf ys := List.map_append

theorem statesOf_cons (endpoint : OcEndpoint) (e : OcEndpoint × OcSessionState)
    (rest : List (OcEndpoint × OcSessionState)) : statesOf endpoint (e :: rest) =
      if e.1 = endpoint then e.2 :: statesOf endpoint rest else statesOf endpoint rest := by
  by_cases h : e.1 = endpoint
  · simp [statesOf, h]
  · simp [statesOf, h]

/-! ## The pending events -/

/-- The entries of a state among pending ones. -/
def entriesOf (state : OcSessionState) (pending : List (SessionEntry × OcSessionState)) : List SessionEntry :=
  (pending.filter fun e => e.2 = state).map Prod.fst

theorem entriesOf_append (state : OcSessionState) (xs ys : List (SessionEntry × OcSessionState)) :
    entriesOf state (xs ++ ys) = entriesOf state xs ++ entriesOf state ys := by
  unfold entriesOf
  rw [List.filter_append, List.map_append]

theorem entriesOf_cons (state : OcSessionState) (e : SessionEntry × OcSessionState)
    (rest : List (SessionEntry × OcSessionState)) : entriesOf state (e :: rest) =
      if e.2 = state then e.1 :: entriesOf state rest else entriesOf state rest := by
  by_cases h : e.2 = state
  · simp [entriesOf, h]
  · simp [entriesOf, h]

theorem mem_entriesOf : event ∈ entriesOf state pending ↔ (event, state) ∈ pending := by
  unfold entriesOf
  simp only [List.mem_map, List.mem_filter, decide_eq_true_eq]
  constructor
  · rintro ⟨⟨event, _⟩, ⟨hmem, rfl⟩, rfl⟩
    exact hmem
  · exact fun hmem => ⟨(event, state), ⟨hmem, rfl⟩, rfl⟩

theorem entriesOf_eq_cons :
    ∀ {pending : List (SessionEntry × OcSessionState)}, entriesOf state pending = event :: rest →
      ∃ before after, pending = before ++ (event, state) :: after ∧ (∀ e ∈ before, e.2 = state.other) ∧
        entriesOf state after = rest
  | [], h => nomatch h
  | (x, st) :: pending, h => by
    rw [entriesOf_cons] at h
    by_cases hst : st = state
    · subst hst
      rw [if_pos rfl, List.cons.injEq] at h
      obtain ⟨rfl, hrest⟩ := h
      exact ⟨[], pending, rfl, List.forall_mem_nil _, hrest⟩
    · rw [if_neg hst] at h
      obtain ⟨before, after, rfl, hbefore, hafter⟩ := entriesOf_eq_cons h
      refine ⟨(x, st) :: before, after, rfl, ?_, hafter⟩
      intro e he
      obtain rfl | he := List.mem_cons.1 he
      · cases st <;> cases state <;> first | rfl | exact absurd rfl hst
      · exact hbefore e he

/-- The posted events are those that have been taken and the pending ones, for each endpoint in this order; the lists
hold the pending ones. -/
structure SessionOrder (s : SessionEvents) (pending : List (SessionEntry × OcSessionState)) : Prop where
  sorted : pending.Pairwise fun a b => a.1.number < b.1.number
  numbers : ∀ e ∈ pending, e.1.number < s.posted.length
  lists : ∀ state, s.events state = entriesOf state pending
  order : ∀ endpoint, statesOf endpoint s.posted =
    statesOf endpoint (eventsOf s.calls) ++ statesOf endpoint (eventsOf pending)

theorem SessionOrder.callsInOrder (h : SessionOrder s pending) :
    CallsInOrder s := fun endpoint => ⟨_, (h.order endpoint).symm⟩

theorem SessionOrder.of_same {s s' : SessionEvents} (h : SessionOrder s pending)
    (hlists : ∀ state, s'.events state = s.events state) (hposted : s'.posted = s.posted) (hcalls : s'.calls = s.calls) :
    SessionOrder s' pending where
  sorted := h.sorted
  numbers := by
    rw [hposted]
    exact h.numbers
  lists state := by rw [hlists, h.lists]
  order endpoint := by
    rw [hposted, hcalls]
    exact h.order endpoint

theorem events_setEvents (s : SessionEvents) (events : List SessionEntry) (state state' : OcSessionState) :
    (s.setEvents events state).events state' = if state' = state then events else s.events state' := by
  cases state <;> cases state' <;> rfl

theorem setEvents_other (s : SessionEvents) (events : List SessionEntry) (state : OcSessionState) :
    (s.setEvents events state).posted = s.posted ∧ (s.setEvents events state).calls = s.calls := by
  cases state <;> exact ⟨rfl, rfl⟩

theorem SessionOrder.postEvent (h : SessionOrder s pending) (state : OcSessionState) (endpoint : OcEndpoint) :
    ∃ pending', SessionOrder (s.postEvent state endpoint) pending' := by
  unfold SessionEvents.postEvent
  split
  · exact ⟨pending, h⟩
  · refine ⟨pending ++ [(⟨endpoint, s.posted.length⟩, state)], ?_, ?_, ?_, ?_⟩
    · refine List.pairwise_append.2 ⟨h.sorted, List.pairwise_singleton _ _, fun a ha b hb => ?_⟩
      rw [List.mem_singleton.1 hb]
      exact h.numbers a ha
    · intro e he
      show e.1.number < (s.posted ++ [(endpoint, state)]).length
      rw [List.length_append, List.length_singleton]
      obtain he | he := List.mem_append.1 he
      · exact Nat.lt_succ_of_lt (h.numbers e he)
      · rw [List.mem_singleton.1 he]
        exact Nat.lt_succ_self _
    · intro state'
      show (s.setEvents _ state).events state' = _
      rw [events_setEvents, entriesOf_append, h.lists state, h.lists state']
      by_cases hstate : state' = state
      · subst hstate
        rw [if_pos rfl]
        simp [entriesOf]
      · rw [if_neg hstate]
        have hne : ¬state = state' := fun heq => hstate heq.symm
        simp [entriesOf, hne]
    · intro e
      show statesOf e (s.posted ++ [(endpoint, state)]) = statesOf e (eventsOf (s.setEvents _ state).calls) ++ _
      rw [(setEvents_other s _ state).2, statesOf_append, eventsOf_append, statesOf_append, h.order e,
        List.append_assoc]
      rfl

/-! ## Taking an event -/

section Take

variable {s : SessionEvents} {before after : List (SessionEntry × OcSessionState)} {event : SessionEntry}
  {state : OcSessionState}

/-- The state after an event has been taken from its list. -/
def SessionEvents.take (s : SessionEvents) (state : OcSessionState) (event : SessionEntry) (rest : List SessionEntry) :
    SessionEvents := { s.setEvents rest state with routine := .handle state event }

theorem take_calls (hroutine : s.routine.inHand = []) (rest : List SessionEntry) :
    (s.take state event rest).calls = s.calls ++ [(event, state)] := by
  have hcalls : s.calls = s.handled := by
    unfold SessionEvents.calls
    rw [hroutine, List.append_nil]
  rw [hcalls]
  cases state <;> rfl

theorem take_posted (rest : List SessionEntry) : (s.take state event rest).posted = s.posted := by
  cases state <;> rfl

/-- The events in front of the one that is taken are of other endpoints, or it is not the endpoint's first one. -/
theorem SessionOrder.take (h : SessionOrder s (before ++ (event, state) :: after))
    (hbefore : ∀ e ∈ before, e.2 = state.other) (hroutine : s.routine.inHand = [])
    (hfirst : ∀ e ∈ before, e.1.endpoint ≠ event.endpoint) :
    SessionOrder (s.take state event (entriesOf state after)) (before ++ after) := by
  have hne : ∀ e ∈ before, e.2 ≠ state := fun e he heq => by
    have hother := hbefore e he
    rw [heq] at hother
    cases state <;> cases hother
  refine ⟨?_, ?_, ?_, ?_⟩
  · exact h.sorted.sublist (List.Sublist.append_left (List.sublist_cons_self _ _) _)
  · intro e he
    rw [take_posted]
    obtain he | he := List.mem_append.1 he
    · exact h.numbers e (List.mem_append_left _ he)
    · exact h.numbers e (List.mem_append_right _ (List.mem_cons_of_mem _ he))
  · intro state'
    show (s.setEvents _ state).events state' = _
    rw [events_setEvents, entriesOf_append]
    by_cases hstate : state' = state
    · subst hstate
      have hnil : entriesOf state' before = [] := by
        refine List.eq_nil_iff_forall_not_mem.2 fun x hx => ?_
        exact hne _ (mem_entriesOf.1 hx) rfl
      rw [if_pos rfl, hnil, List.nil_append]
    · rw [if_neg hstate, h.lists, entriesOf_append]
      rw [entriesOf_cons, if_neg fun heq : state = state' => hstate heq.symm]
  · intro endpoint
    rw [take_posted, take_calls hroutine, eventsOf_append, statesOf_append, h.order, eventsOf_append,
      eventsOf_append, statesOf_append, statesOf_append, List.append_assoc]
    refine congrArg _ ?_
    show _ ++ statesOf endpoint ((event.endpoint, state) :: eventsOf after) =
      statesOf endpoint [(event.endpoint, state)] ++ _
    rw [statesOf_cons, statesOf_cons]
    by_cases hendpoint : event.endpoint = endpoint
    · have hnil : statesOf endpoint (eventsOf before) = [] := by
        unfold statesOf eventsOf
        rw [List.map_eq_nil_iff, List.filter_eq_nil_iff]
        rintro _ hmem heq
        obtain ⟨e, he, rfl⟩ := List.mem_map.1 hmem
        exact hfirst e he ((of_decide_eq_true heq).trans hendpoint.symm)
      rw [if_pos hendpoint, if_pos hendpoint, hnil]
      rfl
    · rw [if_neg hendpoint, if_neg hendpoint]
      rfl

/-- An event of the other state in front of the one that is taken comes first in the order of the endpoint. -/
theorem SessionOrder.take_late (h : SessionOrder s (before ++ (event, state) :: after))
    (hbefore : ∀ e ∈ before, e.2 = state.other) (hroutine : s.routine.inHand = []) {e : SessionEntry × OcSessionState}
    (he : e ∈ before) (hendpoint : e.1.endpoint = event.endpoint) (rest : List SessionEntry) :
    ¬CallsInOrder (s.take state event rest) := by
  intro horder
  have hpre := horder event.endpoint
  rw [take_posted, take_calls hroutine, eventsOf_append, statesOf_append, h.order, List.prefix_append_right_inj,
    eventsOf_append, statesOf_append] at hpre
  have hhead : ∃ others, statesOf event.endpoint (eventsOf before) = state.other :: others := by
    have hmem : state.other ∈ statesOf event.endpoint (eventsOf before) := by
      unfold statesOf eventsOf
      refine List.mem_map.2 ⟨(e.1.endpoint, e.2), List.mem_filter.2 ⟨List.mem_map.2 ⟨e, he, rfl⟩, ?_⟩, hbefore e he⟩
      exact decide_eq_true hendpoint
    have hall : ∀ st ∈ statesOf event.endpoint (eventsOf before), st = state.other := by
      intro st hst
      unfold statesOf eventsOf at hst
      obtain ⟨_, hfilter, rfl⟩ := List.mem_map.1 hst
      obtain ⟨x, hx, rfl⟩ := List.mem_map.1 (List.mem_of_mem_filter hfilter)
      exact hbefore x hx
    cases hlist : statesOf event.endpoint (eventsOf before) with
    | nil => rw [hlist] at hmem; cases hmem
    | cons st others =>
      rw [hlist] at hall
      exact ⟨others, by rw [hall st List.mem_cons_self]⟩
  obtain ⟨others, hothers⟩ := hhead
  rw [hothers] at hpre
  have hone : statesOf event.endpoint (eventsOf [(event, state)]) = [state] := by
    show statesOf event.endpoint [(event.endpoint, state)] = _
    rw [statesOf_cons, if_pos rfl]
    rfl
  rw [hone, List.cons_append, List.cons_prefix_cons] at hpre
  cases state <;> cases hpre.1

end Take

/-! ## Steps -/

theorem proceed_pop (hroutine : s.routine = .pop state) (hevents : s.events state = event :: rest) (allocated : Bool) :
    s.proceed allocated = s.take state event rest := by
  unfold SessionEvents.proceed SessionEvents.take
  rw [hroutine]
  simp only [hevents]

theorem SessionOrder.proceed (h : SessionOrder s pending) (allocated : Bool)
    (hpop : ∀ state, s.routine = .pop state → s.events state = []) : SessionOrder (s.proceed allocated) pending := by
  unfold SessionEvents.proceed
  split
  · exact h
  · rename_i state hroutine
    rw [hpop state hroutine]
    refine h.of_same (fun state => by cases state <;> rfl) rfl ?_
    unfold SessionEvents.calls
    rw [hroutine]
    rfl
  · rename_i state event hroutine
    refine h.of_same (fun state => by cases state <;> rfl) rfl ?_
    unfold SessionEvents.calls
    rw [hroutine]
    exact List.append_nil _
  · rename_i state hroutine
    have hcalls : s.calls = s.handled ++ [] := by
      unfold SessionEvents.calls
      rw [hroutine]
      rfl
    split
    · exact h.of_same (fun state => by cases state <;> rfl) rfl hcalls.symm
    · split
      · exact h.of_same (fun state => by cases state <;> rfl) rfl hcalls.symm
      · exact h.of_same (fun state => by cases state <;> rfl) rfl hcalls.symm
  · rename_i hroutine
    have hcalls : s.calls = s.handled ++ [] := by
      unfold SessionEvents.calls
      rw [hroutine]
      rfl
    split
    · exact h.of_same (fun state => by cases state <;> rfl) rfl hcalls.symm
    · exact h.of_same (fun state => by cases state <;> rfl) rfl hcalls.symm

theorem calls_idle {s s' : SessionEvents} (hroutine : s.routine = .idle) (hhandled : s'.handled = s.handled)
    (hhand : s'.routine.inHand = []) : s'.calls = s.calls := by
  unfold SessionEvents.calls
  rw [hroutine, hhandled, hhand]
  rfl

theorem other_ne (state : OcSessionState) : state.other ≠ state := by cases state <;> decide

theorem SessionOrder.takesInOrder_iff {before after : List (SessionEntry × OcSessionState)} (allocated : Bool)
    (h : SessionOrder s (before ++ (event, state) :: after)) (hbefore : ∀ e ∈ before, e.2 = state.other)
    (hroutine : s.routine = .pop state) (hevents : s.events state = event :: rest) :
    takesInOrder s (.proceed allocated) ↔ ∀ e ∈ before, e.1.endpoint ≠ event.endpoint := by
  have hsorted := List.pairwise_append.1 h.sorted
  unfold takesInOrder
  rw [hroutine]
  simp only [hevents, List.head?_cons, Option.mem_some, forall_eq', h.lists, mem_entriesOf]
  constructor
  · intro hlater e he hendpoint
    have hmem : (e.1, state.other) ∈ before ++ (event, state) :: after := by
      rw [← hbefore e he]
      exact List.mem_append_left _ he
    have hlt := hlater e.1 hmem hendpoint
    have hgt := hsorted.2.2 e he (event, state) List.mem_cons_self
    exact absurd hlt (Nat.lt_asymm hgt)
  · intro hfirst other hmem hendpoint
    obtain hmem | hmem := List.mem_append.1 hmem
    · exact absurd hendpoint (hfirst _ hmem)
    · obtain heq | hmem := List.mem_cons.1 hmem
      · exact absurd (congrArg Prod.snd heq) (other_ne state)
      · exact (List.pairwise_cons.1 hsorted.2.1).1 _ hmem

/-- A step keeps the order if it takes no event before its turn, and breaks it otherwise. -/
theorem SessionOrder.step (h : SessionOrder s pending) (a : SessionAction) :
    (takesInOrder s a → ∃ pending', SessionOrder (s.step a) pending') ∧
      (¬takesInOrder s a → ¬CallsInOrder (s.step a)) := by
  cases a with
  | sessionStart endpoint => exact ⟨fun _ => h.postEvent .connected endpoint, fun hnot => absurd trivial hnot⟩
  | sessionEnd endpoint => exact ⟨fun _ => h.postEvent .disconnected endpoint, fun hnot => absurd trivial hnot⟩
  | processStart => exact ⟨fun _ => ⟨pending, h.of_same (fun _ => rfl) rfl rfl⟩, fun hnot => absurd trivial hnot⟩
  | poll =>
    refine ⟨fun _ => ⟨pending, ?_⟩, fun hnot => absurd trivial hnot⟩
    unfold SessionEvents.step
    simp only
    split
    · rename_i hidle
      unfold SessionEvents.ocProcessSessionEvent
      split
      · exact h.of_same (fun state => by cases state <;> rfl) rfl (calls_idle hidle rfl rfl)
      · exact h
    · exact h
  | expire =>
    refine ⟨fun _ => ⟨pending, ?_⟩, fun hnot => absurd trivial hnot⟩
    unfold SessionEvents.step
    simp only
    split
    · rename_i hidle
      exact h.of_same (fun state => by cases state <;> rfl) rfl (calls_idle hidle.1 rfl rfl)
    · exact h
  | processExit =>
    refine ⟨fun _ => ⟨pending, ?_⟩, fun hnot => absurd trivial hnot⟩
    unfold SessionEvents.step
    simp only
    split
    · rename_i hidle
      exact h.of_same (fun state => by cases state <;> rfl) rfl (calls_idle hidle.1 rfl rfl)
    · exact h
  | proceed allocated =>
    show (_ → ∃ pending', SessionOrder (s.proceed allocated) pending') ∧ (_ → ¬CallsInOrder (s.proceed allocated))
    -- only a routine that pops an event can break the order
    by_cases htake : ∃ state event rest, s.routine = .pop state ∧ s.events state = event :: rest
    · obtain ⟨state, event, rest, hroutine, hevents⟩ := htake
      have hhand : s.routine.inHand = [] := by rw [hroutine]; rfl
      have hlist := h.lists state
      rw [hevents] at hlist
      obtain ⟨before, after, rfl, hbefore, hafter⟩ := entriesOf_eq_cons hlist.symm
      rw [proceed_pop hroutine hevents, h.takesInOrder_iff allocated hbefore hroutine hevents]
      constructor
      · intro hfirst
        rw [← hafter]
        exact ⟨_, h.take hbefore hhand hfirst⟩
      · intro hnot
        simp only [not_forall, not_not] at hnot
        obtain ⟨e, he, hendpoint⟩ := hnot
        exact h.take_late hbefore hhand he hendpoint rest
    · have hpop : ∀ state, s.routine = .pop state → s.events state = [] := by
        intro state hroutine
        cases hevents : s.events state with
        | nil => rfl
        | cons event rest => exact absurd ⟨state, event, rest, hroutine, hevents⟩ htake
      have hguard : takesInOrder s (.proceed allocated) := by
        unfold takesInOrder
        split
        · rename_i state _ hroutine
          rw [hpop state hroutine]
          exact fun _ hhead => nomatch hhead
        · trivial
      exact ⟨fun _ => ⟨pending, h.proceed allocated hpop⟩, fun hnot => absurd hguard hnot⟩

/-! ## Runs -/

theorem sessionOrder_init : SessionOrder .init [] where
  sorted := List.Pairwise.nil
  numbers := List.forall_mem_nil _
  lists state := by cases state <;> rfl
  order _ := rfl

/-- In every run the calls of `oc_handle_session` for each endpoint are in the order in which its events were posted,
at every step, if and only if no event is taken from its list before an earlier one of its endpoint. -/
theorem sessionEvents_inOrder (l : List SessionAction) :
    (∀ l', l' <+: l → CallsInOrder (runFrom SessionEvents.step .init l')) ↔
      Guarded SessionEvents.step takesInOrder .init l := by
  have horder : ∀ s, (∃ pending, SessionOrder s pending) → CallsInOrder s := fun _ ⟨_, h⟩ => h.callsInOrder
  have hkeep : ∀ s a, (∃ pending, SessionOrder s pending) → takesInOrder s a →
      ∃ pending, SessionOrder (s.step a) pending := fun _ a ⟨_, h⟩ => (h.step a).1
  have hbreak : ∀ s a, (∃ pending, SessionOrder s pending) → ¬takesInOrder s a → ¬CallsInOrder (s.step a) :=
    fun _ a ⟨_, h⟩ => (h.step a).2
  exact always_iff_guarded horder hkeep hbreak ⟨[], sessionOrder_init⟩

/-- A peer disconnects and connects again before the process is polled: the new session is announced first, and ended
after that. -/
theorem sessionEvents_reconnect :
    let endpoint : OcEndpoint := { OcEndpoint.zero with flags := { TransportFlags.zero with tcp := true } }
    let s := runFrom SessionEvents.step .init
      [.processStart, .sessionEnd endpoint, .sessionStart endpoint, .poll, .proceed true, .proceed true, .proceed true,
        .proceed true, .expire, .proceed true, .proceed true]
    statesOf endpoint s.posted = [.disconnected, .connected] ∧
      statesOf endpoint (eventsOf s.handled) = [.connected, .disconnected] ∧ ¬CallsInOrder s := by
  intro endpoint s
  have hposted : statesOf endpoint s.posted = [.disconnected, .connected] := by decide
  have hhandled : statesOf endpoint (eventsOf s.handled) = [.connected, .disconnected] := by decide
  refine ⟨hposted, hhandled, fun horder => ?_⟩
  have hpre := horder endpoint
  rw [hposted, show s.calls = s.handled from List.append_nil _, hhandled] at hpre
  exact absurd hpre (by decide)

end SmartGarage
