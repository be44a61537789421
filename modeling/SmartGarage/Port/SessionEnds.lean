/-
The ends of TCP sessions: `free_tcp_session` (`tcpadapter.c`) on the network threads, step by step between those of
the event loop. The end of a session that a peer has closed, or whose `recv` has failed, is lost if and only if
`session_end_ref` is set when `free_tcp_session` tests it, or the process of the events does not run when the event
is posted.
-/
import SmartGarage.Api.SessionEvents

namespace SmartGarage

open Runs

/-! ## Sessions -/

/-- What has become of a `tcp_session_t`; `byPeer` tells that the peer has closed it or that `recv` has failed, and not
that the stack ends it (`oc_tcp_end_session`). -/
inductive TcpSessionStage
  /-- no session has this number -/
  | unused
  /-- in `session_list` -/
  | listed
  /-- removed from the list; `oc_session_events_is_ongoing` is next -/
  | removed (byPeer : Bool)
  /-- no end is being processed; `oc_session_end_event` is next -/
  | ending (byPeer : Bool)
  /-- `free_tcp_session` is past the event, with the entry that has been added for it -/
  | freed (byPeer : Bool) (entry : Option SessionEntry)
deriving DecidableEq

/-- The TCP sessions, by a number for each, and the events. -/
structure TcpSessions where
  events : SessionEvents
  endpoint : Nat → OcEndpoint
  stage : Nat → TcpSessionStage

/-- What may happen next: a step of the events or the event loop, a new session, or one of the steps of
`free_tcp_session` for a session. -/
inductive TcpAction
  | event (a : SessionAction)
  | addNewSession (session : Nat) (endpoint : OcEndpoint)
  | listRemove (session : Nat) (byPeer : Bool)
  | testOngoing (session : Nat)
  | postEnd (session : Nat)

/-- The entry is in `session_end_events`, or has been taken from it for `oc_handle_session`. -/
def EndKnown (events : SessionEvents) (entry : SessionEntry) : Prop :=
  entry ∈ events.sessionEndEvents ∨ (entry, OcSessionState.disconnected) ∈ events.calls

namespace TcpSessions

/-- No session, and the events before the process is started. -/
def init : TcpSessions := ⟨.init, fun _ => OcEndpoint.zero, fun _ => .unused⟩

variable (s : TcpSessions)

/-- `add_new_session`: the start of a secured session is left to its handshake. -/
def addNewSession (session : Nat) (endpoint : OcEndpoint) : TcpSessions where
  events := if endpoint.flags.secured then s.events else s.events.ocSessionStartEvent endpoint
  endpoint := Function.update s.endpoint session endpoint
  stage := Function.update s.stage session .listed

/-- `if (!oc_session_events_is_ongoing())` -/
def testOngoing (session : Nat) (byPeer : Bool) : TcpSessions :=
  { s with
    stage := Function.update s.stage session (if s.events.sessionEndRef then .freed byPeer none else .ending byPeer) }

/-- `oc_session_end_event(&session->endpoint)` -/
def postEnd (session : Nat) (byPeer : Bool) : TcpSessions where
  events := s.events.ocSessionEndEvent (s.endpoint session)
  endpoint := s.endpoint
  stage := Function.update s.stage session
    (.freed byPeer (if s.events.running then some ⟨s.endpoint session, s.events.posted.length⟩ else none))

/-- What the action does; a step that is not the next one of the session does nothing. -/
def step : TcpAction → TcpSessions
  | .event a => { s with events := s.events.step a }
  | .addNewSession session endpoint => if s.stage session = .unused then s.addNewSession session endpoint else s
  | .listRemove session byPeer =>
    if s.stage session = .listed then { s with stage := Function.update s.stage session (.removed byPeer) } else s
  | .testOngoing session =>
    match s.stage session with
    | .removed byPeer => s.testOngoing session byPeer
    | _ => s
  | .postEnd session =>
    match s.stage session with
    | .ending byPeer => s.postEnd session byPeer
    | _ => s

/-! ## Ends that are not lost -/

/-- Every session that was removed because of its peer, and that `free_tcp_session` is done with, has an entry in
`session_end_events` or has been passed to `oc_handle_session` with `OC_SESSION_DISCONNECTED`. -/
def NoEndLost : Prop :=
  ∀ session entry, s.stage session = .freed true entry →
    ∃ event, entry = some event ∧ event.endpoint = s.endpoint session ∧ EndKnown s.events event

/-- Where the end of a session is posted: no other end is being processed, and the process of the events runs. -/
def endsUnhindered (s : TcpSessions) : TcpAction → Prop
  | .testOngoing session => s.stage session = .removed true → s.events.sessionEndRef = false
  | .postEnd session => s.stage session = .ending true → s.events.running = true
  | _ => True

end TcpSessions

/-! ## The entries of the lists -/

section EndKnown

variable {s : SessionEvents} {entry : SessionEntry}

theorem EndKnown.of_same {s' : SessionEvents} (h : EndKnown s entry) (hends : s'.sessionEndEvents = s.sessionEndEvents)
    (hcalls : ∀ call ∈ s.calls, call ∈ s'.calls) : EndKnown s' entry := by
  obtain hmem | hcall := h
  · exact .inl (hends ▸ hmem)
  · exact .inr (hcalls _ hcall)

theorem EndKnown.postEvent (h : EndKnown s entry) (state : OcSessionState) (endpoint : OcEndpoint) :
    EndKnown (s.postEvent state endpoint) entry := by
  unfold SessionEvents.postEvent
  split
  · exact h
  · cases state with
    | connected => exact h
    | disconnected =>
      obtain hmem | hcall := h
      · exact .inl (List.mem_append_left _ hmem)
      · exact .inr hcall

theorem known_ocSessionEndEvent (hrunning : s.running = true) (endpoint : OcEndpoint) :
    EndKnown (s.ocSessionEndEvent endpoint) ⟨endpoint, s.posted.length⟩ := by
  unfold SessionEvents.ocSessionEndEvent SessionEvents.postEvent
  rw [if_neg (not_not.2 hrunning)]
  exact .inl (List.mem_append_right _ (List.mem_singleton.2 rfl))

theorem mem_calls_of_handled {s : SessionEvents} {call : SessionEntry × OcSessionState} (h : call ∈ s.handled) :
    call ∈ s.calls := List.mem_append_left _ h

theorem mem_calls {s : SessionEvents} {call : SessionEntry × OcSessionState} (h : call ∈ s.calls) :
    call ∈ s.handled ∨ call ∈ s.routine.inHand := List.mem_append.1 h

theorem EndKnown.proceed (h : EndKnown s entry) (allocated : Bool) : EndKnown (s.proceed allocated) entry := by
  have hkeep : ∀ s' : SessionEvents, s'.sessionEndEvents = s.sessionEndEvents → s'.handled = s.handled →
      s.routine.inHand = [] → EndKnown s' entry := fun s' hends hhandled hhand =>
    h.of_same hends fun call hcall => by
      obtain hcall | hcall := mem_calls hcall
      · exact mem_calls_of_handled (hhandled ▸ hcall)
      · rw [hhand] at hcall
        cases hcall
  unfold SessionEvents.proceed
  split
  · exact h
  · rename_i state hroutine
    have hhand : s.routine.inHand = [] := by rw [hroutine]; rfl
    split
    · exact hkeep _ rfl rfl hhand
    · rename_i event rest hevents
      cases state with
      | connected => exact hkeep _ rfl rfl hhand
      | disconnected =>
        -- the entry that is taken is in the hand of the event loop
        obtain hmem | hcall := h
        · rw [show s.sessionEndEvents = event :: rest from hevents] at hmem
          obtain rfl | hmem := List.mem_cons.1 hmem
          · exact .inr (List.mem_append_right _ (List.mem_singleton.2 rfl))
          · exact .inl hmem
        · obtain hcall | hcall := mem_calls hcall
          · exact .inr (mem_calls_of_handled hcall)
          · rw [hhand] at hcall
            cases hcall
  · rename_i state event hroutine
    refine h.of_same rfl fun call hcall => ?_
    have hcalls : s.calls = s.handled ++ [(event, state)] := by
      unfold SessionEvents.calls
      rw [hroutine]
      rfl
    rw [hcalls] at hcall
    exact mem_calls_of_handled hcall
  · rename_i state hroutine
    have hhand : s.routine.inHand = [] := by rw [hroutine]; rfl
    split
    · exact hkeep _ rfl rfl hhand
    · split
      · exact hkeep _ rfl rfl hhand
      · exact hkeep _ rfl rfl hhand
  · rename_i hroutine
    have hhand : s.routine.inHand = [] := by rw [hroutine]; rfl
    split
    · exact hkeep _ rfl rfl hhand
    · exact hkeep _ rfl rfl hhand

theorem EndKnown.step (h : EndKnown s entry) (a : SessionAction) : EndKnown (s.step a) entry := by
  have hidle : ∀ s' : SessionEvents, s.routine = .idle → s'.sessionEndEvents = s.sessionEndEvents →
      s'.handled = s.handled → EndKnown s' entry := fun s' hroutine hends hhandled =>
    h.of_same hends fun call hcall => by
      obtain hcall | hcall := mem_calls hcall
      · exact mem_calls_of_handled (hhandled ▸ hcall)
      · rw [hroutine] at hcall
        cases hcall
  cases a with
  | sessionStart endpoint => exact h.postEvent .connected endpoint
  | sessionEnd endpoint => exact h.postEvent .disconnected endpoint
  | processStart => exact h.of_same rfl fun _ => id
  | poll =>
    unfold SessionEvents.step SessionEvents.ocProcessSessionEvent
    simp only
    split
    · rename_i hroutine
      split
      · exact hidle _ hroutine rfl rfl
      · exact h
    · exact h
  | expire =>
    unfold SessionEvents.step
    simp only
    split
    · rename_i hroutine
      exact hidle _ hroutine.1 rfl rfl
    · exact h
  | processExit =>
    unfold SessionEvents.step
    simp only
    split
    · rename_i hroutine
      exact hidle _ hroutine.1 rfl rfl
    · exact h
  | proceed allocated => exact h.proceed allocated

end EndKnown

/-! ## Steps -/

namespace TcpSessions

variable {s : TcpSessions}

/-- A step that keeps the entries and sets the stage of a session that is not past its end. -/
theorem NoEndLost.update (h : NoEndLost s) {s' : TcpSessions} {session : Nat} {stage : TcpSessionStage}
    (hevents : ∀ entry, EndKnown s.events entry → EndKnown s'.events entry)
    (hendpoint : ∀ other, other ≠ session → s'.endpoint other = s.endpoint other)
    (hstage : s'.stage = Function.update s.stage session stage)
    (hnew : ∀ entry, stage = .freed true entry →
      ∃ event, entry = some event ∧ event.endpoint = s'.endpoint session ∧ EndKnown s'.events event) : NoEndLost s' := by
  intro other entry hother
  rw [hstage] at hother
  by_cases heq : other = session
  · subst heq
    rw [Function.update_self] at hother
    exact hnew entry hother
  · rw [Function.update_of_ne heq] at hother
    obtain ⟨event, hentry, hsame, hknown⟩ := h other entry hother
    exact ⟨event, hentry, by rw [hendpoint other heq, hsame], hevents event hknown⟩

/-- A step keeps all ends if the ones it is to post are not hindered, and loses one otherwise. -/
theorem NoEndLost.step (h : NoEndLost s) (a : TcpAction) :
    (endsUnhindered s a → NoEndLost (s.step a)) ∧ (¬endsUnhindered s a → ¬NoEndLost (s.step a)) := by
  cases a with
  | event a =>
    refine ⟨fun _ session entry hstage => ?_, fun hnot => absurd trivial hnot⟩
    obtain ⟨event, hentry, hsame, hknown⟩ := h session entry hstage
    exact ⟨event, hentry, hsame, hknown.step a⟩
  | addNewSession session endpoint =>
    refine ⟨fun _ => ?_, fun hnot => absurd trivial hnot⟩
    show NoEndLost (if _ then _ else _)
    split
    · refine h.update (fun entry hknown => ?_) (fun other hne => Function.update_of_ne hne _ _) rfl nofun
      show EndKnown (if _ then _ else _) entry
      split
      · exact hknown
      · exact hknown.postEvent .connected endpoint
    · exact h
  | listRemove session byPeer =>
    refine ⟨fun _ => ?_, fun hnot => absurd trivial hnot⟩
    show NoEndLost (if _ then _ else _)
    split
    · exact h.update (fun _ => id) (fun _ _ => rfl) rfl nofun
    · exact h
  | testOngoing session =>
    unfold TcpSessions.step endsUnhindered
    simp only
    cases hstage : s.stage session with
    | removed byPeer =>
      constructor
      · intro hclear
        refine h.update (fun _ => id) (fun _ _ => rfl) rfl fun entry hfreed => ?_
        cases href : s.events.sessionEndRef with
        | false =>
          rw [href] at hfreed
          cases hfreed
        | true =>
          rw [href, if_pos rfl] at hfreed
          cases hfreed
          exact absurd (hclear rfl) (href ▸ Bool.false_ne_true.symm)
      · intro hnot hlost
        cases byPeer with
        | false => exact hnot nofun
        | true =>
          -- another end is being processed: this one is not posted
          have href : s.events.sessionEndRef = true := by
            simpa using hnot
          have hfreed : (s.testOngoing session true).stage session = .freed true none := by
            show Function.update s.stage session _ session = _
            rw [Function.update_self, href, if_pos rfl]
          obtain ⟨event, hnone, -⟩ := hlost session none hfreed
          cases hnone
    | _ => exact ⟨fun _ => h, fun hnot => absurd nofun hnot⟩
  | postEnd session =>
    unfold TcpSessions.step endsUnhindered
    simp only
    cases hstage : s.stage session with
    | ending byPeer =>
      constructor
      · intro hrunning
        refine h.update (fun entry hknown => hknown.postEvent .disconnected _) (fun _ _ => rfl) rfl
          fun entry hfreed => ?_
        injection hfreed with hpeer hentry
        subst hpeer
        rw [if_pos (hrunning rfl)] at hentry
        exact ⟨_, hentry.symm, rfl, known_ocSessionEndEvent (hrunning rfl) _⟩
      · intro hnot hlost
        cases byPeer with
        | false => exact hnot nofun
        | true =>
          -- the process does not run: the event is dropped
          have hrunning : s.events.running = false := by
            simpa using hnot
          have hfreed : (s.postEnd session true).stage session = .freed true none := by
            show Function.update s.stage session _ session = _
            rw [Function.update_self, hrunning, if_neg Bool.false_ne_true]
          obtain ⟨event, hnone, -⟩ := hlost session none hfreed
          cases hnone
    | _ => exact ⟨fun _ => h, fun hnot => absurd nofun hnot⟩

/-! ## Runs -/

theorem noEndLost_init : NoEndLost .init := fun _ _ hstage => nomatch hstage

end TcpSessions

/-- In every run the end of every session that its peer has closed is in the list or has been taken for
`oc_handle_session`, at every step, if and only if none of them is hindered where it is posted. -/
theorem sessionEnds_kept (l : List TcpAction) :
    (∀ l', l' <+: l → TcpSessions.NoEndLost (runFrom TcpSessions.step .init l')) ↔
      Guarded TcpSessions.step TcpSessions.endsUnhindered .init l :=
  always_iff_guarded (fun _ => id) (fun _ a h => (h.step a).1) (fun _ a h => (h.step a).2) TcpSessions.noEndLost_init

/-- While the event loop calls `oc_handle_session` for the end of session 1, the peer of session 2 closes it: no event is
posted for it. -/
theorem sessionEnds_lost :
    let tcp : OcEndpoint := { OcEndpoint.zero with flags := { TransportFlags.zero with tcp := true } }
    let s := runFrom TcpSessions.step .init
      [.event .processStart, .addNewSession 1 { tcp with port := 1 }, .addNewSession 2 { tcp with port := 2 },
        .event .poll, .event (.proceed true), .event (.proceed true), .event (.proceed true), .event (.proceed true),
        .event (.proceed true), .event (.proceed true), .event (.proceed true),
        .listRemove 1 true, .testOngoing 1, .postEnd 1, .event .poll, .event (.proceed true), .event (.proceed true),
        .event (.proceed true), .event .expire, .event (.proceed true), .listRemove 2 true, .testOngoing 2,
        .event (.proceed true), .event (.proceed true)]
    s.stage 2 = .freed true none ∧ s.events.sessionEndEvents = [] ∧ s.events.routine = .idle ∧
      s.events.handled.map (fun call => (call.1.endpoint.port, call.2)) =
        [(1, .connected), (2, .connected), (1, .disconnected)] ∧ ¬s.NoEndLost := by
  intro tcp s
  have hstage : s.stage 2 = .freed true none := by decide
  refine ⟨hstage, by decide, by decide, by decide, fun hlost => ?_⟩
  obtain ⟨event, hnone, -⟩ := hlost 2 none hstage
  cases hnone

end SmartGarage
