/-
The events of TCP sessions (`oc_session_events.c`): two lists, one for the starts and one for the ends of sessions,
which any thread adds to, and the two routines of the event loop that empty them. A step of the event loop is what
it does with the mutex of the lists held, so that the other threads may come in between.
-/
import SmartGarage.Api.Basic
import SmartGarage.Lib.Run

namespace SmartGarage

open Runs

/-! ## The state -/

/-- An entry of one of the lists, the copy of an endpoint. The code has no `number`: so many events have been posted
before it. -/
structure SessionEntry where
  endpoint : OcEndpoint
  number : Nat
deriving DecidableEq

/-- Where the event loop is: in the loop over the list of a state, at `oc_list_pop`, at `oc_handle_session` for the
event that has been taken or at the condition, or at the test of `session_end_events` in `oc_process_session_event`. -/
inductive SessionRoutine
  | idle
  | pop (state : OcSessionState)
  | handle (state : OcSessionState) (event : SessionEntry)
  | condition (state : OcSessionState)
  | endCheck
deriving DecidableEq

/-- The event that has been taken from its list and for which `oc_handle_session` has not been called. -/
def SessionRoutine.inHand : SessionRoutine → List (SessionEntry × OcSessionState)
  | handle state event => [(event, state)]
  | _ => []

/-- The lists and the variables of `oc_session_events.c`; `running` and `needsPoll` are those of the process, and
`delayed` counts the callbacks that `oc_set_delayed_callback` has added. `handled` are the calls of
`oc_handle_session`, and `posted` the events, in their order. -/
structure SessionEvents where
  sessionStartEvents : List SessionEntry
  sessionEndEvents : List SessionEntry
  sessionEndRef : Bool
  running : Bool
  needsPoll : Bool
  delayed : Nat
  routine : SessionRoutine
  handled : List (SessionEntry × OcSessionState)
  posted : List (OcEndpoint × OcSessionState)

namespace SessionEvents

/-- The state before `oc_process_start`. -/
def init : SessionEvents := ⟨[], [], false, false, false, 0, .idle, [], []⟩

variable (s : SessionEvents)

/-- The list of the events of a state. -/
def events : OcSessionState → List SessionEntry
  | .connected => s.sessionStartEvents
  | .disconnected => s.sessionEndEvents

/-- The list of the events of a state is replaced. -/
def setEvents (events : List SessionEntry) : OcSessionState → SessionEvents
  | .connected => { s with sessionStartEvents := events }
  | .disconnected => { s with sessionEndEvents := events }

/-! ## Posting -/

/-- What `oc_session_start_event` and `oc_session_end_event` have in common. -/
def postEvent (state : OcSessionState) (endpoint : OcEndpoint) : SessionEvents :=
  if ¬s.running then s
  else
    { s.setEvents (s.events state ++ [⟨endpoint, s.posted.length⟩]) state with
      needsPoll := true, posted := s.posted ++ [(endpoint, state)] }

/-- `oc_session_start_event` -/
def ocSessionStartEvent (endpoint : OcEndpoint) : SessionEvents := s.postEvent .connected endpoint

/-- `oc_session_end_event` -/
def ocSessionEndEvent (endpoint : OcEndpoint) : SessionEvents := s.postEvent .disconnected endpoint

/-! ## The event loop -/

/-- `oc_process_session_event` is entered for a poll of the process. -/
def ocProcessSessionEvent : SessionEvents :=
  if s.running ∧ s.needsPoll then { s with needsPoll := false, routine := .pop .connected } else s

/-- `free_session_state_delayed` is entered. -/
def freeSessionStateDelayed : SessionEvents := { s with sessionEndRef := true, routine := .pop .disconnected }

/-- The next step of the routine that the event loop is in; `allocated` tells whether there is memory for the delayed
callback. -/
def proceed (allocated : Bool) : SessionEvents :=
  match s.routine with
  | .idle => s
  | .pop state =>
    match s.events state with
    | [] => { s with routine := .condition state }
    | event :: rest => { s.setEvents rest state with routine := .handle state event }
  | .handle state event => { s with handled := s.handled ++ [(event, state)], routine := .condition state }
  | .condition state =>
    if s.events state ≠ [] then { s with routine := .pop state }
    else
      match state with
      | .connected => { s with routine := .endCheck }
      | .disconnected => { s with sessionEndRef := false, routine := .idle }
  | .endCheck =>
    if s.sessionEndEvents ≠ [] ∧ allocated then { s with delayed := s.delayed + 1, routine := .idle }
    else { s with routine := .idle }

end SessionEvents

/-- What may happen next: an event is posted, `oc_process_start`, a poll of the process, the delayed callback is due,
`oc_process_exit`, or the event loop goes on. -/
inductive SessionAction
  | sessionStart (endpoint : OcEndpoint)
  | sessionEnd (endpoint : OcEndpoint)
  | processStart
  | poll
  | expire
  | processExit
  | proceed (allocated : Bool)

namespace SessionEvents

/-- What the action does. The event loop enters a routine when it is in none. -/
def step (s : SessionEvents) : SessionAction → SessionEvents
  | .sessionStart endpoint => s.ocSessionStartEvent endpoint
  | .sessionEnd endpoint => s.ocSessionEndEvent endpoint
  | .processStart => { s with running := true }
  | .poll => if s.routine = .idle then s.ocProcessSessionEvent else s
  | .expire =>
    if s.routine = .idle ∧ s.delayed > 0 then { s with delayed := s.delayed - 1 }.freeSessionStateDelayed else s
  | .processExit =>
    if s.routine = .idle ∧ s.running then { s with running := false }.freeSessionStateDelayed else s
  | .proceed allocated => s.proceed allocated

/-- The calls of `oc_handle_session`, with the one that is due for the event in hand. -/
def calls (s : SessionEvents) : List (SessionEntry × OcSessionState) := s.handled ++ s.routine.inHand

end SessionEvents

end SmartGarage
