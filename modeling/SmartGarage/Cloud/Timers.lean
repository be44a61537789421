/-
The timed callbacks that the cloud manager schedules and removes.
-/
import SmartGarage.Cloud.Context

namespace SmartGarage

/-- The callbacks of the cloud manager, and those of other parts of the stack. -/
inductive TimedCallback
  | cloudRegister | cloudLogin | sendPing | refreshToken | callbackHandler | startManager | restartManager
  | other (n : Nat)
deriving DecidableEq

/-- What a delay in seconds is read from: a number, or an entry of `session_timeout` or `message_timeout`. -/
inductive Delay
  | seconds (n : Nat)
  | session (index : Nat)
  | message (index : Nat)
deriving DecidableEq

/-- `session_timeout` -/
def sessionTimeout : List Nat := [3, 60, 1200, 24000, 60]

/-- `message_timeout` -/
def messageTimeout : List Nat := [1, 2, 4, 8, 10]

/-- The delay, where the index lies in its array. -/
def Delay.value : Delay → Option Nat
  | seconds n => some n
  | session index => sessionTimeout[index]?
  | message index => messageTimeout[index]?

/-- `oc_event_callback_t`: the address of the entry, the device of the context it is for, the callback and what its
timer is set to. -/
structure TimedEntry where
  id : Nat
  data : Nat
  callback : TimedCallback
  delay : Delay
deriving DecidableEq

/-- `timed_callbacks`, and the address that the next entry gets. -/
structure Timers where
  entries : List TimedEntry
  nextId : Nat
deriving DecidableEq

/-- Whether an entry is one for a callback of a context. -/
def TimedEntry.isFor (data : Nat) (callback : TimedCallback) (e : TimedEntry) : Bool :=
  e.data = data && e.callback = callback

theorem TimedEntry.isFor_iff {e : TimedEntry} {data : Nat} {callback : TimedCallback} :
    e.isFor data callback = true ↔ e.data = data ∧ e.callback = callback := by
  rw [isFor, Bool.and_eq_true, decide_eq_true_eq, decide_eq_true_eq]

/-- What a function asks of `timed_callbacks`. -/
inductive TimerOp
  | set (callback : TimedCallback) (delay : Delay)
  | remove (callback : TimedCallback)
deriving DecidableEq

/-- `oc_ri_add_timed_event_callback_ticks` adds an entry at the end, and `oc_ri_remove_timed_event_callback` removes the
first entry for the callback and the context. -/
def Timers.apply (data : Nat) (timers : Timers) : TimerOp → Timers
  | .set callback delay => ⟨timers.entries ++ [⟨timers.nextId, data, callback, delay⟩], timers.nextId + 1⟩
  | .remove callback => ⟨timers.entries.eraseP fun e => e.isFor data callback, timers.nextId⟩

/-- All that a function asks, in order. -/
def Timers.applyAll (data : Nat) (timers : Timers) (ops : List TimerOp) : Timers := ops.foldl (Timers.apply data) timers

theorem Timers.applyAll_cons (timers : Timers) (data : Nat) (op : TimerOp) (ops : List TimerOp) :
    timers.applyAll data (op :: ops) = (timers.apply data op).applyAll data ops := rfl

/-- `oc_list_remove` of the entry that has been run. -/
def Timers.drop (timers : Timers) (id : Nat) : Timers := ⟨timers.entries.filter fun e => e.id ≠ id, timers.nextId⟩

end SmartGarage
