/-
The cloud contexts of all devices with the timed callbacks they share and the storage: what can happen next, in any
order.
-/
import SmartGarage.Cloud.Manager
import SmartGarage.Lib.Run

namespace SmartGarage

/-- The contexts by device, `timed_callbacks` and the storage. -/
structure CloudSystem where
  contexts : Nat → OcCloudContext
  timers : Timers
  storage : CloudStorage

/-- What can happen. A timer of the manager expires, a request is answered, once or again, the application makes a call,
a session begins or ends, a network interface comes up, a store that has been set is dumped, the device starts anew, or
other parts of the stack change their timed callbacks. -/
inductive CloudEvent
  | expire (id : Nat) (closing : List ClosingEffect) (connects : Bool) (app : List AppCall)
  | response (device : Nat) (handler : CloudHandler) (response : CloudResponse) (closing : List ClosingEffect)
      (app : List AppCall)
  | api (device : Nat) (call : AppCall)
  | session (device : Nat) (state : OcSessionState)
  | interfaceUp (device : Nat)
  | dump (device : Nat)
  | reboot
  | others (timers : Timers)

/-- Whether the callback is one of the manager. -/
def TimedEntry.isCloud (e : TimedEntry) : Bool :=
  match e.callback with
  | .other _ => false
  | _ => true

/-- `cloud_interface_event_handler` for one context. -/
def cloudInterfaceEventHandler (r : CloudRun) : CloudRun :=
  if r.ctx.store.status = ocCloudInitialized then cloudManagerRestart r else r

/-- The entry that an event runs, which is removed when its callback returns. -/
def CloudEvent.entry : CloudEvent → Option Nat
  | .expire id _ _ _ => some id
  | _ => none

namespace CloudSystem

variable (s : CloudSystem)

/-- The entry of a timer that expires. -/
def running (id : Nat) : Option TimedEntry := s.timers.entries.find? fun e => e.id = id && e.isCloud

/-- The function that an event runs, with the device of its context. -/
def eventRun : CloudEvent → Option (Nat × CloudRun)
  | .expire id closing connects app =>
    (s.running id).map fun e =>
      (e.data, runCallback closing connects (appCallback app) e.callback (.enter (s.contexts e.data)))
  | .response device handler response closing app =>
    some (device, handle response (cloudCloseEndpoint closing) (appCallback app) handler (.enter (s.contexts device)))
  | .api device call => some (device, call.run (.enter (s.contexts device)))
  | .session device state => some (device, cloudEpSessionEventHandler state (.enter (s.contexts device)))
  | .interfaceUp device => some (device, cloudInterfaceEventHandler (.enter (s.contexts device)))
  | .dump _ | .reboot | .others _ => none

/-- What other parts of the stack do to the list: the entries of the manager stay, in their order, and no two entries
have one address. -/
def OthersChange (timers : Timers) : Prop :=
  timers.entries.filter TimedEntry.isCloud = s.timers.entries.filter TimedEntry.isCloud ∧
    (timers.entries.map TimedEntry.id).Nodup ∧ ∀ e ∈ timers.entries, e.id < timers.nextId

instance (timers : Timers) : Decidable (s.OthersChange timers) := inferInstanceAs (Decidable (_ ∧ _ ∧ _))

variable (maxAppDataSize itemMax : Nat)

/-- A step. -/
def step (event : CloudEvent) : CloudSystem :=
  match s.eventRun event with
  | some (device, r) =>
    let timers := s.timers.applyAll device r.ops
    { s with
      contexts := Function.update s.contexts device r.ctx
      timers := (event.entry.map timers.drop).getD timers }
  | none =>
    match event with
    | .dump device => { s with storage := cloudStoreDump maxAppDataSize s.storage (s.contexts device).store }
    | .reboot => { s with contexts := cloudContextInit itemMax s.storage, timers := ⟨[], 0⟩ }
    | .others timers => if s.OthersChange timers then { s with timers := timers } else s
    | _ => s

/-- A device that has stored nothing yet. -/
def start : CloudSystem where
  contexts := cloudContextInit itemMax fun _ => none
  timers := ⟨[], 0⟩
  storage := fun _ => none

end CloudSystem

end SmartGarage
