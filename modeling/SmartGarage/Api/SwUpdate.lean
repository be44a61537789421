/-
`oc_swupdate.c`: the software update of a device. The application notifies the stack of each stage of an update, the
stack asks for the next one through the application's callbacks, and these may notify again before they return.
A client schedules an update by a request to `/sw`.
-/
import SmartGarage.Security.Pstat

namespace SmartGarage

/-! ## The resource -/

/-- `oc_swupdate_action_t`; `unknown` is the value behind the last one. -/
inductive OcSwupdateAction
  | idle | isac | isvv | upgrade | unknown
deriving DecidableEq

/-- `oc_swupdate_state_t`; `unknown` is the value behind the last one. -/
inductive OcSwupdateState
  | idle | nsa | svv | sva | upgrading | unknown
deriving DecidableEq

/-- `oc_swupdate_t`; a freed string is empty. -/
structure OcSwupdate where
  purl : OcString
  nv : OcString
  signage : OcString
  swupdateaction : OcSwupdateAction
  swupdatestate : OcSwupdateState
  swupdateresult : Int
  lastupdate : Nat
  updatetime : Nat
deriving DecidableEq

/-- The resource behind `oc_swupdate_init`, without what a former run has stored. -/
def OcSwupdate.init : OcSwupdate := ⟨[], [], ascii "vendor", .idle, .idle, 0, 0, 0⟩

/-- An entry of `timed_callbacks` for `schedule_update`: the device of its data, and the time its timer expires. -/
structure ScheduleEntry where
  device : Nat
  due : Nat
deriving DecidableEq

/-- The software update of all devices, with the security resources. -/
structure SwState where
  sec : SecState
  sw : Nat → OcSwupdate
  timedCallbacks : List ScheduleEntry

/-- A device in RFNOP whose update is idle. -/
def idleUpdate : SwState := ⟨SecState.empty .rfnop, fun _ => OcSwupdate.init, []⟩

/-- An assignment to the fields of `sw[device]`. -/
def SwState.modifySw (st : SwState) (device : Nat) (f : OcSwupdate → OcSwupdate) : SwState :=
  { st with sw := Function.update st.sw device (f (st.sw device)) }

/-- `oc_sec_pstat_set_current_mode` -/
def SwState.setCurrentMode (st : SwState) (device : Nat) (cm : BitVec 32) : SwState :=
  { st with sec := st.sec.setPstat device { st.sec.pstat device with cm := cm } }

/-! ## Notifications and actions -/

/-- `OC_DPM_SVV` -/
def dpmSvv : BitVec 32 := 64

/-- `OC_DPM_SSV` -/
def dpmSsv : BitVec 32 := 128

/-- `OC_DPM_NSA` -/
def dpmNsa : BitVec 32 := 256

/-- `oc_swupdate_perform_action`; what the callback of the action does is a parameter, the identity for one that is
not implemented. -/
def performAction (action : OcSwupdateAction) (device : Nat) (callback : SwState → SwState) (st : SwState) : SwState :=
  let st := st.modifySw device fun s => { s with swupdateaction := action }
  match action with
  | .isac | .isvv | .upgrade => callback st
  | .idle | .unknown => st

/-- `oc_swupdate_notify_new_version_available` -/
def notifyNewVersionAvailable (device : Nat) (result : Int) (downloadUpdate : SwState → SwState) (st : SwState) :
    SwState :=
  let st := st.setCurrentMode device dpmNsa
  let st := st.modifySw device fun s => { s with swupdatestate := .nsa, swupdateresult := result }
  performAction .isvv device downloadUpdate st

/-- `oc_swupdate_notify_downloaded` -/
def notifyDownloaded (device : Nat) (result : Int) (performUpgrade : SwState → SwState) (st : SwState) : SwState :=
  let st := st.setCurrentMode device (dpmNsa ||| dpmSvv)
  let st := st.modifySw device fun s => { s with swupdatestate := .svv, swupdateresult := result }
  let st := st.modifySw device fun s => { s with swupdatestate := .sva, swupdateresult := result }
  performAction .upgrade device performUpgrade st

/-- `oc_swupdate_notify_upgrading` -/
def notifyUpgrading (device : Nat) (version : OcString) (timestamp : Nat) (result : Int) (st : SwState) : SwState :=
  let st := st.setCurrentMode device (dpmNsa ||| dpmSvv ||| dpmSsv)
  st.modifySw device fun s => { s with
    swupdatestate := .upgrading
    swupdateresult := result
    nv := if s.nv = [] then [] else version
    lastupdate := timestamp }

/-- `oc_swupdate_notify_done` -/
def notifyDone (device : Nat) (result : Int) (st : SwState) : SwState :=
  let st := st.setCurrentMode device 0
  st.modifySw device fun s => { s with swupdateaction := .idle, swupdatestate := .idle, swupdateresult := result }

/-- A notification by the application, with those that the callback it leads to makes before it returns. -/
inductive SwNotify
  | newVersionAvailable (device : Nat) (result : Int) (inside : List SwNotify)
  | downloaded (device : Nat) (result : Int) (inside : List SwNotify)
  | upgrading (device : Nat) (version : OcString) (timestamp : Nat) (result : Int)
  | done (device : Nat) (result : Int)

mutual

/-- A notification with all that happens until it returns. -/
def SwNotify.run : SwNotify → SwState → SwState
  | .newVersionAvailable device result inside, st =>
    notifyNewVersionAvailable device result (fun st => runNotifications inside st) st
  | .downloaded device result inside, st => notifyDownloaded device result (fun st => runNotifications inside st) st
  | .upgrading device version timestamp result, st => notifyUpgrading device version timestamp result st
  | .done device result, st => notifyDone device result st

/-- What a callback does: its notifications one after the other. -/
def runNotifications : List SwNotify → SwState → SwState
  | [], st => st
  | n :: rest, st => runNotifications rest (n.run st)

end

/-! ## What notifications leave behind -/

/-- What a notification sets for its device: the mode, the state in the end and, if so, the action. -/
structure SwNote where
  device : Nat
  mode : BitVec 32
  state : OcSwupdateState
  action : Option OcSwupdateAction

mutual

/-- What a notification and those inside it set, in the order they do. -/
def SwNotify.notes : SwNotify → List SwNote
  | .newVersionAvailable device _ inside => ⟨device, dpmNsa, .nsa, some .isvv⟩ :: notesOf inside
  | .downloaded device _ inside => ⟨device, dpmNsa ||| dpmSvv, .sva, some .upgrade⟩ :: notesOf inside
  | .upgrading device _ _ _ => [⟨device, dpmNsa ||| dpmSvv ||| dpmSsv, .upgrading, none⟩]
  | .done device _ => [⟨device, 0, .idle, some .idle⟩]

def notesOf : List SwNotify → List SwNote
  | [] => []
  | n :: rest => n.notes ++ notesOf rest

end

/-- The last of the notes for a device. -/
def lastNote (device : Nat) (notes : List SwNote) : Option SwNote := notes.reverse.find? (·.device = device)

/-- The last action that the notes set for a device. -/
def lastAction (device : Nat) (notes : List SwNote) : Option OcSwupdateAction :=
  notes.reverse.findSome? fun note => if note.device = device then note.action else none

/-- What the notes make of the mode and the state of one device. -/
structure ModeNoted (device : Nat) (notes : List SwNote) (st st' : SwState) : Prop where
  pstat : st'.sec.pstat device =
    { st.sec.pstat device with cm := ((lastNote device notes).map (·.mode)).getD (st.sec.pstat device).cm }
  state : (st'.sw device).swupdatestate =
    ((lastNote device notes).map (·.state)).getD (st.sw device).swupdatestate

/-- What the notes make of all that a notification can change for one device. -/
structure Noted (device : Nat) (notes : List SwNote) (st st' : SwState) : Prop extends
    ModeNoted device notes st st' where
  action : (st'.sw device).swupdateaction = (lastAction device notes).getD (st.sw device).swupdateaction
  updatetime : (st'.sw device).updatetime = (st.sw device).updatetime
  timedCallbacks : st'.timedCallbacks = st.timedCallbacks

section Noted

variable {device d : Nat} {notes notes' : List SwNote} {st st' st'' : SwState}

theorem Noted.refl (device : Nat) (st : SwState) : Noted device [] st st :=
  ⟨⟨rfl, rfl⟩, rfl, rfl, rfl⟩

theorem lastNote_append : lastNote device (notes ++ notes') = (lastNote device notes').or (lastNote device notes) := by
  rw [lastNote, List.reverse_append, List.find?_append]
  rfl

theorem lastAction_append :
    lastAction device (notes ++ notes') = (lastAction device notes').or (lastAction device notes) := by
  rw [lastAction, List.reverse_append, List.findSome?_append]
  rfl

theorem Noted.append (h : Noted device notes st st') (h' : Noted device notes' st' st'') :
    Noted device (notes ++ notes') st st'' := by
  refine ⟨⟨?_, ?_⟩, ?_, ?_, ?_⟩
  · rw [h'.pstat, h.pstat, lastNote_append]
    cases lastNote device notes' <;> rfl
  · rw [h'.state, h.state, lastNote_append]
    cases lastNote device notes' <;> rfl
  · rw [h'.action, h.action, lastAction_append]
    cases lastAction device notes' <;> rfl
  · rw [h'.updatetime, h.updatetime]
  · rw [h'.timedCallbacks, h.timedCallbacks]

@[simp] theorem modifySw_sw (f : OcSwupdate → OcSwupdate) : (st.modifySw device f).sw device = f (st.sw device) :=
  Function.update_self ..

theorem modifySw_sw_ne (f : OcSwupdate → OcSwupdate) (h : device ≠ d) : (st.modifySw d f).sw device = st.sw device :=
  Function.update_of_ne h ..

@[simp] theorem setCurrentMode_pstat (cm : BitVec 32) :
    (st.setCurrentMode device cm).sec.pstat device = { st.sec.pstat device with cm := cm } := setPstat_pstat ..

theorem setCurrentMode_pstat_ne (cm : BitVec 32) (h : device ≠ d) :
    (st.setCurrentMode d cm).sec.pstat device = st.sec.pstat device := setPstat_pstat_ne _ _ h

theorem noted_set (note : SwNote) (f : OcSwupdate → OcSwupdate) (hstate : ∀ s, (f s).swupdatestate = note.state)
    (haction : ∀ s, (f s).swupdateaction = note.action.getD s.swupdateaction)
    (htime : ∀ s, (f s).updatetime = s.updatetime) :
    Noted device [note] st ((st.setCurrentMode note.device note.mode).modifySw note.device f) := by
  by_cases hd : note.device = device
  · subst hd
    have hnote : lastNote note.device [note] = some note := by simp [lastNote]
    have hact : lastAction note.device [note] = note.action := by simp [lastAction]
    refine ⟨⟨?_, ?_⟩, ?_, ?_, ?_⟩
    · rw [hnote]
      exact setCurrentMode_pstat note.mode
    · rw [hnote, modifySw_sw, hstate]
      rfl
    · rw [hact, modifySw_sw, haction]
      rfl
    · rw [modifySw_sw, htime]
      rfl
    · rfl
  · have hnote : lastNote device [note] = none := by simp [lastNote, hd]
    have hact : lastAction device [note] = none := by simp [lastAction, hd]
    refine ⟨⟨?_, ?_⟩, ?_, ?_, ?_⟩
    · rw [hnote]
      exact setCurrentMode_pstat_ne note.mode (Ne.symm hd)
    · rw [hnote, modifySw_sw_ne f (Ne.symm hd)]
      rfl
    · rw [hact, modifySw_sw_ne f (Ne.symm hd)]
      rfl
    · rw [modifySw_sw_ne f (Ne.symm hd)]
      rfl
    · rfl

end Noted

theorem modifySw_modifySw (st : SwState) (device : Nat) (f g : OcSwupdate → OcSwupdate) :
    (st.modifySw device f).modifySw device g = st.modifySw device (g ∘ f) := by
  simp only [SwState.modifySw, Function.update_self, Function.update_idem, Function.comp]

mutual

theorem SwNotify.run_noted (device : Nat) : ∀ (n : SwNotify) (st : SwState), Noted device n.notes st (n.run st)
  | .newVersionAvailable d result inside, st => by
    have hset : Noted device [⟨d, dpmNsa, .nsa, some .isvv⟩] st ((st.setCurrentMode d dpmNsa).modifySw d fun s =>
        { s with swupdatestate := .nsa, swupdateresult := result, swupdateaction := .isvv }) :=
      noted_set _ _ (fun _ => rfl) (fun _ => rfl) fun _ => rfl
    rw [SwNotify.run, SwNotify.notes, notifyNewVersionAvailable, performAction, modifySw_modifySw]
    exact hset.append (runNotifications_noted device inside _)
  | .downloaded d result inside, st => by
    have hset : Noted device [⟨d, dpmNsa ||| dpmSvv, .sva, some .upgrade⟩] st
        ((st.setCurrentMode d (dpmNsa ||| dpmSvv)).modifySw d fun s =>
          { s with swupdatestate := .sva, swupdateresult := result, swupdateaction := .upgrade }) :=
      noted_set _ _ (fun _ => rfl) (fun _ => rfl) fun _ => rfl
    rw [SwNotify.run, SwNotify.notes, notifyDownloaded, performAction, modifySw_modifySw, modifySw_modifySw]
    exact hset.append (runNotifications_noted device inside _)
  | .upgrading d version timestamp result, st => by
    rw [SwNotify.run, SwNotify.notes, notifyUpgrading]
    exact noted_set _ _ (fun _ => rfl) (fun _ => rfl) fun _ => rfl
  | .done d result, st => by
    rw [SwNotify.run, SwNotify.notes, notifyDone]
    exact noted_set _ _ (fun _ => rfl) (fun _ => rfl) fun _ => rfl

theorem runNotifications_noted (device : Nat) : ∀ (l : List SwNotify) (st : SwState),
    Noted device (notesOf l) st (runNotifications l st)
  | [], st => by
    rw [runNotifications, notesOf]
    exact Noted.refl device st
  | n :: rest, st => by
    rw [runNotifications, notesOf]
    exact (n.run_noted device st).append (runNotifications_noted device rest _)

end

end SmartGarage
