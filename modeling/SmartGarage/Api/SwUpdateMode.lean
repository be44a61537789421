/-
The current mode of a device and the state of its software update. Every notification sets both, but a request to
`/oic/sec/pstat` that names a target mode performs its action while it works on a copy of pstat, and writes the copy
with the old current mode back over what the callback of the action has set.
-/
import SmartGarage.Api.SwUpdate
import SmartGarage.Security.PstatPayload
import SmartGarage.Lib.Run

namespace SmartGarage

open Runs

/-! ## A request to pstat -/

/-- `oc_pstat_handle_target_mode`, with what it leaves in `*tm`. -/
def handleTargetMode (device : Nat) (tm : BitVec 32) (callback : SwState → SwState) (st : SwState) :
    BitVec 32 × SwState :=
  if tm = dpmNsa then (0, performAction .isac device callback st)
  else if tm = dpmSvv then (0, performAction .isvv device callback st)
  else if tm = dpmSsv then (0, performAction .upgrade device callback st)
  else (tm, st)

/-- `oc_sec_decode_pstat` for a request, in a build with the software update. -/
def SwState.decodePstat (P : DevicePlatform) (st : SwState) (rep : List OcRep) (device : Nat)
    (callback : SwState → SwState) : Bool × SwState :=
  match rep.foldlM (decodePstatProperty false) ⟨st.sec.pstat device, false⟩ with
  | none => (false, st)
  | some d =>
    -- `target_mode`: the payload names one
    let (tm, st) := if tmValues rep ≠ [] then handleTargetMode device d.ps.tm callback st else (d.ps.tm, st)
    let ps := { d.ps with tm := tm }
    if validTransition (st.sec.pstat device).s ps.s then
      if d.transitionState then
        let (success, sec) := ocPstatHandleState P st.sec ps device
        (success, { st with sec := sec })
      else (true, { st with sec := st.sec.setPstat device ps })
    else (false, st)

/-- A request to the pstat resource of `device` that leaves the state of the device alone, with the notifications that
the callback makes before it returns, if the request leads to one. -/
structure PstatPost where
  device : Nat
  rep : List OcRep
  noState : dosStates rep = []
  inside : List SwNotify

/-- An outermost call. -/
inductive ModeEvent
  | notify (n : SwNotify)
  | post (p : PstatPost)

def SwState.modeStep (P : DevicePlatform) (st : SwState) : ModeEvent → SwState
  | .notify n => n.run st
  | .post p => (st.decodePstat P p.rep p.device (runNotifications p.inside)).2

/-! ## When the mode and the state agree -/

/-- The current mode is that of a state of the update. -/
def Corresponds (cm : BitVec 32) : OcSwupdateState → Prop
  | .idle => cm = 0
  | .nsa => cm = dpmNsa
  | .svv | .sva => cm = dpmNsa ||| dpmSvv
  | .upgrading => cm = dpmNsa ||| dpmSvv ||| dpmSsv
  | .unknown => False

/-- The current mode of `device` is that of its update. -/
def SwState.InMode (st : SwState) (device : Nat) : Prop :=
  Corresponds (st.sec.pstat device).cm (st.sw device).swupdatestate

/-- The target mode leads to an action. -/
def isTarget (tm : BitVec 32) : Bool := tm = dpmNsa || tm = dpmSvv || tm = dpmSsv

/-- The target mode of the payload, the last one it names, leads to an action. -/
def targetsUpdate (rep : List OcRep) : Bool := ((tmValues rep).getLast?.map (BitVec.ofInt 32)).any isTarget

/-- The request leads to an action of the update of `device`: it is accepted in RFNOP and its target mode names one. -/
def PstatPost.performs (p : PstatPost) (device : Nat) : Bool :=
  p.device = device && pstatAccepted .rfnop p.rep && targetsUpdate p.rep

/-- No callback that runs inside a request to the pstat resource of `device` leaves another mode behind than the one
before the request. -/
def KeepsMode (device : Nat) (st : SwState) : ModeEvent → Prop
  | .notify _ => True
  | .post p => p.performs device = true → ∀ note ∈ lastNote device (notesOf p.inside),
      note.mode = (st.sec.pstat device).cm

instance Corresponds.decidable (cm : BitVec 32) : ∀ state : OcSwupdateState, Decidable (Corresponds cm state)
  | .idle => inferInstanceAs (Decidable (cm = 0))
  | .nsa => inferInstanceAs (Decidable (cm = dpmNsa))
  | .svv | .sva => inferInstanceAs (Decidable (cm = dpmNsa ||| dpmSvv))
  | .upgrading => inferInstanceAs (Decidable (cm = dpmNsa ||| dpmSvv ||| dpmSsv))
  | .unknown => inferInstanceAs (Decidable False)

theorem Corresponds.unique {cm cm' : BitVec 32} {state : OcSwupdateState} (h : Corresponds cm state)
    (h' : Corresponds cm' state) : cm = cm' := by
  cases state with
  | unknown => exact h.elim
  | _ => exact h.trans h'.symm

mutual

theorem SwNotify.notes_correspond : ∀ (n : SwNotify), ∀ note ∈ n.notes, Corresponds note.mode note.state
  | .newVersionAvailable d _ inside, note, h => by
    rw [SwNotify.notes, List.mem_cons] at h
    rcases h with rfl | h
    · rfl
    · exact notesOf_correspond inside note h
  | .downloaded d _ inside, note, h => by
    rw [SwNotify.notes, List.mem_cons] at h
    rcases h with rfl | h
    · rfl
    · exact notesOf_correspond inside note h
  | .upgrading .., note, h => by
    rw [SwNotify.notes, List.mem_singleton] at h
    rw [h]
    rfl
  | .done .., note, h => by
    rw [SwNotify.notes, List.mem_singleton] at h
    rw [h]
    rfl

theorem notesOf_correspond : ∀ (l : List SwNotify), ∀ note ∈ notesOf l, Corresponds note.mode note.state
  | [], _, h => by
    rw [notesOf] at h
    cases h
  | n :: rest, note, h => by
    rw [notesOf, List.mem_append] at h
    exact h.elim (n.notes_correspond note) (notesOf_correspond rest note)

end

theorem lastNote_mem {device : Nat} {notes : List SwNote} {note : SwNote} (h : lastNote device notes = some note) :
    note ∈ notes := List.mem_reverse.1 (List.mem_of_find?_eq_some h)

section Steps

variable {P : DevicePlatform} {device : Nat} {st st' : SwState} {notes : List SwNote}

theorem SwState.InMode.noted (hn : ∀ note ∈ notes, Corresponds note.mode note.state) (h : st.InMode device)
    (hnoted : ModeNoted device notes st st') : st'.InMode device := by
  rw [SwState.InMode, hnoted.pstat, hnoted.state]
  cases hlast : lastNote device notes with
  | none => exact h
  | some note => exact hn note (lastNote_mem hlast)

theorem ModeNoted.s_eq (h : ModeNoted device notes st st') : (st'.sec.pstat device).s = (st.sec.pstat device).s := by
  rw [h.pstat]

theorem performAction_noted {action : OcSwupdateAction} (d : Nat) (inside : List SwNotify)
    (haction : action = .isac ∨ action = .isvv ∨ action = .upgrade) :
    ModeNoted device (notesOf inside) st (performAction action d (runNotifications inside) st) := by
  have hnoted : ModeNoted device (notesOf inside) (st.modifySw d fun s => { s with swupdateaction := action })
      (performAction action d (runNotifications inside) st) := by
    rcases haction with rfl | rfl | rfl <;> exact (runNotifications_noted device inside _).toModeNoted
  refine ⟨hnoted.pstat, hnoted.state.trans ?_⟩
  by_cases hd : device = d
  · rw [← hd, modifySw_sw]
  · rw [modifySw_sw_ne _ hd]

theorem handleTargetMode_noted (st : SwState) (device d : Nat) (tm : BitVec 32) (inside : List SwNotify) :
    ModeNoted device (if isTarget tm then notesOf inside else []) st
      (handleTargetMode d tm (runNotifications inside) st).2 := by
  unfold handleTargetMode
  by_cases hnsa : tm = dpmNsa
  · rw [if_pos hnsa, show isTarget tm = true by simp [isTarget, hnsa]]
    exact performAction_noted d inside (.inl rfl)
  by_cases hsvv : tm = dpmSvv
  · rw [if_neg hnsa, if_pos hsvv, show isTarget tm = true by simp [isTarget, hsvv]]
    exact performAction_noted d inside (.inr (.inl rfl))
  by_cases hssv : tm = dpmSsv
  · rw [if_neg hnsa, if_neg hsvv, if_pos hssv, show isTarget tm = true by simp [isTarget, hssv]]
    exact performAction_noted d inside (.inr (.inr rfl))
  · rw [if_neg hnsa, if_neg hsvv, if_neg hssv, show isTarget tm = false by simp [isTarget, hnsa, hsvv, hssv]]
    exact (Noted.refl device st).toModeNoted

/-- A request that names no state is refused and leaves everything as it is, or performs the action of its target
mode, and writes the copy back where the device may stay in its state. -/
theorem modeStep_post (P : DevicePlatform) (st : SwState) (p : PstatPost) :
    if pstatAccepted (st.sec.pstat p.device).s p.rep then
      ∃ st₁ ps, (∀ device, ModeNoted device (if targetsUpdate p.rep then notesOf p.inside else []) st st₁) ∧
        ps.s = (st.sec.pstat p.device).s ∧ ps.cm = (st.sec.pstat p.device).cm ∧
        st.modeStep P (.post p) = if validTransition (st.sec.pstat p.device).s (st.sec.pstat p.device).s then
          { st₁ with sec := st₁.sec.setPstat p.device ps } else st₁
    else st.modeStep P (.post p) = st := by
  have hspec := decodePstat_spec p.rep ⟨st.sec.pstat p.device, false⟩
  unfold SwState.modeStep SwState.decodePstat
  split
  · rename_i hacc
    rw [if_pos hacc] at hspec
    obtain ⟨d, hd, hdec⟩ := hspec
    have hs : d.ps.s = (st.sec.pstat p.device).s := by
      rw [hdec.s, p.noState]
      rfl
    have htrans : d.transitionState = false := by
      rw [hdec.transitionState, p.noState]
      rfl
    simp only [hd]
    generalize hact : (if tmValues p.rep ≠ [] then
      handleTargetMode p.device d.ps.tm (runNotifications p.inside) st else (d.ps.tm, st)) = act
    obtain ⟨tm, st₁⟩ := act
    -- the notifications come from the target mode alone
    have hnoted : ∀ device, ModeNoted device (if targetsUpdate p.rep then notesOf p.inside else []) st st₁ := by
      intro device
      rw [targetsUpdate]
      by_cases htm : tmValues p.rep = []
      · rw [if_neg (not_not_intro htm)] at hact
        cases hact
        rw [htm]
        exact (Noted.refl device st).toModeNoted
      · rw [if_pos htm] at hact
        have hlast : (tmValues p.rep).getLast?.map (BitVec.ofInt 32) = some d.ps.tm := by
          rw [hdec.tm]
          cases hl : tmValues p.rep with
          | nil => exact absurd hl htm
          | cons v l => simp [List.getLastD_eq_getLast?, List.getLast?_cons]
        rw [hlast, Option.any_some]
        have h := handleTargetMode_noted st device p.device d.ps.tm p.inside
        rw [hact] at h
        exact h
    refine ⟨st₁, { d.ps with tm := tm }, hnoted, hs, hdec.cm, ?_⟩
    simp only [(hnoted p.device).s_eq, hs, htrans]
    split <;> rfl
  · rename_i hacc
    rw [if_neg hacc] at hspec
    simp only [hspec]

/-- What holds between two calls: the device is in RFNOP, and its current mode is that of its update. -/
structure SwState.ModeInv (st : SwState) (device : Nat) : Prop where
  rfnop : (st.sec.pstat device).s = .rfnop
  inMode : st.InMode device

theorem SwState.ModeInv.noted (hn : ∀ note ∈ notes, Corresponds note.mode note.state) (h : st.ModeInv device)
    (hnoted : ModeNoted device notes st st') : st'.ModeInv device :=
  ⟨hnoted.s_eq.trans h.rfnop, h.inMode.noted hn hnoted⟩

theorem modeStep_own (p : PstatPost) (hs : (st.sec.pstat p.device).s = .rfnop) :
    ((st.modeStep P (.post p)).sec.pstat p.device).s = .rfnop ∧
      ((st.modeStep P (.post p)).sec.pstat p.device).cm = (st.sec.pstat p.device).cm ∧
      ((st.modeStep P (.post p)).sw p.device).swupdatestate =
        ((if p.performs p.device then lastNote p.device (notesOf p.inside) else none).map (·.state)).getD
          (st.sw p.device).swupdatestate := by
  have hspec := modeStep_post P st p
  unfold PstatPost.performs
  rw [hs] at hspec
  by_cases hacc : pstatAccepted .rfnop p.rep = true
  · rw [if_pos hacc] at hspec
    obtain ⟨st₁, ps, hnoted, hps, hcm, hstep⟩ := hspec
    rw [hstep, if_pos (by rfl), setPstat_pstat, (hnoted p.device).state, hacc]
    refine ⟨hps, hcm, ?_⟩
    by_cases ht : targetsUpdate p.rep = true
    · simp [ht]
    · simp [ht, lastNote]
  · rw [if_neg hacc] at hspec
    rw [hspec]
    simp [hs, hacc]

theorem modeStep_other (P : DevicePlatform) (st : SwState) (p : PstatPost) (hd : p.device ≠ device) :
    ∃ notes, (∀ note ∈ notes, Corresponds note.mode note.state) ∧
      ModeNoted device notes st (st.modeStep P (.post p)) := by
  have hspec := modeStep_post P st p
  split at hspec
  · obtain ⟨st₁, ps, hnoted, -, -, hstep⟩ := hspec
    refine ⟨if targetsUpdate p.rep then notesOf p.inside else [], ?_, ?_⟩
    · split
      · exact notesOf_correspond p.inside
      · exact fun _ h => nomatch h
    · rw [hstep]
      by_cases hv : validTransition (st.sec.pstat p.device).s (st.sec.pstat p.device).s = true
      · rw [if_pos hv]
        exact ⟨(setPstat_pstat_ne _ _ (Ne.symm hd)).trans (hnoted device).pstat, (hnoted device).state⟩
      · rw [if_neg hv]
        exact hnoted device
  · rw [hspec]
    refine ⟨[], fun _ h => ?_, (Noted.refl device st).toModeNoted⟩
    cases h

theorem ModeInv.keep (e : ModeEvent) (h : st.ModeInv device) (hguard : KeepsMode device st e) :
    (st.modeStep P e).ModeInv device := by
  cases e with
  | notify n => exact h.noted n.notes_correspond (n.run_noted device st).toModeNoted
  | post p =>
    by_cases hd : p.device = device
    · subst hd
      obtain ⟨hs, hcm, hstate⟩ := modeStep_own (P := P) p h.rfnop
      refine ⟨hs, ?_⟩
      rw [SwState.InMode, hcm, hstate]
      by_cases hperforms : p.performs p.device = true
      · rw [if_pos hperforms]
        cases hlast : lastNote p.device (notesOf p.inside) with
        | none => exact h.inMode
        | some note =>
          rw [← hguard hperforms note hlast]
          exact notesOf_correspond _ note (lastNote_mem hlast)
      · rw [if_neg hperforms]
        exact h.inMode
    · obtain ⟨notes, hn, hnoted⟩ := modeStep_other P st p hd
      exact h.noted hn hnoted

theorem not_inMode_post (e : ModeEvent) (h : st.ModeInv device) (hguard : ¬KeepsMode device st e) :
    ¬(st.modeStep P e).InMode device := by
  cases e with
  | notify n => exact absurd trivial hguard
  | post p =>
    rw [KeepsMode] at hguard
    simp only [not_forall] at hguard
    obtain ⟨hperforms, note, hlast, hne⟩ := hguard
    have hd : p.device = device := by
      rw [PstatPost.performs, Bool.and_eq_true, Bool.and_eq_true, decide_eq_true_eq] at hperforms
      exact hperforms.1.1
    subst hd
    obtain ⟨-, hcm, hstate⟩ := modeStep_own (P := P) p h.rfnop
    rw [SwState.InMode, hcm, hstate, if_pos hperforms, hlast]
    exact fun hc => hne ((notesOf_correspond _ note (lastNote_mem hlast)).unique hc)

end Steps

/-- From an idle update in RFNOP with current mode 0, the mode and the state agree after every call if and only if no
callback that runs inside a request leaves another mode behind than the one before the request. -/
theorem swupdate_mode_iff (P : DevicePlatform) (device : Nat) (st : SwState)
    (hstart : (st.sec.pstat device).s = .rfnop ∧ (st.sec.pstat device).cm = 0 ∧
      (st.sw device).swupdatestate = .idle) (events : List ModeEvent) :
    (∀ run, run <+: events → (runFrom (SwState.modeStep P) st run).InMode device) ↔
      Guarded (SwState.modeStep P) (KeepsMode device) st events := by
  obtain ⟨hs, hcm, hidle⟩ := hstart
  have hinv : st.ModeInv device := by
    refine ⟨hs, ?_⟩
    rw [SwState.InMode, hcm, hidle]
    rfl
  have hholds : ∀ s : SwState, s.ModeInv device → s.InMode device := fun _ h => h.inMode
  exact always_iff_guarded hholds (fun _ e h hguard => ModeInv.keep e h hguard)
    (fun _ e h hguard => not_inMode_post e h hguard) hinv

/-- A platform whose mbedTLS parses no certificate. -/
def bareDevice : DevicePlatform := .simple ⟨fun _ => (-8576, []), fun _ _ => true, 0⟩ 7

/-- A request for the target mode `tm`, in which the callback makes the notifications `inside`. -/
def targetRequest (tm : Int) (inside : List SwNotify) : PstatPost := ⟨0, [.int (some (ascii "tm")) tm], by rfl, inside⟩

/-- An update from the search to its end, with the upgrade asked for inside the download. -/
theorem swupdate_mode_whole :
    (runFrom (SwState.modeStep bareDevice) idleUpdate [.notify (.newVersionAvailable 0 1 [.downloaded 0 1 []]),
      .post (targetRequest 128 []), .notify (.upgrading 0 [49] 5 1), .notify (.done 0 1)]).InMode 0 := by
  refine (swupdate_mode_iff bareDevice 0 idleUpdate ⟨rfl, rfl, rfl⟩ _).2 ?_ _ List.prefix_rfl
  refine ⟨trivial, fun _ note h => ?_, trivial, trivial, trivial⟩
  cases h

/-- A new version that is found at once: the state is left at nsa and the mode at 0. -/
theorem swupdate_mode_lost :
    ¬(runFrom (SwState.modeStep bareDevice) idleUpdate
      [.post (targetRequest 256 [.newVersionAvailable 0 1 []])]).InMode 0 := by
  unfold SwState.InMode
  decide

end SmartGarage
