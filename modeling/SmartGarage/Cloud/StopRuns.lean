/-
What `cloud_manager_stop` leaves in `timed_callbacks`. It removes one entry for each of its callbacks, so that all depends
on none of them being scheduled while it is pending.
-/
import SmartGarage.Cloud.System
import Mathlib.Data.List.Perm.Basic

namespace SmartGarage

/-! ## Pending entries -/

/-- The callbacks that `cloud_manager_stop` removes. -/
def managerCallbacks : List TimedCallback := [.cloudRegister, .cloudLogin, .sendPing, .refreshToken, .callbackHandler]

namespace Timers

section Pending

variable (timers : Timers) (data : Nat) (callback : TimedCallback) (entry : Option Nat)

/-- How many entries are pending for a callback of a context, without the one that is running. -/
def pending : Nat := timers.entries.countP fun e => e.isFor data callback && (entry ≠ some e.id)

/-- Each callback of the manager that is scheduled has no other entry pending at the time. -/
def SetsFresh : Timers → List TimerOp → Prop
  | _, [] => True
  | timers, op :: ops =>
    (match op with
      | .set callback _ => callback ∈ managerCallbacks → timers.pending data callback entry = 0
      | .remove _ => True) ∧ SetsFresh (timers.apply data op) ops

instance SetsFresh.decidable : ∀ (timers : Timers) (ops : List TimerOp), Decidable (SetsFresh data entry timers ops)
  | _, [] => .isTrue trivial
  | timers, op :: ops =>
    have : Decidable (SetsFresh data entry (timers.apply data op) ops) := SetsFresh.decidable _ ops
    match op with
    | .set _ _ => inferInstanceAs (Decidable ((_ → _) ∧ _))
    | .remove _ => inferInstanceAs (Decidable (True ∧ _))

end Pending

section Apply

variable {timers : Timers} {data data' : Nat} {callback callback' : TimedCallback} {entry : Option Nat}

theorem pending_remove_le : (timers.apply data (.remove callback)).pending data' callback' entry ≤
    timers.pending data' callback' entry :=
  List.eraseP_sublist.countP_le

theorem pending_set_le {delay : Delay} : (timers.apply data (.set callback delay)).pending data' callback' entry ≤
    timers.pending data' callback' entry + if data = data' ∧ callback = callback' then 1 else 0 := by
  unfold pending apply
  rw [List.countP_append, List.countP_singleton]
  refine Nat.add_le_add_left ?_ _
  by_cases h : data = data' ∧ callback = callback'
  · rw [if_pos h]
    split <;> omega
  · rw [if_neg h, if_neg]
    rw [TimedEntry.isFor]
    rintro hfor
    rw [Bool.and_eq_true, Bool.and_eq_true] at hfor
    exact h ⟨of_decide_eq_true hfor.1.1, of_decide_eq_true hfor.1.2⟩

/-- No callback of the manager is pending twice. -/
def Single (entry : Option Nat) (timers : Timers) : Prop :=
  ∀ data, ∀ callback ∈ managerCallbacks, timers.pending data callback entry ≤ 1

theorem Single.applyAll : ∀ {ops : List TimerOp} {timers : Timers}, timers.Single entry →
    SetsFresh data entry timers ops → (timers.applyAll data ops).Single entry
  | [], _, h, _ => h
  | .remove callback :: ops, timers, h, hfresh => by
    rw [applyAll_cons]
    exact Single.applyAll (fun data' callback' hmem => pending_remove_le.trans (h data' callback' hmem)) hfresh.2
  | .set callback delay :: ops, timers, h, hfresh => by
    rw [applyAll_cons]
    refine Single.applyAll (fun data' callback' hmem => pending_set_le.trans ?_) hfresh.2
    split
    · rename_i heq
      obtain ⟨rfl, rfl⟩ := heq
      rw [hfresh.1 hmem]
    · exact h data' callback' hmem

theorem Single.drop {id : Nat} (h : timers.Single (some id)) : (timers.drop id).Single none := fun data callback hmem => by
  refine le_trans ?_ (h data callback hmem)
  unfold pending Timers.drop
  rw [List.countP_filter]
  refine (List.countP_mono_left fun e _ he => ?_)
  rw [Bool.and_eq_true, Bool.and_eq_true] at he
  rw [Bool.and_eq_true]
  exact ⟨he.1.1, decide_eq_true fun hid => of_decide_eq_true he.2 (Option.some.inj hid).symm⟩

theorem Single.some (h : timers.Single none) (entry : Option Nat) : timers.Single entry := fun data callback hmem => by
  refine le_trans (List.countP_mono_left fun e _ he => ?_) (h data callback hmem)
  rw [Bool.and_eq_true] at he ⊢
  exact ⟨he.1, decide_eq_true fun hnone => nomatch hnone⟩

/-! ## Stopping -/

theorem pending_none : timers.pending data callback none = timers.entries.countP fun e => e.isFor data callback := by
  unfold pending
  congr 1
  funext e
  simp

/-- Removing takes one entry away, if there is one. -/
theorem pending_remove : (timers.apply data (.remove callback)).pending data' callback' none =
    timers.pending data' callback' none - if data = data' ∧ callback = callback' then 1 else 0 := by
  rw [pending_none, pending_none, apply]
  by_cases hfound : ∃ e ∈ timers.entries, e.isFor data callback
  · obtain ⟨e, he, hfor⟩ := hfound
    obtain ⟨e, l₁, l₂, -, hfor, hlist, herase⟩ := List.exists_of_eraseP he hfor
    obtain ⟨hdata, hcallback⟩ := TimedEntry.isFor_iff.1 hfor
    have hcount : e.isFor data' callback' = true ↔ data = data' ∧ callback = callback' := by
      rw [TimedEntry.isFor_iff, hdata, hcallback]
    rw [herase, hlist, List.countP_append, List.countP_append, List.countP_cons]
    by_cases h : data = data' ∧ callback = callback'
    · rw [if_pos h, if_pos (hcount.2 h)]
      omega
    · rw [if_neg h, if_neg fun hfor => h (hcount.1 hfor)]
      omega
  · rw [List.eraseP_of_forall_not fun e he hfor => hfound ⟨e, he, hfor⟩]
    by_cases h : data = data' ∧ callback = callback'
    · obtain ⟨rfl, rfl⟩ := h
      rw [List.countP_eq_zero.2 fun e he hfor => hfound ⟨e, he, hfor⟩, Nat.zero_sub]
    · rw [if_neg h, Nat.sub_zero]

theorem pending_removeAll : ∀ {callbacks : List TimedCallback} {timers : Timers}, callbacks.Nodup →
    (timers.applyAll data (callbacks.map .remove)).pending data callback none =
      timers.pending data callback none - if callback ∈ callbacks then 1 else 0
  | [], timers, _ => (Nat.sub_zero _).symm
  | callback' :: callbacks, timers, hnodup => by
    obtain ⟨hnot, hnodup⟩ := List.nodup_cons.1 hnodup
    rw [List.map_cons, applyAll_cons, pending_removeAll hnodup, pending_remove]
    by_cases heq : callback' = callback
    · subst heq
      rw [if_pos ⟨rfl, rfl⟩, if_neg hnot, if_pos List.mem_cons_self, Nat.sub_zero]
    · have hmem : callback ∈ callback' :: callbacks ↔ callback ∈ callbacks := by
        rw [List.mem_cons, or_iff_right (Ne.symm heq)]
      rw [if_neg fun h => heq h.2, Nat.sub_zero]
      simp only [hmem]

/-- `cloud_manager_stop` leaves no entry for a context with one of its callbacks. -/
def StopLeavesNone (timers : Timers) (ctx : OcCloudContext) : Prop :=
  ∀ e ∈ (timers.applyAll ctx.device (cloudManagerStop (.enter ctx)).ops).entries, e.data = ctx.device →
    e.callback ∉ managerCallbacks

instance StopLeavesNone.decidable (timers : Timers) (ctx : OcCloudContext) : Decidable (timers.StopLeavesNone ctx) :=
  inferInstanceAs (Decidable (∀ e ∈ _, _))

theorem stopLeavesNone_iff {ctx : OcCloudContext} : timers.StopLeavesNone ctx ↔
    ∀ callback ∈ managerCallbacks, timers.pending ctx.device callback none ≤ 1 := by
  have hops : (cloudManagerStop (.enter ctx)).ops = managerCallbacks.map .remove := rfl
  have hleft : ∀ callback ∈ managerCallbacks,
      (timers.applyAll ctx.device (cloudManagerStop (.enter ctx)).ops).pending ctx.device callback none =
        timers.pending ctx.device callback none - 1 := fun callback hmem => by
    rw [hops, pending_removeAll (by decide), if_pos hmem]
  constructor
  · intro h callback hmem
    have hzero := hleft callback hmem
    rw [pending_none, List.countP_eq_zero.2 fun e he hfor => h e he (TimedEntry.isFor_iff.1 hfor).1
      ((TimedEntry.isFor_iff.1 hfor).2 ▸ hmem)] at hzero
    omega
  · intro h e he hdata hmem
    have hzero := hleft e.callback hmem
    have hle := h e.callback hmem
    rw [pending_none] at hzero
    have hpos : 0 < (timers.applyAll ctx.device (cloudManagerStop (.enter ctx)).ops).entries.countP
        fun e' => e'.isFor ctx.device e.callback := List.countP_pos_iff.2 ⟨e, he, TimedEntry.isFor_iff.2 ⟨hdata, rfl⟩⟩
    omega

end Apply

end Timers

/-! ## Runs -/

section Runs

variable (maxAppDataSize itemMax : Nat)

/-- When a function schedules a callback of the manager for a context, none is pending for it but the one that is
running. -/
def SchedulesFresh (s : CloudSystem) (event : CloudEvent) : Prop :=
  ∀ run ∈ s.eventRun event, s.timers.SetsFresh run.1 event.entry run.2.ops

instance (s : CloudSystem) (event : CloudEvent) : Decidable (SchedulesFresh s event) :=
  inferInstanceAs (Decidable (∀ run ∈ s.eventRun event, s.timers.SetsFresh run.1 event.entry run.2.ops))

variable {maxAppDataSize itemMax} {s : CloudSystem}

theorem others_single {timers : Timers} (h : s.timers.Single none) (hothers : s.OthersChange timers) :
    timers.Single none := fun data callback hmem => by
  have hcloud : ∀ timers : Timers, timers.pending data callback none =
      (timers.entries.filter TimedEntry.isCloud).countP fun e => e.isFor data callback := fun timers => by
    rw [Timers.pending_none, List.countP_filter]
    refine List.countP_congr fun e _ => ⟨fun hfor => ?_, fun hfor => (Bool.and_eq_true _ _ ▸ hfor).1⟩
    have hcallback := (TimedEntry.isFor_iff.1 hfor).2
    rw [Bool.and_eq_true]
    refine ⟨hfor, ?_⟩
    rw [← hcallback] at hmem
    unfold TimedEntry.isCloud
    split
    · rename_i heq
      rw [heq] at hmem
      exact absurd hmem (by simp [managerCallbacks])
    · rfl
  have hold := h data callback hmem
  rw [hcloud] at hold ⊢
  rwa [hothers.1]

theorem step_single (h : s.timers.Single none) {event : CloudEvent} (hfresh : SchedulesFresh s event) :
    (s.step maxAppDataSize itemMax event).timers.Single none := by
  unfold CloudSystem.step
  cases hrun : s.eventRun event with
  | some run =>
    have happlied := (h.some event.entry).applyAll (hfresh run hrun)
    dsimp only
    cases hentry : event.entry with
    | none =>
      rw [hentry] at happlied
      exact happlied
    | some id =>
      rw [hentry] at happlied
      exact happlied.drop
  | none =>
    cases event with
    | reboot => exact fun data callback _ => Nat.zero_le 1
    | others timers =>
      dsimp only
      split
      · rename_i hothers
        exact others_single h hothers
      · exact h
    | _ => exact h

/-- In every run in which no callback of the manager is scheduled while it is pending, stopping a context in any state
that is reached leaves none of them. In any state at all, stopping leaves none just if none is pending twice. -/
theorem cloudManagerStop_leavesNone (maxAppDataSize itemMax : Nat) :
    (∀ events : List CloudEvent,
      Runs.Guarded (fun s event => s.step maxAppDataSize itemMax event) SchedulesFresh (CloudSystem.start itemMax)
        events →
      ∀ ctx : OcCloudContext,
        (Runs.runFrom (fun s event => s.step maxAppDataSize itemMax event) (CloudSystem.start itemMax)
          events).timers.StopLeavesNone ctx) ∧
    ∀ (timers : Timers) (ctx : OcCloudContext), timers.StopLeavesNone ctx ↔
      ∀ callback ∈ managerCallbacks, timers.pending ctx.device callback none ≤ 1 := by
  refine ⟨fun events hguarded ctx => ?_, fun timers ctx => Timers.stopLeavesNone_iff⟩
  have hsingle : (Runs.runFrom (fun s event => s.step maxAppDataSize itemMax event) (CloudSystem.start itemMax)
      events).timers.Single none :=
    @Runs.run_invariant _ _ _ _ (fun s : CloudSystem => s.timers.Single none)
      (fun s event h hfresh => step_single h hfresh) events (CloudSystem.start itemMax)
      (fun data callback _ => Nat.zero_le 1) hguarded
  exact Timers.stopLeavesNone_iff.2 fun callback hmem => hsingle ctx.device callback hmem

/-- The texts of a registration or a refresh. -/
def tokenTexts : List RepNode :=
  ["accesstoken", "refreshtoken", "uid"].map fun key => RepNode.leaf (ascii key) (.string (ascii "t"))

/-- A device is provisioned, its manager is started, and it sends its registration. -/
def registering : List CloudEvent :=
  [.api 0 ⟨.provision (ascii "coaps+tcp://127.0.0.1") (ascii "t") (ascii "s") none, []⟩, .api 0 ⟨.managerStart, []⟩,
    .expire 0 [] true []]

/-- The device is registered and logged in, and the application has been told both. -/
def loggedIn : List CloudEvent :=
  registering ++ [.response 0 .register ⟨.status .changed, .leaf (ascii "expiresin") (.int 3600) :: tokenTexts⟩ [] [],
    .expire 2 [] true [], .expire 3 [] true [], .response 0 .login ⟨.status .changed, []⟩ [] [], .expire 5 [] true []]

/-- The manager is stopped while a ping and the refresh of the token are pending. -/
theorem cloudManagerStop_leavesNone_started :
    let started := Runs.runFrom (fun s event => s.step 8192 256 event) (CloudSystem.start 256) loggedIn
    started.timers.StopLeavesNone (started.contexts 0) :=
  (cloudManagerStop_leavesNone 8192 256).1 loggedIn (by decide) _

/-- The device refreshes its token as well, and the cloud answers. -/
def tokenRefreshed : List CloudEvent :=
  loggedIn ++ [.expire 7 [] true [], .response 0 .refresh ⟨.status .changed, tokenTexts⟩ [] []]

/-- `refresh_token` has scheduled `cloud_login`, and so does the handler of the answer. Stopping removes one of the two. -/
theorem cloudManagerStop_leavesLogin :
    let refreshed := Runs.runFrom (fun s event => s.step 8192 256 event) (CloudSystem.start 256) tokenRefreshed
    ¬ refreshed.timers.StopLeavesNone (refreshed.contexts 0) := by
  decide

end Runs

end SmartGarage
