/-
How often the callbacks of the manager remove entries of `timed_callbacks`, as a function of the context they find.
-/
import SmartGarage.Cloud.StopRuns

namespace SmartGarage

/-! ## Counting -/

namespace CloudRun

variable (r : CloudRun) (callback callback' : TimedCallback)

/-- How often a function has removed an entry for a callback. -/
def removals : Nat := r.ops.count (.remove callback)

@[simp] theorem removals_enter (ctx : OcCloudContext) : (enter ctx).removals callback = 0 := rfl

@[simp] theorem removals_setDelayedCallback (delay : Delay) :
    (r.setDelayedCallback callback delay).removals callback' = r.removals callback' := by
  rw [removals, setDelayedCallback, List.count_append, List.count_singleton, if_neg (by simp)]
  rfl

@[simp] theorem removals_removeDelayedCallback :
    (r.removeDelayedCallback callback).removals callback' =
      r.removals callback' + if callback' = callback then 1 else 0 := by
  rw [removals, removeDelayedCallback, List.count_append, List.count_singleton]
  simp only [beq_iff_eq, TimerOp.remove.injEq, @eq_comm _ callback]
  rfl

@[simp] theorem removals_assign (f : OcCloudContext → OcCloudContext) :
    (r.assign f).removals callback = r.removals callback := rfl

@[simp] theorem removals_note (call : CloudCall) : (r.note call).removals callback = r.removals callback := rfl

@[simp] theorem removals_assignStore (f : OcCloudStore → OcCloudStore) :
    (r.assignStore f).removals callback = r.removals callback := rfl

@[simp] theorem removals_setStatus (bits : UInt8) : (r.setStatus bits).removals callback = r.removals callback := rfl

-- not by `rfl`: what is compared behind the handlers would be evaluated
@[simp] theorem removals_clearStatus (bits : UInt8) :
    (r.clearStatus bits).removals callback = r.removals callback := by
  rw [clearStatus, removals_assignStore]

@[simp] theorem removals_setCps (cps : UInt8) : (r.setCps cps).removals callback = r.removals callback := rfl

@[simp] theorem removals_cloudSetLastError (error : OcCloudError) :
    (r.cloudSetLastError error).removals callback = r.removals callback := rfl

@[simp] theorem removals_cloudManagerStop : (cloudManagerStop r).removals callback =
    r.removals callback + if callback ∈ managerCallbacks then 1 else 0 := by
  cases callback <;> simp [cloudManagerStop, managerCallbacks]

@[simp] theorem removals_cloudManagerRestart : (cloudManagerRestart r).removals callback =
    r.removals callback + if callback ∈ managerCallbacks ∨ callback = .startManager then 1 else 0 := by
  cases callback <;> simp [cloudManagerRestart, managerCallbacks]

end CloudRun

/-! ## Calls of the application -/

section Api

variable (callback : TimedCallback) (closed : CloudRun → Nat)

/-- Whether a new configuration is taken from a request. -/
def postAccepted (ctx : OcCloudContext) (payload : List RepNode) : Bool :=
  (ctx.store.cps = 0 || ctx.store.cps = ocCpsReadyToRegister || ctx.store.cps = ocCpsFailed) &&
    (ocRepGetString payload (ascii "cps")).isNone && (ocRepGetString payload (ascii "at")).isSome &&
    (ocRepGetString payload (ascii "cis")).isSome && (ocRepGetString payload (ascii "sid")).isSome

/-- How often a call of the application removes an entry for a callback of the manager; `closed` counts what closing the
endpoint removes. -/
def CloudApi.removals (r : CloudRun) : CloudApi → Nat
  | managerStop => closed (cloudManagerEnd r) + 1
  | provision .. => closed r + 1
  | post payload => if postAccepted r.ctx payload then closed r + 1 else 0
  | reset sent => if statusHas r.ctx.store.status ocCloudRegistered ∧ sent then 0 else 1
  | _ => 0

variable {callback closed} {close : CloudRun → CloudRun}

theorem postCloud_eq (payload : List RepNode) (r : CloudRun) : postCloud close payload r =
    if postAccepted r.ctx payload then
      cloudUpdateByResource close (ocRepGetString payload (ascii "at")) (ocRepGetString payload (ascii "apn"))
        (ocRepGetString payload (ascii "cis")) (ocRepGetString payload (ascii "sid")) r
    else r := by
  unfold postCloud postAccepted
  dsimp only
  by_cases hcps : r.ctx.store.cps ≠ 0 ∧ r.ctx.store.cps ≠ ocCpsReadyToRegister ∧ r.ctx.store.cps ≠ ocCpsFailed
  · rw [if_pos hcps, if_neg (by simp [hcps])]
  · rw [if_neg hcps]
    have hready : (decide (r.ctx.store.cps = 0) || decide (r.ctx.store.cps = ocCpsReadyToRegister) ||
        decide (r.ctx.store.cps = ocCpsFailed)) = true := by
      simp only [Bool.or_eq_true, decide_eq_true_eq]
      tauto
    rw [hready, Bool.true_and]
    cases ocRepGetString payload (ascii "cps") with
    | some t => rfl
    | none =>
      simp only [Option.isSome_none, Option.isNone_none, Bool.true_and, Bool.and_eq_true, and_assoc, Bool.false_eq_true,
        if_false]

theorem cloudProvisioned_removals (hmem : callback ∈ managerCallbacks) (r : CloudRun) :
    (cloudProvisioned r).removals callback = r.removals callback := by
  have hrestart : callback ≠ .restartManager := fun h => absurd (h ▸ hmem) (by decide)
  unfold cloudProvisioned cloudReconnect
  dsimp only
  split
  · split
    · rfl
    · simp [hrestart]
  · rfl

theorem cloudUnprovision_removals (hmem : callback ∈ managerCallbacks)
    (hclose : ∀ r, (close r).removals callback = r.removals callback + closed r) (r : CloudRun) :
    (cloudUnprovision close r).removals callback = r.removals callback + (closed r + 1) := by
  simp [cloudUnprovision, hclose, hmem, Nat.add_assoc]

theorem CloudApi.run_removals (hmem : callback ∈ managerCallbacks)
    (hclose : ∀ r, (close r).removals callback = r.removals callback + closed r) (call : CloudApi) (r : CloudRun) :
    (call.run close r).removals callback = r.removals callback + call.removals closed r := by
  have hsend : ∀ (ready sent : Bool) (error : OcCloudError),
      (sendRequest ready sent error r).removals callback = r.removals callback := fun ready sent error => by
    unfold sendRequest
    split <;> rfl
  cases call with
  | managerStart => simp [CloudApi.run, ocCloudManagerStart, cloudStartProcess, CloudApi.removals]
  | managerStop =>
    have hrestart : callback ≠ .restartManager := fun h => absurd (h ▸ hmem) (by decide)
    have hstart : callback ≠ .startManager := fun h => absurd (h ▸ hmem) (by decide)
    have hend : (cloudManagerEnd r).removals callback = r.removals callback + 1 := by
      simp [cloudManagerEnd, hmem, hrestart, hstart]
    rw [CloudApi.run, ocCloudManagerStop, CloudRun.removals_assign, hclose, hend, CloudApi.removals, Nat.add_assoc,
      Nat.add_comm 1]
  | register sent =>
    rw [CloudApi.run]
    split
    · rfl
    · exact hsend _ _ _
  | provision server accessToken serverId authProvider =>
    rw [CloudApi.run, ocCloudProvisionConfResource, cloudProvisioned_removals hmem, CloudRun.removals_assignStore,
      cloudUnprovision_removals hmem hclose, CloudApi.removals]
  | post payload =>
    rw [CloudApi.run, postCloud_eq, CloudApi.removals]
    split
    · rw [cloudUpdateByResource, cloudProvisioned_removals hmem, CloudRun.removals_assignStore,
        cloudUnprovision_removals hmem hclose]
    · rfl
  | reset sent =>
    rw [CloudApi.run, ocCloudResetContext, CloudApi.removals]
    split
    · rfl
    · simp [hmem]
  | _ => exact hsend _ _ _

end Api

/-! ## Closing the endpoint -/

/-- Whether the device is logged in. -/
def isLoggedIn (ctx : OcCloudContext) : Bool := statusHas ctx.store.status ocCloudLoggedIn

/-- How often the calls do that the application makes while the endpoint is being closed, each in the context that the
ones before it leave. -/
def nestedRemovals : List CloudApi → CloudRun → Nat
  | [], _ => 0
  | call :: calls, r => call.removals (fun _ => 0) r + nestedRemovals calls (call.run id r)

/-- The run in which a handler of the application's requests tells it that the cloud is not available. -/
def toldUnavailable (r : CloudRun) : CloudHandler → CloudRun
  | .apiRegister | .apiLogin => handlerFailed .response (r.cloudSetLastError .connect)
  | .apiRefresh => refreshFailed (r.cloudSetLastError .connect)
  | .apiLogout => (r.cloudSetLastError .connect).setStatus ocCloudFailure
  | .apiDeregister _ => (r.assignStore fun store => { store with status := ocCloudDeregistered }).setCps ocCpsReadyToRegister
  | _ => r

variable (callback : TimedCallback)

/-- How often a call back removes an entry for a callback of the manager. -/
def ClosingEffect.removals (r : CloudRun) : ClosingEffect → Nat
  | .answered .register _ => if callback = .cloudRegister then 1 else 0
  | .answered .login _ => if callback = .cloudLogin then 1 else 0
  | .answered .refresh _ => if callback = .refreshToken then 1 else 0
  | .answered .ping _ => if isLoggedIn r.ctx ∧ callback = .sendPing then 1 else 0
  | .answered (.apiDeregister true) _ => 1
  | .answered handler calls => nestedRemovals calls (toldUnavailable (r.note (.responded handler unavailable r.ctx)) handler)
  | .application calls => nestedRemovals calls r
  | .sessionEnded => if r.ctx.cloudManager then 1 else 0

/-- How often closing the endpoint does. -/
def closingRemovals : List ClosingEffect → CloudRun → Nat
  | [], _ => 0
  | effect :: closing, r => effect.removals callback r + closingRemovals closing (closingStep r effect)

section Closing

variable {callback} (hmem : callback ∈ managerCallbacks) (r : CloudRun)
include hmem

theorem nestedCalls_removals : ∀ (calls : List CloudApi) (r : CloudRun),
    (nestedCalls calls r).removals callback = r.removals callback + nestedRemovals calls r
  | [], _ => rfl
  | call :: calls, r => by
    have hid : ∀ r : CloudRun, (id r).removals callback = r.removals callback + 0 := fun r => rfl
    rw [nestedCalls, List.foldl_cons, ← nestedCalls, nestedCalls_removals calls,
      call.run_removals hmem hid, nestedRemovals, Nat.add_assoc]

omit hmem

theorem responseError_unavailable (error : OcCloudError) :
    responseError unavailable error r = some (r.cloudSetLastError .connect) := rfl

theorem unavailable_ping : ¬ unavailable.code = .pingTimeout := by decide

theorem unavailable_gone : (!unavailable.code.isError || unavailable.code.isUnavailable) = true := rfl

theorem unavailable_code : ¬ unavailable.code = unauthorized := by decide

@[simp] theorem handlerFailed_removals (error : OcCloudError) :
    (handlerFailed error r).removals callback = r.removals callback := by
  unfold handlerFailed
  dsimp only
  split <;> rfl

@[simp] theorem refreshFailed_removals : (refreshFailed r).removals callback = r.removals callback := by
  unfold refreshFailed
  dsimp only
  split <;> rfl

theorem toldUnavailable_removals (handler : CloudHandler) :
    (toldUnavailable r handler).removals callback = r.removals callback := by
  cases handler <;> simp [toldUnavailable]

include hmem

theorem closingStep_removals (effect : ClosingEffect) :
    (closingStep r effect).removals callback = r.removals callback + effect.removals callback r := by
  cases effect with
  | answered handler calls =>
    -- the handlers of the application's requests tell it, and its calls remove what they do
    have htold : ∀ r, (nestedCalls calls (toldUnavailable r handler)).removals callback =
        r.removals callback + nestedRemovals calls (toldUnavailable r handler) := fun r => by
      rw [nestedCalls_removals hmem, toldUnavailable_removals]
    cases handler with
    | register =>
      simp [closingStep, handle, cloudRegisterHandler, registerHandler, responseError_unavailable, unavailable_code,
        ClosingEffect.removals]
    | login =>
      simp [closingStep, handle, cloudLoginHandler, loginHandler, responseError_unavailable, unavailable_code,
        ClosingEffect.removals]
    | refresh =>
      simp [closingStep, handle, managerRefreshTokenHandler, refreshTokenHandler, responseError_unavailable,
        unavailable_code, ClosingEffect.removals]
    | ping =>
      by_cases hlogged : statusHas r.ctx.store.status ocCloudLoggedIn
      · simp [closingStep, handle, sendPingHandler, unavailable_ping, isLoggedIn, hlogged, ClosingEffect.removals]
      · simp [closingStep, handle, sendPingHandler, isLoggedIn, hlogged, ClosingEffect.removals]
    | apiDeregister resetting =>
      cases resetting
      · exact (CloudRun.removals_clearStatus _ _ _).trans (htold _)
      · simp [closingStep, handle, cloudDeregisteredInternal, unavailable_gone, cloudDeregisterOnResetInternal,
          ClosingEffect.removals, hmem]
    | _ => exact (CloudRun.removals_clearStatus _ _ _).trans (htold _)
  | application calls => exact nestedCalls_removals hmem calls r
  | sessionEnded =>
    by_cases hmanager : r.ctx.cloudManager
    · simp [closingStep, cloudEpSessionEventHandler, hmanager, ClosingEffect.removals, hmem]
    · simp [closingStep, cloudEpSessionEventHandler, hmanager, ClosingEffect.removals]

theorem cloudCloseEndpoint_removals : ∀ (closing : List ClosingEffect) (r : CloudRun),
    (cloudCloseEndpoint closing r).removals callback = r.removals callback + closingRemovals callback closing r
  | [], _ => rfl
  | effect :: closing, r => by
    rw [cloudCloseEndpoint, List.foldl_cons, ← cloudCloseEndpoint, cloudCloseEndpoint_removals closing,
      closingStep_removals hmem, closingRemovals, Nat.add_assoc]

end Closing

/-! ## Callbacks -/

section Callbacks

variable (closing : List ClosingEffect) (callback : TimedCallback) (ctx : OcCloudContext)

/-- How often `reconnect` removes an entry for a callback of the manager. -/
def reconnectRemovals (r : CloudRun) : Nat :=
  (if callback = .refreshToken then 1 else 0) +
    if r.ctx.cloudEpState = .connected then
      closingRemovals callback closing
        ((r.setDelayedCallback .callbackHandler (.seconds 0)).removeDelayedCallback .refreshToken)
    else 0

/-- How often the calls of the application remove an entry for `callback_handler`. -/
def appRemovals : List AppCall → CloudRun → Nat
  | [], _ => 0
  | c :: calls, r => c.call.removals (closingRemovals .callbackHandler c.closing) r + appRemovals calls (c.run r)

/-- How often a callback removes an entry for itself. The limit of its retries must be reached, but for the callback of
the application. -/
def ownRemovals (app : List AppCall) : TimedCallback → Nat
  | .cloudRegister =>
    if ctx.store.status = ocCloudInitialized ∧ ¬ ctx.retryCount + 1 < maxRetryCount then
      reconnectRemovals closing .cloudRegister (countRetry (.enter ctx))
    else 0
  | .cloudLogin =>
    if statusHas ctx.store.status ocCloudRegistered ∧ ¬ ctx.retryCount + 1 < maxRetryCount then
      reconnectRemovals closing .cloudLogin (countRetry (.enter ctx))
    else 0
  | .sendPing =>
    if isLoggedIn ctx ∧ ¬ ctx.retryCount + 1 < maxRetryCount then
      reconnectRemovals closing .sendPing (countRetry (.enter ctx))
    else 0
  | .refreshToken =>
    if statusHas ctx.store.status ocCloudRegistered ∧ ¬ ctx.retryRefreshTokenCount + 1 < maxRetryCount then
      reconnectRemovals closing .refreshToken (countRefreshRetry (.enter ctx))
    else 0
  | .callbackHandler => appRemovals app (.enter ctx)
  | _ => 0

variable {callback}

theorem reconnect_removals (hmem : callback ∈ managerCallbacks) (r : CloudRun) :
    (reconnect closing r).removals callback = r.removals callback + reconnectRemovals closing callback r := by
  have hrestart : callback ≠ .restartManager := fun h => absurd (h ▸ hmem) (by decide)
  by_cases hconnected : r.ctx.cloudEpState = .connected
  · simp [reconnect, cloudReconnect, reconnectRemovals, hconnected, cloudCloseEndpoint_removals hmem, Nat.add_assoc]
  · simp [reconnect, cloudReconnect, reconnectRemovals, hconnected, hrestart]

theorem appCallback_removals : ∀ (calls : List AppCall) (r : CloudRun),
    (appCallback calls r).removals .callbackHandler = r.removals .callbackHandler + appRemovals calls r
  | [], _ => rfl
  | c :: calls, r => by
    have hmem : TimedCallback.callbackHandler ∈ managerCallbacks := by decide
    rw [appCallback, List.foldl_cons, ← appCallback, appCallback_removals calls, AppCall.run,
      CloudApi.run_removals hmem (cloudCloseEndpoint_removals hmem _), appRemovals, Nat.add_assoc, AppCall.run]

theorem removals_ite {c : Prop} [Decidable c] (r r' : CloudRun) (callback : TimedCallback) :
    (if c then r else r').removals callback = if c then r.removals callback else r'.removals callback :=
  apply_ite (fun r : CloudRun => r.removals callback) c r r'

theorem runCallback_removals (connects : Bool) (app : List AppCall) (callback : TimedCallback) :
    (runCallback closing connects (appCallback app) callback (.enter ctx)).removals callback =
      ownRemovals closing ctx app callback := by
  cases callback with
  | cloudRegister =>
    by_cases hready : ctx.store.status = ocCloudInitialized
    · by_cases hretry : ctx.retryCount + 1 < maxRetryCount
      · simp [runCallback, cloudRegister, countRetry, ownRemovals, hready, hretry, removals_ite]
      · simp [runCallback, cloudRegister, countRetry, ownRemovals, hready, hretry]
        exact (reconnect_removals closing (by decide) _).trans (Nat.zero_add _)
    · simp [runCallback, cloudRegister, ownRemovals, hready]
  | cloudLogin =>
    by_cases hready : statusHas ctx.store.status ocCloudRegistered
    · by_cases hretry : ctx.retryCount + 1 < maxRetryCount
      · simp [runCallback, cloudLogin, countRetry, ownRemovals, hready, hretry, removals_ite]
      · simp [runCallback, cloudLogin, countRetry, ownRemovals, hready, hretry]
        exact (reconnect_removals closing (by decide) _).trans (Nat.zero_add _)
    · simp [runCallback, cloudLogin, ownRemovals, hready]
  | sendPing =>
    by_cases hready : statusHas ctx.store.status ocCloudLoggedIn
    · by_cases hretry : ctx.retryCount + 1 < maxRetryCount
      · simp [runCallback, sendPing, countRetry, ownRemovals, isLoggedIn, hready, hretry, removals_ite]
      · simp [runCallback, sendPing, countRetry, ownRemovals, isLoggedIn, hready, hretry]
        exact (reconnect_removals closing (by decide) _).trans (Nat.zero_add _)
    · simp [runCallback, sendPing, ownRemovals, isLoggedIn, hready]
  | refreshToken =>
    by_cases hready : statusHas ctx.store.status ocCloudRegistered
    · by_cases hretry : ctx.retryRefreshTokenCount + 1 < maxRetryCount
      · simp [runCallback, refreshToken, countRefreshRetry, ownRemovals, hready, hretry, removals_ite]
      · simp [runCallback, refreshToken, countRefreshRetry, ownRemovals, hready, hretry]
        exact (reconnect_removals closing (by decide) _).trans (Nat.zero_add _)
    · simp [runCallback, refreshToken, ownRemovals, hready]
  | callbackHandler =>
    rw [runCallback, callbackHandler, CloudRun.removals_clearStatus, appCallback_removals, ownRemovals,
      CloudRun.removals_enter, Nat.zero_add]
  | startManager => rfl
  | restartManager => rfl
  | other n => rfl

end Callbacks

end SmartGarage
