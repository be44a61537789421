/-
Which entries of `session_timeout` and `message_timeout` the manager reads, and whether a restarted manager gets to send its
next request. Both depend on counters that timers increment and that only some responses reset.
-/
import SmartGarage.Cloud.Removals

namespace SmartGarage

/-! ## Indices and calls -/

/-- The entry of an array that a timer is set to exists. -/
def TimerOp.InArray : TimerOp → Prop
  | .set _ delay => delay.value.isSome
  | .remove _ => True

instance : ∀ op : TimerOp, Decidable op.InArray
  | .set _ delay => inferInstanceAs (Decidable (delay.value.isSome = true))
  | .remove _ => .isTrue trivial

/-- The response makes `_register_handler` fail. -/
def registerFails (response : CloudResponse) (ctx : OcCloudContext) : Bool :=
  response.code.isError || ctx.store.status ≠ ocCloudInitialized

/-- The response makes `_login_handler` fail. -/
def loginFails (response : CloudResponse) (ctx : OcCloudContext) : Bool :=
  response.code.isError || !statusHas ctx.store.status ocCloudRegistered

/-- The response makes `_refresh_token_handler` fail. -/
def refreshFails (response : CloudResponse) (ctx : OcCloudContext) : Bool :=
  response.code.isError || !statusHas ctx.store.status ocCloudRegistered ||
    (ocRepGetString response.payload (ascii "accesstoken")).isNone ||
    (ocRepGetString response.payload (ascii "refreshtoken")).isNone

/-- A response after which a request is tried once more finds its counter below the limit. -/
def CloudCall.BelowLimit : CloudCall → Prop
  | .responded .register response ctx =>
    registerFails response ctx → response.code ≠ unauthorized → ctx.retryCount < maxRetryCount
  | .responded .login response ctx =>
    loginFails response ctx → response.code ≠ unauthorized → ctx.retryCount < maxRetryCount
  | .responded .refresh response ctx =>
    refreshFails response ctx → response.code ≠ unauthorized → ctx.retryRefreshTokenCount < maxRetryCount
  | _ => True

instance : ∀ call : CloudCall, Decidable call.BelowLimit
  | .responded .register _ _ | .responded .login _ _ | .responded .refresh _ _ => inferInstanceAs (Decidable (_ → _ → _))
  | .responded .ping _ _ | .responded .apiRegister _ _ | .responded .apiLogin _ _ | .responded .apiRefresh _ _
  | .responded .apiLogout _ _ | .responded (.apiDeregister _) _ _ | .started _ => .isTrue trivial

namespace CloudRun

/-- All indices that a function has used are those of its arrays just if it has been called below the limit. -/
def Indexed (r : CloudRun) : Prop := (∀ op ∈ r.ops, op.InArray) ↔ ∀ call ∈ r.calls, call.BelowLimit

variable {r : CloudRun}

theorem indexed_enter (ctx : OcCloudContext) : (enter ctx).Indexed :=
  iff_of_true (fun _ hop => nomatch hop) fun _ hcall => nomatch hcall

theorem Indexed.set (h : r.Indexed) (callback : TimedCallback) {delay : Delay} (hdelay : delay.value.isSome) :
    (r.setDelayedCallback callback delay).Indexed := by
  refine Iff.trans ?_ h
  unfold setDelayedCallback
  simp only [List.forall_mem_append, List.forall_mem_singleton]
  exact and_iff_left hdelay

theorem Indexed.remove (h : r.Indexed) (callback : TimedCallback) : (r.removeDelayedCallback callback).Indexed := by
  refine Iff.trans ?_ h
  unfold removeDelayedCallback
  simp only [List.forall_mem_append, List.forall_mem_singleton]
  exact and_iff_left trivial

theorem Indexed.note (h : r.Indexed) {call : CloudCall} (hcall : call.BelowLimit) : (r.note call).Indexed := by
  refine h.trans ?_
  unfold CloudRun.note
  simp only [List.forall_mem_append, List.forall_mem_singleton]
  exact (and_iff_left hcall).symm

theorem Indexed.stop (h : r.Indexed) : (cloudManagerStop r).Indexed :=
  ((((h.remove _).remove _).remove _).remove _).remove _

theorem Indexed.restart (h : r.Indexed) : (cloudManagerRestart r).Indexed := (h.stop.remove _).set _ rfl

theorem Indexed.start (h : r.Indexed) : (cloudStartProcess r).Indexed :=
  (h.note (show CloudCall.BelowLimit (.started r.ctx) from trivial)).set _ rfl

theorem Indexed.sessionEvent (h : r.Indexed) (state : OcSessionState) : (cloudEpSessionEventHandler state r).Indexed := by
  unfold cloudEpSessionEventHandler
  dsimp only
  split
  · exact Indexed.restart h
  · exact h

theorem Indexed.append (h : r.Indexed) {r' : CloudRun} {call : CloudCall} {ops : List TimerOp}
    (hcalls : r'.calls = r.calls ++ [call]) (hops : r'.ops = r.ops ++ ops)
    (hiff : (∀ op ∈ ops, op.InArray) ↔ call.BelowLimit) : r'.Indexed := by
  unfold Indexed
  rw [hcalls, hops]
  simp only [List.forall_mem_append, List.forall_mem_singleton]
  exact and_congr h hiff

end CloudRun

/-! ## Handlers -/

theorem message_inArray_iff (n : UInt8) : (Delay.message n.toNat).value.isSome ↔ n < maxRetryCount := by
  rw [Delay.value, isSome_getElem?, UInt8.lt_iff_toNat_lt]
  rfl

section Handlers

variable {response : CloudResponse} {close app : CloudRun → CloudRun} {r : CloudRun}

theorem ResponseCode.isError_of_isUnavailable {code : ResponseCode} (h : code.isUnavailable) : code.isError := by
  cases code with
  | status s => cases s <;> first | rfl | cases h
  | _ => rfl

variable (response) in
theorem responseError_eq (error : OcCloudError) (r : CloudRun) : ∃ error', responseError response error r =
    if response.code.isError then some (r.cloudSetLastError error') else none := by
  unfold responseError
  by_cases hunavailable : response.code.isUnavailable
  · exact ⟨.connect, by rw [if_pos hunavailable, if_pos (ResponseCode.isError_of_isUnavailable hunavailable)]⟩
  · exact ⟨error, by rw [if_neg hunavailable]⟩

/-- What a function leaves alone that only sets the status and the error of the context. -/
structure SameTimers (r r' : CloudRun) : Prop where
  ops : r'.ops = r.ops
  calls : r'.calls = r.calls
  retryCount : r'.ctx.retryCount = r.ctx.retryCount
  retryRefreshTokenCount : r'.ctx.retryRefreshTokenCount = r.ctx.retryRefreshTokenCount

theorem SameTimers.of_error {error : OcCloudError} {r' : CloudRun} (h : SameTimers (r.cloudSetLastError error) r') :
    SameTimers r r' := ⟨h.ops, h.calls, h.retryCount, h.retryRefreshTokenCount⟩

theorem handlerFailed_sameTimers (error : OcCloudError) : SameTimers r (handlerFailed error r) := by
  unfold handlerFailed
  dsimp only
  split <;> exact ⟨rfl, rfl, rfl, rfl⟩

theorem refreshFailed_sameTimers : SameTimers r (refreshFailed r) := by
  unfold refreshFailed
  dsimp only
  split <;> exact ⟨rfl, rfl, rfl, rfl⟩

/-- What a handler does, and whether it reports a success: a failure leaves the timed callbacks and the counters alone, and a
success goes on from `made` with the counter at zero. -/
inductive Handles (r made : CloudRun) : Bool → CloudRun × Bool → Prop
  | failed {r' : CloudRun} (same : SameTimers r r') : Handles r made true (r', false)
  | succeeded {r' : CloudRun} (ops : r'.ops = made.ops) (calls : r'.calls = made.calls) (retryCount : r'.ctx.retryCount = 0) :
    Handles r made false (r', true)

/-- A handler that fails sets an error, if only the one that is set already. -/
theorem failed_of_error {result : CloudRun × Bool} {failed : CloudRun → CloudRun} (error : OcCloudError)
    (hcode : ∀ r', responseError response error r = some r' → result = (failed r', false))
    (hstate : ¬ response.code.isError → responseError response error r = none → result = (failed r, false)) :
    ∃ error, result = (failed (r.cloudSetLastError error), false) := by
  obtain ⟨error', herror⟩ := responseError_eq response error r
  by_cases h : response.code.isError
  · rw [if_pos h] at herror
    exact ⟨error', hcode _ herror⟩
  · rw [if_neg h] at herror
    exact ⟨r.ctx.lastError, hstate h herror⟩

variable (close) in
theorem registerHandler_failed (h : registerFails response r.ctx) : ∃ error, registerHandler response close r =
    (handlerFailed .response (r.cloudSetLastError error), false) := by
  unfold registerHandler
  refine failed_of_error .response (fun r' herror => by rw [herror]) fun hcode herror => ?_
  rw [registerFails, Bool.or_eq_true, decide_eq_true_eq, or_iff_right hcode] at h
  rw [herror]
  exact if_pos h

variable (response close r) in
theorem registerHandler_handles : Handles r (registerTexts response close r) (registerFails response r.ctx)
    (registerHandler response close r) := by
  cases hfails : registerFails response r.ctx with
  | true =>
    obtain ⟨error, heq⟩ := registerHandler_failed close hfails
    rw [heq]
    exact .failed (handlerFailed_sameTimers .response).of_error
  | false =>
    obtain ⟨error, herror⟩ := responseError_eq response .response r
    rw [registerFails, Bool.or_eq_false_iff, decide_eq_false_iff_not] at hfails
    unfold registerHandler
    rw [herror, if_neg (by rw [hfails.1]; exact Bool.false_ne_true), if_neg hfails.2]
    dsimp only
    generalize registerTexts response close r = made
    cases expiresIn response <;> exact .succeeded rfl rfl rfl

theorem loginHandler_failed (h : loginFails response r.ctx) : ∃ error, loginHandler response r =
    (handlerFailed .response (r.cloudSetLastError error), false) := by
  unfold loginHandler
  refine failed_of_error .response (fun r' herror => by rw [herror]) fun hcode herror => ?_
  rw [loginFails, Bool.or_eq_true, or_iff_right hcode] at h
  rw [herror]
  exact if_pos h

variable (response r) in
theorem loginHandler_handles : Handles r r (loginFails response r.ctx) (loginHandler response r) := by
  cases hfails : loginFails response r.ctx with
  | true =>
    obtain ⟨error, heq⟩ := loginHandler_failed hfails
    rw [heq]
    exact .failed (handlerFailed_sameTimers .response).of_error
  | false =>
    obtain ⟨error, herror⟩ := responseError_eq response .response r
    rw [loginFails, Bool.or_eq_false_iff] at hfails
    unfold loginHandler
    rw [herror, if_neg (by rw [hfails.1]; exact Bool.false_ne_true)]
    dsimp only
    rw [if_neg (by rw [hfails.2]; exact Bool.false_ne_true)]
    split <;> exact .succeeded rfl rfl rfl

theorem refreshTokenHandler_failed (h : refreshFails response r.ctx) : ∃ error, refreshTokenHandler response r =
    (refreshFailed (r.cloudSetLastError error), false) := by
  unfold refreshTokenHandler
  refine failed_of_error .refreshAccessToken (fun r' herror => by rw [herror]) fun hcode herror => ?_
  rw [herror]
  dsimp only
  by_cases hregistered : statusHas r.ctx.store.status ocCloudRegistered
  · -- one of the two tokens is missing
    rw [if_neg (by rw [hregistered]; decide)]
    rw [refreshFails, hregistered] at h
    cases haccess : ocRepGetString response.payload (ascii "accesstoken") with
    | none => rfl
    | some access =>
      cases hrefresh : ocRepGetString response.payload (ascii "refreshtoken") with
      | none => rfl
      | some refresh =>
        rw [haccess, hrefresh] at h
        simp [hcode] at h
  · rw [if_pos (by simpa using hregistered)]

variable (response r) in
theorem refreshTokenHandler_handles : Handles r r (refreshFails response r.ctx) (refreshTokenHandler response r) := by
  cases hfails : refreshFails response r.ctx with
  | true =>
    obtain ⟨error, heq⟩ := refreshTokenHandler_failed hfails
    rw [heq]
    exact .failed refreshFailed_sameTimers.of_error
  | false =>
    obtain ⟨error, herror⟩ := responseError_eq response .refreshAccessToken r
    rw [refreshFails, Bool.or_eq_false_iff, Bool.or_eq_false_iff, Bool.or_eq_false_iff] at hfails
    obtain ⟨⟨⟨hcode, hregistered⟩, haccess⟩, hrefresh⟩ := hfails
    obtain ⟨access, haccess⟩ := Option.isSome_iff_exists.1 (Option.isNone_eq_false_iff.1 haccess)
    obtain ⟨refresh, hrefresh⟩ := Option.isSome_iff_exists.1 (Option.isNone_eq_false_iff.1 hrefresh)
    unfold refreshTokenHandler
    rw [herror, if_neg (by rw [hcode]; exact Bool.false_ne_true)]
    dsimp only
    rw [if_neg (by rw [hregistered]; exact Bool.false_ne_true), haccess, hrefresh]
    cases expiresIn response <;> exact .succeeded rfl rfl rfl

end Handlers

/-! ## Indices of the handlers -/

namespace CloudRun

variable {r r' : CloudRun} {call : CloudCall}

theorem Indexed.of_eq (h : r.Indexed) (hops : r'.ops = r.ops) (hcalls : r'.calls = r.calls) : r'.Indexed := by
  unfold Indexed
  rw [hops, hcalls]
  exact h

theorem Indexed.of_handles {made : CloudRun} {fails : Bool} {result : CloudRun × Bool}
    (h : Handles r made fails result) (hr : r.Indexed) (hmade : made.Indexed) : result.1.Indexed := by
  cases h with
  | failed same => exact hr.of_eq same.ops same.calls
  | succeeded ops calls _ => exact hmade.of_eq ops calls

theorem Indexed.retry (h : r.Indexed) (hsame : SameTimers (r.note call) r') (callback : TimedCallback) {n : UInt8}
    (hcall : call.BelowLimit ↔ n < maxRetryCount) :
    ((r'.removeDelayedCallback callback).setDelayedCallback callback (.message n.toNat)).Indexed := by
  have hops : ((r'.removeDelayedCallback callback).setDelayedCallback callback (.message n.toNat)).ops =
      r.ops ++ [.remove callback, .set callback (.message n.toNat)] := by
    show (r'.ops ++ [.remove callback]) ++ [.set callback (.message n.toNat)] = _
    rw [hsame.ops, List.append_assoc]
    rfl
  refine h.append hsame.calls hops ?_
  rw [List.forall_mem_cons, List.forall_mem_singleton, hcall, ← message_inArray_iff]
  exact and_iff_right trivial

/-- Behind a failure: the request is tried once more, unless it is unauthorized. -/
theorem Indexed.failed {response : CloudResponse} {n : UInt8} {other : CloudRun} (h : r.Indexed)
    (hsame : SameTimers (r.note call) r') (callback : TimedCallback)
    (hcall : call.BelowLimit ↔ (response.code ≠ unauthorized → n < maxRetryCount))
    (hother : (r'.removeDelayedCallback callback).Indexed → other.Indexed) :
    (if response.code ≠ unauthorized then (r'.removeDelayedCallback callback).setDelayedCallback callback (.message n.toNat)
      else other).Indexed := by
  by_cases hcode : response.code = unauthorized
  · have hnoted := h.note (hcall.2 fun hne => absurd hcode hne)
    rw [if_neg (not_not_intro hcode)]
    exact hother ((hnoted.of_eq hsame.ops hsame.calls).remove _)
  · rw [if_pos hcode]
    exact h.retry hsame callback (hcall.trans ⟨fun hlimit => hlimit hcode, fun hlimit _ => hlimit⟩)

end CloudRun

section Handlers

variable {response : CloudResponse} {close app : CloudRun → CloudRun} {r : CloudRun}

theorem redirect_indexed (hclose : ∀ r : CloudRun, r.Indexed → (close r).Indexed) (h : r.Indexed) (server : OcString) :
    (redirect close server r).Indexed := by
  unfold redirect
  dsimp only
  split
  · exact h
  · exact hclose r h

variable (response) in
theorem takeText_preserves {P : CloudRun → Prop} {set : OcString → CloudRun → CloudRun} (key : String)
    (hset : ∀ value r, P r → P (set value r)) (h : P r) : P (takeText response key set r) := by
  unfold takeText
  split
  · exact hset _ r h
  · exact h

variable (response) in
theorem registerTexts_indexed (hclose : ∀ r : CloudRun, r.Indexed → (close r).Indexed) (h : r.Indexed) :
    (registerTexts response close r).Indexed := by
  unfold registerTexts
  have haccess := takeText_preserves (P := CloudRun.Indexed) response "accesstoken" (fun value r h =>
    show (r.assignStore fun store => { store with accessToken := cloudSetString value }).Indexed from h) h
  have hserver := takeText_preserves (P := CloudRun.Indexed) response "redirecturi" (fun value r h =>
    redirect_indexed hclose h value) haccess
  have hrefresh := takeText_preserves (P := CloudRun.Indexed) response "refreshtoken" (fun value r h =>
    show (r.assignStore fun store => { store with refreshToken := cloudSetString value }).Indexed from h) hserver
  exact takeText_preserves response "uid" (fun value r h => h) hrefresh

theorem cloudRegisterHandler_indexed (hclose : ∀ r : CloudRun, r.Indexed → (close r).Indexed) (h : r.Indexed) :
    (cloudRegisterHandler response close (r.note (.responded .register response r.ctx))).Indexed := by
  have hhandles : Handles _ _ (registerFails response r.ctx) _ :=
    registerHandler_handles response close (r.note (.responded .register response r.ctx))
  unfold cloudRegisterHandler
  generalize registerHandler response close (r.note (.responded .register response r.ctx)) = result at hhandles ⊢
  generalize hfails : registerFails response r.ctx = fails at hhandles
  cases hhandles with
  | failed same =>
    refine CloudRun.Indexed.set (h.failed same .cloudRegister ?_ id) _ rfl
    rw [CloudRun.removeDelayedCallback_ctx, same.retryCount]
    exact forall_prop_of_true hfails
  | @succeeded r' ops calls count =>
    have hcall : (CloudCall.responded .register response r.ctx).BelowLimit := fun htrue =>
      absurd (hfails.symm.trans htrue) Bool.false_ne_true
    have hmade := (registerTexts_indexed response hclose (h.note hcall)).of_eq ops calls
    refine ((hmade.remove .cloudRegister).set .callbackHandler (rfl : (Delay.seconds 0).value.isSome)).set _ ?_
    show (Delay.message r'.ctx.retryCount.toNat).value.isSome
    rw [count]
    rfl

theorem cloudLoginHandler_indexed (h : r.Indexed) :
    (cloudLoginHandler response (r.note (.responded .login response r.ctx))).Indexed := by
  have hhandles : Handles _ _ (loginFails response r.ctx) _ :=
    loginHandler_handles response (r.note (.responded .login response r.ctx))
  unfold cloudLoginHandler
  generalize loginHandler response (r.note (.responded .login response r.ctx)) = result at hhandles ⊢
  generalize hfails : loginFails response r.ctx = fails at hhandles
  cases hhandles with
  | failed same =>
    refine CloudRun.Indexed.set (h.failed same .cloudLogin ?_ fun hr' => ?_) _ rfl
    · rw [CloudRun.removeDelayedCallback_ctx, same.retryCount]
      exact forall_prop_of_true hfails
    · split
      · exact (hr'.remove _).set _ rfl
      · exact hr'
  | succeeded ops calls _ =>
    have hcall : (CloudCall.responded .login response r.ctx).BelowLimit := fun htrue =>
      absurd (hfails.symm.trans htrue) Bool.false_ne_true
    have hping := ((((h.note hcall).of_eq ops calls).remove .cloudLogin).set .callbackHandler
      (rfl : (Delay.seconds 0).value.isSome)).set .sendPing (rfl : (Delay.seconds 20).value.isSome)
    dsimp only
    split
    · exact hping.set _ rfl
    · exact hping

theorem managerRefreshTokenHandler_indexed (h : r.Indexed) :
    (managerRefreshTokenHandler response (r.note (.responded .refresh response r.ctx))).Indexed := by
  have hhandles : Handles _ _ (refreshFails response r.ctx) _ :=
    refreshTokenHandler_handles response (r.note (.responded .refresh response r.ctx))
  unfold managerRefreshTokenHandler
  generalize refreshTokenHandler response (r.note (.responded .refresh response r.ctx)) = result at hhandles ⊢
  generalize hfails : refreshFails response r.ctx = fails at hhandles
  cases hhandles with
  | failed same =>
    refine CloudRun.Indexed.set (h.failed same .refreshToken ?_ id) _ rfl
    rw [CloudRun.removeDelayedCallback_ctx, same.retryRefreshTokenCount]
    exact forall_prop_of_true hfails
  | @succeeded r' ops calls count =>
    have hcall : (CloudCall.responded .refresh response r.ctx).BelowLimit := fun htrue =>
      absurd (hfails.symm.trans htrue) Bool.false_ne_true
    have hremoved : (((r'.removeDelayedCallback .sendPing).removeDelayedCallback .refreshToken).assign fun ctx =>
        { ctx with retryRefreshTokenCount := 0 }).Indexed :=
      (((h.note hcall).of_eq ops calls).remove .sendPing).remove .refreshToken
    refine CloudRun.Indexed.set (hremoved.set .cloudLogin ?_) _ rfl
    show (Delay.session r'.ctx.retryCount.toNat).value.isSome
    rw [count]
    rfl

theorem sendPingHandler_indexed (h : r.Indexed) : (sendPingHandler response r).Indexed := by
  unfold sendPingHandler
  split
  · exact h
  · split
    · exact (h.remove _).set _ rfl
    · exact CloudRun.Indexed.set (r := (r.removeDelayedCallback .sendPing).assign _) (h.remove _) _ rfl

theorem cloudLogoutInternal_indexed (happ : ∀ r : CloudRun, r.Indexed → (app r).Indexed) (h : r.Indexed) :
    (cloudLogoutInternal response app r).Indexed := by
  unfold cloudLogoutInternal
  refine happ _ ?_
  obtain ⟨error, herror⟩ := responseError_eq response .response r
  rw [herror]
  split
  · rename_i r' heq
    by_cases hcode : response.code.isError
    · rw [if_pos hcode] at heq
      cases heq
      exact h
    · rw [if_neg hcode] at heq
      cases heq
  · exact h

theorem cloudDeregisteredInternal_indexed (happ : ∀ r : CloudRun, r.Indexed → (app r).Indexed) (h : r.Indexed) :
    (cloudDeregisteredInternal response app r).Indexed := by
  unfold cloudDeregisteredInternal
  refine happ _ ?_
  split <;> exact h

theorem cloudDeregisterOnResetInternal_indexed (hclose : ∀ r : CloudRun, r.Indexed → (close r).Indexed) (h : r.Indexed) :
    (cloudDeregisterOnResetInternal close r).Indexed :=
  CloudRun.Indexed.stop (r := ((close r).assign _).assignStore _) (hclose r h)

theorem handle_indexed (hclose : ∀ r : CloudRun, r.Indexed → (close r).Indexed)
    (happ : ∀ r : CloudRun, r.Indexed → (app r).Indexed) (handler : CloudHandler) (h : r.Indexed) :
    (handle response close app handler r).Indexed := by
  -- the handlers of the application schedule nothing, so that their call may be noted at once
  have hnote : (∀ ctx, (CloudCall.responded handler response ctx).BelowLimit) →
      (r.note (.responded handler response r.ctx)).Indexed := fun hcall => h.note (hcall _)
  cases handler with
  | register => exact cloudRegisterHandler_indexed hclose h
  | login => exact cloudLoginHandler_indexed h
  | refresh => exact managerRefreshTokenHandler_indexed h
  | ping => exact sendPingHandler_indexed (hnote fun _ => trivial)
  | apiRegister =>
    have hnoted := hnote fun _ => trivial
    exact happ _ (.of_handles (registerHandler_handles _ _ _) hnoted (registerTexts_indexed _ hclose hnoted))
  | apiLogin => exact happ _ (.of_handles (loginHandler_handles _ _) (hnote fun _ => trivial) (hnote fun _ => trivial))
  | apiRefresh => exact happ _ (.of_handles (refreshTokenHandler_handles _ _) (hnote fun _ => trivial) (hnote fun _ => trivial))
  | apiLogout => exact cloudLogoutInternal_indexed happ (hnote fun _ => trivial)
  | apiDeregister resetting =>
    cases resetting
    · exact cloudDeregisteredInternal_indexed happ (hnote fun _ => trivial)
    · exact cloudDeregisteredInternal_indexed (fun _ h => cloudDeregisterOnResetInternal_indexed hclose h)
        (hnote fun _ => trivial)

end Handlers

/-! ## Indices of the other functions -/

theorem session_inArray {n : UInt8} (h : n < maxRetryCount) : (Delay.session n.toNat).value.isSome := by
  rw [Delay.value, isSome_getElem?]
  exact UInt8.lt_iff_toNat_lt.1 h

section Api

variable {close : CloudRun → CloudRun} {r : CloudRun} (hclose : ∀ r : CloudRun, r.Indexed → (close r).Indexed)
include hclose

theorem cloudReconnect_indexed (h : r.Indexed) : (cloudReconnect close r).Indexed := by
  unfold cloudReconnect
  split
  · exact hclose r h
  · exact (h.remove _).set _ rfl

theorem cloudUnprovision_indexed (h : r.Indexed) : (cloudUnprovision close r).Indexed :=
  CloudRun.Indexed.stop (r := ((close r).assign _).assignStore _) (hclose r h)

omit hclose in
theorem cloudProvisioned_indexed (h : r.Indexed) : (cloudProvisioned r).Indexed := by
  unfold cloudProvisioned
  dsimp only
  split
  · exact cloudReconnect_indexed (fun _ h => h) (r := r.assignStore _) h
  · exact h

theorem CloudApi.run_indexed (call : CloudApi) (h : r.Indexed) : (call.run close r).Indexed := by
  have hsend : ∀ (ready sent : Bool) (error : OcCloudError), (sendRequest ready sent error r).Indexed :=
    fun ready sent error => by
      unfold sendRequest
      split <;> exact h
  cases call with
  | managerStart => exact h.start
  | managerStop => exact hclose (cloudManagerEnd r) ((h.remove _).remove _).stop
  | register sent =>
    rw [CloudApi.run]
    split
    · exact h
    · exact hsend _ _ _
  | provision server accessToken serverId authProvider =>
    exact cloudProvisioned_indexed (r := (cloudUnprovision _ r).assignStore _) (cloudUnprovision_indexed hclose h)
  | post payload =>
    rw [CloudApi.run, postCloud_eq]
    split
    · exact cloudProvisioned_indexed (r := (cloudUnprovision _ r).assignStore _) (cloudUnprovision_indexed hclose h)
    · exact h
  | reset sent =>
    rw [CloudApi.run, ocCloudResetContext]
    split
    · exact h
    · exact CloudRun.Indexed.stop (r := r.assignStore _) h
  | _ => exact hsend _ _ _

end Api

section Callbacks

variable {closing : List ClosingEffect} {connects : Bool} {app : CloudRun → CloudRun} {r : CloudRun}

theorem nestedCalls_indexed : ∀ (calls : List CloudApi) (r : CloudRun), r.Indexed → (nestedCalls calls r).Indexed
  | [], _, h => h
  | call :: calls, r, h => by
    rw [nestedCalls, List.foldl_cons, ← nestedCalls]
    exact nestedCalls_indexed calls _ (call.run_indexed (fun _ h => h) h)

theorem cloudCloseEndpoint_indexed : ∀ {closing : List ClosingEffect} {r : CloudRun}, r.Indexed →
    (cloudCloseEndpoint closing r).Indexed
  | [], _, h => h
  | effect :: closing, r, h => by
    rw [cloudCloseEndpoint, List.foldl_cons, ← cloudCloseEndpoint]
    refine cloudCloseEndpoint_indexed ?_
    cases effect with
    | answered handler calls => exact handle_indexed (fun _ h => h) (nestedCalls_indexed calls) handler h
    | application calls => exact nestedCalls_indexed calls r h
    | sessionEnded => exact h.sessionEvent .disconnected

theorem reconnect_indexed (h : r.Indexed) : (reconnect closing r).Indexed :=
  cloudReconnect_indexed (fun _ h => cloudCloseEndpoint_indexed h) ((h.set _ rfl).remove _)

theorem cloudRegister_indexed (h : r.Indexed) : (cloudRegister closing connects r).Indexed := by
  unfold cloudRegister
  split
  · dsimp only
    split
    · rename_i hlimit
      split <;> exact CloudRun.Indexed.set h _ (session_inArray hlimit)
    · exact reconnect_indexed h
  · exact h

theorem cloudLogin_indexed (h : r.Indexed) : (cloudLogin closing connects r).Indexed := by
  unfold cloudLogin
  split
  · dsimp only
    split
    · rename_i hlimit
      split <;> exact CloudRun.Indexed.set h _ (session_inArray hlimit)
    · exact reconnect_indexed h
  · exact h

theorem refreshToken_indexed (h : r.Indexed) : (refreshToken closing connects r).Indexed := by
  unfold refreshToken
  split
  · dsimp only
    split
    · rename_i hlimit
      split <;> exact CloudRun.Indexed.set h _ (session_inArray hlimit)
    · exact reconnect_indexed h
  · exact h

theorem sendPing_indexed (h : r.Indexed) : (sendPing closing connects r).Indexed := by
  unfold sendPing
  split
  · dsimp only
    split
    · split <;> exact h
    · exact reconnect_indexed h
  · exact h

theorem runCallback_indexed (happ : ∀ r : CloudRun, r.Indexed → (app r).Indexed) (callback : TimedCallback)
    (h : r.Indexed) : (runCallback closing connects app callback r).Indexed := by
  cases callback with
  | cloudRegister => exact cloudRegister_indexed h
  | cloudLogin => exact cloudLogin_indexed h
  | sendPing => exact sendPing_indexed h
  | refreshToken => exact refreshToken_indexed h
  | callbackHandler => exact happ r h
  | startManager => exact h.start
  | restartManager => exact h.restart
  | other n => exact h

theorem appCallback_indexed : ∀ (calls : List AppCall) (r : CloudRun), r.Indexed → (appCallback calls r).Indexed
  | [], _, h => h
  | c :: calls, r, h => by
    rw [appCallback, List.foldl_cons, ← appCallback]
    exact appCallback_indexed calls _ (c.call.run_indexed (fun _ h => cloudCloseEndpoint_indexed h) h)

end Callbacks

/-! ## Starting anew -/

/-- The callback gets to send its request: it schedules the retry that goes with it, and nothing else. -/
def retriesRequest (callback : TimedCallback) (ctx : OcCloudContext) : Bool :=
  match (runCallback [] true id callback (.enter ctx)).ops with
  | [.set _ (.session _)] => true
  | _ => false

/-- After `cloud_start_process` both counters are below the limit, and the callback that it schedules sends its request. -/
def StartSends (ctx : OcCloudContext) : Prop :=
  let started := (cloudStartProcess (.enter ctx)).ctx
  started.retryCount < maxRetryCount ∧ started.retryRefreshTokenCount < maxRetryCount ∧
    retriesRequest (startCallback started) started

instance (ctx : OcCloudContext) : Decidable (StartSends ctx) := inferInstanceAs (Decidable (_ ∧ _ ∧ _))

/-- The counter of `refresh_token` leaves room for an attempt where it is what is scheduled, and a device with a status is
registered. -/
def StartReady (ctx : OcCloudContext) : Prop :=
  ctx.retryRefreshTokenCount < maxRetryCount ∧
    (ctx.store.status ≠ ocCloudInitialized → statusHas ctx.store.status ocCloudRegistered ∧
      (hasText ctx.store.refreshToken → ctx.retryRefreshTokenCount + 1 < maxRetryCount))

instance (ctx : OcCloudContext) : Decidable (StartReady ctx) := inferInstanceAs (Decidable (_ ∧ (_ → _)))

theorem retriesRequest_register {ctx : OcCloudContext} (hstatus : ctx.store.status = ocCloudInitialized)
    (hcount : ctx.retryCount = 0) : retriesRequest .cloudRegister ctx := by
  have hlimit : (countRetry (.enter ctx)).ctx.retryCount < maxRetryCount := by
    show ctx.retryCount + 1 < maxRetryCount
    rw [hcount]
    decide
  have hops : (cloudRegister [] true (.enter ctx)).ops =
      [.set .cloudRegister (.session (countRetry (.enter ctx)).ctx.retryCount.toNat)] := by
    unfold cloudRegister
    rw [CloudRun.enter_ctx, if_pos hstatus]
    dsimp only
    rw [if_pos hlimit]
    split <;> rfl
  rw [retriesRequest, runCallback, hops]

theorem retriesRequest_login {ctx : OcCloudContext} (hcount : ctx.retryCount = 0) :
    retriesRequest .cloudLogin ctx ↔ statusHas ctx.store.status ocCloudRegistered := by
  by_cases hregistered : statusHas ctx.store.status ocCloudRegistered
  · have hlimit : (countRetry (.enter ctx)).ctx.retryCount < maxRetryCount := by
      show ctx.retryCount + 1 < maxRetryCount
      rw [hcount]
      decide
    have hops : (cloudLogin [] true (.enter ctx)).ops =
        [.set .cloudLogin (.session (countRetry (.enter ctx)).ctx.retryCount.toNat)] := by
      unfold cloudLogin
      rw [CloudRun.enter_ctx, if_pos hregistered]
      dsimp only
      rw [if_pos hlimit]
      split <;> rfl
    rw [retriesRequest, runCallback, hops]
    exact iff_of_true rfl hregistered
  · have hops : (cloudLogin [] true (.enter ctx)).ops = [] := by
      unfold cloudLogin
      rw [CloudRun.enter_ctx, if_neg hregistered]
      rfl
    rw [retriesRequest, runCallback, hops]
    exact iff_of_false Bool.false_ne_true hregistered

theorem retriesRequest_refresh {ctx : OcCloudContext} : retriesRequest .refreshToken ctx ↔
    statusHas ctx.store.status ocCloudRegistered ∧ ctx.retryRefreshTokenCount + 1 < maxRetryCount := by
  by_cases hregistered : statusHas ctx.store.status ocCloudRegistered
  · by_cases hlimit : (countRefreshRetry (.enter ctx)).ctx.retryRefreshTokenCount < maxRetryCount
    · have hops : (refreshToken [] true (.enter ctx)).ops =
          [.set .cloudLogin (.session (countRefreshRetry (.enter ctx)).ctx.retryRefreshTokenCount.toNat)] := by
        unfold refreshToken
        rw [CloudRun.enter_ctx, if_pos hregistered]
        dsimp only
        rw [if_pos hlimit]
        split <;> rfl
      rw [retriesRequest, runCallback, hops]
      exact iff_of_true rfl ⟨hregistered, hlimit⟩
    · obtain ⟨ops, hops⟩ : ∃ ops, (refreshToken [] true (.enter ctx)).ops =
          .set .callbackHandler (.seconds 0) :: .remove .refreshToken :: ops := by
        unfold refreshToken
        rw [CloudRun.enter_ctx, if_pos hregistered]
        dsimp only
        rw [if_neg hlimit, reconnect, cloudReconnect]
        split <;> exact ⟨_, rfl⟩
      rw [retriesRequest, runCallback, hops]
      exact iff_of_false Bool.false_ne_true fun h => hlimit h.2
  · have hops : (refreshToken [] true (.enter ctx)).ops = [] := by
      unfold refreshToken
      rw [CloudRun.enter_ctx, if_neg hregistered]
      rfl
    rw [retriesRequest, runCallback, hops]
    exact iff_of_false Bool.false_ne_true fun h => hregistered h.1

theorem startSends_iff (ctx : OcCloudContext) : StartSends ctx ↔ StartReady ctx := by
  have hcount : (0 : UInt8) < maxRetryCount := by decide
  unfold StartSends StartReady
  refine (and_iff_right hcount).trans (and_congr_right fun _ => ?_)
  show retriesRequest (startCallback ctx) _ ↔ _
  unfold startCallback
  by_cases hstatus : ctx.store.status = ocCloudInitialized
  · rw [if_pos hstatus]
    exact iff_of_true (retriesRequest_register hstatus rfl) fun hne => absurd hstatus hne
  · rw [if_neg hstatus, imp_iff_right hstatus]
    by_cases htext : hasText ctx.store.refreshToken
    · rw [if_pos htext, imp_iff_right htext]
      exact retriesRequest_refresh
    · rw [if_neg htext]
      exact (retriesRequest_login rfl).trans (and_iff_left fun h => absurd h htext).symm

/-! ## Runs -/

/-- A manager that is started sends its next request. -/
def CloudCall.Sends : CloudCall → Prop
  | .started ctx => StartSends ctx
  | .responded .. => True

instance : ∀ call : CloudCall, Decidable call.Sends
  | .started ctx => inferInstanceAs (Decidable (StartSends ctx))
  | .responded .. => .isTrue trivial

/-- A response after which a request is tried once more finds its counter below the limit, and so does a manager that is
started. -/
def CloudCall.Ready : CloudCall → Prop
  | .started ctx => StartReady ctx
  | call => call.BelowLimit

instance : ∀ call : CloudCall, Decidable call.Ready
  | .started ctx => inferInstanceAs (Decidable (StartReady ctx))
  | .responded handler response ctx => inferInstanceAs (Decidable (CloudCall.responded handler response ctx).BelowLimit)

namespace CloudSystem

/-- An event uses indices of the arrays only just if it calls every handler below the limit. -/
theorem eventRun_indexed {s : CloudSystem} {event : CloudEvent} {run : Nat × CloudRun}
    (h : s.eventRun event = some run) : run.2.Indexed := by
  cases event with
  | expire id closing connects app =>
    obtain ⟨e, -, rfl⟩ := Option.map_eq_some_iff.1 h
    exact runCallback_indexed (appCallback_indexed app) e.callback (CloudRun.indexed_enter _)
  | response device handler response closing app =>
    cases h
    exact handle_indexed (fun _ h => cloudCloseEndpoint_indexed h) (appCallback_indexed app) handler
      (CloudRun.indexed_enter _)
  | api device call =>
    cases h
    exact call.call.run_indexed (fun _ h => cloudCloseEndpoint_indexed h) (CloudRun.indexed_enter _)
  | session device state =>
    cases h
    exact (CloudRun.indexed_enter _).sessionEvent state
  | interfaceUp device =>
    cases h
    dsimp only
    unfold cloudInterfaceEventHandler
    split
    · exact (CloudRun.indexed_enter _).restart
    · exact CloudRun.indexed_enter _
  | _ => cases h

variable (s : CloudSystem) (event : CloudEvent)

/-- The functions that an event runs use indices of the arrays only, and a manager that they start sends its next
request. -/
def KeepsBounds : Prop :=
  ∀ run ∈ s.eventRun event, (∀ op ∈ run.2.ops, op.InArray) ∧ ∀ call ∈ run.2.calls, call.Sends

instance : Decidable (s.KeepsBounds event) :=
  inferInstanceAs (Decidable (∀ run ∈ s.eventRun event,
    (∀ op ∈ run.2.ops, op.InArray) ∧ ∀ call ∈ run.2.calls, call.Sends))

/-- Whenever an event calls a handler or starts the manager, the counters leave room for what follows. -/
def CallsReady : Prop := ∀ run ∈ s.eventRun event, ∀ call ∈ run.2.calls, call.Ready

variable {s event}

theorem keepsBounds_iff : s.KeepsBounds event ↔ s.CallsReady event := by
  refine forall₂_congr fun run hrun => ?_
  rw [show (∀ op ∈ run.2.ops, op.InArray) ↔ _ from eventRun_indexed hrun, ← forall₂_and]
  refine forall₂_congr fun call _ => ?_
  cases call with
  | started ctx => exact (and_iff_right trivial).trans (startSends_iff ctx)
  | responded handler response ctx => exact and_iff_left trivial

instance : Decidable (s.CallsReady event) :=
  inferInstanceAs (Decidable (∀ run ∈ s.eventRun event, ∀ call ∈ run.2.calls, call.Ready))

end CloudSystem

section Runs

open CloudSystem

/-- In a run in which the counters leave room whenever a handler is called or the manager is started, every index lies in
its array and every manager that is started sends its next request. In any state an event does so just if it meets the
condition. -/
theorem retries_bounded (maxAppDataSize itemMax : Nat) :
    (∀ events : List CloudEvent,
      Runs.Guarded (fun s event => s.step maxAppDataSize itemMax event) CallsReady (start itemMax) events →
        Runs.Guarded (fun s event => s.step maxAppDataSize itemMax event) KeepsBounds (start itemMax) events) ∧
      ∀ (s : CloudSystem) (event : CloudEvent), s.KeepsBounds event ↔ s.CallsReady event := by
  refine ⟨fun events hready => ?_, fun s event => keepsBounds_iff⟩
  exact @Runs.Guarded.imp _ _ _ (fun _ => True) _ _ (fun _ _ _ => trivial) (fun s event _ => keepsBounds_iff.2) _ _ trivial
    hready

/-- The device registers and logs in. -/
theorem retries_bounded_register :
    Runs.Guarded (fun s event => s.step 8192 256 event) KeepsBounds (start 256) loggedIn :=
  (retries_bounded 8192 256).1 loggedIn (by decide)

/-- A device is connected, and the cloud does not answer its requests to register it. -/
def registerUnanswered : List CloudEvent :=
  registering ++ [.session 0 .connected, .expire 1 [] true [], .expire 2 [] true [], .expire 3 [] true []]

/-- At the limit the endpoint is closed. That answers the last request with 5.03, and its handler reads the entry behind
the last one of `message_timeout`. -/
theorem messageTimeout_exceeded :
    let s := Runs.runFrom (fun s event => s.step 8192 256 event) (start 256) registerUnanswered
    ¬ s.KeepsBounds (.expire 4 [.answered .register []] true []) := by
  decide

end Runs

end SmartGarage
