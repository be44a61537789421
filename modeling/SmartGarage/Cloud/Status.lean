/-
What the status of a cloud store promises: a device that is logged in is registered, and a registered one has the user and
the token that its next login needs.
-/
import SmartGarage.Cloud.RetryRuns

namespace SmartGarage

/-! ## Consistent stores -/

/-- A string that is there, and is not empty as a C string. -/
def isText (s : Option OcString) : Bool := s.any fun t => cstr t ≠ []

/-- A device that is logged in is registered, and a registered one has a user and an access token. -/
structure CloudContent.Consistent (content : CloudContent) : Prop where
  login : statusHas content.status ocCloudLoggedIn → statusHas content.status ocCloudRegistered
  texts : statusHas content.status ocCloudRegistered → isText content.uid ∧ isText content.accessToken

instance (content : CloudContent) : Decidable content.Consistent :=
  decidable_of_iff ((statusHas content.status ocCloudLoggedIn → statusHas content.status ocCloudRegistered) ∧
    (statusHas content.status ocCloudRegistered → isText content.uid ∧ isText content.accessToken))
    ⟨fun h => ⟨h.1, h.2⟩, fun h => ⟨h.login, h.texts⟩⟩

namespace CloudContent.Consistent

variable {content content' : CloudContent}

theorem of_unregistered (hregistered : statusHas content.status ocCloudRegistered = false)
    (hlogin : statusHas content.status ocCloudLoggedIn = false) : content.Consistent :=
  ⟨fun h => absurd (hlogin.symm.trans h) Bool.false_ne_true,
    fun h => absurd (hregistered.symm.trans h) Bool.false_ne_true⟩

theorem of_zero (h : content.status = 0) : content.Consistent := by
  refine of_unregistered ?_ ?_ <;> rw [h] <;> decide

theorem of_same (h : content.Consistent) (huid : content'.uid = content.uid)
    (htoken : content'.accessToken = content.accessToken)
    (hregistered : statusHas content'.status ocCloudRegistered = statusHas content.status ocCloudRegistered)
    (hlogin : statusHas content'.status ocCloudLoggedIn = statusHas content.status ocCloudLoggedIn) :
    content'.Consistent := by
  constructor
  · rw [hlogin, hregistered]
    exact h.login
  · rw [hregistered, huid, htoken]
    exact h.texts

end CloudContent.Consistent

namespace CloudRun

/-- The store of the context is consistent. -/
def Consistent (r : CloudRun) : Prop := r.ctx.store.toCloudContent.Consistent

variable {r : CloudRun}

theorem Consistent.setStatus (h : r.Consistent) {bits : UInt8} (hregistered : statusHas bits ocCloudRegistered = false)
    (hlogin : statusHas bits ocCloudLoggedIn = false) : (r.setStatus bits).Consistent := by
  refine CloudContent.Consistent.of_same h rfl rfl ?_ ?_
  · show statusHas (r.ctx.store.status ||| bits) _ = _
    rw [statusHas_or, hregistered, Bool.or_false]
  · show statusHas (r.ctx.store.status ||| bits) _ = _
    rw [statusHas_or, hlogin, Bool.or_false]

theorem Consistent.clearStatus (h : r.Consistent) {bits : UInt8} (hregistered : bits &&& ocCloudRegistered = 0)
    (hlogin : bits &&& ocCloudLoggedIn = 0) : (r.clearStatus bits).Consistent :=
  CloudContent.Consistent.of_same h rfl rfl (statusHas_clear hregistered) (statusHas_clear hlogin)

theorem Consistent.setCps (h : r.Consistent) (cps : UInt8) : (r.setCps cps).Consistent := ⟨h.login, h.texts⟩

theorem consistent_initialize (r : CloudRun) : (r.assignStore cloudStoreInitialize).Consistent :=
  CloudContent.Consistent.of_zero rfl

theorem Consistent.handlerFailed (h : r.Consistent) (error : OcCloudError) : (handlerFailed error r).Consistent := by
  have hfailed : ((r.setCps ocCpsFailed).setStatus ocCloudFailure).Consistent :=
    (h.setCps ocCpsFailed).setStatus (by decide) (by decide)
  unfold SmartGarage.handlerFailed
  dsimp only
  split <;> exact hfailed

theorem Consistent.refreshFailed (h : r.Consistent) : (refreshFailed r).Consistent := by
  refine Consistent.setStatus (Consistent.setCps ?_ _) (by decide) (by decide)
  split <;> exact h

theorem Consistent.sessionEvent (h : r.Consistent) (state : OcSessionState) :
    (cloudEpSessionEventHandler state r).Consistent := by
  unfold cloudEpSessionEventHandler
  dsimp only
  split <;> exact h

end CloudRun

/-! ## Registration -/

section Register

variable {response : CloudResponse} {close : CloudRun → CloudRun} {r : CloudRun}

/-- Whether the cloud redirects to another server. -/
def redirects (response : CloudResponse) (ctx : OcCloudContext) : Bool :=
  (payloadText response "redirecturi").any fun server =>
    !(ctx.store.ciServer.any fun ci => ci.length = server.length && cstr ci = cstr server)

/-- A registration takes over the access token of the response, if there is one. -/
def takeAccessToken (response : CloudResponse) (r : CloudRun) : CloudRun :=
  r.assignStore fun store => { store with accessToken := (payloadText response "accesstoken").or store.accessToken }

/-- The store that a registration adds the user to: a redirection to another server has closed the endpoint by then, and
what that calls back may have set the texts. -/
def redirectedStore (response : CloudResponse) (close : CloudRun → CloudRun) (r : CloudRun) : OcCloudStore :=
  let taken := takeAccessToken response r
  (if redirects response r.ctx then close taken else taken).ctx.store

/-- A registration leaves the store with a user and an access token, from the response or from before. -/
def registerComplete (response : CloudResponse) (close : CloudRun → CloudRun) (r : CloudRun) : Bool :=
  let store := redirectedStore response close r
  isText ((payloadText response "uid").or store.uid) && isText store.accessToken

theorem cloudSetString_payloadText {key : String} {value : OcString} (h : payloadText response key = some value) :
    cloudSetString value = some value := by
  have hlength := (Option.filter_eq_some_iff.1 h).2
  exact if_neg (of_decide_eq_true hlength).ne'

theorem takeText_accessToken (response : CloudResponse) (r : CloudRun) :
    takeText response "accesstoken" (fun value r => r.assignStore fun store =>
      { store with accessToken := cloudSetString value }) r = takeAccessToken response r := by
  unfold takeText takeAccessToken
  split
  · rename_i value hvalue
    dsimp only
    rw [hvalue, cloudSetString_payloadText hvalue]
    rfl
  · rename_i hvalue
    rw [hvalue]
    rfl

theorem redirect_texts (close : CloudRun → CloudRun) (server : OcString) (r : CloudRun) :
    let same := r.ctx.store.ciServer.any fun ci => ci.length = server.length && cstr ci = cstr server
    let r' := redirect close server r
    (r'.ctx.store.uid = (if same then r else close r).ctx.store.uid) ∧
      r'.ctx.store.accessToken = (if same then r else close r).ctx.store.accessToken := by
  intro same r'
  have hr' : r' = ((if same then r else (close r).assign fun ctx =>
      { ctx with cloudEpState := .disconnected }).assignStore fun store =>
        { store with ciServer := cloudSetString server }) := rfl
  rw [hr']
  cases same <;> exact ⟨rfl, rfl⟩

theorem takeText_redirect (response : CloudResponse) (close : CloudRun → CloudRun) (r : CloudRun) :
    let r' := takeText response "redirecturi" (redirect close) (takeAccessToken response r)
    (r'.ctx.store.uid = (redirectedStore response close r).uid) ∧
      r'.ctx.store.accessToken = (redirectedStore response close r).accessToken := by
  unfold takeText redirectedStore redirects
  cases hvalue : payloadText response "redirecturi" with
  | none => exact ⟨rfl, rfl⟩
  | some value =>
    obtain ⟨huid, htoken⟩ := redirect_texts close value (takeAccessToken response r)
    have hserver : (takeAccessToken response r).ctx.store.ciServer = r.ctx.store.ciServer := rfl
    dsimp only
    rw [huid, htoken, Option.any_some, hserver]
    cases r.ctx.store.ciServer.any fun ci => ci.length = value.length && cstr ci = cstr value <;> exact ⟨rfl, rfl⟩

variable (response close r) in
theorem registerTexts_texts :
    let r' := registerTexts response close r
    (r'.ctx.store.uid = (payloadText response "uid").or (redirectedStore response close r).uid) ∧
      r'.ctx.store.accessToken = (redirectedStore response close r).accessToken := by
  -- the four texts are taken over in this order, and only the redirection calls something back
  obtain ⟨huid, htoken⟩ := takeText_redirect response close r
  unfold registerTexts
  dsimp only
  rw [takeText_accessToken, ← huid, ← htoken]
  generalize takeText response "redirecturi" (redirect close) (takeAccessToken response r) = redirected
  cases huser : payloadText response "uid" with
  | none => cases hrefresh : payloadText response "refreshtoken" <;> simp [takeText, huser, hrefresh]
  | some value =>
    have hset := cloudSetString_payloadText huser
    cases hrefresh : payloadText response "refreshtoken" <;> simp [takeText, huser, hrefresh, hset]

theorem statusHas_registered (status : UInt8) : statusHas (status ||| ocCloudRegistered) ocCloudRegistered = true := by
  rw [statusHas_or, show statusHas ocCloudRegistered ocCloudRegistered = true by decide, Bool.or_true]

theorem registerHandler_store (close : CloudRun → CloudRun) (h : registerFails response r.ctx = false) :
    ∃ status, statusHas status ocCloudRegistered = true ∧
      (registerHandler response close r).1.ctx.store.toCloudContent =
        { (registerTexts response close r).ctx.store.toCloudContent with status := status, cps := ocCpsRegistered } := by
  obtain ⟨error, herror⟩ := responseError_eq response .response r
  rw [registerFails, Bool.or_eq_false_iff, decide_eq_false_iff_not] at h
  unfold registerHandler
  rw [herror, if_neg (by rw [h.1]; exact Bool.false_ne_true)]
  dsimp only
  rw [if_neg h.2]
  cases expiresIn response <;> exact ⟨_, statusHas_registered _, rfl⟩

/-- A registration that succeeds leaves the store consistent just if it is complete. -/
theorem registerHandler_consistent_iff (h : registerFails response r.ctx = false) :
    (registerHandler response close r).1.Consistent ↔ registerComplete response close r := by
  obtain ⟨status, hstatus, hstore⟩ := registerHandler_store close h
  obtain ⟨huid, htoken⟩ := registerTexts_texts response close r
  have htexts : (registerHandler response close r).1.Consistent ↔
      isText (registerTexts response close r).ctx.store.uid ∧
        isText (registerTexts response close r).ctx.store.accessToken := by
    unfold CloudRun.Consistent
    rw [hstore]
    exact ⟨fun h => h.texts hstatus, fun h => ⟨fun _ => hstatus, fun _ => h⟩⟩
  rw [htexts, huid, htoken, registerComplete, Bool.and_eq_true]

theorem registerHandler_consistent (h : r.Consistent)
    (hcomplete : registerFails response r.ctx ∨ registerComplete response close r) :
    (registerHandler response close r).1.Consistent := by
  cases hfails : registerFails response r.ctx with
  | false =>
    rw [hfails, or_iff_right Bool.false_ne_true] at hcomplete
    exact (registerHandler_consistent_iff hfails).2 hcomplete
  | true =>
    obtain ⟨error, heq⟩ := registerHandler_failed close hfails
    rw [heq]
    exact CloudRun.Consistent.handlerFailed (r := r.cloudSetLastError error) h .response

end Register

/-! ## Login and refresh -/

section Refresh

variable {response : CloudResponse} {r : CloudRun}

theorem setStatus_loggedIn (h : r.Consistent) (hregistered : statusHas r.ctx.store.status ocCloudRegistered) :
    (r.setStatus ocCloudLoggedIn).Consistent := by
  have hstill : statusHas (r.ctx.store.status ||| ocCloudLoggedIn) ocCloudRegistered := by
    rw [statusHas_or, hregistered, Bool.true_or]
  exact ⟨fun _ => hstill, fun _ => h.texts hregistered⟩

theorem loginHandler_consistent (h : r.Consistent) : (loginHandler response r).1.Consistent := by
  cases hfails : loginFails response r.ctx with
  | true =>
    obtain ⟨error, heq⟩ := loginHandler_failed hfails
    rw [heq]
    exact CloudRun.Consistent.handlerFailed (r := r.cloudSetLastError error) h .response
  | false =>
    obtain ⟨error, herror⟩ := responseError_eq response .response r
    rw [loginFails, Bool.or_eq_false_iff] at hfails
    have hregistered := hfails.2
    rw [Bool.not_eq_false'] at hregistered
    have hlogin : (((r.assign fun ctx => { ctx with retryCount := 0 }).setStatus ocCloudLoggedIn).cloudSetLastError
        .ok).Consistent := setStatus_loggedIn (r := r.assign _) h hregistered
    unfold loginHandler
    rw [herror, if_neg (by rw [hfails.1]; exact Bool.false_ne_true)]
    dsimp only
    rw [if_neg (by rw [hfails.2]; exact Bool.false_ne_true)]
    dsimp only
    split
    · exact hlogin.setStatus (by decide) (by decide)
    · exact hlogin

/-- A refresh brings an access token. -/
def refreshComplete (response : CloudResponse) : Bool :=
  isText (ocRepGetString response.payload (ascii "accesstoken"))

theorem isText_cloudSetString (t : OcString) : isText (cloudSetString t) = isText (some t) := by
  unfold cloudSetString
  split
  · rename_i hlength
    rw [List.length_eq_zero_iff.1 hlength]
    rfl
  · rfl

/-- A refresh that succeeds leaves the store consistent just if it brings an access token. -/
theorem refreshTokenHandler_consistent_iff (h : r.Consistent) (hsucceeds : refreshFails response r.ctx = false) :
    (refreshTokenHandler response r).1.Consistent ↔ refreshComplete response := by
  obtain ⟨error, herror⟩ := responseError_eq response .refreshAccessToken r
  rw [refreshFails, Bool.or_eq_false_iff, Bool.or_eq_false_iff, Bool.or_eq_false_iff] at hsucceeds
  obtain ⟨⟨⟨hcode, hregistered⟩, haccess⟩, hrefresh⟩ := hsucceeds
  obtain ⟨access, haccess⟩ := Option.isSome_iff_exists.1 (Option.isNone_eq_false_iff.1 haccess)
  obtain ⟨refresh, hrefresh⟩ := Option.isSome_iff_exists.1 (Option.isNone_eq_false_iff.1 hrefresh)
  rw [Bool.not_eq_false'] at hregistered
  have hstatus : ∀ bits, statusHas (r.ctx.store.status ||| bits) ocCloudRegistered := fun bits => by
    rw [statusHas_or, hregistered, Bool.true_or]
  -- the status keeps its bit, and the user stays
  have hiff : ∀ r' : CloudRun, statusHas r'.ctx.store.status ocCloudRegistered → r'.ctx.store.uid = r.ctx.store.uid →
      r'.ctx.store.accessToken = cloudSetString access → (r'.Consistent ↔ isText (some access)) :=
    fun r' hstatus huid htoken => by
      rw [← isText_cloudSetString, ← htoken]
      exact ⟨fun h => (h.texts hstatus).2, fun htext => ⟨fun _ => hstatus, fun _ => ⟨huid ▸ (h.texts hregistered).1, htext⟩⟩⟩
  unfold refreshTokenHandler refreshComplete
  rw [herror, if_neg (by rw [hcode]; exact Bool.false_ne_true)]
  dsimp only
  rw [if_neg (by rw [hregistered]; decide), haccess, hrefresh]
  dsimp only
  cases expiresIn response with
  | none => exact hiff _ (hstatus _) rfl rfl
  | some seconds =>
    refine hiff _ ?_ rfl rfl
    show statusHas ((r.ctx.store.status ||| ocCloudTokenExpiry) ||| ocCloudRefreshedToken) ocCloudRegistered = true
    rw [UInt8.or_assoc]
    exact hstatus _

theorem refreshTokenHandler_consistent (h : r.Consistent)
    (hcomplete : refreshFails response r.ctx ∨ refreshComplete response) :
    (refreshTokenHandler response r).1.Consistent := by
  cases hfails : refreshFails response r.ctx with
  | false =>
    rw [hfails, or_iff_right Bool.false_ne_true] at hcomplete
    exact (refreshTokenHandler_consistent_iff h hfails).2 hcomplete
  | true =>
    obtain ⟨error, heq⟩ := refreshTokenHandler_failed hfails
    rw [heq]
    exact CloudRun.Consistent.refreshFailed (r := r.cloudSetLastError error) h

end Refresh

/-! ## Handlers -/

section Handlers

variable {response : CloudResponse} {close app : CloudRun → CloudRun} {r : CloudRun}

/-- A response leaves a registered device with what its next login needs. -/
def CompleteResponse (response : CloudResponse) (close : CloudRun → CloudRun) (r : CloudRun) : CloudHandler → Prop
  | .register | .apiRegister => registerFails response r.ctx ∨ registerComplete response close r
  | .refresh | .apiRefresh => refreshFails response r.ctx ∨ refreshComplete response
  | _ => True

instance (r : CloudRun) : ∀ handler, Decidable (CompleteResponse response close r handler)
  | .register | .apiRegister => inferInstanceAs (Decidable (_ = true ∨ _ = true))
  | .refresh | .apiRefresh => inferInstanceAs (Decidable (_ = true ∨ _ = true))
  | .login | .ping | .apiLogin | .apiLogout | .apiDeregister _ => .isTrue trivial

theorem cloudRegisterHandler_store :
    (cloudRegisterHandler response close r).ctx.store = (registerHandler response close r).1.ctx.store := by
  unfold cloudRegisterHandler
  obtain ⟨r', ok⟩ := registerHandler response close r
  cases ok
  · dsimp only
    split <;> rfl
  · rfl

theorem cloudLoginHandler_store : (cloudLoginHandler response r).ctx.store = (loginHandler response r).1.ctx.store := by
  unfold cloudLoginHandler
  obtain ⟨r', ok⟩ := loginHandler response r
  cases ok
  · dsimp only
    split
    · rfl
    · split <;> rfl
  · dsimp only
    split <;> rfl

theorem managerRefreshTokenHandler_store :
    (managerRefreshTokenHandler response r).ctx.store = (refreshTokenHandler response r).1.ctx.store := by
  unfold managerRefreshTokenHandler
  obtain ⟨r', ok⟩ := refreshTokenHandler response r
  cases ok
  · dsimp only
    split <;> rfl
  · rfl

theorem sendPingHandler_store : (sendPingHandler response r).ctx.store = r.ctx.store := by
  unfold sendPingHandler
  split
  · rfl
  · split <;> rfl

theorem CloudRun.Consistent.of_store {r r' : CloudRun} (h : r.Consistent) (hstore : r'.ctx.store = r.ctx.store) :
    r'.Consistent := by
  unfold CloudRun.Consistent
  rw [hstore]
  exact h

theorem statusHas_cleared (status bit : UInt8) : statusHas (status &&& ~~~bit) bit = false := by
  rw [statusHas, UInt8.and_assoc, UInt8.not_and_self, UInt8.and_zero]
  rfl

theorem cloudLogoutInternal_consistent (happ : ∀ r : CloudRun, r.Consistent → (app r).Consistent) (h : r.Consistent) :
    (cloudLogoutInternal response app r).Consistent := by
  unfold cloudLogoutInternal
  refine (happ _ ?_).clearStatus (by decide) (by decide)
  obtain ⟨error, herror⟩ := responseError_eq response .response r
  rw [herror]
  by_cases hcode : response.code.isError
  · rw [if_pos hcode]
    exact CloudRun.Consistent.setStatus (r := r.cloudSetLastError error) h (by decide) (by decide)
  · rw [if_neg hcode]
    refine CloudRun.Consistent.setStatus ?_ (by decide) (by decide)
    exact ⟨fun hlogin => absurd ((statusHas_cleared _ _).symm.trans hlogin) Bool.false_ne_true, fun hregistered =>
      h.texts ((statusHas_clear (by decide)).symm.trans hregistered)⟩

theorem cloudDeregisteredInternal_consistent (happ : ∀ r : CloudRun, r.Consistent → (app r).Consistent)
    (h : r.Consistent) : (cloudDeregisteredInternal response app r).Consistent := by
  unfold cloudDeregisteredInternal
  refine (happ _ (CloudRun.Consistent.setCps ?_ _)).clearStatus (by decide) (by decide)
  split
  · exact CloudContent.Consistent.of_unregistered (show statusHas ocCloudDeregistered _ = false by decide)
      (show statusHas ocCloudDeregistered _ = false by decide)
  · exact CloudRun.Consistent.setStatus (r := r.cloudSetLastError .response) h (by decide) (by decide)

theorem cloudDeregisterOnResetInternal_consistent :
    (cloudDeregisterOnResetInternal close r).Consistent := CloudContent.Consistent.of_zero rfl

theorem handle_consistent (happ : ∀ r : CloudRun, r.Consistent → (app r).Consistent) (handler : CloudHandler)
    (h : r.Consistent)
    (hcomplete : CompleteResponse response close (r.note (.responded handler response r.ctx)) handler) :
    (handle response close app handler r).Consistent := by
  have hnote : (r.note (.responded handler response r.ctx)).Consistent := h
  cases handler with
  | register => exact (registerHandler_consistent hnote hcomplete).of_store cloudRegisterHandler_store
  | login => exact (loginHandler_consistent hnote).of_store cloudLoginHandler_store
  | refresh => exact (refreshTokenHandler_consistent hnote hcomplete).of_store managerRefreshTokenHandler_store
  | ping => exact hnote.of_store sendPingHandler_store
  | apiRegister =>
    exact (happ _ (registerHandler_consistent hnote hcomplete)).clearStatus (by decide) (by decide)
  | apiLogin => exact (happ _ (loginHandler_consistent hnote)).clearStatus (by decide) (by decide)
  | apiRefresh => exact (happ _ (refreshTokenHandler_consistent hnote hcomplete)).clearStatus (by decide) (by decide)
  | apiLogout => exact cloudLogoutInternal_consistent happ hnote
  | apiDeregister resetting =>
    cases resetting
    · exact cloudDeregisteredInternal_consistent happ hnote
    · exact cloudDeregisteredInternal_consistent (fun _ _ => cloudDeregisterOnResetInternal_consistent) hnote

end Handlers

/-! ## The other functions -/

theorem completeResponse_unavailable (r : CloudRun) (handler : CloudHandler) :
    CompleteResponse unavailable id r handler := by
  cases handler with
  | register | apiRegister | refresh | apiRefresh => exact .inl rfl
  | _ => trivial

section Api

variable {close : CloudRun → CloudRun} {r : CloudRun} (hclose : ∀ r : CloudRun, r.Consistent → (close r).Consistent)
include hclose

theorem cloudReconnect_consistent (h : r.Consistent) : (cloudReconnect close r).Consistent := by
  unfold cloudReconnect
  split
  · exact hclose r h
  · exact h

omit hclose in
theorem cloudProvisioned_consistent : (cloudProvisioned r).Consistent := by
  have hstore : (r.assignStore fun store =>
      { store with status := ocCloudInitialized, cps := ocCpsReadyToRegister }).Consistent :=
    CloudContent.Consistent.of_zero rfl
  unfold cloudProvisioned
  dsimp only
  split
  · exact cloudReconnect_consistent (fun _ h => h) hstore
  · exact hstore

theorem CloudApi.run_consistent (call : CloudApi) (h : r.Consistent) : (call.run close r).Consistent := by
  have hsend : ∀ (ready sent : Bool) (error : OcCloudError), (sendRequest ready sent error r).Consistent :=
    fun ready sent error => by
      unfold sendRequest
      split <;> exact h
  cases call with
  | managerStart => exact h
  | managerStop => exact hclose _ (CloudRun.consistent_initialize _)
  | register sent =>
    rw [CloudApi.run]
    split
    · exact h.setCps _
    · exact hsend _ _ _
  | provision server accessToken serverId authProvider => exact cloudProvisioned_consistent
  | post payload =>
    rw [CloudApi.run, postCloud_eq]
    split
    · exact cloudProvisioned_consistent
    · exact h
  | reset sent =>
    rw [CloudApi.run, ocCloudResetContext]
    split
    · exact h
    · exact CloudContent.Consistent.of_zero rfl
  | _ => exact hsend _ _ _

end Api

section Callbacks

variable {closing : List ClosingEffect} {connects : Bool} {app : CloudRun → CloudRun} {r : CloudRun}

theorem nestedCalls_consistent : ∀ (calls : List CloudApi) (r : CloudRun), r.Consistent → (nestedCalls calls r).Consistent
  | [], _, h => h
  | call :: calls, r, h => by
    rw [nestedCalls, List.foldl_cons, ← nestedCalls]
    exact nestedCalls_consistent calls _ (call.run_consistent (fun _ h => h) h)

theorem cloudCloseEndpoint_consistent : ∀ {closing : List ClosingEffect} {r : CloudRun}, r.Consistent →
    (cloudCloseEndpoint closing r).Consistent
  | [], _, h => h
  | effect :: closing, r, h => by
    rw [cloudCloseEndpoint, List.foldl_cons, ← cloudCloseEndpoint]
    refine cloudCloseEndpoint_consistent ?_
    cases effect with
    | answered handler calls =>
      exact handle_consistent (nestedCalls_consistent calls) handler h (completeResponse_unavailable _ handler)
    | application calls => exact nestedCalls_consistent calls r h
    | sessionEnded => exact h.sessionEvent .disconnected

theorem reconnect_consistent (h : r.Consistent) : (reconnect closing r).Consistent :=
  cloudReconnect_consistent (fun _ h => cloudCloseEndpoint_consistent h)
    (r := (r.setDelayedCallback _ _).removeDelayedCallback _) h

theorem runCallback_consistent (happ : ∀ r : CloudRun, r.Consistent → (app r).Consistent) (callback : TimedCallback)
    (h : r.Consistent) : (runCallback closing connects app callback r).Consistent := by
  cases callback with
  | cloudRegister =>
    rw [runCallback, cloudRegister]
    split
    · dsimp only
      split
      · split <;> exact ⟨h.login, h.texts⟩
      · exact reconnect_consistent h
    · exact h
  | cloudLogin =>
    rw [runCallback, cloudLogin]
    split
    · dsimp only
      split
      · split <;> exact h
      · exact reconnect_consistent h
    · exact h
  | sendPing =>
    rw [runCallback, sendPing]
    split
    · dsimp only
      split
      · split <;> exact h
      · exact reconnect_consistent h
    · exact h
  | refreshToken =>
    rw [runCallback, refreshToken]
    split
    · dsimp only
      split
      · split <;> exact h
      · exact reconnect_consistent h
    · exact h
  | callbackHandler => exact (happ r h).clearStatus (by decide) (by decide)
  | startManager | restartManager | other => exact h

theorem appCallback_consistent : ∀ (calls : List AppCall) (r : CloudRun), r.Consistent → (appCallback calls r).Consistent
  | [], _, h => h
  | c :: calls, r, h => by
    rw [appCallback, List.foldl_cons, ← appCallback]
    exact appCallback_consistent calls _ (c.call.run_consistent (fun _ h => cloudCloseEndpoint_consistent h) h)

end Callbacks

end SmartGarage
