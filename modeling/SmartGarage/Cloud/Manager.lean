/-
The cloud manager: its timed callbacks, the handlers of its responses, and the functions of the application.

What they do to `timed_callbacks` is a list of operations. They are applied to the list once the function is done, which
comes to the same since none of them looks into it.
-/
import SmartGarage.Cloud.Timers
import SmartGarage.Api.RepRead

namespace SmartGarage

/-! ## What a function does -/

/-- The handler that a request has been sent with. -/
inductive CloudHandler
  | register | login | refresh | ping
  | apiRegister | apiLogin | apiRefresh | apiLogout | apiDeregister (resetting : Bool)
deriving DecidableEq

/-- A handler that has been called, or `cloud_start_process`, with the context in front of the call. -/
inductive CloudCall
  | responded (handler : CloudHandler) (response : CloudResponse) (before : OcCloudContext)
  | started (before : OcCloudContext)

/-- The context of a function that is running, what it has asked of the timed callbacks, and the calls on the way. -/
structure CloudRun where
  ctx : OcCloudContext
  ops : List TimerOp
  calls : List CloudCall

namespace CloudRun

/-- The run of a function that has just been entered. -/
def enter (ctx : OcCloudContext) : CloudRun := ⟨ctx, [], []⟩

variable (r : CloudRun)

/-- `oc_set_delayed_callback` -/
def setDelayedCallback (callback : TimedCallback) (delay : Delay) : CloudRun :=
  { r with ops := r.ops ++ [.set callback delay] }

/-- `oc_remove_delayed_callback` -/
def removeDelayedCallback (callback : TimedCallback) : CloudRun := { r with ops := r.ops ++ [.remove callback] }

/-- An assignment to the context. -/
def assign (f : OcCloudContext → OcCloudContext) : CloudRun := { r with ctx := f r.ctx }

/-- An assignment to the store. -/
def assignStore (f : OcCloudStore → OcCloudStore) : CloudRun := r.assign fun ctx => { ctx with store := f ctx.store }

/-- `status |= bits` -/
def setStatus (bits : UInt8) : CloudRun := r.assignStore fun store => { store with status := store.status ||| bits }

/-- `status &= ~bits` -/
def clearStatus (bits : UInt8) : CloudRun := r.assignStore fun store => { store with status := store.status &&& ~~~bits }

/-- `cps = value` -/
def setCps (cps : UInt8) : CloudRun := r.assignStore fun store => { store with cps := cps }

/-- `cloud_set_last_error` -/
def cloudSetLastError (error : OcCloudError) : CloudRun := r.assign fun ctx => { ctx with lastError := error }

/-- A call is noted. -/
def note (call : CloudCall) : CloudRun := { r with calls := r.calls ++ [call] }

@[simp] theorem enter_ctx (ctx : OcCloudContext) : (enter ctx).ctx = ctx := rfl

@[simp] theorem setDelayedCallback_ctx (callback : TimedCallback) (delay : Delay) :
    (r.setDelayedCallback callback delay).ctx = r.ctx := rfl

@[simp] theorem removeDelayedCallback_ctx (callback : TimedCallback) : (r.removeDelayedCallback callback).ctx = r.ctx := rfl

@[simp] theorem assign_ctx (f : OcCloudContext → OcCloudContext) : (r.assign f).ctx = f r.ctx := rfl

@[simp] theorem assignStore_ctx (f : OcCloudStore → OcCloudStore) :
    (r.assignStore f).ctx = { r.ctx with store := f r.ctx.store } := rfl

@[simp] theorem setStatus_ctx (bits : UInt8) :
    (r.setStatus bits).ctx = { r.ctx with store := { r.ctx.store with status := r.ctx.store.status ||| bits } } := rfl

@[simp] theorem clearStatus_ctx (bits : UInt8) :
    (r.clearStatus bits).ctx =
      { r.ctx with store := { r.ctx.store with status := r.ctx.store.status &&& ~~~bits } } := rfl

@[simp] theorem setCps_ctx (cps : UInt8) :
    (r.setCps cps).ctx = { r.ctx with store := { r.ctx.store with cps := cps } } := rfl

@[simp] theorem cloudSetLastError_ctx (error : OcCloudError) :
    (r.cloudSetLastError error).ctx = { r.ctx with lastError := error } := rfl

@[simp] theorem note_ctx (call : CloudCall) : (r.note call).ctx = r.ctx := rfl

end CloudRun

/-! ## The provisioning status -/

/-- `OC_CPS_READYTOREGISTER` -/
def ocCpsReadyToRegister : UInt8 := 1

/-- `OC_CPS_REGISTERING` -/
def ocCpsRegistering : UInt8 := 2

/-- `OC_CPS_REGISTERED` -/
def ocCpsRegistered : UInt8 := 3

/-- `OC_CPS_FAILED` -/
def ocCpsFailed : UInt8 := 4

/-- `MAX_RETRY_COUNT` -/
def maxRetryCount : UInt8 := 5

/-- `oc_string(s) && oc_string_len(s) > 0` -/
def hasText (s : Option OcString) : Bool := s.any fun t => t.length > 0

/-! ## Starting and stopping -/

/-- `cloud_manager_stop` -/
def cloudManagerStop (r : CloudRun) : CloudRun :=
  ((((r.removeDelayedCallback .cloudRegister).removeDelayedCallback .cloudLogin).removeDelayedCallback
    .sendPing).removeDelayedCallback .refreshToken).removeDelayedCallback .callbackHandler

/-- `cloud_manager_restart` -/
def cloudManagerRestart (r : CloudRun) : CloudRun :=
  ((cloudManagerStop r).removeDelayedCallback .startManager).setDelayedCallback .startManager (.seconds 0)

@[simp] theorem cloudManagerStop_ctx (r : CloudRun) : (cloudManagerStop r).ctx = r.ctx := rfl

@[simp] theorem cloudManagerRestart_ctx (r : CloudRun) : (cloudManagerRestart r).ctx = r.ctx := rfl

/-- The callback that `cloud_start_process` schedules. -/
def startCallback (ctx : OcCloudContext) : TimedCallback :=
  if ctx.store.status = ocCloudInitialized then .cloudRegister
  else if hasText ctx.store.refreshToken then .refreshToken
  else .cloudLogin

/-- `cloud_start_process` -/
def cloudStartProcess (r : CloudRun) : CloudRun :=
  let r := (r.note (.started r.ctx)).assign fun ctx => { ctx with retryCount := 0 }
  r.setDelayedCallback (startCallback r.ctx) (.session 0)

/-- `cloud_ep_session_event_handler` for the endpoint of the cloud. -/
def cloudEpSessionEventHandler (state : OcSessionState) (r : CloudRun) : CloudRun :=
  let r := r.assign fun ctx => { ctx with cloudEpState := state }
  if state = .disconnected ∧ r.ctx.cloudManager then cloudManagerRestart r else r

/-! ## Response handlers -/

section Handlers

variable (response : CloudResponse)

/-- The tail of a handler that fails. -/
def handlerFailed (error : OcCloudError) (r : CloudRun) : CloudRun :=
  let r := (r.setCps ocCpsFailed).setStatus ocCloudFailure
  if r.ctx.lastError = .ok then r.cloudSetLastError error else r

/-- What a handler sets for an error code, if it is one. -/
def responseError (error : OcCloudError) (r : CloudRun) : Option CloudRun :=
  if response.code.isUnavailable then some (r.cloudSetLastError .connect)
  else if response.code.isError then some (r.cloudSetLastError error)
  else none

/-- A string of the payload that is not empty. -/
def payloadText (key : String) : Option OcString :=
  (ocRepGetString response.payload (ascii key)).filter fun value => value.length > 0

/-- The endpoint is closed when the cloud redirects to another server; `close` is `cloud_close_endpoint`. -/
def redirect (close : CloudRun → CloudRun) (server : OcString) (r : CloudRun) : CloudRun :=
  let same := r.ctx.store.ciServer.any fun ci => ci.length = server.length && cstr ci = cstr server
  let r := if same then r else (close r).assign fun ctx => { ctx with cloudEpState := .disconnected }
  r.assignStore fun store => { store with ciServer := cloudSetString server }

/-- The expiry of the token, as a positive `uint16_t`. -/
def expiresIn : Option UInt16 :=
  (ocRepGetInt response.payload (ascii "expiresin")).bind fun value =>
    if 0 < value ∧ value ≤ 65535 then some (UInt16.ofInt value) else none

/-- A text of the response is taken over if it is there. -/
def takeText (key : String) (set : OcString → CloudRun → CloudRun) (r : CloudRun) : CloudRun :=
  match payloadText response key with
  | some value => set value r
  | none => r

/-- The texts of the response that a registration takes over. -/
def registerTexts (close : CloudRun → CloudRun) (r : CloudRun) : CloudRun :=
  let r := takeText response "accesstoken" (fun value r => r.assignStore fun store =>
    { store with accessToken := cloudSetString value }) r
  let r := takeText response "redirecturi" (redirect close) r
  let r := takeText response "refreshtoken" (fun value r => r.assignStore fun store =>
    { store with refreshToken := cloudSetString value }) r
  takeText response "uid" (fun value r => r.assignStore fun store => { store with uid := cloudSetString value }) r

/-- `_register_handler`, and whether it returns 0. The dump of the store is an event of its own. -/
def registerHandler (close : CloudRun → CloudRun) (r : CloudRun) : CloudRun × Bool :=
  match responseError response .response r with
  | some r => (handlerFailed .response r, false)
  | none =>
    if r.ctx.store.status ≠ ocCloudInitialized then (handlerFailed .response r, false)
    else
      let r := registerTexts response close r
      let r := match expiresIn response with
        | some seconds => (r.setStatus ocCloudTokenExpiry).assign fun ctx => { ctx with expiresIn := seconds }
        | none => r.assign fun ctx => { ctx with expiresIn := 0 }
      let r := (r.assign fun ctx => { ctx with retryCount := 0 }).cloudSetLastError .ok
      ((r.setStatus ocCloudRegistered).setCps ocCpsRegistered, true)

/-- `_login_handler` -/
def loginHandler (r : CloudRun) : CloudRun × Bool :=
  match responseError response .response r with
  | some r => (handlerFailed .response r, false)
  | none =>
    if !statusHas r.ctx.store.status ocCloudRegistered then (handlerFailed .response r, false)
    else
      let r := (r.assign fun ctx => { ctx with retryCount := 0 }).setStatus ocCloudLoggedIn
      let r := r.cloudSetLastError .ok
      (if r.ctx.expiresIn ≠ 0 then r.setStatus ocCloudTokenExpiry else r, true)

/-- The tail of `_refresh_token_handler` when it fails. -/
def refreshFailed (r : CloudRun) : CloudRun :=
  let r := if r.ctx.lastError = .ok then r.cloudSetLastError .refreshAccessToken else r
  (r.setCps ocCpsFailed).setStatus ocCloudFailure

/-- `_refresh_token_handler` -/
def refreshTokenHandler (r : CloudRun) : CloudRun × Bool :=
  match responseError response .refreshAccessToken r with
  | some r => (refreshFailed r, false)
  | none =>
    if !statusHas r.ctx.store.status ocCloudRegistered then (refreshFailed r, false)
    else
      match ocRepGetString response.payload (ascii "accesstoken"),
        ocRepGetString response.payload (ascii "refreshtoken") with
      | some access, some refresh =>
        let r := r.assignStore fun store =>
          { store with accessToken := cloudSetString access, refreshToken := cloudSetString refresh }
        let r := match expiresIn response with
          | some seconds => (r.assign fun ctx => { ctx with expiresIn := seconds }).setStatus ocCloudTokenExpiry
          | none => r.assign fun ctx => { ctx with expiresIn := 0 }
        let r := (r.cloudSetLastError .ok).assign fun ctx => { ctx with retryCount := 0 }
        (r.setStatus ocCloudRefreshedToken, true)
      | _, _ => (refreshFailed r, false)

/-- `OC_STATUS_UNAUTHORIZED` -/
def unauthorized : ResponseCode := .status .unauthorized

/-- `cloud_register_handler` -/
def cloudRegisterHandler (close : CloudRun → CloudRun) (r : CloudRun) : CloudRun :=
  match registerHandler response close r with
  | (r, true) =>
    let r := (r.removeDelayedCallback .cloudRegister).setDelayedCallback .callbackHandler (.seconds 0)
    r.setDelayedCallback .cloudLogin (.message r.ctx.retryCount.toNat)
  | (r, false) =>
    let r := r.removeDelayedCallback .cloudRegister
    let r :=
      if response.code ≠ unauthorized then r.setDelayedCallback .cloudRegister (.message r.ctx.retryCount.toNat) else r
    r.setDelayedCallback .callbackHandler (.seconds 0)

/-- `cloud_login_handler`; `PING_DELAY` is 20 seconds. -/
def cloudLoginHandler (r : CloudRun) : CloudRun :=
  match loginHandler response r with
  | (r, true) =>
    let r := (r.removeDelayedCallback .cloudLogin).setDelayedCallback .callbackHandler (.seconds 0)
    let r := r.setDelayedCallback .sendPing (.seconds 20)
    if statusHas r.ctx.store.status ocCloudTokenExpiry then
      r.setDelayedCallback .refreshToken (.seconds r.ctx.expiresIn.toNat)
    else r
  | (r, false) =>
    let r := r.removeDelayedCallback .cloudLogin
    let r :=
      if response.code ≠ unauthorized then r.setDelayedCallback .cloudLogin (.message r.ctx.retryCount.toNat)
      else if hasText r.ctx.store.refreshToken then
        (r.removeDelayedCallback .refreshToken).setDelayedCallback .refreshToken (.session 0)
      else r
    r.setDelayedCallback .callbackHandler (.seconds 0)

/-- `refresh_token_handler` -/
def managerRefreshTokenHandler (r : CloudRun) : CloudRun :=
  match refreshTokenHandler response r with
  | (r, true) =>
    let r := (r.removeDelayedCallback .sendPing).removeDelayedCallback .refreshToken
    let r := r.assign fun ctx => { ctx with retryRefreshTokenCount := 0 }
    let r := r.setDelayedCallback .cloudLogin (.session r.ctx.retryCount.toNat)
    r.setDelayedCallback .callbackHandler (.seconds 0)
  | (r, false) =>
    let r := r.removeDelayedCallback .refreshToken
    let r :=
      if response.code ≠ unauthorized then
        r.setDelayedCallback .refreshToken (.message r.ctx.retryRefreshTokenCount.toNat)
      else r
    r.setDelayedCallback .callbackHandler (.seconds 0)

/-- `send_ping_handler`; `PING_DELAY_ON_TIMEOUT` is 3 seconds. -/
def sendPingHandler (r : CloudRun) : CloudRun :=
  if !statusHas r.ctx.store.status ocCloudLoggedIn then r
  else if response.code = .pingTimeout then
    ((r.removeDelayedCallback .sendPing).setDelayedCallback .sendPing (.seconds 3)).cloudSetLastError .connect
  else
    ((r.removeDelayedCallback .sendPing).assign fun ctx => { ctx with retryCount := 0 }).setDelayedCallback .sendPing
      (.seconds 20)

/-- `cloud_logout_internal`; `app` is the callback of the application. -/
def cloudLogoutInternal (app : CloudRun → CloudRun) (r : CloudRun) : CloudRun :=
  let r := match responseError response .response r with
    | some r => r.setStatus ocCloudFailure
    | none => (r.clearStatus ocCloudLoggedIn).setStatus ocCloudLoggedOut
  (app r).clearStatus (ocCloudFailure ||| ocCloudLoggedOut)

/-- `cloud_deregister_on_reset_internal` -/
def cloudDeregisterOnResetInternal (close : CloudRun → CloudRun) (r : CloudRun) : CloudRun :=
  let r := (close r).assign fun ctx => { ctx with cloudEpState := .disconnected }
  let r := cloudManagerStop (r.assignStore cloudStoreInitialize)
  (r.cloudSetLastError .ok).setCps 0

/-- `cloud_deregistered_internal` -/
def cloudDeregisteredInternal (app : CloudRun → CloudRun) (r : CloudRun) : CloudRun :=
  let r :=
    if !response.code.isError || response.code.isUnavailable then
      r.assignStore fun store => { store with status := ocCloudDeregistered }
    else (r.cloudSetLastError .response).setStatus ocCloudFailure
  (app (r.setCps ocCpsReadyToRegister)).clearStatus (ocCloudFailure ||| ocCloudDeregistered)

/-- The handler of a request. -/
def handle (close app : CloudRun → CloudRun) (handler : CloudHandler) (r : CloudRun) : CloudRun :=
  let r := r.note (.responded handler response r.ctx)
  match handler with
  | .register => cloudRegisterHandler response close r
  | .login => cloudLoginHandler response r
  | .refresh => managerRefreshTokenHandler response r
  | .ping => sendPingHandler response r
  | .apiRegister => (app (registerHandler response close r).1).clearStatus (ocCloudFailure ||| ocCloudTokenExpiry)
  | .apiLogin => (app (loginHandler response r).1).clearStatus (ocCloudFailure ||| ocCloudTokenExpiry)
  | .apiRefresh =>
    (app (refreshTokenHandler response r).1).clearStatus
      (ocCloudFailure ||| ocCloudTokenExpiry ||| ocCloudRefreshedToken)
  | .apiLogout => cloudLogoutInternal response app r
  | .apiDeregister false => cloudDeregisteredInternal response app r
  | .apiDeregister true => cloudDeregisteredInternal response (cloudDeregisterOnResetInternal close) r

end Handlers

/-! ## The functions of the application -/

/-- What the application, or a request for the cloud configuration, does. `sent` says whether a request is sent. -/
inductive CloudApi
  | managerStart
  | managerStop
  | register (sent : Bool)
  | login (sent : Bool)
  | logout (sent : Bool)
  | deregister (sent : Bool)
  | refreshToken (sent : Bool)
  | provision (server accessToken serverId : OcString) (authProvider : Option OcString)
  | post (payload : List RepNode)
  | reset (sent : Bool)

section Api

variable (close : CloudRun → CloudRun)

/-- `cloud_reconnect`; `close` is `cloud_close_endpoint`. -/
def cloudReconnect (r : CloudRun) : CloudRun :=
  if r.ctx.cloudEpState = .connected then close r
  else (r.removeDelayedCallback .restartManager).setDelayedCallback .restartManager (.seconds 0)

/-- What the functions begin with that give the context a new configuration. -/
def cloudUnprovision (r : CloudRun) : CloudRun :=
  let r := (close r).assign fun ctx => { ctx with cloudEpState := .disconnected }
  cloudManagerStop (r.assignStore cloudStoreInitialize)

/-- What they end with; the endpoint has been closed before. -/
def cloudProvisioned (r : CloudRun) : CloudRun :=
  let r := r.assignStore fun store => { store with status := ocCloudInitialized, cps := ocCpsReadyToRegister }
  if r.ctx.cloudManager then cloudReconnect id r else r

/-- `oc_cloud_provision_conf_resource` -/
def ocCloudProvisionConfResource (server accessToken serverId : OcString) (authProvider : Option OcString)
    (r : CloudRun) : CloudRun :=
  cloudProvisioned ((cloudUnprovision close r).assignStore fun store =>
    { store with
      ciServer := cloudSetString (cstr server)
      accessToken := cloudSetString (cstr accessToken)
      sid := cloudSetString (cstr serverId)
      authProvider := (authProvider.map fun t => cloudSetString (cstr t)).getD store.authProvider })

/-- A string that is set if it is given and not empty. -/
def updateString (data old : Option OcString) : Option OcString :=
  match data with
  | some t => if t.length ≠ 0 then cloudSetString t else old
  | none => old

/-- `cloud_update_by_resource` -/
def cloudUpdateByResource (accessToken authProvider ciServer sid : Option OcString) (r : CloudRun) : CloudRun :=
  cloudProvisioned ((cloudUnprovision close r).assignStore fun store =>
    { store with
      authProvider := updateString authProvider store.authProvider
      accessToken := updateString accessToken store.accessToken
      ciServer := updateString ciServer store.ciServer
      sid := updateString sid store.sid })

/-- `post_cloud`, with `cloud_update_from_request`: three of the four properties are required. -/
def postCloud (payload : List RepNode) (r : CloudRun) : CloudRun :=
  let cps := r.ctx.store.cps
  if cps ≠ 0 ∧ cps ≠ ocCpsReadyToRegister ∧ cps ≠ ocCpsFailed then r
  else if (ocRepGetString payload (ascii "cps")).isSome then r
  else
    let accessToken := ocRepGetString payload (ascii "at")
    let authProvider := ocRepGetString payload (ascii "apn")
    let ciServer := ocRepGetString payload (ascii "cis")
    let sid := ocRepGetString payload (ascii "sid")
    if accessToken.isSome ∧ ciServer.isSome ∧ sid.isSome then
      cloudUpdateByResource close accessToken authProvider ciServer sid r
    else r

/-- `oc_cloud_reset_context`. The context is reset by the handler of the deregistration if the device is connected and
the request is sent, and else at once. -/
def ocCloudResetContext (sent : Bool) (r : CloudRun) : CloudRun :=
  if statusHas r.ctx.store.status ocCloudRegistered ∧ sent then r
  else ((cloudManagerStop (r.assignStore cloudStoreInitialize)).cloudSetLastError .ok).setCps 0

/-- `oc_cloud_manager_start` -/
def ocCloudManagerStart (r : CloudRun) : CloudRun :=
  (cloudStartProcess r).assign fun ctx => { ctx with cloudManager := true }

/-- What `oc_cloud_manager_stop` does before it closes the endpoint. -/
def cloudManagerEnd (r : CloudRun) : CloudRun :=
  (cloudManagerStop ((r.removeDelayedCallback .restartManager).removeDelayedCallback .startManager)).assignStore
    cloudStoreInitialize

/-- `oc_cloud_manager_stop` -/
def ocCloudManagerStop (r : CloudRun) : CloudRun :=
  (close (cloudManagerEnd r)).assign fun ctx => { ctx with cloudEpState := .disconnected, cloudManager := false }

/-- A function that sends a request in a status: `oc_cloud_login` and the like. -/
def sendRequest (ready sent : Bool) (error : OcCloudError) (r : CloudRun) : CloudRun :=
  if ready && !sent then r.cloudSetLastError error else r

/-- The function of the application. -/
def CloudApi.run : CloudApi → CloudRun → CloudRun
  | managerStart, r => ocCloudManagerStart r
  | managerStop, r => ocCloudManagerStop close r
  | register sent, r =>
    if r.ctx.store.status = ocCloudInitialized ∧ sent then r.setCps ocCpsRegistering
    else sendRequest (r.ctx.store.status = ocCloudInitialized) sent .connect r
  | login sent, r =>
    sendRequest (statusHas r.ctx.store.status ocCloudRegistered && !statusHas r.ctx.store.status ocCloudLoggedIn) sent
      .connect r
  | logout sent, r => sendRequest (statusHas r.ctx.store.status ocCloudLoggedIn) sent .connect r
  | deregister sent, r => sendRequest (statusHas r.ctx.store.status ocCloudRegistered) sent .connect r
  | refreshToken sent, r => sendRequest (statusHas r.ctx.store.status ocCloudRegistered) sent .refreshAccessToken r
  | provision server accessToken serverId authProvider, r =>
    ocCloudProvisionConfResource close server accessToken serverId authProvider r
  | post payload, r => postCloud close payload r
  | reset sent, r => ocCloudResetContext sent r

end Api

/-! ## Closing the endpoint -/

/-- The calls that the application makes while the endpoint is being closed: its peer has left the list by then, so that
nothing is closed again. -/
def nestedCalls (calls : List CloudApi) (r : CloudRun) : CloudRun := calls.foldl (fun r call => call.run id r) r

/-- What closing the endpoint calls back: the handler of a request that has not been answered, with the calls that the
application makes when it is told, a handler of the application's own, or, where the endpoint is not a TCP one, the session
handler. -/
inductive ClosingEffect
  | answered (handler : CloudHandler) (calls : List CloudApi)
  | application (calls : List CloudApi)
  | sessionEnded

/-- The response of `notify_client_cb_503`. -/
def unavailable : CloudResponse := ⟨.status .serviceUnavailable, []⟩

/-- One call back. -/
def closingStep (r : CloudRun) : ClosingEffect → CloudRun
  | .answered handler calls => handle unavailable id (nestedCalls calls) handler r
  | .application calls => nestedCalls calls r
  | .sessionEnded => cloudEpSessionEventHandler .disconnected r

/-- `cloud_close_endpoint`, with what it calls back. -/
def cloudCloseEndpoint (closing : List ClosingEffect) (r : CloudRun) : CloudRun := closing.foldl closingStep r

/-- A call of the application, with what closing the endpoint calls back in it. -/
structure AppCall where
  call : CloudApi
  closing : List ClosingEffect

/-- The call is made. -/
def AppCall.run (c : AppCall) (r : CloudRun) : CloudRun := c.call.run (cloudCloseEndpoint c.closing) r

/-- The callback of the application, as the calls it makes. -/
def appCallback (calls : List AppCall) (r : CloudRun) : CloudRun := calls.foldl (fun r call => call.run r) r

/-! ## Timed callbacks -/

/-- `reconnect` -/
def reconnect (closing : List ClosingEffect) (r : CloudRun) : CloudRun :=
  cloudReconnect (cloudCloseEndpoint closing)
    ((r.setDelayedCallback .callbackHandler (.seconds 0)).removeDelayedCallback .refreshToken)

section Callbacks

variable (closing : List ClosingEffect) (connects : Bool)

/-- `retry_count++` -/
def countRetry (r : CloudRun) : CloudRun := r.assign fun ctx => { ctx with retryCount := ctx.retryCount + 1 }

/-- `retry_refresh_token_count++` -/
def countRefreshRetry (r : CloudRun) : CloudRun :=
  r.assign fun ctx => { ctx with retryRefreshTokenCount := ctx.retryRefreshTokenCount + 1 }

/-- `cloud_register`, where `connects` says whether the endpoint is resolved and the request is sent, if it has what
it needs. -/
def cloudRegister (r : CloudRun) : CloudRun :=
  if r.ctx.store.status = ocCloudInitialized then
    let r := countRetry r
    if r.ctx.retryCount < maxRetryCount then
      let r :=
        if r.ctx.store.ciServer.isSome && r.ctx.store.accessToken.isSome && connects then r.setCps ocCpsRegistering
        else r.cloudSetLastError .connect
      r.setDelayedCallback .cloudRegister (.session r.ctx.retryCount.toNat)
    else reconnect closing r
  else r

/-- `cloud_login` -/
def cloudLogin (r : CloudRun) : CloudRun :=
  if statusHas r.ctx.store.status ocCloudRegistered then
    let r := countRetry r
    if r.ctx.retryCount < maxRetryCount then
      let r :=
        if r.ctx.store.uid.isSome && r.ctx.store.accessToken.isSome && connects then r
        else r.cloudSetLastError .connect
      r.setDelayedCallback .cloudLogin (.session r.ctx.retryCount.toNat)
    else reconnect closing r
  else r

/-- `refresh_token` -/
def refreshToken (r : CloudRun) : CloudRun :=
  if statusHas r.ctx.store.status ocCloudRegistered then
    let r := countRefreshRetry r
    if r.ctx.retryRefreshTokenCount < maxRetryCount then
      let r :=
        if r.ctx.store.uid.isSome && r.ctx.store.refreshToken.isSome && connects then r
        else r.cloudSetLastError .refreshAccessToken
      r.setDelayedCallback .cloudLogin (.session r.ctx.retryRefreshTokenCount.toNat)
    else reconnect closing r
  else r

/-- `send_ping` -/
def sendPing (r : CloudRun) : CloudRun :=
  if statusHas r.ctx.store.status ocCloudLoggedIn then
    let r := countRetry r
    if r.ctx.retryCount < maxRetryCount then
      if connects then r else r.cloudSetLastError .connect
    else reconnect closing r
  else r

/-- `callback_handler`; `app` is the callback of the application. -/
def callbackHandler (app : CloudRun → CloudRun) (r : CloudRun) : CloudRun :=
  (app r).clearStatus
    (ocCloudFailure ||| ocCloudLoggedOut ||| ocCloudRefreshedToken ||| ocCloudTokenExpiry ||| ocCloudDeregistered)

/-- The callback of an entry. Those of other parts of the stack leave the context alone. -/
def runCallback (app : CloudRun → CloudRun) : TimedCallback → CloudRun → CloudRun
  | .cloudRegister, r => cloudRegister closing connects r
  | .cloudLogin, r => cloudLogin closing connects r
  | .sendPing, r => sendPing closing connects r
  | .refreshToken, r => refreshToken closing connects r
  | .callbackHandler, r => callbackHandler app r
  | .startManager, r => cloudStartProcess r
  | .restartManager, r => cloudManagerRestart r
  | .other _, r => r

end Callbacks

end SmartGarage
