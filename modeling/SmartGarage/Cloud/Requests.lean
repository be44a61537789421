/-
The requests that a cloud context sends (`oc_cloud_apis.c`, `oc_cloud_rd.c`, `rd_client.c`): which device each of them
names, and whose state is asked before it is sent.
-/
import SmartGarage.Cloud.RdDelete
import SmartGarage.Security.Acl

namespace SmartGarage

/-! ## Requests -/

/-- A field of a payload. -/
inductive CloudField
  | text (name value : OcString)
  | boolean (name : OcString) (value : Bool)
  | int (name : OcString) (value : Int)
  | links (name : OcString) (links : List RdLink)

/-- A request that is handed to `oc_do_post` or `oc_do_delete`. -/
structure CloudRequest where
  method : OcMethod
  uri : OcString
  query : OcString
  payload : List CloudField

/-- The values of the text fields `di`. -/
def diField : CloudField → Option OcString
  | .text name value => if name = ascii "di" then some value else none
  | _ => none

/-- The values of the parameters `di` of a query. -/
def diValues (query : OcString) : List OcString :=
  (query.splitOn 38).filterMap fun s => if s.take 3 = ascii "di=" then some (s.drop 3) else none

/-- The device that a request names: in its payload, or else by the last parameter `di` of its query, as tokens stand in
front of it. -/
def CloudRequest.deviceId (request : CloudRequest) : Option OcString :=
  (request.payload.findSome? diField).or (diValues request.query).getLast?

/-- What the functions find around them: the devices with their ids, names and states; whether there is a callback,
memory for its parameters, and an endpoint; whether the server's URI can be converted; whether the client API takes the
request. -/
structure CloudEnv where
  deviceCount : Nat
  deviceId : Nat → OcUuid
  deviceName : Nat → OcString
  pstat : Nat → OcDostype
  ownLinks : Nat → List RdLink
  callback : Bool
  allocated : Bool
  endpoint : Bool
  connects : Bool
  initPost : Bool
  sends : Bool

namespace CloudEnv

variable (env : CloudEnv)

/-- The text of a device's id. -/
def di (device : Nat) : OcString := ocUuidToStr (env.deviceId device)

/-- A text field, if there is a text. -/
def textIf (name : OcString) (value : Option OcString) : List CloudField := (value.map (.text name)).toList

/-! ## The account -/

/-- A POST request with a payload. -/
def post (uri query : OcString) (payload : List CloudField) : Option CloudRequest :=
  if env.initPost && env.sends then some ⟨.post, uri, query, payload⟩ else none

/-- `cloud_access_register` -/
def cloudAccessRegister (authProvider authCode uid accessToken : Option OcString) (device : Nat) : Option CloudRequest :=
  if env.pstat device ≠ .rfnop then none
  else if !env.endpoint || ((authProvider.isNone || authCode.isNone) && accessToken.isNone) then none
  else
    env.post (ascii "/oic/sec/account") []
      (.text (ascii "di") (env.di device) :: textIf (ascii "authprovider") authProvider ++
        (match authCode with
          | some code => [.text (ascii "accesstoken") code]
          | none => textIf (ascii "uid") uid ++ [.text (ascii "accesstoken") (accessToken.getD [])]) ++
        [.text (ascii "devicetype") (ascii "device")])

/-- `cloud_access_deregister`: a uid or token that is not set counts as empty. -/
def cloudAccessDeregister (uid accessToken : Option OcString) (device : Nat) : Option CloudRequest :=
  if env.pstat device ≠ .rfnop then none
  else if !env.endpoint then none
  else if env.sends then
    let query := ascii "accesstoken=" ++ accessToken.getD [] ++ (ascii "&uid=" ++ uid.getD []) ++
      (ascii "&di=" ++ env.di device)
    some ⟨.delete, ascii "/oic/sec/account", query, []⟩
  else none

/-- `cloud_access_login_out` -/
def cloudAccessLoginOut (uid accessToken : Option OcString) (device : Nat) (isSignIn : Bool) : Option CloudRequest :=
  if env.pstat device ≠ .rfnop then none
  else if !env.endpoint || uid.isNone || accessToken.isNone then none
  else
    env.post (ascii "/oic/sec/session") []
      [.text (ascii "uid") (uid.getD []), .text (ascii "di") (env.di device),
        .text (ascii "accesstoken") (accessToken.getD []), .boolean (ascii "login") isSignIn]

/-- `cloud_access_login` -/
def cloudAccessLogin (uid accessToken : Option OcString) (device : Nat) : Option CloudRequest :=
  env.cloudAccessLoginOut uid accessToken device true

/-- `cloud_access_logout` -/
def cloudAccessLogout (uid accessToken : Option OcString) (device : Nat) : Option CloudRequest :=
  env.cloudAccessLoginOut uid accessToken device false

/-- `cloud_access_refresh_access_token` -/
def cloudAccessRefreshAccessToken (uid refreshToken : Option OcString) (device : Nat) : Option CloudRequest :=
  if env.pstat device ≠ .rfnop then none
  else if !env.endpoint || uid.isNone || refreshToken.isNone then none
  else
    env.post (ascii "/oic/sec/tokenrefresh") []
      [.text (ascii "uid") (uid.getD []), .text (ascii "di") (env.di device),
        .text (ascii "granttype") (ascii "refresh_token"), .text (ascii "refreshtoken") (refreshToken.getD [])]

/-! ## The functions of the application -/

/-- `oc_cloud_register` -/
def ocCloudRegister (ctx : OcCloudContext) : Option CloudRequest :=
  if !env.callback then none
  else if statusHas ctx.store.status ocCloudRegistered then none
  else if !env.allocated then none
  else if ctx.store.status = ocCloudInitialized then
    if ctx.store.ciServer.isSome && env.connects then
      env.cloudAccessRegister ctx.store.authProvider none ctx.store.uid ctx.store.accessToken ctx.device
    else none
  else none

/-- `oc_cloud_login` -/
def ocCloudLogin (ctx : OcCloudContext) : Option CloudRequest :=
  if !env.callback then none
  else if statusHas ctx.store.status ocCloudLoggedIn then none
  else if !env.allocated then none
  else if statusHas ctx.store.status ocCloudRegistered then
    if env.connects then env.cloudAccessLogin ctx.store.uid ctx.store.accessToken ctx.device else none
  else none

/-- `oc_cloud_logout` -/
def ocCloudLogout (ctx : OcCloudContext) : Option CloudRequest :=
  if !env.callback then none
  else if !statusHas ctx.store.status ocCloudLoggedIn then none
  else if !env.allocated then none
  else if env.connects then env.cloudAccessLogout ctx.store.uid ctx.store.accessToken 0
  else none

/-- `oc_cloud_deregister` -/
def ocCloudDeregister (ctx : OcCloudContext) : Option CloudRequest :=
  if !env.callback then none
  else if !statusHas ctx.store.status ocCloudRegistered then none
  else if !env.allocated then none
  else if ctx.store.ciServer.isSome && env.connects then env.cloudAccessDeregister ctx.store.uid ctx.store.accessToken 0
  else none

/-- `oc_cloud_refresh_token` -/
def ocCloudRefreshToken (ctx : OcCloudContext) : Option CloudRequest :=
  if !env.callback then none
  else if !statusHas ctx.store.status ocCloudRegistered then none
  else if !env.allocated then none
  else if env.connects then env.cloudAccessRefreshAccessToken ctx.store.uid ctx.store.refreshToken ctx.device
  else none

/-! ## The directory -/

/-- `rd_publish` with `rd_publish_with_device_id`: without links the platform's and the device's own. -/
def rdPublish (links : List RdLink) (device : Nat) : Option CloudRequest :=
  if env.deviceCount ≤ device then none
  else if !env.endpoint then none
  else
    env.post (ascii "/oic/rd") (ascii "rt=oic.wk.rdpub")
      [.text (ascii "di") (env.di device), .text (ascii "n") (env.deviceName device), .int (ascii "lt") 86400,
        .links (ascii "links") (if links = [] then env.ownLinks device else links)]

/-- `rd_delete` with `rd_delete_with_device_id` -/
def rdDelete (links : List RdLink) (device : Nat) : Option CloudRequest :=
  if env.deviceCount ≤ device then none
  else if !env.endpoint then none
  else if env.sends then some ⟨.delete, ascii "/oic/rd", rdDeleteQuery (env.deviceId device) links, []⟩
  else none

/-- `publish_resources` -/
def publishResources (ctx : OcCloudContext) (rd : CloudRd) : Option CloudRequest :=
  if env.pstat ctx.device ≠ .rfnop then none
  else if !statusHas ctx.store.status ocCloudLoggedIn then none
  else env.rdPublish rd.publishResources ctx.device

/-- `delete_resources` -/
def sendDeleteResources (ctx : OcCloudContext) (rd : CloudRd) (all : Bool) : Option CloudRequest :=
  if env.pstat ctx.device ≠ .rfnop then none
  else if !statusHas ctx.store.status ocCloudLoggedIn then none
  else if all then env.rdDelete [] ctx.device
  else if rd.deleteResources ≠ [] then env.rdDelete rd.deleteResources ctx.device
  else none

end CloudEnv

/-- The operations that send a request. -/
inductive CloudOperation
  | register | login | logout | deregister | refreshToken | publish
  | delete (all : Bool)
deriving DecidableEq

/-- The request of an operation. -/
def CloudOperation.request (env : CloudEnv) (ctx : OcCloudContext) (rd : CloudRd) : CloudOperation → Option CloudRequest
  | register => env.ocCloudRegister ctx
  | login => env.ocCloudLogin ctx
  | logout => env.ocCloudLogout ctx
  | deregister => env.ocCloudDeregister ctx
  | refreshToken => env.ocCloudRefreshToken ctx
  | publish => env.publishResources ctx rd
  | delete all => env.sendDeleteResources ctx rd all

/-! ## The device that a request is for -/

namespace CloudEnv

variable {env : CloudEnv} {request : CloudRequest}

/-- A request is for a device: it names it, and the device is in normal operation. -/
structure For (env : CloudEnv) (device : Nat) (request : CloudRequest) : Prop where
  names : request.deviceId = some (env.di device)
  operational : env.pstat device = .rfnop

theorem post_some {uri query : OcString} {payload : List CloudField} (h : env.post uri query payload = some request) :
    request = ⟨.post, uri, query, payload⟩ := by
  unfold post at h
  split at h
  · cases h
    rfl
  · cases h

theorem deviceId_payload {method : OcMethod} {uri query di : OcString} {before after : List CloudField}
    (h : before.findSome? diField = none) :
    (CloudRequest.mk method uri query (before ++ .text (ascii "di") di :: after)).deviceId = some di := by
  unfold CloudRequest.deviceId
  rw [List.findSome?_append, h]
  rfl

theorem diValues_last {query di : OcString} (hdi : 38 ∉ di) : (diValues (query ++ (ascii "&di=" ++ di))).getLast? = some di := by
  have hparameter : 38 ∉ (100 :: 105 :: 61 :: di : OcString) := by
    simpa using hdi
  have htext : query ++ (ascii "&di=" ++ di) = query ++ 38 :: (100 :: 105 :: 61 :: di) := rfl
  unfold diValues
  rw [htext, List.splitOn_append_cons_self, List.splitOn_eq_singleton hparameter, List.filterMap_append]
  exact List.getLast?_concat

theorem diValues_append (a b : OcString) : diValues (a ++ 38 :: b) = diValues a ++ diValues b := by
  unfold diValues
  rw [List.splitOn_append_cons_self, List.filterMap_append]

theorem diValues_nil {query : OcString} (h : 100 ∉ query) : diValues query = [] := by
  induction hlen : query.length using Nat.strong_induction_on generalizing query with
  | h n ih =>
    by_cases hamp : 38 ∈ query
    · obtain ⟨front, behind, rfl⟩ := List.append_of_mem hamp
      rw [List.mem_append, List.mem_cons, not_or, not_or] at h
      rw [List.length_append, List.length_cons] at hlen
      rw [diValues_append, ih front.length (by omega) h.1 rfl, ih behind.length (by omega) h.2.2 rfl]
      rfl
    · unfold diValues
      rw [List.splitOn_eq_singleton hamp, List.filterMap_cons, if_neg fun heq => h ?_]
      · rfl
      · exact List.mem_of_mem_take (by rw [heq]; decide)

theorem insText_noD (links : List RdLink) : 100 ∉ insText links := by
  have hprint (v : Int) : 100 ∉ printInt64 v := by
    unfold printInt64
    rintro hmem
    obtain hmem | hmem := List.mem_append.1 hmem
    · split at hmem <;> exact absurd hmem (by decide)
    · exact absurd (Decimal.isDigit_print _ 100 hmem) (by decide)
  rintro hmem
  obtain ⟨text, htext, hmem⟩ := List.mem_flatten.1 hmem
  obtain ⟨link, -, rfl⟩ := List.mem_map.1 htext
  rw [insParameter] at hmem
  obtain hmem | hmem := List.mem_append.1 hmem
  · exact absurd hmem (by decide)
  · exact hprint _ hmem

theorem diValues_rdDeleteQuery (di : OcUuid) (links : List RdLink) : diValues (rdDeleteQuery di links) = [ocUuidToStr di] := by
  have hbase : diValues (diText di) = [ocUuidToStr di] := by
    have hsingle : 38 ∉ diText di := by
      rintro hmem
      obtain hmem | hmem := List.mem_append.1 hmem
      · exact absurd hmem (by decide)
      · exact noAmpersand_uuid di hmem
    unfold diValues
    rw [List.splitOn_eq_singleton hsingle]
    rfl
  have hlen := length_diText di
  rw [rdDeleteQuery_eq, List.take_append, List.take_of_length_le (by omega)]
  have hnone : 100 ∉ (insText links).take (254 - (diText di).length) := fun hmem =>
    insText_noD links (List.mem_of_mem_take hmem)
  have hhead : ∀ c ∈ (insText links).head?, c = 38 := by
    cases links with
    | nil =>
      rintro c hc
      cases hc
    | cons link links =>
      rintro c hc
      cases hc
      rfl
  rcases htail : (insText links).take (254 - (diText di).length) with _ | ⟨c, tail⟩
  · rw [List.append_nil, hbase]
  · rw [htail] at hnone
    have hc : c = 38 := hhead c (by
      cases hins : insText links with
      | nil =>
        rw [hins, List.take_nil] at htail
        cases htail
      | cons d rest =>
        rw [hins] at htail
        cases hroom : 254 - (diText di).length with
        | zero =>
          rw [hroom] at htail
          cases htail
        | succ n =>
          rw [hroom, List.take_succ_cons] at htail
          cases htail
          rfl)
    rw [hc, diValues_append, hbase, diValues_nil fun hmem => hnone (List.mem_cons_of_mem _ hmem)]
    rfl

theorem for_payload {device : Nat} {method : OcMethod} {uri query : OcString} (before : List CloudField) {after : List CloudField}
    (hbefore : before.findSome? diField = none) (h : env.pstat device = .rfnop) :
    env.For device ⟨method, uri, query, before ++ .text (ascii "di") (env.di device) :: after⟩ :=
  ⟨deviceId_payload hbefore, h⟩

theorem cloudAccessRegister_for {authProvider authCode uid accessToken : Option OcString} {device : Nat}
    (h : env.cloudAccessRegister authProvider authCode uid accessToken device = some request) :
    env.For device request := by
  unfold cloudAccessRegister at h
  split at h
  · cases h
  · rename_i hstate
    split at h
    · cases h
    · rw [post_some h]
      exact for_payload [] rfl (Decidable.not_not.1 hstate)

theorem cloudAccessDeregister_for {uid accessToken : Option OcString} {device : Nat}
    (h : env.cloudAccessDeregister uid accessToken device = some request) : env.For device request := by
  unfold cloudAccessDeregister at h
  split at h
  · cases h
  · rename_i hstate
    split at h
    · cases h
    · split at h
      · cases h
        refine ⟨?_, Decidable.not_not.1 hstate⟩
        show (diValues _).getLast? = some (env.di device)
        exact diValues_last (noAmpersand_uuid _)
      · cases h

theorem cloudAccessLoginOut_for {uid accessToken : Option OcString} {device : Nat} {isSignIn : Bool}
    (h : env.cloudAccessLoginOut uid accessToken device isSignIn = some request) :
    env.For device request := by
  unfold cloudAccessLoginOut at h
  split at h
  · cases h
  · rename_i hstate
    split at h
    · cases h
    · rw [post_some h]
      exact for_payload [_] rfl (Decidable.not_not.1 hstate)

theorem cloudAccessRefreshAccessToken_for {uid refreshToken : Option OcString} {device : Nat}
    (h : env.cloudAccessRefreshAccessToken uid refreshToken device = some request) : env.For device request := by
  unfold cloudAccessRefreshAccessToken at h
  split at h
  · cases h
  · rename_i hstate
    split at h
    · cases h
    · rw [post_some h]
      exact for_payload [_] rfl (Decidable.not_not.1 hstate)

theorem rdPublish_for {links : List RdLink} {device : Nat} (hstate : env.pstat device = .rfnop)
    (h : env.rdPublish links device = some request) : env.For device request := by
  unfold rdPublish at h
  split at h
  · cases h
  · split at h
    · cases h
    · rw [post_some h]
      exact for_payload [] rfl hstate

theorem rdDelete_for {links : List RdLink} {device : Nat} (hstate : env.pstat device = .rfnop)
    (h : env.rdDelete links device = some request) : env.For device request := by
  unfold rdDelete at h
  split at h
  · cases h
  · split at h
    · cases h
    · split at h
      · cases h
        refine ⟨?_, hstate⟩
        show (diValues _).getLast? = some (env.di device)
        rw [diValues_rdDeleteQuery]
        rfl
      · cases h

theorem sendDeleteResources_query (ctx : OcCloudContext) (rd : CloudRd) :
    (env.sendDeleteResources ctx rd false).map CloudRequest.query =
      (deleteResources (env.deviceId ctx.device) ctx.store.status (env.pstat ctx.device = .rfnop)
        (ctx.device < env.deviceCount && env.endpoint && env.sends) rd).map RdDeleteRequest.query := by
  unfold sendDeleteResources deleteResources rdDelete
  by_cases hstate : env.pstat ctx.device = .rfnop
  · by_cases hstatus : statusHas ctx.store.status ocCloudLoggedIn = true
    · by_cases hnil : rd.deleteResources = []
      · simp [hstate, hstatus, hnil]
      · by_cases hcount : env.deviceCount ≤ ctx.device
        · simp [hstate, hstatus, hnil, hcount]
        · cases env.endpoint <;> cases env.sends <;> simp [hstate, hstatus, hnil, hcount, Nat.not_le.1 hcount]
    · simp [hstate, hstatus]
  · simp [hstate]

end CloudEnv

/-! ## The operations -/

namespace CloudOperation

variable {env : CloudEnv} {ctx : OcCloudContext} {rd : CloudRd}

/-- The device that an operation passes on. -/
def device (ctx : OcCloudContext) : CloudOperation → Nat
  | logout | deregister => 0
  | _ => ctx.device

theorem request_for {op : CloudOperation} {request : CloudRequest} (h : op.request env ctx rd = some request) :
    env.For (op.device ctx) request := by
  -- behind its guards, each operation calls one builder
  cases op with
  | register =>
    replace h : env.ocCloudRegister ctx = some request := h
    simp only [CloudEnv.ocCloudRegister, Option.ite_none_left_eq_some, Option.ite_none_right_eq_some] at h
    obtain ⟨-, -, -, -, -, h⟩ := h
    exact CloudEnv.cloudAccessRegister_for h
  | login =>
    replace h : env.ocCloudLogin ctx = some request := h
    simp only [CloudEnv.ocCloudLogin, Option.ite_none_left_eq_some, Option.ite_none_right_eq_some] at h
    obtain ⟨-, -, -, -, -, h⟩ := h
    exact CloudEnv.cloudAccessLoginOut_for h
  | logout =>
    replace h : env.ocCloudLogout ctx = some request := h
    simp only [CloudEnv.ocCloudLogout, Option.ite_none_left_eq_some, Option.ite_none_right_eq_some] at h
    obtain ⟨-, -, -, -, h⟩ := h
    exact CloudEnv.cloudAccessLoginOut_for h
  | deregister =>
    replace h : env.ocCloudDeregister ctx = some request := h
    simp only [CloudEnv.ocCloudDeregister, Option.ite_none_left_eq_some, Option.ite_none_right_eq_some] at h
    obtain ⟨-, -, -, -, h⟩ := h
    exact CloudEnv.cloudAccessDeregister_for h
  | refreshToken =>
    replace h : env.ocCloudRefreshToken ctx = some request := h
    simp only [CloudEnv.ocCloudRefreshToken, Option.ite_none_left_eq_some, Option.ite_none_right_eq_some] at h
    obtain ⟨-, -, -, -, h⟩ := h
    exact CloudEnv.cloudAccessRefreshAccessToken_for h
  | publish =>
    have h : env.publishResources ctx rd = some request := h
    unfold CloudEnv.publishResources at h
    split at h
    · cases h
    rename_i hstate
    split at h
    · cases h
    exact CloudEnv.rdPublish_for (Decidable.not_not.1 hstate) h
  | delete all =>
    have h : env.sendDeleteResources ctx rd all = some request := h
    unfold CloudEnv.sendDeleteResources at h
    split at h
    · cases h
    rename_i hstate
    split at h
    · cases h
    split at h
    · exact CloudEnv.rdDelete_for (Decidable.not_not.1 hstate) h
    split at h
    · exact CloudEnv.rdDelete_for (Decidable.not_not.1 hstate) h
    · cases h

/-- The operation sends a request for the first device, whatever the device of its context is: `oc_cloud_logout` of a
context that is logged in, and `oc_cloud_deregister` of one that is registered, with the first device in normal
operation. -/
def SendsForFirst (env : CloudEnv) (ctx : OcCloudContext) : CloudOperation → Prop
  | logout =>
    statusHas ctx.store.status ocCloudLoggedIn = true ∧ ctx.store.uid.isSome = true ∧
      ctx.store.accessToken.isSome = true ∧ env.pstat 0 = .rfnop ∧ env.callback = true ∧ env.allocated = true ∧
        env.connects = true ∧ env.endpoint = true ∧ env.initPost = true ∧ env.sends = true
  | deregister =>
    statusHas ctx.store.status ocCloudRegistered = true ∧ ctx.store.ciServer.isSome = true ∧ env.pstat 0 = .rfnop ∧
      env.callback = true ∧ env.allocated = true ∧ env.connects = true ∧ env.endpoint = true ∧ env.sends = true
  | _ => False

theorem isSome_ite {c : Prop} [Decidable c] {x : Option CloudRequest} :
    (if c then none else x).isSome = true ↔ ¬c ∧ x.isSome = true := by
  by_cases h : c
  · simp [h]
  · simp [h]

theorem isSome_ite_else {c : Prop} [Decidable c] {x : Option CloudRequest} :
    (if c then x else none).isSome = true ↔ c ∧ x.isSome = true := by
  by_cases h : c
  · simp [h]
  · simp [h]

theorem logout_isSome : (env.ocCloudLogout ctx).isSome = true ↔ logout.SendsForFirst env ctx := by
  unfold CloudEnv.ocCloudLogout CloudEnv.cloudAccessLogout CloudEnv.cloudAccessLoginOut CloudEnv.post SendsForFirst
  simp only [isSome_ite, isSome_ite_else, Option.isSome_some, and_true, Bool.not_eq_true, Bool.not_eq_false,
    Bool.or_eq_true, Bool.not_eq_true', not_or, Bool.and_eq_true, Decidable.not_not, Option.isNone_eq_false_iff]
  tauto

theorem deregister_isSome : (env.ocCloudDeregister ctx).isSome = true ↔ deregister.SendsForFirst env ctx := by
  unfold CloudEnv.ocCloudDeregister CloudEnv.cloudAccessDeregister SendsForFirst
  simp only [isSome_ite, isSome_ite_else, Option.isSome_some, and_true, Bool.not_eq_false, Bool.not_eq_true',
    Bool.and_eq_true, Decidable.not_not]
  tauto

theorem di_inj {d e : Nat} : env.di d = env.di e ↔ env.deviceId d = env.deviceId e := by
  refine ⟨fun h => ?_, fun h => congrArg ocUuidToStr h⟩
  have hread := ocStrToUuid_ocUuidToStr (env.deviceId d) OcUuid.nil
  rw [show ocUuidToStr (env.deviceId d) = ocUuidToStr (env.deviceId e) from h, ocStrToUuid_ocUuidToStr] at hread
  exact hread.symm

/-- The operations that pass on the first device send requests for the device of the context if and only if they send
none, or the two devices have one id and the context's is in normal operation. -/
theorem first_iff {op : CloudOperation} (hdevice : op.device ctx = 0)
    (hsends : (op.request env ctx rd).isSome = true ↔ op.SendsForFirst env ctx) :
    (∀ request, op.request env ctx rd = some request → env.For ctx.device request) ↔
      (op.SendsForFirst env ctx → env.deviceId ctx.device = env.deviceId 0 ∧ env.pstat ctx.device = .rfnop) := by
  rw [← hsends, Option.isSome_iff_exists]
  constructor
  · rintro h ⟨request, hrequest⟩
    have hfirst := request_for hrequest
    rw [hdevice] at hfirst
    obtain ⟨hnames, hstate⟩ := h request hrequest
    exact ⟨di_inj.1 (Option.some.inj (hnames.symm.trans hfirst.names)), hstate⟩
  · rintro h request hrequest
    obtain ⟨hid, hstate⟩ := h ⟨request, hrequest⟩
    have hfirst := request_for hrequest
    rw [hdevice] at hfirst
    exact ⟨hfirst.names.trans (congrArg some (di_inj.2 hid.symm)), hstate⟩

/-- A request of a context names the context's device, and is sent in normal operation of that device only, unless it
is one of the two that are sent for the first device, and the devices differ. -/
theorem request_iff (op : CloudOperation) (env : CloudEnv) (ctx : OcCloudContext) (rd : CloudRd) :
    (∀ request, op.request env ctx rd = some request → env.For ctx.device request) ↔
      (op.SendsForFirst env ctx → env.deviceId ctx.device = env.deviceId 0 ∧ env.pstat ctx.device = .rfnop) := by
  cases op with
  | logout => exact first_iff rfl logout_isSome
  | deregister => exact first_iff rfl deregister_isSome
  | register | login | refreshToken | publish | delete all =>
    exact iff_of_true (fun request hrequest => request_for hrequest) fun h => h.elim

/-- Two devices in normal operation. -/
def twoDevices : CloudEnv where
  deviceCount := 2
  deviceId := fun d => ⟨Vector.replicate 16 (UInt8.ofNat d)⟩
  deviceName := fun _ => []
  pstat := fun _ => .rfnop
  ownLinks := fun _ => []
  callback := true
  allocated := true
  endpoint := true
  connects := true
  initPost := true
  sends := true

/-- The context of the second device, when it is logged in. -/
def secondContext : OcCloudContext where
  device := 1
  store := { OcCloudStore.zero with
    uid := some (ascii "user"), accessToken := some (ascii "token"), status := ocCloudLoggedIn }
  cloudEpState := .connected
  retryCount := 0
  retryRefreshTokenCount := 0
  lastError := .ok
  expiresIn := 0
  cloudManager := true

/-- The log-out of the second device names the first one. -/
theorem logout_second :
    ¬∀ request, logout.request twoDevices secondContext .empty = some request → twoDevices.For 1 request := by
  intro h
  obtain ⟨hnames, -⟩ := h _ rfl
  exact absurd hnames (by decide)

end CloudOperation

end SmartGarage
