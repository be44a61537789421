/-
How the GET handlers of the Wi-Fi easy setup (`wificonf_get_handler` and `devconf_get_handler`,
`oc_easysetup_enrolee.c`) are called for the links of a collection: for a client's batch request with its origin, and
for the notifications of observers (`coap_notify_collection_batch` and `coap_notify_collections`, `observe.c`) without
one. The handlers take the device from the origin.
-/
import SmartGarage.Api.BatchItems
import SmartGarage.Messaging.CollectionExact

namespace SmartGarage.Easysetup

open Observe

/-! ## The handlers -/

/-- `oc_wes_wifi_conf_resource_t` and its data; `baseline` is what `oc_process_baseline_interface` encodes for the
resource. -/
structure WifiConf where
  baseline : List (OcString × RepBuild)
  supportedMode : List OcString
  supportedFreq : List OcString
  ssid : OcString
  cred : OcString
  authType : OcString
  encType : OcString
  supportedAuthtype : List OcString
  supportedEnctype : List OcString

/-- `oc_wes_dev_conf_resource_t` and its data. -/
structure DevConf where
  baseline : List (OcString × RepBuild)
  devName : OcString

/-- `oc_wifi_enrollee_t` -/
structure OcWifiEnrollee where
  wifi : WifiConf
  device : DevConf

/-- `wifi_enrollee`, the table that `get_device_wifi_enrollee` looks into. -/
abbrev Enrollees := (device : Nat) → OcWifiEnrollee

/-- What comes of a call: a bad request, a look through a null pointer, or what has been encoded of a device. -/
inductive GetOutcome
  | badRequest
  | nullOrigin
  | reported (device : Nat) (rep : Cbor)

section Handlers

variable (enrollees : Enrollees) (origin : Option OcEndpoint) (iface : InterfaceMask)

/-- The properties of `wificonf_get_handler`. -/
def wificonfRep (wifi : WifiConf) : Cbor :=
  .map (RepBuild.encodeEntries (wifi.baseline ++
    [(ascii "swmt", .addTextStrings wifi.supportedMode), (ascii "swf", .addTextStrings wifi.supportedFreq),
      (ascii "tnn", .setTextString wifi.ssid), (ascii "cd", .setTextString wifi.cred),
      (ascii "wat", .setTextString wifi.authType), (ascii "wet", .setTextString wifi.encType),
      (ascii "swat", .addTextStrings wifi.supportedAuthtype), (ascii "swet", .addTextStrings wifi.supportedEnctype)]))

/-- The properties of `devconf_get_handler`. -/
def devconfRep (device : DevConf) : Cbor :=
  .map (RepBuild.encodeEntries (device.baseline ++ [(ascii "dn", .setTextString device.devName)]))

/-- A handler that encodes what it finds for the device of the origin. -/
def originHandler (rep : OcWifiEnrollee → Cbor) : GetOutcome :=
  if iface ≠ ifBaseline then .badRequest
  else match origin with
    | none => .nullOrigin
    | some origin => .reported origin.device (rep (enrollees origin.device))

/-- `wificonf_get_handler` -/
def wificonfGetHandler : GetOutcome := originHandler enrollees origin iface fun e => wificonfRep e.wifi

/-- `devconf_get_handler` -/
def devconfGetHandler : GetOutcome := originHandler enrollees origin iface fun e => devconfRep e.device

end Handlers

/-- The two handlers. -/
inductive GetHandler
  | wificonf | devconf
deriving DecidableEq

/-- What a handler is to report of a device. -/
def GetHandler.rep : GetHandler → OcWifiEnrollee → Cbor
  | .wificonf, e => wificonfRep e.wifi
  | .devconf, e => devconfRep e.device

/-- A call of a handler. -/
def GetHandler.get (enrollees : Enrollees) (origin : Option OcEndpoint) (iface : InterfaceMask) : GetHandler → GetOutcome
  | .wificonf => wificonfGetHandler enrollees origin iface
  | .devconf => devconfGetHandler enrollees origin iface

/-! ## Calls -/

/-- A call of the GET handler of a resource, with the origin of its request. -/
structure GetCall where
  resource : Resource
  iface : InterfaceMask
  origin : Option OcEndpoint

section Calls

variable (env : CollectionEnv) (c : CollectionData) (rq : CollectionRequest) (notify : Option Nat)

/-- The links whose handlers are called for a request. -/
def calledLinks : List CollectionLink :=
  (c.links.filter (selectsLink rq notify ⟨[], []⟩)).filter (reachesHandler env rq)

/-- The calls for a request with the batch interface: each has the origin of the request. -/
def getCalls : List GetCall :=
  (calledLinks env c rq notify).map fun link =>
    ⟨link.resource, (callOf c [] link).iface, rq.origin⟩

end Calls

/-- A GET request of a client. -/
def clientRequest (origin : OcEndpoint) (query : OcString) : CollectionRequest := ⟨.get, query, some origin, []⟩

/-- The ways in which the handlers of the links of a collection are called. -/
inductive BatchRead
  | request (origin : OcEndpoint) (query : OcString) (c : CollectionData)
  | batchNotified (c : CollectionData)
  | changed (r : Resource) (server : NotifyServer)

section Reads

variable (size : Cbor → Nat) (env : CollectionEnv) (capacity : Nat) (handler : Resource → Option GetHandler)
  (enrollees : Enrollees)

/-- The calls for one of the ways: `coap_notify_collections` reads one collection after the other. -/
def BatchRead.calls : BatchRead → List GetCall
  | .request origin query c => getCalls env c (clientRequest origin query) none
  | .batchNotified c => getCalls env c notifyRequest none
  | .changed r server => (visits size env capacity r server).flatMap fun v =>
      getCalls env v.collection notifyRequest (some r.id)

/-- A call of one of the handlers has an origin where it is used, and what is reported is of the device of the
resource. -/
def GetCall.Served (call : GetCall) : Prop :=
  ∀ h, handler call.resource = some h →
    (h.get enrollees call.origin call.iface ≠ .nullOrigin) ∧
      ∀ device rep, h.get enrollees call.origin call.iface = .reported device rep →
        device = call.resource.device ∧ rep = h.rep (enrollees call.resource.device)

/-- The link of a collection leads to a resource with one of the handlers, which is called with the baseline
interface. -/
def Reached (c : CollectionData) (rq : CollectionRequest) (notify : Option Nat) (link : CollectionLink) : Prop :=
  link ∈ calledLinks env c rq notify ∧ (handler link.resource).isSome = true ∧ (callOf c [] link).iface = ifBaseline

/-- A client asks for resources of the device that it has come to, and no handler is called for a notification. -/
def BatchRead.Harmless : BatchRead → Prop
  | .request origin query c => ∀ link, Reached env handler c (clientRequest origin query) none link →
      link.resource.device = origin.device
  | .batchNotified c => ∀ link, ¬Reached env handler c notifyRequest none link
  | .changed r server => ∀ v ∈ visits size env capacity r server, ∀ link,
      ¬Reached env handler v.collection notifyRequest (some r.id) link

end Reads

/-! ## When the calls are served -/

section Served

variable {size : Cbor → Nat} {env : CollectionEnv} {capacity : Nat} {handler : Resource → Option GetHandler}
  {enrollees : Enrollees}

theorem get_eq (h : GetHandler) (origin : Option OcEndpoint) (iface : InterfaceMask) :
    h.get enrollees origin iface = originHandler enrollees origin iface h.rep := by
  cases h <;> rfl

/-- A call is served if and only if it has the baseline interface only with an origin of the device of its resource. -/
theorem served_iff (call : GetCall) : call.Served handler enrollees ↔
    ((handler call.resource).isSome = true → call.iface = ifBaseline →
      ∃ origin, call.origin = some origin ∧ call.resource.device = origin.device) := by
  unfold GetCall.Served
  cases hhandler : handler call.resource with
  | none => exact iff_of_true (fun _ h => nomatch h) fun h => nomatch h
  | some h =>
    have heq : h.get enrollees call.origin call.iface = originHandler enrollees call.origin call.iface h.rep := get_eq h _ _
    constructor
    · intro hserved _ hiface
      obtain ⟨hnull, hreported⟩ := hserved h rfl
      rw [heq] at hnull hreported
      unfold originHandler at hnull hreported
      rw [if_neg (not_not.2 hiface)] at hnull hreported
      cases horigin : call.origin with
      | none =>
        rw [horigin] at hnull
        exact absurd rfl hnull
      | some origin =>
        rw [horigin] at hreported
        exact ⟨origin, rfl, (hreported _ _ rfl).1.symm⟩
    · intro hcall h' hh'
      cases hh'
      rw [heq]
      unfold originHandler
      by_cases hiface : call.iface = ifBaseline
      · obtain ⟨origin, horigin, hdevice⟩ := hcall rfl hiface
        rw [if_neg (not_not.2 hiface), horigin]
        refine ⟨(nomatch ·), fun device rep hreported => ?_⟩
        cases hreported
        exact ⟨hdevice.symm, by rw [hdevice]⟩
      · rw [if_pos hiface]
        exact ⟨(nomatch ·), fun _ _ hreported => nomatch hreported⟩

/-- The calls for a request are served if and only if its origin is of the device of each resource that is reached. -/
theorem served_calls_iff (c : CollectionData) (rq : CollectionRequest) (notify : Option Nat) :
    (∀ call ∈ getCalls env c rq notify, call.Served handler enrollees) ↔
      ∀ link, Reached env handler c rq notify link → ∃ origin, rq.origin = some origin ∧
        link.resource.device = origin.device := by
  unfold getCalls Reached
  rw [List.forall_mem_map]
  simp only [served_iff]
  exact ⟨fun h link ⟨hlink, hhandler, hiface⟩ => h link hlink hhandler hiface,
    fun h link hlink hhandler hiface => h link ⟨hlink, hhandler, hiface⟩⟩

theorem served_notified_iff (c : CollectionData) (notify : Option Nat) :
    (∀ call ∈ getCalls env c notifyRequest notify, call.Served handler enrollees) ↔
      ∀ link, ¬Reached env handler c notifyRequest notify link := by
  rw [served_calls_iff]
  refine forall_congr' fun link => imp_congr_right fun _ => iff_of_false ?_ not_false
  rintro ⟨origin, horigin, -⟩
  cases horigin

/-- The handlers are called with what they need if and only if a client asks for resources of the device that it has come
to, and no notification reaches a resource with one of the handlers. -/
theorem served_read_iff (size : Cbor → Nat) (env : CollectionEnv) (capacity : Nat) (handler : Resource → Option GetHandler)
    (enrollees : Enrollees) (read : BatchRead) :
    (∀ call ∈ read.calls size env capacity, call.Served handler enrollees) ↔
      read.Harmless size env capacity handler := by
  cases read with
  | request origin query c =>
    refine (served_calls_iff c (clientRequest origin query) none).trans
      (forall_congr' fun link => imp_congr_right fun _ => ?_)
    exact ⟨fun ⟨_, horigin, hdevice⟩ => Option.some.inj horigin ▸ hdevice, fun hdevice => ⟨origin, rfl, hdevice⟩⟩
  | batchNotified c => exact served_notified_iff c none
  | changed r server =>
    unfold BatchRead.calls BatchRead.Harmless
    simp only [List.mem_flatMap]
    refine Iff.trans ⟨fun h v hv call hcall => h call ⟨v, hv, hcall⟩, fun h call ⟨v, hv, hcall⟩ => h v hv call hcall⟩ ?_
    exact forall₂_congr fun v _ => served_notified_iff v.collection (some r.id)

end Served

/-! ## A collection with the Wi-Fi configuration -/

/-- A device without data. -/
def blankEnrollee : OcWifiEnrollee := ⟨⟨[], [], [], [], [], [], [], [], []⟩, ⟨[], []⟩⟩

/-- A notification of the batch observers of a collection that links the Wi-Fi configuration. -/
theorem served_notified_null : ¬∀ (size : Cbor → Nat) (env : CollectionEnv) (capacity : Nat)
    (handler : Resource → Option GetHandler) (enrollees : Enrollees) (read : BatchRead),
    ∀ call ∈ read.calls size env capacity, call.Served handler enrollees := by
  intro hall
  have hserved := hall cborSize sharingEnv 8192 (fun r => if r.id = sharedResource.id then some .wificonf else none)
    (fun _ => blankEnrollee) (.batchNotified (plainCollection kitchen [sharedResource]))
    ⟨sharedResource, ifBaseline, none⟩ List.mem_cons_self
  exact (hserved .wificonf (if_pos rfl)).1 rfl

end SmartGarage.Easysetup
