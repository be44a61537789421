/-
The onboarding tool of `oc_obt.c`: its two lists of devices, the contexts of the sequences it runs
and the requests that wait for a response. Blocks that the code identifies by their address carry
it in the field `addr`; a pointer to a device is the address of its block, which is looked up
whether it has been freed or not. What the user's callbacks do is not part of the model, nor are
the tool's own credentials.
-/
import SmartGarage.Api.Rep
import SmartGarage.Security.Acl

namespace SmartGarage

/-! ## Sequences -/

/-- `oc_obt_otm_t` -/
inductive OcObtOtm
  | otmJw | rdp | otmRdp | otmCert
deriving DecidableEq

/-- The callbacks that get an `oc_credprov_ctx_t`: those of the pairwise sequence, then those of the
certificate sequence. -/
inductive CredCb
  | device1RFPRO | device2RFPRO | device1Cred | device2Cred | device1RFNOP | device2RFNOP
  | supportsCertCreds | deviceRFPRO | deviceRoot | deviceCSR | deviceCred | deviceAuthcryptRoles | deviceRFNOP
deriving DecidableEq

/-- The callbacks that `switch_dos` is given; the others are response handlers. -/
def CredCb.isStatusCb : CredCb → Bool
  | device1RFPRO | device2RFPRO | device1RFNOP | device2RFNOP | deviceRFPRO | deviceRFNOP => true
  | _ => false

/-- The callbacks of the pairwise sequence. -/
def CredCb.isPairwise : CredCb → Bool
  | device1RFPRO | device2RFPRO | device1Cred | device2Cred | device1RFNOP | device2RFNOP => true
  | _ => false

/-- `oc_obt_status_cb_t` as `switch_dos` gets it. -/
inductive StatusCb
  | hardResetCb
  | cred (cb : CredCb)
deriving DecidableEq

/-- `oc_response_handler_t`; `otm k i` handles the response to the `i`-th request of a transfer. -/
inductive ResponseHandler
  | obtCheckOwned
  | getEndpoints
  | pstatPOSTDos1ToDos2
  | cred (cb : CredCb)
  | otm (otm : OcObtOtm) (i : Nat)
deriving DecidableEq

/-- The requests that `switch_dos` and the two provisioning sequences send. -/
def ResponseHandler.isProvisioning : ResponseHandler → Bool
  | pstatPOSTDos1ToDos2 | cred _ => true
  | _ => false

/-- What a request asks for. -/
inductive ObtMessage
  | getDoxmOwned | getRes | getDoxm | getCsr
  | postDos (dos : OcDostype)
  | postPsk (subjectuuid : OcUuid) (key : List UInt8)
  | postTrustca
  | postCert (rolecert : Bool)
  | postRolesAce
  | otm (method : OcMethod) (uri : OcString)
deriving DecidableEq

/-! ## The state -/

/-- `oc_device_t` -/
structure OcDevice where
  uuid : OcUuid
  endpoint : List OcEndpoint
deriving DecidableEq

/-- `oc_otm_ctx_t` -/
structure OcOtmCtx where
  addr : Nat
  device : Nat
deriving DecidableEq

/-- `oc_switch_dos_ctx_t` -/
structure OcSwitchDosCtx where
  addr : Nat
  device : Nat
  dos : OcDostype
  cb : StatusCb
  data : Nat
deriving DecidableEq

/-- `oc_hard_reset_ctx_t` -/
structure OcHardResetCtx where
  addr : Nat
  device : Nat
  switchDos : Option Nat
deriving DecidableEq

/-- `oc_credprov_ctx_t`; `run` numbers the sequence among those started, which the code does not keep. -/
structure OcCredprovCtx where
  addr : Nat
  device1 : Nat
  device2 : Option Nat
  switchDos : Option Nat
  key : List UInt8
  roles : Bool
  run : Nat
deriving DecidableEq

/-- The device a step of a provisioning sequence is about. -/
def OcCredprovCtx.device (p : OcCredprovCtx) (second : Bool) : Nat := if second then p.device2.getD 0 else p.device1

/-- `oc_client_cb_t`; `id` stands for its token. -/
structure OcClientCb where
  id : Nat
  handler : ResponseHandler
  userData : Nat
  multicast : Bool
deriving DecidableEq

/-- What can be observed of a run: a pairwise sequence is started, a callback of a sequence goes on, the
next four values of `oc_random_value` when a key is filled, a request goes out, a status callback is
called. -/
inductive ObtAction
  | started (run : Nat) (uuid1 uuid2 : OcUuid)
  | accepted (run : Nat) (cb : CredCb)
  | drew (run : Nat) (r0 r1 r2 r3 : UInt32)
  | sent (run : Option Nat) (handler : ResponseHandler) (device : OcUuid) (endpoint : OcEndpoint) (message : ObtMessage)
  | status (run : Nat) (status : Int)
deriving DecidableEq

/-- The state of the tool: `devices` and `cache` are the lists `oc_devices` and `oc_cache`, `blocks` the
contents of the blocks their addresses denote. -/
structure Obt where
  devices : List Nat
  cache : List Nat
  blocks : Nat → OcDevice
  otmCtxL : List OcOtmCtx
  switchDosCtxL : List OcSwitchDosCtx
  hardResetCtxL : List OcHardResetCtx
  credprovCtxL : List OcCredprovCtx
  clientCbs : List OcClientCb
  nextId : Nat
  nextRun : Nat
  trace : List ObtAction

/-- The tool before its first call. -/
def Obt.init : Obt := ⟨[], [], fun _ => ⟨OcUuid.nil, []⟩, [], [], [], [], [], 0, 0, []⟩

/-! ## Events and their environment -/

/-- `oc_client_response_t`; `observe` is set where the response has an Observe option, which keeps the
request waiting. -/
structure OcClientResponse where
  code : OcStatus
  payload : List OcRep
  endpoint : OcEndpoint
  observe : Bool

/-- What the platform contributes to one step: whether the request of the step can be sent, the blocks
that `oc_memb_alloc` returns for a context, a `switch_dos` context and a device, which calls of
`oc_new_endpoint` succeed, which devices have an owner credential, whether the tool's own computations succeed (keys, certificates, credentials),
the values of `oc_random_value` from here on, the UUID of `oc_gen_uuid`, and what an uninitialised
UUID holds. -/
structure ObtEnv where
  sends : Bool
  ctxBlock : Option Nat
  dosBlock : Option Nat
  deviceBlock : Option Nat
  endpointAllocs : Nat → Bool
  isOwned : OcUuid → Bool
  succeeds : Bool
  random : Nat → UInt32
  genUuid : OcUuid
  garbage : OcUuid

/-- Calls of the tool's API, and what comes in from the network. `timeout` is the end of a request's
lifetime, after which it is dropped; a request given up by the transport ends as a response with the
code 5.03, and so do those that wait on a TLS session that is closed. -/
inductive ObtEvent
  | discoverUnownedDevices
  | discoverOwnedDevices
  | performOtm (otm : OcObtOtm) (uuid : OcUuid)
  | deviceHardReset (uuid : OcUuid)
  | provisionPairwiseCredentials (uuid1 uuid2 : OcUuid)
  | provisionCertificate (roles : Bool) (uuid : OcUuid)
  | response (id : Nat) (r : OcClientResponse)
  | timeout (id : Nat)

/-- The device id of the tool itself, and `oc_string_to_endpoint`. -/
structure ObtPlatform where
  myUuid : OcUuid
  stringToEndpoint : OcString → Option OcEndpoint

end SmartGarage
