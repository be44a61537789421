/-
The cloud context of a device, how the contexts are created, and the responses its requests are answered with.
-/
import SmartGarage.Cloud.Store

namespace SmartGarage

/-- `oc_cloud_error_t` -/
inductive OcCloudError
  | ok | response | connect | refreshAccessToken
deriving DecidableEq

/-- `oc_cloud_context_t`, without the lists of the resource directory. -/
structure OcCloudContext where
  device : Nat
  store : OcCloudStore
  cloudEpState : OcSessionState
  retryCount : UInt8
  retryRefreshTokenCount : UInt8
  lastError : OcCloudError
  expiresIn : UInt16
  cloudManager : Bool
deriving DecidableEq

/-! ## The status bits -/

/-- `OC_CLOUD_INITIALIZED`, no bit at all. -/
def ocCloudInitialized : UInt8 := 0

/-- `OC_CLOUD_REGISTERED` -/
def ocCloudRegistered : UInt8 := 1

/-- `OC_CLOUD_LOGGED_IN` -/
def ocCloudLoggedIn : UInt8 := 2

/-- `OC_CLOUD_TOKEN_EXPIRY` -/
def ocCloudTokenExpiry : UInt8 := 4

/-- `OC_CLOUD_REFRESHED_TOKEN` -/
def ocCloudRefreshedToken : UInt8 := 8

/-- `OC_CLOUD_LOGGED_OUT` -/
def ocCloudLoggedOut : UInt8 := 16

/-- `OC_CLOUD_FAILURE` -/
def ocCloudFailure : UInt8 := 32

/-- `OC_CLOUD_DEREGISTERED` -/
def ocCloudDeregistered : UInt8 := 64

/-- `status & bit` -/
def statusHas (status bit : UInt8) : Bool := status &&& bit ≠ 0

theorem or_and_distrib (a b c : UInt8) : (a ||| b) &&& c = a &&& c ||| b &&& c := by
  refine UInt8.toBitVec_inj.1 ?_
  simp only [UInt8.toBitVec_and, UInt8.toBitVec_or]
  ext i hi
  simp [Bool.and_or_distrib_right]

theorem statusHas_or (status bits bit : UInt8) :
    statusHas (status ||| bits) bit = (statusHas status bit || statusHas bits bit) := by
  unfold statusHas
  rw [or_and_distrib, Bool.eq_iff_iff, Bool.or_eq_true, decide_eq_true_eq, decide_eq_true_eq, decide_eq_true_eq, Ne,
    UInt8.or_eq_zero_iff, not_and_or]

theorem statusHas_clear {status bits bit : UInt8} (h : bits &&& bit = 0) :
    statusHas (status &&& ~~~bits) bit = statusHas status bit := by
  have hkeep : ~~~bits &&& bit = bit := by
    have hall : (bits ||| ~~~bits) &&& bit = bit := by simp
    rwa [or_and_distrib, h, UInt8.zero_or] at hall
  rw [statusHas, UInt8.and_assoc, hkeep, statusHas]

/-! ## Responses -/

/-- The code of a response: an `oc_status_t`, with the two values behind the status codes. -/
inductive ResponseCode
  | status (s : OcStatus)
  | ignore
  | pingTimeout
deriving DecidableEq

/-- `code >= OC_STATUS_BAD_REQUEST` -/
def ResponseCode.isError : ResponseCode → Bool
  | status s => s.isError
  | ignore | pingTimeout => true

/-- `code >= OC_STATUS_SERVICE_UNAVAILABLE` -/
def ResponseCode.isUnavailable : ResponseCode → Bool
  | status .serviceUnavailable | status .gatewayTimeout | status .proxyingNotSupported | ignore | pingTimeout => true
  | _ => false

/-- What the handlers read of an `oc_client_response_t`. -/
structure CloudResponse where
  code : ResponseCode
  payload : List RepNode

/-! ## Contexts -/

section Init

variable (itemMax : Nat) (storage : CloudStorage)

/-- The context that `oc_cloud_init` creates for a device: `oc_memb_alloc` clears it, and the device of its store is
not set. -/
def cloudContextInit (device : Nat) : OcCloudContext where
  device := device
  store := cloudStoreLoad itemMax storage .zero
  cloudEpState := .disconnected
  retryCount := 0
  retryRefreshTokenCount := 0
  lastError := .ok
  expiresIn := 0
  cloudManager := false

/-- `oc_cloud_init`, with the number of devices. -/
def ocCloudInit (numDevices : Nat) : List OcCloudContext :=
  (List.range numDevices).map (cloudContextInit itemMax storage)

end Init

/-- `oc_cloud_get_context` -/
def ocCloudGetContext (contexts : List OcCloudContext) (device : Nat) : Option OcCloudContext :=
  contexts.find? fun ctx => ctx.device = device

end SmartGarage
