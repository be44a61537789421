/-
The data the stack's modules share: byte strings (`oc_string_t`), UUIDs with their text
conversion (`oc_uuid.c`), endpoints and their comparison (`oc_endpoint.c`), and the response
codes of `oc_ri.h`.
-/
import Mathlib.Algebra.GroupWithZero.Nat
import Mathlib.Data.List.Basic
import Mathlib.Data.List.TakeWhile
import Mathlib.Data.Vector.Basic

namespace SmartGarage

/-! ## Byte strings -/

/-- The content of an `oc_string_t`, without its terminator; `[]` is also the absent string, for
which `oc_string_len` is 0 too. -/
abbrev OcString := List UInt8

/-- The bytes of an ASCII literal of the source. -/
def ascii (s : String) : OcString := s.toList.map fun c => c.toNat.toUInt8

/-- The text up to the first zero byte, which is what `strlen` sees of a string. -/
def cstr (s : OcString) : OcString := s.takeWhile (· ≠ 0)

theorem cstr_nil : cstr [] = [] := rfl

theorem cstr_cstr (s : OcString) : cstr (cstr s) = cstr s := List.takeWhile_idem

theorem cstr_eq_self_iff {s : OcString} : cstr s = s ↔ 0 ∉ s := by
  unfold cstr
  rw [List.takeWhile_eq_self_iff]
  constructor
  · intro h hz
    simpa using h 0 hz
  · intro h x hx
    have hne : x ≠ 0 := fun hz => h (hz ▸ hx)
    simpa using hne

theorem cstr_append {s t : OcString} (h : 0 ∉ s) : cstr (s ++ t) = s ++ cstr t := by
  unfold cstr
  refine List.takeWhile_append_of_pos fun b hb => ?_
  simpa using fun hzero : b = 0 => h (hzero ▸ hb)

theorem cstr_terminated {s : OcString} (h : 0 ∉ s) (t : OcString) : cstr (s ++ 0 :: t) = s := by
  rw [cstr_append h, cstr, List.takeWhile_cons_of_neg (by simp), List.append_nil]

/-! ## UUIDs -/

/-- `oc_uuid_t` -/
structure OcUuid where
  id : Vector UInt8 16
deriving DecidableEq

/-- The UUID of 16 zero bytes that `memset` leaves. -/
def OcUuid.nil : OcUuid := ⟨Vector.replicate 16 0⟩

/-- `id[0] = '*'` -/
def OcUuid.setStar (uuid : OcUuid) : OcUuid := ⟨uuid.id.set 0 42 (Nat.succ_pos _)⟩

/-- The wildcard subject: `'*'` followed by 15 zero bytes. -/
def OcUuid.wildcard : OcUuid := OcUuid.nil.setStar

/-- The working variables of the loop in `oc_str_to_uuid`. -/
structure UuidScan where
  uuid : OcUuid
  j : Nat
  k : Nat
  c : UInt8

/-- The value a character contributes in `oc_str_to_uuid`: a letter `a`–`f` its digit, any other
letter nothing, and everything else `ch - 48`. -/
def hexNibble (ch : UInt8) : UInt8 :=
  if (65 ≤ ch ∧ ch ≤ 90) ∨ (97 ≤ ch ∧ ch ≤ 122) then
    if 65 ≤ ch ∧ ch ≤ 70 then ch - 55
    else if 97 ≤ ch ∧ ch ≤ 102 then ch - 87
    else 0
  else ch - 48

/-- One round of the loop of `oc_str_to_uuid` at the character `ch`. -/
def UuidScan.round (s : UuidScan) (ch : UInt8) : UuidScan :=
  if ch = 45 then s
  else
    let c := s.c ||| hexNibble ch
    if (s.j + 1) * 2 = s.k then
      { uuid := ⟨s.uuid.id.setIfInBounds s.j c⟩, j := s.j + 1, k := s.k + 1, c := 0 }
    else { s with k := s.k + 1, c := c <<< 4 }

/-- `oc_str_to_uuid`: 36 characters are read whatever the text's length, so that `str` is all there is from the pointer on;
where it ends, zero bytes follow here. `uuid` is the previous content of the destination, of which bytes that the digits do
not reach are kept. Digits for a 17th or 18th byte are dropped, where the code writes behind the UUID (`uuidFits`). -/
def ocStrToUuid (str : OcString) (uuid : OcUuid) : OcUuid :=
  if cstr str = [42] then OcUuid.wildcard
  else ((List.range 36).foldl (fun (s : UuidScan) i => s.round (str.getD i 0)) ⟨uuid, 0, 1, 0⟩).uuid

/-- A text that is read within its bytes and written within the UUID: `*`, or 36 characters with enough dashes among them. -/
def uuidFits (str : OcString) : Bool := cstr str = [42] || (36 ≤ str.length && 3 ≤ (str.take 36).count 45)

/-- A lower-case hexadecimal digit (`"%x"`). -/
def hexDigit (n : UInt8) : UInt8 := if n < 10 then n + 48 else n + 87

/-- `oc_uuid_to_str` for a buffer of `OC_UUID_LEN` bytes, without the terminator. -/
def ocUuidToStr (uuid : OcUuid) : OcString :=
  if uuid = OcUuid.wildcard then [42]
  else (List.range 16).flatMap fun i =>
    let b := uuid.id.toList.getD i 0
    (if i = 4 ∨ i = 6 ∨ i = 8 ∨ i = 10 then [(45 : UInt8)] else []) ++ [hexDigit (b >>> 4), hexDigit (b &&& 15)]

/-! ## Endpoints -/

/-- `enum transport_flags`; several of them are combined in `oc_endpoint_t.flags`. -/
structure TransportFlags where
  discovery : Bool
  secured : Bool
  ipv4 : Bool
  ipv6 : Bool
  tcp : Bool
  gatt : Bool
  multicast : Bool
deriving DecidableEq

/-- No flag set, as `calloc` leaves the field. -/
def TransportFlags.zero : TransportFlags := ⟨false, false, false, false, false, false, false⟩

/-- `oc_endpoint_t`: the fields the modelled functions read. -/
structure OcEndpoint where
  device : Nat
  flags : TransportFlags
  di : OcUuid
  address : OcString
  port : Nat
  scope : Nat
  interfaceIndex : Int
deriving DecidableEq

/-- An endpoint record that `calloc` has just cleared. -/
def OcEndpoint.zero : OcEndpoint := ⟨0, TransportFlags.zero, OcUuid.nil, [], 0, 0, 0⟩

/-- `oc_endpoint_compare(ep1, ep2) == 0` -/
def ocEndpointCompare (ep1 ep2 : OcEndpoint) : Bool :=
  { ep1.flags with multicast := false } = { ep2.flags with multicast := false } ∧
  ep1.device = ep2.device ∧ (ep1.flags.ipv6 = true ∨ ep1.flags.ipv4 = true) ∧
  ep1.address = ep2.address ∧ ep1.port = ep2.port

/-! ## Sessions -/

/-- `oc_session_state_t` -/
inductive OcSessionState
  | connected | disconnected
deriving DecidableEq

/-! ## Response codes -/

/-- `oc_status_t`, in the order of the enumeration. -/
inductive OcStatus
  | ok | created | changed | deleted | notModified | badRequest | unauthorized | badOption | forbidden
  | notFound | methodNotAllowed | notAcceptable | requestEntityTooLarge | unsupportedMediaType
  | internalServerError | notImplemented | badGateway | serviceUnavailable | gatewayTimeout
  | proxyingNotSupported
deriving DecidableEq

/-- `code >= OC_STATUS_BAD_REQUEST` -/
def OcStatus.isError : OcStatus → Bool
  | ok | created | changed | deleted | notModified => false
  | _ => true

end SmartGarage
