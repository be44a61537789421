/-
The cloud store of a device: its strings, the tag it is kept under in the storage, and how it is dumped and loaded.
-/
import SmartGarage.Api.RepEncode

namespace SmartGarage

/-! ## The store -/

/-- What an `oc_cloud_store_t` says. A string that is not allocated is `none`; `cps` is an `oc_cps_t`, with whatever
number has been read for it. -/
structure CloudContent where
  ciServer : Option OcString
  authProvider : Option OcString
  uid : Option OcString
  accessToken : Option OcString
  refreshToken : Option OcString
  sid : Option OcString
  status : UInt8
  cps : UInt8
deriving DecidableEq

/-- `oc_cloud_store_t` -/
structure OcCloudStore extends CloudContent where
  device : Nat
deriving DecidableEq

/-- A store in memory that has been cleared. -/
def OcCloudStore.zero : OcCloudStore where
  ciServer := none
  authProvider := none
  uid := none
  accessToken := none
  refreshToken := none
  sid := none
  status := 0
  cps := 0
  device := 0

/-- `cloud_set_string`, which frees a string that is set to nothing. -/
def cloudSetString (data : OcString) : Option OcString := if data.length = 0 then none else some data

/-- `cloud_store_initialize`; the provisioning status stays. -/
def cloudStoreInitialize (store : OcCloudStore) : OcCloudStore :=
  { store with
    ciServer := cloudSetString (ascii "coaps+tcp://127.0.0.1")
    authProvider := none
    uid := none
    accessToken := none
    refreshToken := none
    sid := cloudSetString (ascii "00000000-0000-0000-0000-000000000000")
    status := 0 }

/-! ## The payload -/

/-- `encode_cloud_with_map`; `strlen` finds the end of a string. -/
def encodeCloudWithMap (store : CloudContent) : List Cbor :=
  ocRepSetTextString (ascii "ci_server") (store.ciServer.map cstr) ++
  ocRepSetTextString (ascii "auth_provider") (store.authProvider.map cstr) ++
  ocRepSetTextString (ascii "uid") (store.uid.map cstr) ++
  ocRepSetTextString (ascii "sid") (store.sid.map cstr) ++
  ocRepSetTextString (ascii "access_token") (store.accessToken.map cstr) ++
  ocRepSetTextString (ascii "refresh_token") (store.refreshToken.map cstr) ++
  ocRepSetInt (ascii "status") store.status.toNat ++
  ocRepSetInt (ascii "cps") store.cps.toNat

/-- `cloud_store_encode` -/
def cloudStoreEncode (store : CloudContent) : Cbor := .map (encodeCloudWithMap store)

/-- The bytes that announce an item with an argument. -/
def cborHeadSize (argument : Nat) : Nat :=
  if argument < 24 then 1 else if argument < 2 ^ 8 then 2 else if argument < 2 ^ 16 then 3
  else if argument < 2 ^ 32 then 5 else 9

/-- The bytes of an item of the store: a text or a number. -/
def cborItemSize : Cbor → Nat
  | .textString t => cborHeadSize t.length + t.length
  | .integer v => cborHeadSize v.toNat
  | _ => 0

/-- The bytes of a payload: the root object is a map that ends with a break. -/
def cborPayloadSize : Cbor → Nat
  | .map items => (items.map cborItemSize).sum + 2
  | _ => 0

/-- The properties that lie within a number of bytes. -/
def wholeEntries : Nat → List Cbor → List Cbor
  | size, key :: value :: rest =>
    if cborItemSize key + cborItemSize value ≤ size then
      key :: value :: wholeEntries (size - (cborItemSize key + cborItemSize value)) rest
    else []
  | _, _ => []

/-- What the parser reads of a payload whose size is passed to it as a `uint16_t`: the properties in front of the one
it is cut in, where the decoder stops too. -/
def readCloudPayload : Cbor → Cbor
  | .map items =>
    let size := cborPayloadSize (.map items)
    if size < 2 ^ 16 then .map items else .map (wholeEntries (size % 2 ^ 16 - 1) items)
  | payload => payload

/-- The string of the store that a text is decoded to. -/
def decodeCloudString (name value : OcString) (store : OcCloudStore) : Option OcCloudStore :=
  if name = ascii "ci_server" then some { store with ciServer := cloudSetString value }
  else if name = ascii "sid" then some { store with sid := cloudSetString value }
  else if name = ascii "auth_provider" then some { store with authProvider := cloudSetString value }
  else if name = ascii "uid" then some { store with uid := cloudSetString value }
  else if name = ascii "access_token" then some { store with accessToken := cloudSetString value }
  else if name = ascii "refresh_token" then some { store with refreshToken := cloudSetString value }
  else none

/-- The number of the store that an integer is decoded to. -/
def decodeCloudInt (name : OcString) (value : Int) (store : OcCloudStore) : Option OcCloudStore :=
  if name = ascii "status" then some { store with status := UInt8.ofInt value }
  else if name = ascii "cps" then some { store with cps := UInt8.ofInt value }
  else none

/-- `cloud_store_decode`: it stops at a property that is not known, and keeps what it has set. -/
def cloudStoreDecode : List RepNode → OcCloudStore → OcCloudStore
  | .leaf name (.string value) :: rest, store =>
    match decodeCloudString name value store with
    | some store => cloudStoreDecode rest store
    | none => store
  | .leaf name (.int value) :: rest, store =>
    match decodeCloudInt name value store with
    | some store => cloudStoreDecode rest store
    | none => store
  | [], store => store
  | _ :: _, store => store

/-! ## The storage -/

/-- What has last been written under a name. -/
abbrev CloudStorage := OcString → Option Cbor

/-- `oc_storage_write` -/
def CloudStorage.write (storage : CloudStorage) (name : OcString) (payload : Cbor) : CloudStorage :=
  Function.update storage name (some payload)

/-- `CLOUD_STORE_NAME` -/
def cloudStoreName : OcString := ascii "cloud"

/-- `gen_cloud_tag`: `"%s_%zd"` in `CLOUD_TAG_MAX` characters. -/
def genCloudTag (name : OcString) (device : Nat) : OcString := (name ++ [95] ++ Decimal.print device).take 31

section Storage

variable (maxAppDataSize itemMax : Nat)

/-- `cloud_store_dump`: a payload that does not fit the buffer is not written. -/
def cloudStoreDump (storage : CloudStorage) (store : OcCloudStore) : CloudStorage :=
  let payload := cloudStoreEncode store.toCloudContent
  if cborPayloadSize payload ≤ maxAppDataSize then storage.write (genCloudTag cloudStoreName store.device) payload
  else storage

/-- `cloud_store_load`. Only `cloud_store_dump` writes under the tag, and the parser reads all that it writes. -/
def cloudStoreLoad (storage : CloudStorage) (store : OcCloudStore) : OcCloudStore :=
  match storage (genCloudTag cloudStoreName store.device) with
  | some payload =>
    match ocParseRep itemMax (readCloudPayload payload) with
    | .ok rep => cloudStoreDecode rep store
    | .error _ => store
  | none => cloudStoreInitialize store

end Storage

end SmartGarage
