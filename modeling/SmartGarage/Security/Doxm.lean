/-
`oc_doxm.c`: the ownership resource `/oic/sec/doxm`, its defaults and its decoder, with what the
handlers of pstat and doxm take from the platform and the application.
-/
import SmartGarage.Security.AclDecode
import SmartGarage.Security.CredDecode

namespace SmartGarage

/-! ## The platform of a device -/

/-- What the handlers of doxm, pstat and cred take from outside. `randomUuid n` are the bytes of the
random values behind the `n`-th `oc_gen_uuid`, `pinOtm` says that a callback for the random PIN is set,
`certOtm` is `oc_tls_is_cert_otm_supported`, and `ownerPsk` the key that `oc_sec_derive_owner_psk` derives
from the session, if it can. `coreUris` are the core resources up to `OCF_RES`, `deviceUri` is `OCF_D`, and
`factoryPresets` is the application's callback behind a reset. -/
structure DevicePlatform extends Platform where
  randomUuid : Nat → OcUuid
  pinOtm : Bool
  certOtm : SecState → Nat → Bool
  ownerPsk : OcTlsPeer → OcString → OcUuid → OcUuid → Option OcString
  coreUris : List OcString
  deviceUri : OcString
  factoryPresets : Option (SecState → Nat → SecState)

/-- A platform with Just Works only and no presets, whose random bytes are all `b`. -/
def DevicePlatform.simple (mbedtls : Mbedtls) (b : UInt8) : DevicePlatform where
  toPlatform := Platform.simple mbedtls
  randomUuid _ := ⟨Vector.replicate 16 b⟩
  pinOtm := false
  certOtm _ _ := false
  ownerPsk _ _ _ _ := some (List.replicate 16 b)
  coreUris := [ascii "/oic/p", ascii "/oic/res"]
  deviceUri := ascii "/oic/d"
  factoryPresets := none

/-! ## The resource -/

/-- The state with the doxm resource of `device` replaced. -/
def SecState.setDoxm (st : SecState) (device : Nat) (doxm : OcSecDoxm) : SecState :=
  { st with doxm := Function.update st.doxm device doxm }

@[simp] theorem setDoxm_doxm (st : SecState) (device : Nat) (doxm : OcSecDoxm) :
    (st.setDoxm device doxm).doxm device = doxm := Function.update_self ..

theorem setDoxm_doxm_ne (st : SecState) {device x : Nat} (doxm : OcSecDoxm) (h : x ≠ device) :
    (st.setDoxm device doxm).doxm x = st.doxm x := Function.update_of_ne h ..

/-- `oc_gen_uuid`: the variant and version bits are set in random bytes. -/
def ocGenUuid (random : OcUuid) : OcUuid :=
  let id := random.id.set 8 ((random.id[8] &&& 0x3f) ||| 0x40)
  ⟨id.set 6 ((id[6] &&& 0x0f) ||| 0x40)⟩

/-- `OC_OXMTYPE_JW` -/
def oxmtypeJw : Int := 0
/-- `OC_OXMTYPE_RDP` -/
def oxmtypeRdp : Int := 1
/-- `OC_OXMTYPE_MFG_CERT` -/
def oxmtypeMfgCert : Int := 2

/-- `evaluate_supported_oxms` -/
def evaluateSupportedOxms (P : DevicePlatform) (st : SecState) (device : Nat) : List Int :=
  [oxmtypeJw] ++ (if P.pinOtm then [oxmtypeRdp] else []) ++ (if P.certOtm st device then [oxmtypeMfgCert] else [])

/-- `oc_sec_doxm_default`, without the callbacks of the application. -/
def ocSecDoxmDefault (P : DevicePlatform) (st : SecState) (device : Nat) : SecState :=
  { st.setDoxm device ⟨0, 9, false, ocGenUuid (P.randomUuid st.draws), OcUuid.nil, OcUuid.nil⟩ with
    draws := st.draws + 1 }

/-- The check of the first loop of `oc_sec_decode_doxm` on one property. -/
def doxmPropertyAllowed (P : DevicePlatform) (st : SecState) (fromStorage : Bool) (device : Nat) : OcRep → Bool
  | .bool n _ => nameIs n "owned" && (fromStorage || (st.pstat device).s == .rfotm)
  | .int n v =>
    if nameIs n "oxmsel" then
      fromStorage || ((st.pstat device).s == .rfotm && (evaluateSupportedOxms P st device).contains (castInt v))
    else fromStorage && nameIs n "sct"
  | .string n _ =>
    if nameIs n "deviceuuid" then fromStorage || (st.pstat device).s == .rfotm
    else if nameIs n "devowneruuid" then fromStorage || (st.pstat device).s == .rfotm
    else nameIs n "rowneruuid" && (fromStorage || (st.pstat device).s == .rfotm || (st.pstat device).s == .sreset)
  | .intArray n _ => fromStorage || !nameIs n "oxms"
  | r => nameIs r.name "rt" || nameIs r.name "if" || nameIs r.name "oxms"

/-- One property in the second loop of `oc_sec_decode_doxm`. The random PIN that is generated for
`oxmsel` 1 is not part of the model. -/
def decodeDoxmProperty (fromStorage : Bool) (doxm : OcSecDoxm) : OcRep → OcSecDoxm
  | .bool n v => if nameIs n "owned" then { doxm with owned := v } else doxm
  | .int n v =>
    if nameIs n "oxmsel" then { doxm with oxmsel := castInt v }
    else if fromStorage && nameIs n "sct" then { doxm with sct := castInt v }
    else doxm
  | .string n v =>
    if nameIs n "deviceuuid" then { doxm with deviceuuid := ocStrToUuid v doxm.deviceuuid }
    else if nameIs n "devowneruuid" then { doxm with devowneruuid := ocStrToUuid v doxm.devowneruuid }
    else if nameIs n "rowneruuid" then { doxm with rowneruuid := ocStrToUuid v doxm.rowneruuid }
    else doxm
  | _ => doxm

/-- `oc_sec_decode_doxm` -/
def ocSecDecodeDoxm (P : DevicePlatform) (st : SecState) (rep : List OcRep) (fromStorage : Bool) (device : Nat) :
    Bool × SecState :=
  if rep.all (doxmPropertyAllowed P st fromStorage device) then
    (true, st.setDoxm device (rep.foldl (decodeDoxmProperty fromStorage) (st.doxm device)))
  else (false, st)

/-- `post_doxm` -/
def postDoxm (P : DevicePlatform) (st : SecState) (rep : List OcRep) (device : Nat) : OcStatus × SecState :=
  match ocSecDecodeDoxm P st rep false device with
  | (true, st) => (.changed, st)
  | (false, st) => (.badRequest, st)

end SmartGarage
