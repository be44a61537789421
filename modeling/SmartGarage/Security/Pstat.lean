/-
`oc_pstat.c`: the provisioning status `/oic/sec/pstat`. A device is in one of the states RESET, RFOTM,
RFPRO, RFNOP and SRESET; `oc_pstat_handle_state` enters a state if the security resources meet its
conditions, and `oc_sec_decode_pstat` reads a payload into a working copy before that. The remaining
handlers of acl2 and cred stand here too, since a reset clears both.
-/
import SmartGarage.Security.Doxm

namespace SmartGarage

/-! ## The conditions of the states -/

/-- The state with the pstat resource of `device` replaced. -/
def SecState.setPstat (st : SecState) (device : Nat) (pstat : OcSecPstat) : SecState :=
  { st with pstat := Function.update st.pstat device pstat }

@[simp] theorem setPstat_pstat (st : SecState) (device : Nat) (pstat : OcSecPstat) :
    (st.setPstat device pstat).pstat device = pstat := Function.update_self ..

theorem setPstat_pstat_ne (st : SecState) {device x : Nat} (pstat : OcSecPstat) (h : x ≠ device) :
    (st.setPstat device pstat).pstat x = st.pstat x := Function.update_of_ne h ..

/-- `nil_uuid` -/
def nilUuid (uuid : OcUuid) : Bool := uuid == OcUuid.nil

/-- `oc_sec_find_creds_for_subject(subject, NULL, device) != NULL` -/
def ocSecFindCredsForSubject (creds : OcSecCreds) (subject : OcUuid) : Bool :=
  creds.creds.any (·.subjectuuid == subject)

/-- `valid_transition`; a stored value outside the enumeration meets no case of the switch. -/
def validTransition (current state : OcDostype) : Bool :=
  match current with
  | .reset => state == .reset || state == .rfotm
  | .rfotm => state != .sreset
  | .rfpro | .rfnop => state != .rfotm
  | .sreset => state != .rfotm && state != .rfnop
  | .other _ => true

/-- The condition of RFOTM: the device has no owner. -/
def rfotmOk (doxm : OcSecDoxm) (ps : OcSecPstat) : Bool :=
  !(doxm.owned || !nilUuid doxm.devowneruuid || ps.isop || ps.cm &&& 0xC3 != 2 || ps.tm &&& 0xC3 != 0)

/-- What RFPRO, RFNOP and SRESET have in common: the device and its four resources have an owner,
and there are credentials for the owners of the resources. -/
def ownedOk (st : SecState) (ps : OcSecPstat) (device : Nat) : Bool :=
  let doxm := st.doxm device
  let acl := st.aclist device
  let creds := st.creds device
  doxm.owned && !nilUuid doxm.devowneruuid && !nilUuid doxm.deviceuuid && ps.tm &&& 0xC3 == 0 &&
  !nilUuid ps.rowneruuid && !nilUuid doxm.rowneruuid && !nilUuid acl.rowneruuid && !nilUuid creds.rowneruuid &&
  ocSecFindCredsForSubject creds ps.rowneruuid && ocSecFindCredsForSubject creds doxm.rowneruuid &&
  ocSecFindCredsForSubject creds acl.rowneruuid && ocSecFindCredsForSubject creds creds.rowneruuid

/-! ## Resetting the resources -/

/-- `oc_sec_clear_creds` -/
def ocSecClearCreds (P : Platform) (st : SecState) (device : Nat) : SecState :=
  (st.creds device).creds.foldl (fun st c => ocSecRemoveCred P st c device) st

/-- `oc_sec_cred_default` -/
def ocSecCredDefault (P : Platform) (st : SecState) (device : Nat) : SecState :=
  let st := ocSecClearCreds P st device
  st.setCreds device { st.creds device with rowneruuid := OcUuid.nil }

/-- `oc_sec_clear_acl` -/
def ocSecClearAcl (st : SecState) (device : Nat) : SecState :=
  st.setAcl device { st.aclist device with subjects := [] }

/-- The security resources from `OCF_SEC_DOXM` up to `OCF_SEC_CSR`. -/
def securityUris : List OcString :=
  [ascii "/oic/sec/doxm", ascii "/oic/sec/pstat", ascii "/oic/sec/acl2", ascii "/oic/sec/ael", ascii "/oic/sec/cred",
    ascii "/oic/sec/sdi", ascii "/oic/sec/sp", ascii "/oic/sec/csr"]

/-- `oc_sec_acl_default`: anyone may read the discovery resources, and provision the security ones. -/
def ocSecAclDefault (P : DevicePlatform) (st : SecState) (device : Nat) : SecState :=
  let add (aceid : Int) (permission : BitVec 16) (wildcard : OcAceWildcard) (st : SecState) (uri : OcString) :=
    ocSecAceGetRes P.toPlatform st (.conn .anonClear) aceid permission ⟨some uri, wildcard⟩ device
  let st := P.coreUris.foldl (add 1 2 .noWc) (ocSecClearAcl st device)
  let st := securityUris.foldl (add 2 14 .minusOne) st
  let st := add 1 2 .noWc st P.deviceUri
  st.setAcl device { st.aclist device with rowneruuid := OcUuid.nil }

/-- The resources as the case RESET of `oc_pstat_handle_state` leaves them. The cloud, ael, sdi and sp
resources, the device's name and the observers are not part of the model. -/
def resetResources (P : DevicePlatform) (st : SecState) (device : Nat) : SecState :=
  ocSecFreeRolesForDevice
    (ocSecAclDefault P (ocSecCredDefault P.toPlatform (ocSecDoxmDefault P st device) device) device) device

/-! ## Entering a state -/

/-- The case RFOTM of `oc_pstat_handle_state`, with the factory presets callback. -/
def enterRfotm (P : DevicePlatform) (st : SecState) (ps : OcSecPstat) (device : Nat) : Bool × SecState :=
  let ps := { ps with p := true, s := .rfotm, cm := 2, tm := 0 }
  if rfotmOk (st.doxm device) ps then
    match P.factoryPresets with
    | none => (true, st.setPstat device { ps with p := false })
    | some cb =>
      let st := cb (st.setPstat device ps) device
      (true, st.setPstat device { st.pstat device with p := false })
  else (false, st)

/-- `oc_pstat_handle_state`. Of its flags `from_storage` only decides about the name of the device, and
`self_reset` about closing the TLS sessions, which happens later. -/
def ocPstatHandleState (P : DevicePlatform) (st : SecState) (ps : OcSecPstat) (device : Nat) : Bool × SecState :=
  match ps.s with
  | .reset =>
    -- falls through to RFOTM
    enterRfotm P (resetResources P st device)
      { ps with p := false, isop := false, cm := 1, tm := 2, om := 3, sm := 4, rowneruuid := OcUuid.nil } device
  | .rfotm => enterRfotm P st ps device
  | .rfpro =>
    let ps := { ps with p := true, cm := 0, tm := 0, isop := false }
    if !ps.isop && ps.cm &&& 0xC3 == 0 && ownedOk st ps device then (true, st.setPstat device { ps with p := false })
    else (false, st)
  | .rfnop =>
    let ps := { ps with p := true, cm := 0, tm := 0, isop := true }
    if ps.isop && ps.cm &&& 0xC3 == 0 && ownedOk st ps device then (true, st.setPstat device { ps with p := false })
    else (false, st)
  | .sreset =>
    let ps := { ps with p := true, cm := 1, tm := 0, isop := false }
    if !ps.isop && ps.cm == 1 && ownedOk st ps device then (true, st.setPstat device { ps with p := false })
    else (false, st)
  | .other _ => (false, st)

/-- `oc_sec_pstat_default` -/
def ocSecPstatDefault (P : DevicePlatform) (st : SecState) (device : Nat) : SecState :=
  (ocPstatHandleState P st (OcSecPstat.zero .reset) device).2

/-- `oc_reset_device` -/
def ocResetDevice (P : DevicePlatform) (st : SecState) (device : Nat) : SecState :=
  (ocPstatHandleState P st (OcSecPstat.zero .reset) device).2

/-! ## The decoder of pstat -/

/-- The assignment of a 64-bit integer to a variable of type `oc_dostype_t`. -/
def OcDostype.ofInt (v : Int) : OcDostype :=
  match (v % 2 ^ 32).toNat with
  | 0 => .reset
  | 1 => .rfotm
  | 2 => .rfpro
  | 3 => .rfnop
  | 4 => .sreset
  | n => .other n

/-- `memcmp(oc_string(name), s, strlen(s)) == 0`, which a longer name passes too. -/
def nameStarts (name : Option OcString) (s : String) : Bool := name.any (ascii s).isPrefixOf

/-- The variables `ps` and `transition_state` of `oc_sec_decode_pstat`. -/
structure PstatDecoding where
  ps : OcSecPstat
  transitionState : Bool

/-- One key of the `dos` object. -/
def decodeDosKey (fromStorage : Bool) (d : PstatDecoding) : OcRep → Option PstatDecoding
  | .int n v => if nameIs n "s" then some ⟨{ d.ps with s := OcDostype.ofInt v }, true⟩ else none
  | r => if !fromStorage && nameIs r.name "p" then none else some d

/-- One property of the payload; the owner is only written while the working copy is neither in
RFPRO nor in RFNOP. -/
def decodePstatProperty (fromStorage : Bool) (d : PstatDecoding) : OcRep → Option PstatDecoding
  | .object n entries => if nameIs n "dos" then entries.foldlM (decodeDosKey fromStorage) d else none
  | .bool n v => if fromStorage && nameIs n "isop" then some { d with ps := { d.ps with isop := v } } else none
  | .int n v =>
    if fromStorage && nameStarts n "cm" then some { d with ps := { d.ps with cm := BitVec.ofInt 32 v } }
    else if nameStarts n "tm" then some { d with ps := { d.ps with tm := BitVec.ofInt 32 v } }
    else if nameStarts n "om" then some { d with ps := { d.ps with om := castInt v } }
    else if fromStorage && nameStarts n "sm" then some { d with ps := { d.ps with sm := castInt v } }
    else none
  | .string n v =>
    if (fromStorage || (d.ps.s != .rfpro && d.ps.s != .rfnop)) && nameIs n "rowneruuid" then
      some { d with ps := { d.ps with rowneruuid := ocStrToUuid v d.ps.rowneruuid } }
    else none
  | r => if nameIs r.name "rt" || nameIs r.name "if" then some d else none

/-- `oc_sec_decode_pstat`, in a build without the software update. -/
def ocSecDecodePstat (P : DevicePlatform) (st : SecState) (rep : List OcRep) (fromStorage : Bool) (device : Nat) :
    Bool × SecState :=
  match rep.foldlM (decodePstatProperty fromStorage) ⟨st.pstat device, false⟩ with
  | none => (false, st)
  | some d =>
    if fromStorage || validTransition (st.pstat device).s d.ps.s then
      if !fromStorage && d.transitionState then ocPstatHandleState P st d.ps device
      else (true, st.setPstat device d.ps)
    else (false, st)

/-- `post_pstat` -/
def postPstat (P : DevicePlatform) (st : SecState) (rep : List OcRep) (device : Nat) : OcStatus × SecState :=
  match ocSecDecodePstat P st rep false device with
  | (true, st) => (.changed, st)
  | (false, st) => (.badRequest, st)

/-! ## The handlers of acl2 and cred -/

/-- `post_acl` -/
def postAcl (P : DevicePlatform) (st : SecState) (rep : List OcRep) (device : Nat) : OcStatus × SecState :=
  match ocSecDecodeAcl P.toPlatform st rep false device with
  | (true, st) => (.changed, st)
  | (false, st) => (.badRequest, st)

/-- `delete_acl`; `aceid` is the query parameter behind `strtoul`. -/
def deleteAcl (st : SecState) (aceid : Option Int) (device : Nat) : OcStatus × SecState :=
  if (st.pstat device).s == .rfnop then (.forbidden, st)
  else match aceid with
    | some aceid =>
      if aceid != 0 && !uniqueAceid (st.aclist device) aceid then (.deleted, ocAclRemoveAce st aceid device)
      else (.notFound, st)
    | none => (.deleted, ocSecClearAcl st device)

/-- The text of the owner transfer method that goes into the owner's key. -/
def oxmText (oxmsel : Int) : Option OcString :=
  if oxmsel = oxmtypeJw then some (ascii "oic.sec.doxm.jw")
  else if oxmsel = oxmtypeRdp then some (ascii "oic.sec.doxm.rdp")
  else if oxmsel = oxmtypeMfgCert then some (ascii "oic.sec.doxm.mfgcert")
  else none

/-- The owner credential with its derived key: `none` where `oc_sec_derive_owner_psk` fails, and 17
allocated bytes without content where no transfer method is selected. -/
def deriveOwner (P : DevicePlatform) (st : SecState) (owner : OcSecCred) (origin : OcEndpoint) (device : Nat) :
    Option OcSecCred :=
  let doxm := st.doxm device
  match oxmText doxm.oxmsel with
  | none => some { owner with privatedata := ⟨List.replicate 16 0, .raw⟩ }
  | some oxm =>
    (ocTlsGetPeer st origin).bind fun peer =>
      (P.ownerPsk peer oxm doxm.deviceuuid owner.subjectuuid).map fun key =>
        { owner with privatedata := ⟨key, .raw⟩ }

/-- `post_cred` for `/oic/sec/cred`: a PSK without a key whose subject owns the resource gets the key that
the session yields, and goes again where there is none. -/
def postCred (P : DevicePlatform) (st : SecState) (rep : List OcRep) (origin : OcEndpoint) (device : Nat) :
    OcStatus × SecState :=
  let (success, d) := ocSecDecodeCred P.toPlatform st rep false false none device
  match d.owner.bind fun credid => ocSecGetCredByCredid d.st credid device with
  | none => (if success then .changed else .badRequest, d.st)
  | some owner =>
    let remove := (ocSecRemoveCredByCredid P.toPlatform d.st owner.credid device).2
    if !success then (.badRequest, remove)
    else if owner.subjectuuid = (d.st.creds device).rowneruuid then
      match deriveOwner P d.st owner origin device with
      | some owner => (.changed, writeCred d.st device owner)
      | none => (.badRequest, remove)
    else (.changed, d.st)

/-- `delete_cred` for `/oic/sec/cred`; `credid` is the query parameter behind `strtoul`. -/
def deleteCred (P : Platform) (st : SecState) (credid : Option Int) (device : Nat) : OcStatus × SecState :=
  if (st.pstat device).s == .rfnop then (.forbidden, st)
  else match credid with
    | some credid =>
      if 0 ≤ credid then
        match ocSecRemoveCredByCredid P st credid device with
        | (true, st) => (.deleted, st)
        | (false, st) => (.notFound, st)
      else (.notFound, st)
    | none => (.deleted, ocSecClearCreds P st device)

end SmartGarage
