/-
`oc_sp.c` and its part of `oc_store.c`: the security profile `/oic/sec/sp` of a device, the one decoder that
serves the network and the storage, and the order in which `oc_main_init` loads pstat and sp.
-/
import SmartGarage.Api.Uuid
import SmartGarage.Security.Pstat

namespace SmartGarage

/-! ## The profiles -/

/-- `oc_sp_types_t`: a profile, or the mask of several. -/
abbrev OcSpTypes := BitVec 32

/-- `OC_SP_BASELINE` -/
def spBaseline : OcSpTypes := 2
/-- `OC_SP_BLACK` -/
def spBlack : OcSpTypes := 4
/-- `OC_SP_BLUE` -/
def spBlue : OcSpTypes := 8
/-- `OC_SP_PURPLE` -/
def spPurple : OcSpTypes := 16

/-- The single profiles, in the order in which the encoder goes through them. -/
def spProfiles : List OcSpTypes := [spBaseline, spBlack, spBlue, spPurple]

/-- `OC_SP_BASELINE_OID` -/
def spBaselineOid : OcString := ascii "1.3.6.1.4.1.51414.0.0.1.0"
/-- `OC_SP_BLACK_OID` -/
def spBlackOid : OcString := ascii "1.3.6.1.4.1.51414.0.0.2.0"
/-- `OC_SP_BLUE_OID` -/
def spBlueOid : OcString := ascii "1.3.6.1.4.1.51414.0.0.3.0"
/-- `OC_SP_PURPLE_OID` -/
def spPurpleOid : OcString := ascii "1.3.6.1.4.1.51414.0.0.4.0"

/-- `string_to_sp` -/
def stringToSp (s : OcString) : OcSpTypes :=
  if cstr s = spBaselineOid then spBaseline
  else if cstr s = spBlackOid then spBlack
  else if cstr s = spBlueOid then spBlue
  else if cstr s = spPurpleOid then spPurple
  else 0

/-- `sp_to_string`; `none` is the null pointer. -/
def spToString (sp : OcSpTypes) : Option OcString :=
  if sp = spBaseline then some spBaselineOid
  else if sp = spBlack then some spBlackOid
  else if sp = spBlue then some spBlueOid
  else if sp = spPurple then some spPurpleOid
  else none

theorem stringToSp_mem (s : OcString) (h : stringToSp s ≠ 0) : stringToSp s ∈ spProfiles := by
  unfold stringToSp at h ⊢
  repeat' split
  · simp [spProfiles]
  · simp [spProfiles]
  · simp [spProfiles]
  · simp [spProfiles]
  · next h₁ h₂ h₃ h₄ =>
    rw [if_neg h₁, if_neg h₂, if_neg h₃, if_neg h₄] at h
    exact absurd rfl h

/-! ## The resource -/

/-- `oc_sec_sp_t` -/
structure OcSecSp where
  supportedProfiles : OcSpTypes
  currentProfile : OcSpTypes
  credid : Int
deriving DecidableEq

/-- A record of `sp` as `calloc` leaves it. -/
def OcSecSp.zero : OcSecSp := ⟨0, 0, 0⟩

/-- The record of `sp_mfg_default` that `oc_sec_sp_init` leaves. -/
def OcSecSp.mfgDefault : OcSecSp := ⟨spBaseline, spBaseline, -1⟩

/-- The current profile is one single profile and is supported. -/
structure OcSecSp.Consistent (sp : OcSecSp) : Prop where
  single : sp.currentProfile ∈ spProfiles
  supported : sp.currentProfile &&& sp.supportedProfiles ≠ 0

theorem OcSecSp.consistent_iff (sp : OcSecSp) :
    sp.Consistent ↔ sp.currentProfile ∈ spProfiles ∧ sp.currentProfile &&& sp.supportedProfiles ≠ 0 :=
  ⟨fun ⟨h₁, h₂⟩ => ⟨h₁, h₂⟩, fun ⟨h₁, h₂⟩ => ⟨h₁, h₂⟩⟩

instance OcSecSp.decidableConsistent (sp : OcSecSp) : Decidable sp.Consistent := decidable_of_iff _ sp.consistent_iff.symm

theorem mfgDefault_consistent : OcSecSp.mfgDefault.Consistent := by decide

theorem zero_not_consistent : ¬OcSecSp.zero.Consistent := by decide

/-- `oc_pki_set_security_profile`: the new records of `sp_mfg_default` and `sp`. -/
def ocPkiSetSecurityProfile (mfg : OcSecSp) (supported current : OcSpTypes) (mfgCredid : Int) : OcSecSp × OcSecSp :=
  let mfg := { mfg with
    supportedProfiles := mfg.supportedProfiles ||| supported, currentProfile := current, credid := mfgCredid }
  (mfg, mfg)

/-! ## The decoder and the encoder -/

/-- The mask of an array of profiles. -/
def arrayToSp (values : List OcString) : OcSpTypes := values.foldl (fun mask p => mask ||| stringToSp p) 0

/-- One property of the payload: `none` where the decoder gives up. -/
def decodeSpProperty (sp : OcSecSp) : OcRep → Option OcSecSp
  | .string n v =>
    if nameIs n "currentprofile" then
      if stringToSp v &&& sp.supportedProfiles = 0 then none else some { sp with currentProfile := stringToSp v }
    else some sp
  | .stringArray n values =>
    if nameIs n "supportedprofiles" then some { sp with supportedProfiles := arrayToSp values } else some sp
  | _ => none

/-- The loop of `oc_sec_decode_sp`, which writes to the resource as it goes. -/
def decodeSpLoop (sp : OcSecSp) : List OcRep → Bool × OcSecSp
  | [] => (true, sp)
  | r :: rep =>
    match decodeSpProperty sp r with
    | some sp => decodeSpLoop sp rep
    | none => (false, sp)

/-- `oc_sec_decode_sp` in the device state `s`. -/
def ocSecDecodeSp (s : OcDostype) (sp : OcSecSp) (rep : List OcRep) : Bool × OcSecSp :=
  if s = .rfnop then (false, sp) else decodeSpLoop sp rep

/-- `oc_process_baseline_interface` for a security resource, which has neither a name nor a tag. -/
def svrBaseline (rt : OcString) : List OcRep :=
  [.stringArray (some (ascii "rt")) [rt],
   .stringArray (some (ascii "if")) [ascii "oic.if.rw", ascii "oic.if.baseline"]]

/-- The texts of the profiles in a mask. -/
def spTexts (mask : OcSpTypes) : List OcString :=
  spProfiles.filterMap fun p => if mask &&& p ≠ 0 then spToString p else none

/-- `oc_sec_encode_sp` for the storage; a null pointer is written as the empty text. -/
def ocSecEncodeSp (sp : OcSecSp) : List OcRep :=
  svrBaseline (ascii "oic.r.sp") ++
  [.string (some (ascii "currentprofile")) ((spToString sp.currentProfile).getD []),
   .stringArray (some (ascii "supportedprofiles")) (spTexts sp.supportedProfiles)]

/-- `oc_sec_load_sp`; `stored` is the object under the tag of the device, if there is one. -/
def ocSecLoadSp (s : OcDostype) (mfg sp : OcSecSp) (stored : Option (List OcRep)) : OcSecSp :=
  match stored with
  | some rep => (ocSecDecodeSp s sp rep).2
  | none => mfg

/-- Where nothing is supported yet, the stored object is refused at its current profile, which comes first. -/
theorem decodeSpLoop_encode_unsupported {sp : OcSecSp} (h : sp.supportedProfiles = 0) (stored : OcSecSp) :
    decodeSpLoop sp (ocSecEncodeSp stored) = (false, sp) := by
  have hrefused : ∀ v, decodeSpProperty sp (.string (some (ascii "currentprofile")) v) = none := by
    intro v
    rw [decodeSpProperty, if_pos (by decide), h]
    exact if_pos BitVec.and_zero
  have hrt : decodeSpProperty sp (.stringArray (some (ascii "rt")) [ascii "oic.r.sp"]) = some sp := by
    rw [decodeSpProperty, if_neg (by decide)]
  have hif : decodeSpProperty sp (.stringArray (some (ascii "if")) [ascii "oic.if.rw", ascii "oic.if.baseline"]) =
      some sp := by
    rw [decodeSpProperty, if_neg (by decide)]
  simp only [ocSecEncodeSp, svrBaseline, List.cons_append, List.nil_append, decodeSpLoop, hrt, hif, hrefused]

theorem ocSecDecodeSp_encode_unsupported (s : OcDostype) {sp : OcSecSp} (h : sp.supportedProfiles = 0)
    (stored : OcSecSp) : (ocSecDecodeSp s sp (ocSecEncodeSp stored)).2 = sp := by
  unfold ocSecDecodeSp
  split
  · rfl
  · rw [decodeSpLoop_encode_unsupported h]

/-! ## The load sequence -/

/-- The value of an `oc_dostype_t` in a payload. -/
def OcDostype.code : OcDostype → Int
  | .reset => 0
  | .rfotm => 1
  | .rfpro => 2
  | .rfnop => 3
  | .sreset => 4
  | .other code => code

/-- `oc_sec_encode_pstat` for the storage -/
def ocSecEncodePstat (ps : OcSecPstat) : List OcRep :=
  svrBaseline (ascii "oic.r.pstat") ++
  [.object (some (ascii "dos")) [.bool (some (ascii "p")) ps.p, .int (some (ascii "s")) ps.s.code],
   .int (some (ascii "cm")) ps.cm.toNat, .int (some (ascii "tm")) ps.tm.toNat, .int (some (ascii "om")) ps.om,
   .int (some (ascii "sm")) ps.sm, .bool (some (ascii "isop")) ps.isop,
   .string (some (ascii "rowneruuid")) (ocUuidToStr ps.rowneruuid)]

/-- `oc_sec_load_pstat` -/
def ocSecLoadPstat (P : DevicePlatform) (st : SecState) (stored : Option (List OcRep)) (device : Nat) : SecState :=
  match stored with
  | some rep => (ocSecDecodePstat P st rep true device).2
  | none => ocSecPstatDefault P st device

/-- The objects that `oc_sec_dump_pstat` and `oc_sec_dump_sp` have written for a device. -/
structure SpStorage where
  pstat : List OcRep
  sp : List OcRep

/-- `oc_sec_dump_pstat` and `oc_sec_dump_sp` -/
def dumpPstatSp (ps : OcSecPstat) (sp : OcSecSp) : SpStorage := ⟨ocSecEncodePstat ps, ocSecEncodeSp sp⟩

/-- The loop body of `oc_main_init` up to `oc_sec_load_sp`, with the record `sp` as `oc_sec_sp_init` leaves it;
`loadOthers` loads doxm, cred and acl, none of which has access to sp. -/
def ocMainInitLoad (P : DevicePlatform) (loadOthers : SecState → SecState) (st : SecState) (storage : SpStorage)
    (device : Nat) : SecState × OcSecSp :=
  let st := loadOthers (ocSecLoadPstat P st (some storage.pstat) device)
  (st, ocSecLoadSp (st.pstat device).s .mfgDefault .zero (some storage.sp))

/-- A stored pstat comes back as it was written, but for the flag `p`, which is not read from the storage. -/
theorem ocSecLoadPstat_dump (P : DevicePlatform) (st : SecState) (device : Nat) {ps : OcSecPstat}
    (hs : OcDostype.ofInt ps.s.code = ps.s) (hom : castInt ps.om = ps.om) (hsm : castInt ps.sm = ps.sm) :
    (ocSecLoadPstat P st (some (ocSecEncodePstat ps)) device).pstat device = { ps with p := (st.pstat device).p } := by
  have hcm : ∀ m : BitVec 32, BitVec.ofInt 32 (m.toNat : Int) = m := fun m => by simp
  have hbaseline : ∀ d : PstatDecoding,
      (svrBaseline (ascii "oic.r.pstat")).foldlM (decodePstatProperty true) d = some d := fun d => rfl
  have hcmName : nameStarts (some (ascii "cm")) "cm" = true := by decide
  have htmName : nameStarts (some (ascii "tm")) "cm" = false ∧ nameStarts (some (ascii "tm")) "tm" = true := by decide
  have homName : nameStarts (some (ascii "om")) "cm" = false ∧ nameStarts (some (ascii "om")) "tm" = false ∧
      nameStarts (some (ascii "om")) "om" = true := by decide
  have hsmName : nameStarts (some (ascii "sm")) "cm" = false ∧ nameStarts (some (ascii "sm")) "tm" = false ∧
      nameStarts (some (ascii "sm")) "om" = false ∧ nameStarts (some (ascii "sm")) "sm" = true := by decide
  have hothers : nameIs (some (ascii "dos")) "dos" = true ∧ nameIs (some (ascii "s")) "s" = true ∧
      nameIs (some (ascii "isop")) "isop" = true ∧ nameIs (some (ascii "rowneruuid")) "rowneruuid" = true := by decide
  have hdecoded : (ocSecEncodePstat ps).foldlM (decodePstatProperty true) ⟨st.pstat device, false⟩ =
      some ⟨{ ps with p := (st.pstat device).p }, true⟩ := by
    rw [ocSecEncodePstat, List.foldlM_append, hbaseline]
    simp [decodePstatProperty, decodeDosKey, hs, hcmName, htmName, homName, hsmName, hothers, hcm, hom, hsm,
      ocStrToUuid_ocUuidToStr]
  simp [ocSecLoadPstat, ocSecDecodePstat, hdecoded]

/-- The profiles of the record that the load sequence leaves are the ones that were written. -/
def SpRestored (P : DevicePlatform) (loadOthers : SecState → SecState) (st : SecState) (ps : OcSecPstat)
    (sp : OcSecSp) (device : Nat) : Prop :=
  let loaded := (ocMainInitLoad P loadOthers st (dumpPstatSp ps sp) device).2
  loaded.supportedProfiles = sp.supportedProfiles ∧ loaded.currentProfile = sp.currentProfile

theorem ocMainInitLoad_sp (P : DevicePlatform) (loadOthers : SecState → SecState) (st : SecState) (ps : OcSecPstat)
    (sp : OcSecSp) (device : Nat) :
    (ocMainInitLoad P loadOthers st (dumpPstatSp ps sp) device).2 = .zero :=
  ocSecDecodeSp_encode_unsupported _ rfl sp

/-- The security profile never survives a restart. -/
theorem sp_notRestored (P : DevicePlatform) (loadOthers : SecState → SecState) (st : SecState) (ps : OcSecPstat)
    (sp : OcSecSp) (device : Nat) (hsupported : sp.supportedProfiles ≠ 0) :
    ¬SpRestored P loadOthers st ps sp device := by
  rintro ⟨hsup, -⟩
  rw [ocMainInitLoad_sp] at hsup
  exact hsupported hsup.symm

/-- The platform of the samples: no certificate can be parsed. -/
def sampleDevicePlatform : DevicePlatform := DevicePlatform.simple Mbedtls.rejecting 7

/-- A pstat of a device in RFNOP with an owner is loaded over another one. -/
theorem ocSecLoadPstat_dump_rfnop :
    let pstat : OcSecPstat := ⟨.rfnop, false, true, 2, 4, 3, 4, ⟨Vector.replicate 16 1⟩⟩
    let before := (SecState.empty .rfotm).setPstat 0 ⟨.rfotm, true, false, 0, 1, 1, 1, ⟨Vector.replicate 16 2⟩⟩
    (ocSecLoadPstat sampleDevicePlatform before (some (ocSecEncodePstat pstat)) 0).pstat 0 = { pstat with p := true } :=
  ocSecLoadPstat_dump _ _ 0 rfl (by decide) (by decide)

/-- A device in RFPRO that supports Baseline and Black and has Black as its current profile. -/
def blackSp : OcSecSp := ⟨spBaseline ||| spBlack, spBlack, 1⟩

/-- The sample device after a restart: no profile is supported. -/
theorem sp_lost :
    blackSp.Consistent ∧
    (ocMainInitLoad sampleDevicePlatform id (.empty .reset) (dumpPstatSp (.zero .rfpro) blackSp) 0).2.supportedProfiles
      = 0 ∧
    ¬SpRestored sampleDevicePlatform id (.empty .reset) (.zero .rfpro) blackSp 0 := by
  have hzero := ocMainInitLoad_sp sampleDevicePlatform id (.empty .reset) (.zero .rfpro) blackSp 0
  refine ⟨by decide, by rw [hzero]; rfl, ?_⟩
  rintro ⟨hsup, -⟩
  rw [hzero] at hsup
  exact absurd hsup (by decide)

theorem sp_notRestored_black : ¬SpRestored sampleDevicePlatform id (.empty .reset) (.zero .rfpro) blackSp 0 :=
  sp_notRestored sampleDevicePlatform id (.empty .reset) (.zero .rfpro) blackSp 0 (by decide)

end SmartGarage
