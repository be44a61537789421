/-
The parts of `oc_store.c`, `oc_doxm.c` and `oc_sdi.c` that write the owner and the security domain of a device to the
storage and read them again: what a restart leaves of either.
-/
import SmartGarage.Security.Sdi

namespace SmartGarage

/-! ## The records in the storage -/

/-- `oc_sec_encode_doxm` for the storage -/
def ocSecEncodeDoxm (doxm : OcSecDoxm) : List OcRep :=
  svrBaseline (ascii "oic.r.doxm") ++
  [.int (some (ascii "oxmsel")) doxm.oxmsel, .int (some (ascii "sct")) doxm.sct, .bool (some (ascii "owned")) doxm.owned,
   .string (some (ascii "devowneruuid")) (ocUuidToStr doxm.devowneruuid),
   .string (some (ascii "deviceuuid")) (ocUuidToStr doxm.deviceuuid),
   .string (some (ascii "rowneruuid")) (ocUuidToStr doxm.rowneruuid)]

/-- `oc_sec_load_doxm`: where nothing is stored the record is left as it is. -/
def ocSecLoadDoxm (P : DevicePlatform) (st : SecState) (stored : Option (List OcRep)) (device : Nat) : SecState :=
  match stored with
  | some rep => (ocSecDecodeDoxm P st rep true device).2
  | none => st

/-- `oc_sec_encode_sdi` for the storage: a name is written as a C string. -/
def ocSecEncodeSdi (sdi : OcSecSdi) : List OcRep :=
  [.string (some (ascii "uuid")) (ocUuidToStr sdi.uuid), .string (some (ascii "name")) (cstr sdi.name),
   .bool (some (ascii "priv")) sdi.priv]

/-- `oc_sec_load_sdi` in the device state `s` -/
def ocSecLoadSdi (s : OcDostype) (sdi : OcSecSdi) : Option (List OcRep) → OcSecSdi
  | some rep => (ocSecDecodeSdi true s sdi rep).2
  | none => ⟨false, OcUuid.nil, []⟩

/-! ## Restarts -/

/-- The owner of a device survives a restart: whatever the state that a stored doxm is loaded into, it comes back whole if
its numbers are of the type `int`, and nothing else is touched. -/
theorem ocSecLoadDoxm_dump (P : DevicePlatform) (st : SecState) (device : Nat) {doxm : OcSecDoxm}
    (hoxmsel : castInt doxm.oxmsel = doxm.oxmsel) (hsct : castInt doxm.sct = doxm.sct) :
    ocSecLoadDoxm P st (some (ocSecEncodeDoxm doxm)) device = st.setDoxm device doxm := by
  have hnames : nameIs (some (ascii "oxmsel")) "oxmsel" = true ∧ nameIs (some (ascii "sct")) "oxmsel" = false ∧
      nameIs (some (ascii "sct")) "sct" = true ∧ nameIs (some (ascii "owned")) "owned" = true := by decide
  have huuids : nameIs (some (ascii "deviceuuid")) "deviceuuid" = true ∧
      nameIs (some (ascii "devowneruuid")) "deviceuuid" = false ∧
      nameIs (some (ascii "devowneruuid")) "devowneruuid" = true ∧
      nameIs (some (ascii "rowneruuid")) "deviceuuid" = false ∧
      nameIs (some (ascii "rowneruuid")) "devowneruuid" = false ∧
      nameIs (some (ascii "rowneruuid")) "rowneruuid" = true := by decide
  have hallowed : (ocSecEncodeDoxm doxm).all (doxmPropertyAllowed P st true device) = true := by
    have hbaseline : (svrBaseline (ascii "oic.r.doxm")).all (doxmPropertyAllowed P st true device) = true := rfl
    rw [ocSecEncodeDoxm, List.all_append, hbaseline]
    simp [doxmPropertyAllowed, hnames, huuids]
  have hdecoded : (ocSecEncodeDoxm doxm).foldl (decodeDoxmProperty true) (st.doxm device) = doxm := by
    have hbaseline : ∀ d, (svrBaseline (ascii "oic.r.doxm")).foldl (decodeDoxmProperty true) d = d := fun d => rfl
    rw [ocSecEncodeDoxm, List.foldl_append, hbaseline]
    simp [decodeDoxmProperty, hnames, huuids, hoxmsel, hsct, ocStrToUuid_ocUuidToStr]
  rw [ocSecLoadDoxm, ocSecDecodeDoxm, if_pos hallowed, hdecoded]

/-- The record of an owned device is loaded over another one. -/
theorem ocSecLoadDoxm_dump_owned :
    let doxm : OcSecDoxm := ⟨2, 9, true, ⟨Vector.replicate 16 1⟩, ⟨Vector.replicate 16 2⟩, ⟨Vector.replicate 16 3⟩⟩
    let before := (SecState.empty .rfnop).setDoxm 0 ⟨0, 1, false, ⟨Vector.replicate 16 4⟩, OcUuid.nil, OcUuid.nil⟩
    ocSecLoadDoxm sampleDevicePlatform before (some (ocSecEncodeDoxm doxm)) 0 = before.setDoxm 0 doxm :=
  ocSecLoadDoxm_dump _ _ 0 rfl rfl

/-- The security domain of a device survives a restart, in any device state and over any record that was there before, if
and only if its name has no zero byte. -/
theorem ocSecLoadSdi_dump_iff (s : OcDostype) (before sdi : OcSecSdi) :
    ocSecLoadSdi s before (some (ocSecEncodeSdi sdi)) = sdi ↔ 0 ∉ sdi.name := by
  have hnames : nameIs (some (ascii "uuid")) "uuid" = true ∧ nameIs (some (ascii "name")) "uuid" = false ∧
      nameIs (some (ascii "name")) "name" = true ∧ nameIs (some (ascii "priv")) "priv" = true := by decide
  have hloaded : ocSecLoadSdi s before (some (ocSecEncodeSdi sdi)) = { sdi with name := cstr sdi.name } := by
    simp [ocSecLoadSdi, ocSecEncodeSdi, ocSecDecodeSdi, decodeSdiLoop, decodeSdiProperty, hnames, ocStrToUuid_ocUuidToStr]
  rw [hloaded, ← cstr_eq_self_iff]
  exact ⟨fun h => congrArg OcSecSdi.name h, fun h => by rw [h]⟩

end SmartGarage
