/-
A refused request changes nothing. The decoders of acl2 and doxm look at the whole payload before
they write, and the decoder of pstat works on a copy. A reset is the one state change that has effects
before its conditions are checked, and it establishes these conditions itself.
-/
import SmartGarage.Security.PstatOwner

namespace SmartGarage

section

variable (P : DevicePlatform) (st : SecState)

theorem ocPstatHandleState_refused (ps : OcSecPstat) (device : Nat)
    (h : (ocPstatHandleState P st ps device).1 = false) : (ocPstatHandleState P st ps device).2 = st := by
  rcases ocPstatHandleState_cases P st ps device with heq | ⟨hok, -⟩ | ⟨-, heq⟩
  · rw [heq]
  · rw [hok] at h
    cases h
  · rw [heq] at h
    cases h

theorem ocSecDecodePstat_refused (rep : List OcRep) (device : Nat)
    (h : (ocSecDecodePstat P st rep false device).1 = false) : (ocSecDecodePstat P st rep false device).2 = st := by
  unfold ocSecDecodePstat at h ⊢
  cases hd : rep.foldlM (decodePstatProperty false) ⟨st.pstat device, false⟩ with
  | none => rfl
  | some d =>
    simp only [hd] at h
    simp only
    split at h
    · rename_i hvalid
      rw [if_pos hvalid]
      split at h
      · rename_i htransition
        rw [if_pos htransition]
        exact ocPstatHandleState_refused P st d.ps device h
      · simp at h
    · rename_i hinvalid
      rw [if_neg hinvalid]

theorem ocSecDecodeDoxm_refused (rep : List OcRep) (device : Nat)
    (h : (ocSecDecodeDoxm P st rep false device).1 = false) : (ocSecDecodeDoxm P st rep false device).2 = st := by
  unfold ocSecDecodeDoxm at h ⊢
  split at h
  · simp at h
  · rename_i hrefused
    rw [if_neg hrefused]

end

theorem ocSecDecodeAcl_refused (P : Platform) (st : SecState) (rep : List OcRep) (device : Nat)
    (h : (ocSecDecodeAcl P st rep false device).1 = false) : (ocSecDecodeAcl P st rep false device).2 = st := by
  unfold ocSecDecodeAcl at h ⊢
  split at h
  · simp at h
  · rename_i hrefused
    rw [if_neg hrefused]

/-- The ACL, doxm, pstat and credentials of a device. -/
structure SameSecurity (device : Nat) (st st' : SecState) : Prop where
  aclist : st'.aclist device = st.aclist device
  doxm : st'.doxm device = st.doxm device
  pstat : st'.pstat device = st.pstat device
  creds : st'.creds device = st.creds device

theorem SameSecurity.refl (device : Nat) (st : SecState) : SameSecurity device st st := ⟨rfl, rfl, rfl, rfl⟩

/-- Where a request to acl2, doxm or pstat is refused, the security resources are those before it. -/
theorem decode_refused (P : DevicePlatform) (st : SecState) (rep : List OcRep) (device : Nat) :
    ((ocSecDecodeAcl P.toPlatform st rep false device).1 = false →
      SameSecurity device st (ocSecDecodeAcl P.toPlatform st rep false device).2) ∧
    ((ocSecDecodeDoxm P st rep false device).1 = false →
      SameSecurity device st (ocSecDecodeDoxm P st rep false device).2) ∧
    ((ocSecDecodePstat P st rep false device).1 = false →
      SameSecurity device st (ocSecDecodePstat P st rep false device).2) := by
  refine ⟨fun h => ?_, fun h => ?_, fun h => ?_⟩
  · rw [ocSecDecodeAcl_refused P.toPlatform st rep device h]
    exact .refl device st
  · rw [ocSecDecodeDoxm_refused P st rep device h]
    exact .refl device st
  · rw [ocSecDecodePstat_refused P st rep device h]
    exact .refl device st

/-- An owned device in RFNOP, with ACEs and credentials, refuses another owner for acl2 and doxm, and a pstat with a
mode and an owner. -/
theorem decode_refused_rfnop :
    let owner := [rownerRep otherText]
    let modes := [OcRep.int (some (ascii "tm")) 2, rownerRep otherText]
    SameSecurity 0 operatingDevice (ocSecDecodeAcl plainPlatform.toPlatform operatingDevice owner false 0).2 ∧
    SameSecurity 0 operatingDevice (ocSecDecodeDoxm plainPlatform operatingDevice owner false 0).2 ∧
    SameSecurity 0 operatingDevice (ocSecDecodePstat plainPlatform operatingDevice modes false 0).2 :=
  ⟨(decode_refused plainPlatform operatingDevice _ 0).1 (by decide +kernel),
    (decode_refused plainPlatform operatingDevice _ 0).2.1 (by decide +kernel),
    (decode_refused plainPlatform operatingDevice _ 0).2.2 (by decide +kernel)⟩

end SmartGarage
