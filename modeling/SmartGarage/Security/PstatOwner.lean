/-
The owner of pstat in RFPRO and RFNOP. The decoder refuses a `rowneruuid` in these states, but looks
at its working copy, in which a `dos` object earlier in the same payload has already changed the
state. The theorem says for which payloads the owner stays all the same.
-/
import SmartGarage.Security.DeviceRuns

namespace SmartGarage

/-- A POST to pstat has left the owner as it was, unless it asked for a reset. -/
def OwnerUnchanged (st st' : SecState) (rep : List OcRep) (device : Nat) : Prop :=
  (st'.pstat device).rowneruuid = (st.pstat device).rowneruuid ∨ (dosStates rep).getLast? = some .reset

/-- The payload keeps the owner: where each of its properties is allowed in the state in force, its last
`dos` object leads to RFPRO, RFNOP or SRESET and the device may enter that state with the owner the
payload gives, this owner is the present one. -/
def payloadKeepsOwner (st : SecState) (rep : List OcRep) (device : Nat) : Prop :=
  let ps := st.pstat device
  let owner := payloadOwner ps.rowneruuid rep
  pstatAccepted ps.s rep = true → (dosStates rep).getLastD ps.s ∈ [OcDostype.rfpro, .rfnop, .sreset] →
    ownedOk st { ps with rowneruuid := owner, tm := 0 } device = true → owner = ps.rowneruuid

theorem ownedOk_congr {st : SecState} {ps ps' : OcSecPstat} {device : Nat} (htm : ps'.tm = ps.tm)
    (howner : ps'.rowneruuid = ps.rowneruuid) : ownedOk st ps' device = ownedOk st ps device := by
  simp only [ownedOk, htm, howner]

/-- A change of the state that is no reset writes the owner of the working copy if the device may enter
the state, and nothing otherwise. -/
theorem handleState_owner (P : DevicePlatform) (st : SecState) (ps : OcSecPstat) (device : Nat) (hreset : ps.s ≠ .reset)
    (hrfotm : ps.s ≠ .rfotm) :
    ((ocPstatHandleState P st ps device).2.pstat device).rowneruuid =
      if ps.s ∈ [OcDostype.rfpro, .rfnop, .sreset] ∧ ownedOk st { ps with tm := 0 } device = true then ps.rowneruuid
      else (st.pstat device).rowneruuid := by
  by_cases hmem : ps.s ∈ [OcDostype.rfpro, .rfnop, .sreset]
  · have hs : ps.s = .rfpro ∨ ps.s = .rfnop ∨ ps.s = .sreset := by simpa using hmem
    rw [ocPstatHandleState_owned P st ps device hs]
    by_cases hok : ownedOk st { ps with tm := 0 } device = true
    · simp only [if_pos hok, if_pos (And.intro hmem hok), setPstat_pstat]
      rfl
    · rw [if_neg hok, if_neg fun h => hok h.2]
  · rw [if_neg fun h => hmem h.1]
    cases hs : ps.s with
    | reset => exact absurd hs hreset
    | rfotm => exact absurd hs hrfotm
    | rfpro => simp [hs] at hmem
    | rfnop => simp [hs] at hmem
    | sreset => simp [hs] at hmem
    | other n => rw [ocPstatHandleState_other P st ps device hs]

/-- In RFPRO and RFNOP a POST to pstat leaves the owner as it was, unless it asks for a reset, if and only
if its payload keeps the owner. -/
theorem ocSecDecodePstat_owner_iff (P : DevicePlatform) (st : SecState) (rep : List OcRep) (device : Nat)
    (hs : (st.pstat device).s = .rfpro ∨ (st.pstat device).s = .rfnop) :
    OwnerUnchanged st (ocSecDecodePstat P st rep false device).2 rep device ↔ payloadKeepsOwner st rep device := by
  have hspec := decodePstat_spec rep ⟨st.pstat device, false⟩
  unfold OwnerUnchanged payloadKeepsOwner
  simp only
  by_cases hacc : pstatAccepted (st.pstat device).s rep = true
  · rw [if_pos hacc] at hspec
    obtain ⟨x, hx, hdec⟩ := hspec
    have hlast : x.ps.s = (dosStates rep).getLastD (st.pstat device).s := hdec.s
    have howner : x.ps.rowneruuid = payloadOwner (st.pstat device).rowneruuid rep := hdec.rowneruuid
    cases hdos : dosStates rep with
    | nil =>
      -- without a `dos` object no owner was allowed
      have hsame := payloadOwner_of_accepted hs (st.pstat device).rowneruuid hacc hdos
      rcases ocSecDecodePstat_cases P st rep device with heq | ⟨y, -, hy, -, ⟨hne, -⟩ | ⟨-, heq⟩⟩
      · rw [heq]
        exact ⟨fun _ _ _ _ => hsame, fun _ => .inl rfl⟩
      · exact absurd hdos hne
      · rw [heq]
        refine ⟨fun _ _ _ _ => hsame, fun _ => .inl ?_⟩
        rw [setPstat_pstat, hy.rowneruuid]
        exact hsame
    | cons z l =>
      have ht : x.transitionState = true := by simpa [hdos] using hdec.transitionState
      rw [← hdos]
      have hget : (dosStates rep).getLast? = some x.ps.s := by
        rw [hlast, hdos, List.getLastD_eq_getLast?, List.getLast?_eq_getLast_of_ne_nil (List.cons_ne_nil z l)]
        rfl
      have hgetD : (dosStates rep).getLastD (st.pstat device).s = x.ps.s := hlast.symm
      rw [hget, hgetD, ← howner]
      by_cases hreset : x.ps.s = .reset
      · simp [hreset]
      · by_cases hrfotm : x.ps.s = .rfotm
        · -- RFOTM is no valid transition
          have hinvalid : validTransition (st.pstat device).s x.ps.s = false := by
            rcases hs with h | h <;> simp [validTransition, h, hrfotm]
          have heq : ocSecDecodePstat P st rep false device = (false, st) := by
            simp [ocSecDecodePstat, hx, hinvalid]
          simp [heq, hrfotm]
        · have hvalid : validTransition (st.pstat device).s x.ps.s = true := by
            rcases hs with h | h <;> simp [validTransition, h, hrfotm]
          have heq : ocSecDecodePstat P st rep false device = ocPstatHandleState P st x.ps device := by
            simp [ocSecDecodePstat, hx, hvalid, ht]
          have hcongr : ownedOk st { st.pstat device with rowneruuid := x.ps.rowneruuid, tm := 0 } device =
              ownedOk st { x.ps with tm := 0 } device := ownedOk_congr rfl rfl
          rw [heq, handleState_owner P st x.ps device hreset hrfotm, hcongr]
          by_cases hboth : x.ps.s ∈ [OcDostype.rfpro, .rfnop, .sreset] ∧ ownedOk st { x.ps with tm := 0 } device = true
          · rw [if_pos hboth]
            constructor
            · rintro (hsame | hbad) _ _ _
              · exact hsame
              · exact absurd (Option.some.inj hbad) hreset
            · exact fun h => .inl (h hacc hboth.1 hboth.2)
          · rw [if_neg hboth]
            exact ⟨fun _ _ hmem hok => absurd ⟨hmem, hok⟩ hboth, fun _ => .inl rfl⟩
  · rw [if_neg hacc] at hspec
    have heq : ocSecDecodePstat P st rep false device = (false, st) := by
      simp [ocSecDecodePstat, hspec]
    rw [heq]
    exact ⟨fun _ h => absurd h hacc, fun _ => .inl rfl⟩

/-- The text of a second device's UUID. -/
def otherText : OcString := ascii "22222222-2222-2222-2222-222222222222"

/-- The device in RFNOP, with credentials for the onboarding tool and for a second device. -/
def operatingDevice : SecState :=
  Runs.runFrom (deviceStep plainPlatform) freshDevice (onboarding ++
    [.postCred [.objectArray (some (ascii "creds")) [pskRep 2 otherText]] sessionEndpoint 0, .postPstat [dosRep 3] 0])

/-- A `rowneruuid` alone is refused in RFNOP. -/
theorem ocSecDecodePstat_owner_alone :
    (operatingDevice.pstat 0).s = .rfnop ∧
    OwnerUnchanged operatingDevice (ocSecDecodePstat plainPlatform operatingDevice [rownerRep otherText] false 0).2
      [rownerRep otherText] 0 := by
  have hs : (operatingDevice.pstat 0).s = .rfnop := by decide +kernel
  refine ⟨hs, (ocSecDecodePstat_owner_iff _ _ _ _ (.inr hs)).2 fun hacc => ?_⟩
  revert hacc
  decide +kernel

/-- Between two `dos` objects it is accepted: the device stays in RFNOP and has another owner. -/
theorem ocSecDecodePstat_owner_taken :
    let rep := [dosRep 4, rownerRep otherText, dosRep 3]
    let st' := (ocSecDecodePstat plainPlatform operatingDevice rep false 0).2
    (operatingDevice.pstat 0).s = .rfnop ∧ (st'.pstat 0).s = .rfnop ∧ ¬OwnerUnchanged operatingDevice st' rep 0 := by
  unfold OwnerUnchanged
  decide +kernel

end SmartGarage
