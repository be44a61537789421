/-
What the handlers of the security resources leave alone. The operations on credentials and on ACEs
touch one resource of one device, and a change of the device's state is described once and for all
by the case of `oc_pstat_handle_state` it runs through.
-/
import SmartGarage.Security.Pstat
import SmartGarage.Security.RoleFrame

namespace SmartGarage

/-! ## Operations on credentials -/

/-- Of the resources only the credentials of `device` may differ. -/
structure OnlyCredsOf (device : Nat) (st st' : SecState) : Prop where
  pstat : st'.pstat = st.pstat
  doxm : st'.doxm = st.doxm
  aclist : st'.aclist = st.aclist
  creds : ∀ d, d ≠ device → st'.creds d = st.creds d

theorem OnlyCredsOf.refl (device : Nat) (st : SecState) : OnlyCredsOf device st st := ⟨rfl, rfl, rfl, fun _ _ => rfl⟩

theorem OnlyCredsOf.trans {device : Nat} {a b c : SecState} (h₁ : OnlyCredsOf device a b) (h₂ : OnlyCredsOf device b c) :
    OnlyCredsOf device a c :=
  ⟨h₂.pstat.trans h₁.pstat, h₂.doxm.trans h₁.doxm, h₂.aclist.trans h₁.aclist,
    fun d hd => (h₂.creds d hd).trans (h₁.creds d hd)⟩

theorem OnlyCredsOf.foldl {α : Type} {device : Nat} {f : SecState → α → SecState}
    (hf : ∀ st a, OnlyCredsOf device st (f st a)) : ∀ (l : List α) (st : SecState), OnlyCredsOf device st (l.foldl f st)
  | [], st => .refl device st
  | a :: l, st => (hf st a).trans (OnlyCredsOf.foldl hf l (f st a))

theorem OnlyCredsOf.setCreds (device : Nat) (st : SecState) (creds : OcSecCreds) :
    OnlyCredsOf device st (st.setCreds device creds) :=
  ⟨rfl, rfl, rfl, fun _ hd => setCreds_creds_ne st creds hd⟩

theorem OnlyAnchors.onlyCreds {st st' : SecState} (h : OnlyAnchors st st') (device : Nat) : OnlyCredsOf device st st' := by
  obtain ⟨_, _, _, rfl⟩ := h
  exact ⟨rfl, rfl, rfl, fun _ _ => rfl⟩

section

variable (P : Platform) (st : SecState)

theorem ocSecRemoveCred_frame (cred : OcSecCred) (device : Nat) :
    OnlyCredsOf device st (ocSecRemoveCred P st cred device) := by
  have hunlink : OnlyCredsOf device st (unlinkCred st cred device) :=
    ⟨rfl, rfl, rfl, fun _ hd => setCreds_creds_ne st _ hd⟩
  rw [ocSecRemoveCred_eq]
  split
  · exact hunlink.trans ((ocTlsRemoveTrustAnchor_only P _ cred).onlyCreds device)
  · exact hunlink

theorem ocSecRemoveCredByCredid_frame (credid : Int) (device : Nat) :
    OnlyCredsOf device st (ocSecRemoveCredByCredid P st credid device).2 := by
  unfold ocSecRemoveCredByCredid
  split
  · exact ocSecRemoveCred_frame P st _ device
  · exact .refl device st

variable (device : Nat)

theorem ocSecClearCreds_frame :
    OnlyCredsOf device st (ocSecClearCreds P st device) :=
  OnlyCredsOf.foldl (fun st c => ocSecRemoveCred_frame P st c device) _ st

theorem finishCred_frame (a : CredArgs) (kp : Option OcEcdsaKeypair)
    (cred : OcSecCred) : OnlyCredsOf device st (finishCred P st device a kp cred).2 := by
  -- drawing an id only moves the counter of the draws
  have hdraw : OnlyCredsOf device st
      (if a.credid = -1 then getNewCredid P st (st.creds device).creds else (a.credid, st)).2 := by
    split
    · exact ⟨rfl, rfl, rfl, fun _ _ => rfl⟩
    · exact .refl device st
  unfold finishCred
  generalize (if a.credid = -1 then getNewCredid P st (st.creds device).creds else (a.credid, st)) = drawn at hdraw ⊢
  obtain ⟨credid, st₁⟩ := drawn
  refine OnlyCredsOf.trans hdraw ?_
  cases argsPrivatedata a kp with
  | none => exact ocSecRemoveCred_frame P _ _ device
  | some privatedata =>
    simp only
    split
    · exact (OnlyCredsOf.setCreds device _ _).trans ((ocTlsRefreshTrustAnchors_only P _).onlyCreds device)
    · exact OnlyCredsOf.setCreds device _ _

theorem allocateNewCred_frame (a : CredArgs) (subject : OcUuid)
    (kp : Option OcEcdsaKeypair) : OnlyCredsOf device st (allocateNewCred P st device a subject kp).2 := by
  have halloc : OnlyCredsOf device st (ocSecAllocateCred P st subject a.credtype a.credusage device).2 :=
    ⟨rfl, rfl, rfl, fun _ hd => setCreds_creds_ne st _ hd⟩
  unfold allocateNewCred
  simp only
  split
  · split
    · exact halloc.trans (ocSecRemoveCred_frame P _ _ device)
    · exact halloc.trans (finishCred_frame P _ device a kp _)
  · exact halloc.trans (finishCred_frame P _ device a kp _)

theorem addNewCred_frame (a : CredArgs) (subject : OcUuid)
    (kp : Option OcEcdsaKeypair) : OnlyCredsOf device st (addNewCred P st device a subject kp).2 := by
  unfold addNewCred
  split
  · split
    · exact .refl device st
    · refine (ocSecRemoveCredByCredid_frame P st a.credid device).trans ?_
      dsimp only
      split
      · exact .refl device _
      · exact (ocSecRemoveCred_frame P _ _ device).trans (allocateNewCred_frame P _ device a subject kp)
      · exact allocateNewCred_frame P _ device a subject kp
  · split
    · exact .refl device st
    · exact (ocSecRemoveCred_frame P st _ device).trans (allocateNewCred_frame P _ device a subject kp)
    · exact allocateNewCred_frame P st device a subject kp

theorem OnlyRolesOf.onlyCreds {client : Option OcTlsPeer} {st st' : SecState} (h : OnlyRolesOf client st st')
    (device : Nat) : OnlyCredsOf device st st' := ⟨h.pstat, h.doxm, h.aclist, fun _ _ => by rw [h.creds]⟩

theorem ocSecAddNewCred_frame (rolesResource : Bool) (client : Option OcTlsPeer) (a : CredArgs) :
    OnlyCredsOf device st (ocSecAddNewCred P st device rolesResource client a).2 := by
  cases rolesResource with
  | true =>
    cases client with
    | none =>
      rw [ocSecAddNewCred_noClient]
      exact .refl device st
    | some p => exact (ocSecAddNewCred_outcome P st device p a).onlyRoles.onlyCreds device
  | false =>
    unfold ocSecAddNewCred
    cases argsPublicKey P.mbedtls a with
    | none => exact .refl device st
    | some key =>
      simp only [Bool.false_eq_true, reduceIte]
      split
      · exact addNewCred_frame P st device a _ _
      · exact .refl device st

theorem setOwnerCred_frame (st : SecState) (credid : Int) (device : Nat) (value : Bool) :
    OnlyCredsOf device st (setOwnerCred st credid device value) := OnlyCredsOf.setCreds device st _

theorem markOwner_frame (d : Decoding) (e : CredEntry) (credid : Int) (device : Nat) :
    OnlyCredsOf device d.st (markOwner d e credid device).st := by
  unfold markOwner
  split
  · exact .refl device _
  · split <;> exact setOwnerCred_frame _ _ device _

theorem decodeOp_frame (P : Platform) (device : Nat) (rolesResource : Bool) (client : Option OcTlsPeer) (d : Decoding)
    (op : CredOp) : OnlyCredsOf device d.st (decodeOp P device rolesResource client d op).2.st := by
  cases op with
  | rowneruuid v => exact OnlyCredsOf.setCreds device _ _
  | entry item =>
    rcases decodeOp_entry_cases P device rolesResource client d item with heq | ⟨e, -, -, heq⟩
    · rw [heq]
      exact .refl device _
    · have hadd := ocSecAddNewCred_frame P d.st device rolesResource client e.args
      rw [heq]
      dsimp only
      split
      · exact hadd
      · exact hadd.trans (markOwner_frame ⟨_, d.owner⟩ e _ device)

theorem ocSecDecodeCred_frame (rep : List OcRep) (fromStorage rolesResource : Bool)
    (client : Option OcTlsPeer) (device : Nat) :
    OnlyCredsOf device st (ocSecDecodeCred P st rep fromStorage rolesResource client device).2.st := by
  unfold ocSecDecodeCred
  split
  · exact .refl device st
  · exact decodeOps_keeps P device rolesResource client ⟨st, none⟩ (fun d => OnlyCredsOf device st d.st)
      (fun d op h => h.trans (decodeOp_frame P device rolesResource client d op)) _ (.refl device st)

theorem postRoles_frame (rep : List OcRep) (origin : OcEndpoint) (device : Nat) :
    OnlyCredsOf device st (postRoles P st rep origin device).2 := by
  have hdec := ocSecDecodeCred_frame P st rep false true (ocTlsGetPeer st origin) device
  unfold postRoles
  split
  · rename_i heq
    rw [heq] at hdec
    exact hdec
  · rename_i heq
    rw [heq] at hdec
    simp only
    split
    · exact hdec.trans (ocSecRemoveCredByCredid_frame P _ _ device)
    · exact hdec

theorem postCred_frame (P : DevicePlatform) (st : SecState) (rep : List OcRep) (origin : OcEndpoint) (device : Nat) :
    OnlyCredsOf device st (postCred P st rep origin device).2 := by
  have hdec := ocSecDecodeCred_frame P.toPlatform st rep false false none device
  unfold postCred
  simp only
  split
  · exact hdec
  · split
    · exact hdec.trans (ocSecRemoveCredByCredid_frame P.toPlatform _ _ device)
    · split
      · split
        · exact hdec.trans (OnlyCredsOf.setCreds device _ _)
        · exact hdec.trans (ocSecRemoveCredByCredid_frame P.toPlatform _ _ device)
      · exact hdec

theorem deleteCred_frame (credid : Option Int) (device : Nat) :
    OnlyCredsOf device st (deleteCred P st credid device).2 := by
  unfold deleteCred
  split
  · exact .refl device st
  · cases credid with
    | none => exact ocSecClearCreds_frame P st device
    | some credid =>
      have hrem := ocSecRemoveCredByCredid_frame P st credid device
      simp only
      split
      · split <;> rename_i heq <;> rw [heq] at hrem <;> exact hrem
      · exact .refl device st

/-! ## Operations on ACEs -/

/-- Of the resources only the ACL of `device` may differ. -/
structure OnlyAclOf (device : Nat) (st st' : SecState) : Prop where
  pstat : st'.pstat = st.pstat
  doxm : st'.doxm = st.doxm
  creds : st'.creds = st.creds
  aclist : ∀ d, d ≠ device → st'.aclist d = st.aclist d

theorem OnlyAclOf.refl (st : SecState) : OnlyAclOf device st st := ⟨rfl, rfl, rfl, fun _ _ => rfl⟩

theorem OnlyAclOf.trans {device : Nat} {a b c : SecState} (h₁ : OnlyAclOf device a b) (h₂ : OnlyAclOf device b c) :
    OnlyAclOf device a c :=
  ⟨h₂.pstat.trans h₁.pstat, h₂.doxm.trans h₁.doxm, h₂.creds.trans h₁.creds,
    fun d hd => (h₂.aclist d hd).trans (h₁.aclist d hd)⟩

theorem OnlyAclOf.foldl {α : Type} {device : Nat} {f : SecState → α → SecState}
    (hf : ∀ st a, OnlyAclOf device st (f st a)) : ∀ (l : List α) (st : SecState), OnlyAclOf device st (l.foldl f st)
  | [], st => .refl device st
  | a :: l, st => (hf st a).trans (OnlyAclOf.foldl hf l (f st a))

theorem OnlyAclOf.setAcl (st : SecState) (acl : OcSecAcl) : OnlyAclOf device st (st.setAcl device acl) :=
  ⟨rfl, rfl, rfl, fun _ hd => Function.update_of_ne hd ..⟩

theorem ocSecAceGetRes_frame (subject : OcAceSubject) (aceid : Int)
    (permission : BitVec 16) (e : ResEntry) (device : Nat) :
    OnlyAclOf device st (ocSecAceGetRes P st subject aceid permission e device) := by
  unfold ocSecAceGetRes
  simp only
  split
  · split
    · exact .refl device st
    · exact OnlyAclOf.setAcl device st _
  · split <;> exact ⟨rfl, rfl, rfl, fun _ hd => Function.update_of_ne hd ..⟩

end

theorem decodeAclProperty_frame (P : Platform) (device : Nat) (st : SecState) (r : OcRep) :
    OnlyAclOf device st (decodeAclProperty P device st r) := by
  unfold decodeAclProperty
  split
  · split
    · exact OnlyAclOf.setAcl device st _
    · exact .refl device st
  · refine OnlyAclOf.foldl (fun st item => ?_) _ st
    have hadd (st : SecState) := OnlyAclOf.foldl (fun st e =>
      ocSecAceGetRes_frame P st (decodeAce item).subject (decodeAce item).aceid (decodeAce item).permission e device)
      (decodeAce item).resources st
    unfold provisionAce
    simp only
    split
    · exact (OnlyAclOf.setAcl device st _).trans (hadd _)
    · exact hadd st
  · exact .refl device st

theorem postAcl_frame (P : DevicePlatform) (st : SecState) (rep : List OcRep) (device : Nat) :
    OnlyAclOf device st (postAcl P st rep device).2 := by
  unfold postAcl ocSecDecodeAcl
  split
  · rename_i heq
    split at heq
    · cases heq
      exact OnlyAclOf.foldl (decodeAclProperty_frame P.toPlatform device) rep st
    · cases heq
  · rename_i heq
    split at heq
    · cases heq
    · cases heq
      exact .refl device st

section

variable (st : SecState)

theorem deleteAcl_frame (aceid : Option Int) (device : Nat) :
    OnlyAclOf device st (deleteAcl st aceid device).2 := by
  unfold deleteAcl
  split
  · exact .refl device st
  · split
    · split
      · exact OnlyAclOf.setAcl device st _
      · exact .refl device st
    · exact OnlyAclOf.setAcl device st _

theorem ocSecAclDefault_frame (P : DevicePlatform) (st : SecState) (device : Nat) :
    OnlyAclOf device st (ocSecAclDefault P st device) := by
  unfold ocSecAclDefault
  have hadd (aceid : Int) (permission : BitVec 16) (wildcard : OcAceWildcard) (st : SecState) (uri : OcString) :
      OnlyAclOf device st (ocSecAceGetRes P.toPlatform st (.conn .anonClear) aceid permission ⟨some uri, wildcard⟩ device) :=
    ocSecAceGetRes_frame ..
  have hclear : OnlyAclOf device st (ocSecClearAcl st device) := OnlyAclOf.setAcl device st _
  refine OnlyAclOf.trans ?_ (OnlyAclOf.setAcl device _ _)
  refine OnlyAclOf.trans ?_ (hadd ..)
  exact (hclear.trans (OnlyAclOf.foldl (hadd 1 2 .noWc) _ _)).trans (OnlyAclOf.foldl (hadd 2 14 .minusOne) _ _)

/-! ## Roles -/

theorem ocSecFreeRoles_frame (client device : Nat) : OnlyCredsOf device st (ocSecFreeRoles st client) := by
  unfold ocSecFreeRoles
  split
  · exact .refl device st
  · exact ⟨rfl, rfl, rfl, fun _ _ => rfl⟩

theorem ocSecFreeRolesForDevice_frame (device x : Nat) :
    OnlyCredsOf x st (ocSecFreeRolesForDevice st device) :=
  OnlyCredsOf.foldl (fun st (r : OcSecRoles) => ocSecFreeRoles_frame st r.client x) _ st

/-! ## What a device keeps -/

/-- What matters for the state of the device `d` is kept: its status, its owners, and a credential for
every subject that has one. -/
structure Keeps (d : Nat) (st st' : SecState) : Prop where
  pstat : st'.pstat d = st.pstat d
  doxm : st'.doxm d = st.doxm d
  aclOwner : (st'.aclist d).rowneruuid = (st.aclist d).rowneruuid
  credOwner : (st'.creds d).rowneruuid = (st.creds d).rowneruuid
  subjects : ∀ c ∈ (st.creds d).creds, ∃ c' ∈ (st'.creds d).creds, c'.subjectuuid = c.subjectuuid

theorem Keeps.refl (d : Nat) (st : SecState) : Keeps d st st := ⟨rfl, rfl, rfl, rfl, fun c hc => ⟨c, hc, rfl⟩⟩

theorem Keeps.trans {d : Nat} {a b c : SecState} (h₁ : Keeps d a b) (h₂ : Keeps d b c) : Keeps d a c := by
  refine ⟨h₂.pstat.trans h₁.pstat, h₂.doxm.trans h₁.doxm, h₂.aclOwner.trans h₁.aclOwner,
    h₂.credOwner.trans h₁.credOwner, fun x hx => ?_⟩
  obtain ⟨y, hy, hxy⟩ := h₁.subjects x hx
  obtain ⟨z, hz, hyz⟩ := h₂.subjects y hy
  exact ⟨z, hz, hyz.trans hxy⟩

theorem Keeps.of_eq {d : Nat} {st st' : SecState} (hp : st'.pstat d = st.pstat d) (hd : st'.doxm d = st.doxm d)
    (ha : st'.aclist d = st.aclist d) (hc : st'.creds d = st.creds d) : Keeps d st st' :=
  ⟨hp, hd, by rw [ha], by rw [hc], fun c hx => ⟨c, by rw [hc]; exact hx, rfl⟩⟩

theorem OnlyCredsOf.keeps {device d : Nat} {st st' : SecState} (h : OnlyCredsOf device st st') (hd : d ≠ device) :
    Keeps d st st' := .of_eq (by rw [h.pstat]) (by rw [h.doxm]) (by rw [h.aclist]) (h.creds d hd)

theorem OnlyAclOf.keeps {device d : Nat} {st st' : SecState} (h : OnlyAclOf device st st') (hd : d ≠ device) :
    Keeps d st st' := .of_eq (by rw [h.pstat]) (by rw [h.doxm]) (h.aclist d hd) (by rw [h.creds])

theorem setOwnerCred_keeps (credid : Int) (device : Nat) (value : Bool) :
    Keeps device st (setOwnerCred st credid device value) := by
  unfold setOwnerCred
  refine ⟨rfl, rfl, rfl, by simp, fun c hc => ?_⟩
  have hmap := Search.map_modify (g := OcSecCred.subjectuuid) (p := (·.credid == credid))
    (f := fun c : OcSecCred => { c with ownerCred := value }) (fun _ => rfl) (st.creds device).creds
  have hmem : c.subjectuuid ∈ (st.creds device).creds.map OcSecCred.subjectuuid := List.mem_map_of_mem hc
  rw [← hmap] at hmem
  obtain ⟨c', hc', heq⟩ := List.mem_map.1 hmem
  exact ⟨c', by simpa using hc', heq⟩

theorem setPstat_keeps {device d : Nat} (ps : OcSecPstat) (hd : d ≠ device) :
    Keeps d st (st.setPstat device ps) := .of_eq (setPstat_pstat_ne st ps hd) rfl rfl rfl

theorem setDoxm_keeps {device d : Nat} (doxm : OcSecDoxm) (hd : d ≠ device) :
    Keeps d st (st.setDoxm device doxm) := .of_eq rfl (setDoxm_doxm_ne st doxm hd) rfl rfl

end

/-! ## Changing the state of a device -/

theorem resetResources_frame (P : DevicePlatform) (st : SecState) (device : Nat) :
    (resetResources P st device).pstat = st.pstat ∧
    (∀ d, d ≠ device → Keeps d st (resetResources P st device)) ∧
    ((resetResources P st device).doxm device).owned = false ∧
    ((resetResources P st device).doxm device).devowneruuid = OcUuid.nil := by
  have hcred : OnlyCredsOf device (ocSecDoxmDefault P st device)
      (ocSecCredDefault P.toPlatform (ocSecDoxmDefault P st device) device) :=
    (ocSecClearCreds_frame P.toPlatform _ device).trans (OnlyCredsOf.setCreds device _ _)
  have hacl := ocSecAclDefault_frame P (ocSecCredDefault P.toPlatform (ocSecDoxmDefault P st device) device) device
  have hroles := ocSecFreeRolesForDevice_frame
    (ocSecAclDefault P (ocSecCredDefault P.toPlatform (ocSecDoxmDefault P st device) device) device) device device
  have hdoxm : (resetResources P st device).doxm = (ocSecDoxmDefault P st device).doxm :=
    hroles.doxm.trans (hacl.doxm.trans hcred.doxm)
  have hnew : (ocSecDoxmDefault P st device).doxm device =
      ⟨0, 9, false, ocGenUuid (P.randomUuid st.draws), OcUuid.nil, OcUuid.nil⟩ := Function.update_self ..
  refine ⟨hroles.pstat.trans (hacl.pstat.trans hcred.pstat), fun d hd => ?_, ?_, ?_⟩
  · have h₀ : Keeps d st (ocSecDoxmDefault P st device) := .of_eq rfl (Function.update_of_ne hd ..) rfl rfl
    exact ((h₀.trans (hcred.keeps hd)).trans (hacl.keeps hd)).trans (hroles.keeps hd)
  · rw [hdoxm, hnew]
  · rw [hdoxm, hnew]

/-- The factory presets callback does what it is there for: it adds credentials and touches nothing else. -/
def PresetsKeep (P : DevicePlatform) : Prop := ∀ cb ∈ P.factoryPresets, ∀ st device d, Keeps d st (cb st device)

section

variable (P : DevicePlatform) (st : SecState) (ps : OcSecPstat) (device : Nat)

/-- RFOTM is refused without a change, or the device is in RFOTM and not operational. -/
theorem enterRfotm_cases : (enterRfotm P st ps device = (false, st) ∧
      ((st.doxm device).owned = true ∨ (st.doxm device).devowneruuid ≠ OcUuid.nil ∨ ps.isop = true)) ∨
    ((enterRfotm P st ps device).1 = true ∧ ps.isop = false ∧
      (PresetsKeep P →
        (enterRfotm P st ps device).2.pstat device = { ps with p := false, s := .rfotm, cm := 2, tm := 0 } ∧
        ∀ d, d ≠ device → Keeps d st (enterRfotm P st ps device).2)) := by
  unfold enterRfotm
  by_cases hok : rfotmOk (st.doxm device) { ps with p := true, s := .rfotm, cm := 2, tm := 0 } = true
  · right
    have hisop : ps.isop = false := by
      unfold rfotmOk at hok
      cases hi : ps.isop with
      | false => rfl
      | true => simp [hi] at hok
    simp only [if_pos hok]
    cases hf : P.factoryPresets with
    | none => exact ⟨rfl, hisop, fun _ => ⟨setPstat_pstat .., fun d hd => setPstat_keeps st _ hd⟩⟩
    | some cb =>
      refine ⟨rfl, hisop, fun hpresets => ?_⟩
      have hadd := hpresets cb hf (st.setPstat device { ps with p := true, s := .rfotm, cm := 2, tm := 0 }) device
      refine ⟨?_, fun d hd => ((setPstat_keeps st _ hd).trans (hadd d)).trans (setPstat_keeps _ _ hd)⟩
      simp only [setPstat_pstat, (hadd device).pstat]
  · left
    refine ⟨by simp only [if_neg hok], ?_⟩
    unfold rfotmOk at hok
    by_contra hnot
    push Not at hnot
    obtain ⟨h1, h2, h3⟩ := hnot
    simp only [Bool.not_eq_true] at h1 h3
    exact hok (by simp [h1, h2, h3, nilUuid])

/-- A reset always succeeds, and with presets that only add credentials the device is in RFOTM with the initial status. -/
theorem ocPstatHandleState_reset (h : ps.s = .reset) : (ocPstatHandleState P st ps device).1 = true ∧ (PresetsKeep P →
      (ocPstatHandleState P st ps device).2.pstat device = ⟨.rfotm, false, false, 2, 0, 3, 4, OcUuid.nil⟩ ∧
      ∀ d, d ≠ device → Keeps d st (ocPstatHandleState P st ps device).2) := by
  obtain ⟨-, hkeep, howned, howner⟩ := resetResources_frame P st device
  have heq : ocPstatHandleState P st ps device = enterRfotm P (resetResources P st device)
      { ps with p := false, isop := false, cm := 1, tm := 2, om := 3, sm := 4, rowneruuid := OcUuid.nil } device := by
    simp only [ocPstatHandleState, h]
  rw [heq]
  rcases enterRfotm_cases P (resetResources P st device)
    { ps with p := false, isop := false, cm := 1, tm := 2, om := 3, sm := 4, rowneruuid := OcUuid.nil } device with
    ⟨-, hbad⟩ | ⟨h1, -, h2⟩
  · rw [howned, howner] at hbad
    simp at hbad
  · exact ⟨h1, fun hpresets => ⟨(h2 hpresets).1, fun d hd => (hkeep d hd).trans ((h2 hpresets).2 d hd)⟩⟩

/-- The status with which a device enters RFPRO, RFNOP or SRESET. -/
def enteredPstat (ps : OcSecPstat) : OcSecPstat :=
  { ps with p := false, cm := if ps.s = .sreset then 1 else 0, tm := 0, isop := decide (ps.s = .rfnop) }

/-- RFPRO, RFNOP and SRESET are entered by an owned device, and refused without a change otherwise. -/
theorem ocPstatHandleState_owned (h : ps.s = .rfpro ∨ ps.s = .rfnop ∨ ps.s = .sreset) :
    ocPstatHandleState P st ps device =
      if ownedOk st { ps with tm := 0 } device then (true, st.setPstat device (enteredPstat ps)) else (false, st) := by
  rcases h with h | h | h <;> simp [ocPstatHandleState, enteredPstat, ownedOk, h]

theorem ocPstatHandleState_other {n : Nat}
    (h : ps.s = .other n) : ocPstatHandleState P st ps device = (false, st) := by
  simp only [ocPstatHandleState, h]

theorem ocPstatHandleState_rfotm (h : ps.s = .rfotm) : ocPstatHandleState P st ps device = enterRfotm P st ps device := by
  simp only [ocPstatHandleState, h]

/-- Everything that it can do: refuse without a change, enter RFOTM, not operational, or enter one of the other states for
an owner. -/
theorem ocPstatHandleState_cases : ocPstatHandleState P st ps device = (false, st) ∨
    ((ocPstatHandleState P st ps device).1 = true ∧ (PresetsKeep P →
      (((ocPstatHandleState P st ps device).2.pstat device).s = .rfotm ∧
        ((ocPstatHandleState P st ps device).2.pstat device).isop = false) ∧
      ∀ d, d ≠ device → Keeps d st (ocPstatHandleState P st ps device).2)) ∨
    (ownedOk st { ps with tm := 0 } device = true ∧
      ocPstatHandleState P st ps device = (true, st.setPstat device (enteredPstat ps))) := by
  have howned (hs : ps.s = .rfpro ∨ ps.s = .rfnop ∨ ps.s = .sreset) := ocPstatHandleState_owned P st ps device hs
  cases hs : ps.s with
  | reset =>
    obtain ⟨hok, hentered⟩ := ocPstatHandleState_reset P st ps device hs
    refine .inr (.inl ⟨hok, fun hpresets => ⟨?_, (hentered hpresets).2⟩⟩)
    rw [(hentered hpresets).1]
    exact ⟨rfl, rfl⟩
  | rfotm =>
    rw [ocPstatHandleState_rfotm P st ps device hs]
    rcases enterRfotm_cases P st ps device with ⟨heq, -⟩ | ⟨hok, hi, hentered⟩
    · exact .inl heq
    · refine .inr (.inl ⟨hok, fun hpresets => ⟨?_, (hentered hpresets).2⟩⟩)
      rw [(hentered hpresets).1]
      exact ⟨rfl, hi⟩
  | rfpro | rfnop | sreset =>
    rw [howned (by simp [hs])]
    split
    · rename_i hok
      exact .inr (.inr ⟨hok, rfl⟩)
    · exact .inl rfl
  | other n => exact .inl (ocPstatHandleState_other P st ps device hs)

end

end SmartGarage
