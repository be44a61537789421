/-
The states of a device over whole runs: any sequence of requests to doxm, pstat, acl2, cred and roles,
of resets and of TLS sessions that come and go. Four resources with their own write rules share the
conditions of RFNOP, which only a change of the state checks; the run theorem says that they hold in
RFNOP all the same, unless one of the two steps that bypass the check is taken.
-/
import SmartGarage.Security.DeviceFrame
import SmartGarage.Security.PstatPayload
import SmartGarage.Security.RoleSessions

namespace SmartGarage

/-! ## The machine -/

/-- What can happen to the security resources. The requests to `/oic/sec/roles` are among the events of
the sessions. -/
inductive DeviceEvent
  | postDoxm (rep : List OcRep) (device : Nat)
  | postPstat (rep : List OcRep) (device : Nat)
  | postAcl (rep : List OcRep) (device : Nat)
  | deleteAcl (aceid : Option Int) (device : Nat)
  | postCred (rep : List OcRep) (origin : OcEndpoint) (device : Nat)
  | deleteCred (credid : Option Int) (device : Nat)
  | resetDevice (device : Nat)
  | session (e : SessionEvent)

/-- The state after one event. -/
def deviceStep (P : DevicePlatform) (st : SecState) : DeviceEvent → SecState
  | .postDoxm rep device => (postDoxm P st rep device).2
  | .postPstat rep device => (postPstat P st rep device).2
  | .postAcl rep device => (postAcl P st rep device).2
  | .deleteAcl aceid device => (deleteAcl st aceid device).2
  | .postCred rep origin device => (postCred P st rep origin device).2
  | .deleteCred credid device => (deleteCred P.toPlatform st credid device).2
  | .resetDevice device => ocResetDevice P st device
  | .session e => (sessionStep P.toPlatform ⟨st, fun _ => []⟩ e).st

/-- What RFNOP promises: the device has an owner, its resources have owners with credentials, and it is
operational in the modes for that. -/
structure Operational (st : SecState) (d : Nat) : Prop where
  owned : (st.doxm d).owned = true
  devowneruuid : (st.doxm d).devowneruuid ≠ OcUuid.nil
  deviceuuid : (st.doxm d).deviceuuid ≠ OcUuid.nil
  pstatOwner : (st.pstat d).rowneruuid ≠ OcUuid.nil
  doxmOwner : (st.doxm d).rowneruuid ≠ OcUuid.nil
  aclOwner : (st.aclist d).rowneruuid ≠ OcUuid.nil
  credOwner : (st.creds d).rowneruuid ≠ OcUuid.nil
  pstatCred : ∃ c ∈ (st.creds d).creds, c.subjectuuid = (st.pstat d).rowneruuid
  doxmCred : ∃ c ∈ (st.creds d).creds, c.subjectuuid = (st.doxm d).rowneruuid
  aclCred : ∃ c ∈ (st.creds d).creds, c.subjectuuid = (st.aclist d).rowneruuid
  credCred : ∃ c ∈ (st.creds d).creds, c.subjectuuid = (st.creds d).rowneruuid
  isop : (st.pstat d).isop = true
  cm : (st.pstat d).cm &&& 0xC3 = 0
  tm : (st.pstat d).tm &&& 0xC3 = 0

/-- A device in RFNOP keeps its promises, and no other device is operational. -/
structure DeviceOk (st : SecState) (d : Nat) : Prop where
  rfnop : (st.pstat d).s = .rfnop → Operational st d
  others : (st.pstat d).s ≠ .rfnop → (st.pstat d).isop = false

/-! ## What keeps the promises -/

theorem Operational.keeps {st st' : SecState} {d : Nat} (h : Operational st d) (hk : Keeps d st st') :
    Operational st' d := by
  have hcred {u : OcUuid} (hu : ∃ c ∈ (st.creds d).creds, c.subjectuuid = u) :
      ∃ c ∈ (st'.creds d).creds, c.subjectuuid = u := by
    obtain ⟨c, hc, rfl⟩ := hu
    exact hk.subjects c hc
  constructor
  · rw [hk.doxm]; exact h.owned
  · rw [hk.doxm]; exact h.devowneruuid
  · rw [hk.doxm]; exact h.deviceuuid
  · rw [hk.pstat]; exact h.pstatOwner
  · rw [hk.doxm]; exact h.doxmOwner
  · rw [hk.aclOwner]; exact h.aclOwner
  · rw [hk.credOwner]; exact h.credOwner
  · rw [hk.pstat]; exact hcred h.pstatCred
  · rw [hk.doxm]; exact hcred h.doxmCred
  · rw [hk.aclOwner]; exact hcred h.aclCred
  · rw [hk.credOwner]; exact hcred h.credCred
  · rw [hk.pstat]; exact h.isop
  · rw [hk.pstat]; exact h.cm
  · rw [hk.pstat]; exact h.tm

theorem DeviceOk.keeps {st st' : SecState} {d : Nat} (h : DeviceOk st d) (hk : Keeps d st st') : DeviceOk st' d := by
  constructor
  · intro hs
    rw [hk.pstat] at hs
    exact (h.rfnop hs).keeps hk
  · intro hs
    rw [hk.pstat] at hs ⊢
    exact h.others hs

theorem DeviceOk.of_pstat {st st' : SecState} {d : Nat} (h : DeviceOk st d) (hp : st'.pstat = st.pstat)
    (hk : (st.pstat d).s = .rfnop → Keeps d st st') : DeviceOk st' d := by
  by_cases hs : (st.pstat d).s = .rfnop
  · exact h.keeps (hk hs)
  · refine ⟨fun h' => absurd (by rw [← hp]; exact h') hs, fun _ => ?_⟩
    rw [hp]
    exact h.others hs

theorem Operational.of_ownedOk {st : SecState} {ps : OcSecPstat} {d : Nat} (h : ownedOk st { ps with tm := 0 } d = true)
    (hs : ps.s = .rfnop) : Operational (st.setPstat d (enteredPstat ps)) d := by
  simp only [ownedOk, nilUuid, ocSecFindCredsForSubject, Bool.and_eq_true, Bool.not_eq_true', beq_eq_false_iff_ne,
    List.any_eq_true, beq_iff_eq] at h
  obtain ⟨⟨⟨⟨⟨⟨⟨⟨⟨⟨⟨howned, hdev⟩, hdid⟩, -⟩, hp⟩, hd⟩, ha⟩, hc⟩, hpc⟩, hdc⟩, hac⟩, hcc⟩ := h
  have hps : (st.setPstat d (enteredPstat ps)).pstat d = enteredPstat ps := setPstat_pstat ..
  constructor
  · exact howned
  · exact hdev
  · exact hdid
  · rw [hps]; exact hp
  · exact hd
  · exact ha
  · exact hc
  · rw [hps]; exact hpc
  · exact hdc
  · exact hac
  · exact hcc
  · rw [hps]; simp [enteredPstat, hs]
  · rw [hps]; simp [enteredPstat, hs]
  · rw [hps]; simp [enteredPstat]

/-! ## Requests to pstat -/

theorem DeviceOk.of_entered {st : SecState} {d : Nat} {ps : OcSecPstat} (hok : ownedOk st { ps with tm := 0 } d = true) :
    DeviceOk (st.setPstat d (enteredPstat ps)) d := by
  have hps : (st.setPstat d (enteredPstat ps)).pstat d = enteredPstat ps := setPstat_pstat ..
  constructor
  · intro h
    rw [hps] at h
    exact Operational.of_ownedOk hok h
  · intro h
    rw [hps] at h ⊢
    exact decide_eq_false h

theorem DeviceOk.of_rfotm {st : SecState} {d : Nat} (hs : (st.pstat d).s = .rfotm) (hi : (st.pstat d).isop = false) :
    DeviceOk st d := by
  refine ⟨fun h => ?_, fun _ => hi⟩
  rw [hs] at h
  cases h

theorem DeviceOk.handleState {P : DevicePlatform} (hpresets : PresetsKeep P) {st : SecState} {d : Nat}
    (h : DeviceOk st d) (ps : OcSecPstat) : DeviceOk (ocPstatHandleState P st ps d).2 d := by
  rcases ocPstatHandleState_cases P st ps d with heq | ⟨-, hentered⟩ | ⟨hok, heq⟩
  · rw [heq]
    exact h
  · obtain ⟨⟨hs, hi⟩, -⟩ := hentered hpresets
    exact .of_rfotm hs hi
  · rw [heq]
    exact .of_entered hok

theorem ocPstatHandleState_keeps {P : DevicePlatform} (hpresets : PresetsKeep P) (st : SecState) (ps : OcSecPstat)
    {device d : Nat} (hd : d ≠ device) : Keeps d st (ocPstatHandleState P st ps device).2 := by
  rcases ocPstatHandleState_cases P st ps device with heq | ⟨-, hentered⟩ | ⟨-, heq⟩
  · rw [heq]
    exact .refl d st
  · exact (hentered hpresets).2 d hd
  · rw [heq]
    exact setPstat_keeps st _ hd

section

variable (P : DevicePlatform) (st : SecState) (rep : List OcRep)

theorem postPstat_state (device : Nat) :
    (postPstat P st rep device).2 = (ocSecDecodePstat P st rep false device).2 := by
  unfold postPstat
  split <;> rename_i heq <;> rw [heq]

/-- What a POST to pstat does: it is refused, changes the state, or only writes the status. -/
theorem ocSecDecodePstat_cases (device : Nat) :
    ocSecDecodePstat P st rep false device = (false, st) ∨
    ∃ d, pstatAccepted (st.pstat device).s rep = true ∧ Decoded rep ⟨st.pstat device, false⟩ d ∧
      validTransition (st.pstat device).s d.ps.s = true ∧
      ((dosStates rep ≠ [] ∧ ocSecDecodePstat P st rep false device = ocPstatHandleState P st d.ps device) ∨
        (dosStates rep = [] ∧ ocSecDecodePstat P st rep false device = (true, st.setPstat device d.ps))) := by
  have hspec := decodePstat_spec rep ⟨st.pstat device, false⟩
  unfold ocSecDecodePstat
  split at hspec
  · rename_i hacc
    obtain ⟨d, hd, hdec⟩ := hspec
    simp only [hd, Bool.false_or, Bool.not_false, Bool.true_and]
    by_cases hv : validTransition (st.pstat device).s d.ps.s = true
    · right
      refine ⟨d, hacc, hdec, hv, ?_⟩
      have ht : d.transitionState = !(dosStates rep).isEmpty := by simpa using hdec.transitionState
      cases hr : dosStates rep with
      | nil =>
        rw [hr] at ht
        exact .inr ⟨rfl, by simp [hv, ht]⟩
      | cons x l =>
        rw [hr] at ht
        exact .inl ⟨List.cons_ne_nil x l, by simp [hv, ht]⟩
    · left
      simp [hv]
  · left
    simp only [hspec]

/-- Without a `dos` object a payload that is accepted in RFPRO or RFNOP gives no owner. -/
theorem payloadOwner_of_accepted {s : OcDostype} (hs : s = .rfpro ∨ s = .rfnop) (uuid : OcUuid) :
    ∀ {rep : List OcRep}, pstatAccepted s rep = true → dosStates rep = [] → payloadOwner uuid rep = uuid
  | [], _, _ => rfl
  | r :: l, hacc, hdos => by
    unfold pstatAccepted at hacc
    rw [Bool.and_eq_true] at hacc
    obtain ⟨hr, hl⟩ := List.append_eq_nil_iff.1 (show propertyStates r ++ dosStates l = [] from hdos)
    have hnone : propertyOwner r = none := by
      cases r with
      | string n v =>
        have h := hacc.1
        rcases hs with rfl | rfl <;> simp [pstatPropertyAllowed] at h
      | _ => rfl
    rw [hr] at hacc
    have ih : payloadOwner uuid l = uuid := payloadOwner_of_accepted hs uuid hacc.2 hl
    simpa only [payloadOwner, List.filterMap_cons, hnone] using ih

/-- A POST to pstat without a `dos` object leaves no forbidden target mode in RFNOP. -/
def pstatGuard (st : SecState) (rep : List OcRep) (device : Nat) : Prop :=
  (st.pstat device).s = .rfnop → dosStates rep = [] → ∀ v ∈ (tmValues rep).getLast?, BitVec.ofInt 32 v &&& 0xC3 = 0

theorem DeviceOk.postPstat {P : DevicePlatform} (hpresets : PresetsKeep P) {st : SecState} {d : Nat} (h : DeviceOk st d)
    (rep : List OcRep) (hg : pstatAccepted (st.pstat d).s rep → pstatGuard st rep d) :
    DeviceOk (postPstat P st rep d).2 d := by
  rw [postPstat_state]
  rcases ocSecDecodePstat_cases P st rep d with heq | ⟨x, hacc, hdec, -, ⟨-, heq⟩ | ⟨hdos, heq⟩⟩
  · rw [heq]
    exact h
  · rw [heq]
    exact h.handleState hpresets x.ps
  · rw [heq]
    have hps : (st.setPstat d x.ps).pstat d = x.ps := setPstat_pstat ..
    have hs : x.ps.s = (st.pstat d).s := by
      rw [hdec.s, hdos]
      rfl
    constructor
    · intro hnop
      rw [hps, hs] at hnop
      have hop := h.rfnop hnop
      have howner : x.ps.rowneruuid = (st.pstat d).rowneruuid := by
        rw [hdec.rowneruuid]
        exact payloadOwner_of_accepted (.inr hnop) _ hacc hdos
      constructor
      · exact hop.owned
      · exact hop.devowneruuid
      · exact hop.deviceuuid
      · rw [hps, howner]; exact hop.pstatOwner
      · exact hop.doxmOwner
      · exact hop.aclOwner
      · exact hop.credOwner
      · rw [hps, howner]; exact hop.pstatCred
      · exact hop.doxmCred
      · exact hop.aclCred
      · exact hop.credCred
      · rw [hps, hdec.isop]; exact hop.isop
      · rw [hps, hdec.cm]; exact hop.cm
      · rw [hps, hdec.tm, List.getLastD_eq_getLast?, List.getLast?_map]
        cases htm : (tmValues rep).getLast? with
        | none => exact hop.tm
        | some v => exact hg hacc hnop hdos v htm
    · intro hnop
      rw [hps, hs] at hnop
      rw [hps, hdec.isop]
      exact h.others hnop

theorem postPstat_keeps {P : DevicePlatform} (hpresets : PresetsKeep P) (st : SecState) (rep : List OcRep)
    {device d : Nat} (hd : d ≠ device) : Keeps d st (postPstat P st rep device).2 := by
  rw [postPstat_state]
  rcases ocSecDecodePstat_cases P st rep device with heq | ⟨x, -, -, -, ⟨-, heq⟩ | ⟨-, heq⟩⟩
  · rw [heq]
    exact .refl d st
  · rw [heq]
    exact ocPstatHandleState_keeps hpresets st x.ps hd
  · rw [heq]
    exact setPstat_keeps st x.ps hd

/-! ## Requests to doxm, acl2 and cred in RFNOP -/

theorem foldl_of_fixed {σ α : Type} {f : σ → α → σ} {s : σ} : ∀ {l : List α}, (∀ a ∈ l, f s a = s) → l.foldl f s = s
  | [], _ => rfl
  | a :: l, h => by
    rw [List.foldl_cons, h a List.mem_cons_self]
    exact foldl_of_fixed fun b hb => h b (List.mem_cons_of_mem _ hb)

theorem decodeDoxmProperty_rfnop {P : DevicePlatform} {st : SecState} {device : Nat} (hs : (st.pstat device).s = .rfnop)
    {r : OcRep} (h : doxmPropertyAllowed P st false device r = true) (doxm : OcSecDoxm) :
    decodeDoxmProperty false doxm r = doxm := by
  cases r with
  | bool n v => simp [doxmPropertyAllowed, hs] at h
  | int n v => cases hn : nameIs n "oxmsel" <;> simp [doxmPropertyAllowed, hs, hn] at h
  | string n v =>
    cases h1 : nameIs n "deviceuuid" <;> cases h2 : nameIs n "devowneruuid" <;>
      simp [doxmPropertyAllowed, hs, h1, h2] at h
  | _ => rfl

theorem postDoxm_rfnop {device : Nat}
    (hs : (st.pstat device).s = .rfnop) : Keeps device st (postDoxm P st rep device).2 := by
  unfold postDoxm ocSecDecodeDoxm
  by_cases hall : rep.all (doxmPropertyAllowed P st false device) = true
  · have hsame : rep.foldl (decodeDoxmProperty false) (st.doxm device) = st.doxm device :=
      foldl_of_fixed fun r hr => decodeDoxmProperty_rfnop hs (List.all_eq_true.1 hall r hr) _
    simp only [if_pos hall, hsame]
    exact .of_eq rfl (setDoxm_doxm ..) rfl rfl
  · simp only [if_neg hall]
    exact .refl device st

theorem postDoxm_frame (device : Nat) :
    (postDoxm P st rep device).2.pstat = st.pstat ∧ ∀ d, d ≠ device → Keeps d st (postDoxm P st rep device).2 := by
  unfold postDoxm ocSecDecodeDoxm
  by_cases hall : rep.all (doxmPropertyAllowed P st false device) = true
  · simp only [if_pos hall]
    exact ⟨rfl, fun d hd => setDoxm_keeps st _ hd⟩
  · simp only [if_neg hall]
    exact ⟨trivial, fun d _ => .refl d st⟩

theorem decodeAclProperty_rfnop {r : OcRep} (h : aclPropertyAllowed .rfnop false r = true) (P : Platform) (device : Nat)
    (st : SecState) : decodeAclProperty P device st r = st := by
  cases r with
  | string n v =>
    cases hn : nameIs n "rowneruuid" with
    | true => simp [aclPropertyAllowed, hn] at h
    | false => simp [decodeAclProperty, hn]
  | objectArray n items => simp [aclPropertyAllowed] at h
  | _ => rfl

theorem postAcl_rfnop {device : Nat} (hs : (st.pstat device).s = .rfnop) : (postAcl P st rep device).2 = st := by
  unfold postAcl ocSecDecodeAcl
  rw [hs]
  by_cases hall : rep.all (aclPropertyAllowed .rfnop false) = true
  · simp only [if_pos hall]
    exact foldl_of_fixed fun r hr => decodeAclProperty_rfnop (List.all_eq_true.1 hall r hr) P.toPlatform device st
  · simp only [if_neg hall]

theorem credOps_rfnop {rep : List OcRep} (h : rep.all (credPropertyAllowed .rfnop false) = true) : credOps rep = [] := by
  refine List.flatMap_eq_nil_iff.2 fun r hr => ?_
  have hr := List.all_eq_true.1 h r hr
  cases r with
  | string n v => cases hn : nameIs n "rowneruuid" <;> simp [credPropertyAllowed, hn] at hr ⊢
  | objectArray n items => simp [credPropertyAllowed] at hr
  | _ => rfl

theorem postCred_rfnop (origin : OcEndpoint) {device : Nat}
    (hs : (st.pstat device).s = .rfnop) : (postCred P st rep origin device).2 = st := by
  have hdec : (ocSecDecodeCred P.toPlatform st rep false false none device).2 = ⟨st, none⟩ := by
    unfold ocSecDecodeCred
    rw [hs]
    cases hall : rep.all (credPropertyAllowed .rfnop false) with
    | true =>
      rw [credOps_rfnop hall]
      rfl
    | false => rfl
  unfold postCred
  simp only [hdec, Option.bind_none]

end

/-! ## Requests to roles -/

/-- The operation of a role payload leaves the owners right: a `rowneruuid` is one with a credential, and
the id of an accepted PSK without a key does not hit a credential of the device. -/
def opKeepsOwners (P : Platform) (device : Nat) (client : Option OcTlsPeer) (st : SecState) : CredOp → Bool
  | .rowneruuid v =>
    let uuid := ocStrToUuid v (st.creds device).rowneruuid
    !nilUuid uuid && ocSecFindCredsForSubject (st.creds device) uuid
  | .entry item =>
    match decodeEntry item, client with
    | some e, some p => item.isEmpty || !roleAccepted P st p e.args ||
        !(e.args.credtype == credtypePsk && e.args.privatedata == []) ||
        (ocSecGetCredByCredid st (roleCredid P st p e.args) device).isNone
    | _, _ => true

theorem Operational.setOwner {st : SecState} {d : Nat} (h : Operational st d) {uuid : OcUuid} (hnil : uuid ≠ OcUuid.nil)
    (hcred : ∃ c ∈ (st.creds d).creds, c.subjectuuid = uuid) :
    Operational (st.setCreds d { st.creds d with rowneruuid := uuid }) d := by
  have hc : (st.setCreds d { st.creds d with rowneruuid := uuid }).creds d = { st.creds d with rowneruuid := uuid } :=
    setCreds_creds ..
  exact ⟨h.owned, h.devowneruuid, h.deviceuuid, h.pstatOwner, h.doxmOwner, h.aclOwner, by rw [hc]; exact hnil,
    by rw [hc]; exact h.pstatCred, by rw [hc]; exact h.doxmCred, by rw [hc]; exact h.aclCred,
    by rw [hc]; exact hcred, h.isop, h.cm, h.tm⟩

theorem decodeOp_operational (P : Platform) (device : Nat) (client : Option OcTlsPeer) (d : Decoding) (op : CredOp)
    (hop : Operational d.st device) (ho : d.owner = none) (hq : opKeepsOwners P device client d.st op = true) :
    Operational (decodeOp P device true client d op).2.st device ∧ (decodeOp P device true client d op).2.owner = none := by
  cases op with
  | rowneruuid v =>
    simp only [opKeepsOwners, nilUuid, ocSecFindCredsForSubject, Bool.and_eq_true, Bool.not_eq_true',
      beq_eq_false_iff_ne, List.any_eq_true, beq_iff_eq] at hq
    exact ⟨hop.setOwner hq.1 hq.2, ho⟩
  | entry item =>
    rcases decodeOp_entry_cases P device true client d item with heq | ⟨e, he, hi, heq⟩
    · rw [heq]
      exact ⟨hop, ho⟩
    · rw [heq]
      cases client with
      | none =>
        simp only [ocSecAddNewCred_noClient, reduceIte]
        exact ⟨hop, ho⟩
      | some p =>
        have hout := ocSecAddNewCred_outcome P d.st device p e.args
        have hframe := hout.onlyRoles
        have hop' : Operational (ocSecAddNewCred P d.st device true (some p) e.args).2 device :=
          hop.keeps (.of_eq (by rw [hframe.pstat]) (by rw [hframe.doxm]) (by rw [hframe.aclist]) (by rw [hframe.creds]))
        by_cases hid : (ocSecAddNewCred P d.st device true (some p) e.args).1 = -1
        · simp only [hid, reduceIte]
          exact ⟨hop', ho⟩
        · obtain ⟨hacc, hcredid⟩ := hout.accepted hid
          simp only [hid, reduceIte]
          unfold markOwner
          split
          · exact ⟨hop', ho⟩
          · rename_i c hc
            -- a credential of the device is hit, so the entry is no PSK without a key
            have hnot : ¬(e.args.credtype = credtypePsk ∧ e.args.privatedata = []) := by
              rintro ⟨h1, h2⟩
              have hsome : ocSecGetCredByCredid d.st (roleCredid P d.st p e.args) device = some c := by
                rw [← hcredid]
                unfold ocSecGetCredByCredid at hc ⊢
                rw [← hframe.creds]
                exact hc
              simp [opKeepsOwners, he, hi, hacc, h1, h2, hsome] at hq
            simp only [if_neg hnot]
            exact ⟨hop'.keeps (setOwnerCred_keeps _ _ device _), ho⟩

/-- A POST to roles in RFNOP keeps the owners of the device right. -/
def rolesGuard (P : Platform) (st : SecState) (rep : List OcRep) (origin : OcEndpoint) : Prop :=
  (st.pstat origin.device).s = .rfnop → allReached P origin.device true (ocTlsGetPeer st origin)
    (opKeepsOwners P origin.device (ocTlsGetPeer st origin)) ⟨st, none⟩ (credOps rep) = true

theorem postRoles_operational (P : Platform) (st : SecState) (rep : List OcRep) (origin : OcEndpoint)
    (hop : Operational st origin.device) (hs : (st.pstat origin.device).s = .rfnop) (hg : rolesGuard P st rep origin) :
    Operational (postRoles P st rep origin origin.device).2 origin.device := by
  obtain ⟨hop', howner⟩ := decodeOps_invariant P origin.device true (ocTlsGetPeer st origin)
    (fun d => Operational d.st origin.device ∧ d.owner = none)
    (fun d op hi hq => decodeOp_operational P origin.device (ocTlsGetPeer st origin) d op hi.1 hi.2 hq)
    (credOps rep) ⟨st, none⟩ ⟨hop, rfl⟩ (hg hs)
  unfold postRoles ocSecDecodeCred
  simp only [Bool.not_true, Bool.false_and, Bool.false_eq_true, reduceIte]
  rcases hd : decodeOps P origin.device true (ocTlsGetPeer st origin) ⟨st, none⟩ (credOps rep) with ⟨_ | _, x⟩
  · rw [hd] at hop' howner
    have hnone : x.owner = none := howner
    simp only [hnone]
    exact hop'
  · rw [hd] at hop'
    exact hop'

/-! ## Whole runs -/

theorem deleteRoles_creds (st : SecState) (credid : Option Int) (origin : OcEndpoint) (d : Nat) :
    Keeps d st (deleteRoles st credid origin).2 := by
  have hfree (addr client : Nat) : Keeps d st (ocSecFreeRole st addr client) := by
    unfold ocSecFreeRole
    split
    · exact .of_eq rfl rfl rfl rfl
    · exact .refl d st
  have hfreeAll (client : Nat) : Keeps d st (ocSecFreeRoles st client) := by
    unfold ocSecFreeRoles
    split
    · exact .refl d st
    · exact .of_eq rfl rfl rfl rfl
  unfold deleteRoles ocSecFreeRoleByCredid
  split
  · split
    · split <;> rename_i heq <;> split at heq <;> cases heq
      · exact hfree _ _
      · exact .refl d st
    · exact .refl d st
  · exact .refl d st
  · exact hfreeAll _
  · exact .refl d st

theorem sessionStep_keeps (P : Platform) (s : Sessions) (e : SessionEvent) (d : Nat)
    (he : ∀ rep origin, e ≠ .postRoles rep origin) : Keeps d s.st (sessionStep P s e).st := by
  have hroles (st : SecState) (client : Nat) : Keeps d st (ocSecFreeRoles st client) := by
    have h := ocSecFreeRoles_frame st client (d + 1)
    exact h.keeps (Nat.ne_of_lt (Nat.lt_succ_self d))
  unfold sessionStep
  cases e with
  | addPeer peer =>
    simp only
    split
    · exact .refl d _
    · exact .of_eq rfl rfl rfl rfl
  | handshake addr uuid publicKey usesPskCred => exact .of_eq rfl rfl rfl rfl
  | freePeer addr =>
    simp only
    split
    · have hpeer : Keeps d s.st { s.st with tlsPeers := s.st.tlsPeers.eraseP (·.addr == addr) } := .of_eq rfl rfl rfl rfl
      exact hpeer.trans (hroles _ addr)
    · exact .refl d _
  | freeInvalidPeer addr =>
    simp only
    split
    · exact .of_eq rfl rfl rfl rfl
    · exact .refl d _
  | postRoles rep origin => exact absurd rfl (he rep origin)
  | deleteRoles credid origin => exact deleteRoles_creds s.st credid origin d
  | freeRolesForDevice device =>
    exact (ocSecFreeRolesForDevice_frame s.st device (d + 1)).keeps (Nat.ne_of_lt (Nat.lt_succ_self d))

/-- A property with one of the names is the text of a UUID that fits its place. -/
def propertyFits (names : List String) : OcRep → Bool
  | .string n v => !names.any (nameIs n) || uuidFits v
  | _ => true

/-- All properties with the names are. -/
def uuidsFit (names : List String) (rep : List OcRep) : Bool := rep.all (propertyFits names)

/-- The owner that an operation of a payload for cred or roles gives fits its place. -/
def opFits (_ : SecState) : CredOp → Bool
  | .rowneruuid v => uuidFits v
  | .entry _ => true

/-- The two steps that bypass the check of RFNOP are not taken: an accepted POST to pstat without a `dos` object leaves a
permitted target mode, and a POST to roles leaves the owners of the device right. And no accepted payload has a UUID that
is written beyond its place. -/
def deviceGuard (P : DevicePlatform) (st : SecState) : DeviceEvent → Prop
  | .postDoxm rep device => rep.all (doxmPropertyAllowed P st false device) →
      uuidsFit ["deviceuuid", "devowneruuid", "rowneruuid"] rep
  | .postPstat rep device => pstatAccepted (st.pstat device).s rep → uuidsFit ["rowneruuid"] rep ∧ pstatGuard st rep device
  | .postAcl rep device => rep.all (aclPropertyAllowed (st.pstat device).s false) → uuidsFit ["rowneruuid"] rep
  | .postCred rep _ device => rep.all (credPropertyAllowed (st.pstat device).s false) →
      allReached P.toPlatform device false none opFits ⟨st, none⟩ (credOps rep)
  | .session (.postRoles rep origin) =>
    allReached P.toPlatform origin.device true (ocTlsGetPeer st origin) opFits ⟨st, none⟩ (credOps rep) ∧
      rolesGuard P.toPlatform st rep origin
  | _ => True

theorem DeviceOk.postRoles {P : DevicePlatform} {st : SecState} {d : Nat} (h : DeviceOk st d) (rep : List OcRep)
    (origin : OcEndpoint) (hg : rolesGuard P.toPlatform st rep origin) :
    DeviceOk (postRoles P.toPlatform st rep origin origin.device).2 d := by
  have hframe := postRoles_frame P.toPlatform st rep origin origin.device
  by_cases hd : d = origin.device
  · subst hd
    constructor
    · intro hs
      rw [hframe.pstat] at hs
      exact postRoles_operational P.toPlatform st rep origin (h.rfnop hs) hs hg
    · intro hs
      rw [hframe.pstat] at hs ⊢
      exact h.others hs
  · exact h.keeps (hframe.keeps hd)

theorem DeviceOk.step {P : DevicePlatform} (hpresets : PresetsKeep P) {st : SecState} {d : Nat} (h : DeviceOk st d)
    (e : DeviceEvent) (hg : deviceGuard P st e) : DeviceOk (deviceStep P st e) d := by
  -- a request keeps the other devices, and in RFNOP it is refused by its own one, apart from pstat and roles
  cases e with
  | postDoxm rep device =>
    obtain ⟨hp, hk⟩ := postDoxm_frame P st rep device
    refine h.of_pstat hp fun hs => ?_
    by_cases hd : d = device
    · subst hd
      exact postDoxm_rfnop P st rep hs
    · exact hk d hd
  | postPstat rep device =>
    by_cases hd : d = device
    · subst hd
      exact h.postPstat hpresets rep fun hacc => (hg hacc).2
    · exact h.keeps (postPstat_keeps hpresets st rep hd)
  | postAcl rep device =>
    have hframe := postAcl_frame P st rep device
    refine h.of_pstat hframe.pstat fun hs => ?_
    by_cases hd : d = device
    · subst hd
      simp only [deviceStep, postAcl_rfnop P st rep hs]
      exact .refl d st
    · exact hframe.keeps hd
  | deleteAcl aceid device =>
    have hframe := deleteAcl_frame st aceid device
    refine h.of_pstat hframe.pstat fun hs => ?_
    by_cases hd : d = device
    · subst hd
      simp only [deviceStep, deleteAcl, hs, beq_self_eq_true, reduceIte]
      exact .refl d st
    · exact hframe.keeps hd
  | postCred rep origin device =>
    have hframe := postCred_frame P st rep origin device
    refine h.of_pstat hframe.pstat fun hs => ?_
    by_cases hd : d = device
    · subst hd
      simp only [deviceStep, postCred_rfnop P st rep origin hs]
      exact .refl d st
    · exact hframe.keeps hd
  | deleteCred credid device =>
    have hframe := deleteCred_frame P.toPlatform st credid device
    refine h.of_pstat hframe.pstat fun hs => ?_
    by_cases hd : d = device
    · subst hd
      simp only [deviceStep, deleteCred, hs, beq_self_eq_true, reduceIte]
      exact .refl d st
    · exact hframe.keeps hd
  | resetDevice device =>
    by_cases hd : d = device
    · subst hd
      exact h.handleState hpresets _
    · exact h.keeps (ocPstatHandleState_keeps hpresets st _ hd)
  | session e =>
    by_cases he : ∃ rep origin, e = .postRoles rep origin
    · obtain ⟨rep, origin, rfl⟩ := he
      by_cases hn : origin.device < st.numDevices
      · simp only [deviceStep, sessionStep, if_pos hn]
        exact h.postRoles rep origin hg.2
      · simp only [deviceStep, sessionStep, if_neg hn]
        exact h
    · push Not at he
      exact h.keeps (sessionStep_keeps P.toPlatform ⟨st, fun _ => []⟩ e d he)

theorem DeviceOk.pstatDefault {P : DevicePlatform} (hpresets : PresetsKeep P) (st : SecState) (d : Nat) :
    DeviceOk (ocSecPstatDefault P st d) d := by
  have hps := ((ocPstatHandleState_reset P st (OcSecPstat.zero .reset) d rfl).2 hpresets).1
  have hdef : (ocSecPstatDefault P st d).pstat d = ⟨.rfotm, false, false, 2, 0, 3, 4, OcUuid.nil⟩ := by
    unfold ocSecPstatDefault
    exact hps
  refine .of_rfotm ?_ ?_
  · rw [hdef]
  · rw [hdef]

/-- From the default state on, a device in RFNOP keeps its promises and no other device is operational,
in every run whose steps meet the guard, if the factory presets only add credentials. -/
theorem device_runs_ok (P : DevicePlatform) (hpresets : PresetsKeep P) (st : SecState) (d : Nat) (events : List DeviceEvent)
    (hg : Runs.Guarded (deviceStep P) (deviceGuard P) (ocSecPstatDefault P st d) events) :
    DeviceOk (Runs.runFrom (deviceStep P) (ocSecPstatDefault P st d) events) d := by
  have hstep : ∀ s e, DeviceOk s d → deviceGuard P s e → DeviceOk (deviceStep P s e) d := fun s e h hg =>
    h.step hpresets e hg
  exact Runs.run_invariant hstep events _ (DeviceOk.pstatDefault hpresets st d) hg

/-! ## Onboarding a device -/

instance (st : SecState) (rep : List OcRep) (device : Nat) : Decidable (pstatGuard st rep device) :=
  inferInstanceAs (Decidable (_ → _ → ∀ v ∈ (tmValues rep).getLast?, BitVec.ofInt 32 v &&& 0xC3 = 0))

instance (P : Platform) (st : SecState) (rep : List OcRep) (origin : OcEndpoint) :
    Decidable (rolesGuard P st rep origin) := inferInstanceAs (Decidable (_ → _))

instance (P : DevicePlatform) (st : SecState) : (e : DeviceEvent) → Decidable (deviceGuard P st e)
  | .postDoxm _ _ | .postAcl _ _ | .postCred _ _ _ => inferInstanceAs (Decidable (_ = true → _ = true))
  | .postPstat rep device => inferInstanceAs (Decidable (_ = true → _ = true ∧ pstatGuard st rep device))
  | .session (.postRoles rep origin) => inferInstanceAs (Decidable (_ = true ∧ rolesGuard P.toPlatform st rep origin))
  | .session (.addPeer _) | .session (.handshake _ _ _ _) | .session (.freePeer _) | .session (.freeInvalidPeer _)
  | .session (.deleteRoles _ _) | .session (.freeRolesForDevice _) | .deleteAcl _ _ | .deleteCred _ _ | .resetDevice _ =>
    .isTrue trivial

/-- The text of the onboarding tool's UUID. -/
def ownerText : OcString := ascii "11111111-1111-1111-1111-111111111111"

/-- A payload that only changes the state. -/
def dosRep (s : Int) : OcRep := .object (some (ascii "dos")) [.int (some (ascii "s")) s]

/-- A property with the given owner. -/
def rownerRep (v : OcString) : OcRep := .string (some (ascii "rowneruuid")) v

/-- A pre-shared key for the device `subject`. -/
def pskRep (credid : Int) (subject : OcString) : List OcRep :=
  [.int (some (ascii "credid")) credid, .int (some (ascii "credtype")) credtypePsk,
   .string (some (ascii "subjectuuid")) subject,
   .object (some (ascii "privatedata"))
    [.byteString (some (ascii "data")) [1, 2, 3, 4], .string (some (ascii "encoding")) (ascii "oic.sec.encoding.raw")]]

/-- An onboarding tool takes the device over and brings it to RFPRO. -/
def onboarding : List DeviceEvent :=
  [.session (.addPeer (sessionPeer [5])),
   .postDoxm [.string (some (ascii "devowneruuid")) ownerText, rownerRep ownerText, .bool (some (ascii "owned")) true] 0,
   .postPstat [rownerRep ownerText] 0,
   .postAcl [rownerRep ownerText] 0,
   .postCred [rownerRep ownerText, .objectArray (some (ascii "creds")) [pskRep 1 ownerText]] sessionEndpoint 0,
   .postPstat [dosRep 2] 0]

/-- The platform of the examples. -/
def plainPlatform : DevicePlatform := DevicePlatform.simple sampleMbedtls 7

/-- The device before anything happens to it. -/
def freshDevice : SecState := ocSecPstatDefault plainPlatform (SecState.empty .reset) 0

/-- The tool onboards the device, puts it into operation and a client asserts a role: the device keeps
what RFNOP promises. -/
theorem device_runs_ok_onboarding :
    let events := onboarding ++ [.postPstat [dosRep 3] 0, .session (.postRoles (roleRep credtypeCert []) sessionEndpoint)]
    ((Runs.runFrom (deviceStep plainPlatform) freshDevice events).pstat 0).s = .rfnop ∧
    DeviceOk (Runs.runFrom (deviceStep plainPlatform) freshDevice events) 0 :=
  ⟨by decide +kernel, device_runs_ok plainPlatform (fun _ h => nomatch h) (SecState.empty .reset) 0 _ (by decide +kernel)⟩

/-- In RFNOP a client names the nil UUID as `rowneruuid` in a POST to roles: the credentials of a device in
RFNOP have no owner. -/
theorem device_runs_owner_lost :
    let events := onboarding ++ [.postPstat [dosRep 3] 0,
      .session (.postRoles [rownerRep (ascii "00000000-0000-0000-0000-000000000000")] sessionEndpoint)]
    ((Runs.runFrom (deviceStep plainPlatform) freshDevice events).pstat 0).s = .rfnop ∧
    ¬DeviceOk (Runs.runFrom (deviceStep plainPlatform) freshDevice events) 0 := by
  intro events
  have hs : ((Runs.runFrom (deviceStep plainPlatform) freshDevice events).pstat 0).s = .rfnop := by decide +kernel
  refine ⟨hs, fun h => (h.rfnop hs).credOwner ?_⟩
  decide +kernel

end SmartGarage
