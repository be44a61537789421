/-
The effect of a POST to `/oic/sec/roles`. The constructor itself only touches the client's role
list, but the decoder it is called from also handles a `rowneruuid`, and looks the returned id up
among the device's credentials; the theorem says when neither does any harm.
-/
import SmartGarage.Security.RoleOutcome

namespace SmartGarage

/-! ## The frame -/

/-- Nothing but the role list of the client has changed. -/
structure OnlyRolesOf (client : Option OcTlsPeer) (st st' : SecState) : Prop where
  numDevices : st'.numDevices = st.numDevices
  pstat : st'.pstat = st.pstat
  doxm : st'.doxm = st.doxm
  aclist : st'.aclist = st.aclist
  creds : st'.creds = st.creds
  keypairs : st'.keypairs = st.keypairs
  tlsPeers : st'.tlsPeers = st.tlsPeers
  caCerts : st'.caCerts = st.caCerts
  trustAnchors : st'.trustAnchors = st.trustAnchors
  otherRoles : ∀ c, (∀ p ∈ client, c ≠ p.addr) → ocSecGetRoles st' c = ocSecGetRoles st c

theorem OnlyRolesOf.refl (client : Option OcTlsPeer) (st : SecState) : OnlyRolesOf client st st :=
  ⟨rfl, rfl, rfl, rfl, rfl, rfl, rfl, rfl, rfl, fun _ _ => rfl⟩

theorem OnlyRolesOf.trans {client : Option OcTlsPeer} {a b c : SecState} (h₁ : OnlyRolesOf client a b)
    (h₂ : OnlyRolesOf client b c) : OnlyRolesOf client a c :=
  ⟨h₂.numDevices.trans h₁.numDevices, h₂.pstat.trans h₁.pstat, h₂.doxm.trans h₁.doxm, h₂.aclist.trans h₁.aclist,
    h₂.creds.trans h₁.creds, h₂.keypairs.trans h₁.keypairs, h₂.tlsPeers.trans h₁.tlsPeers,
    h₂.caCerts.trans h₁.caCerts, h₂.trustAnchors.trans h₁.trustAnchors,
    fun p hp => (h₂.otherRoles p hp).trans (h₁.otherRoles p hp)⟩

theorem RoleOutcome.onlyRoles {P : Platform} {st : SecState} {device : Nat} {client : OcTlsPeer} {a : CredArgs}
    {x : Int × SecState} (h : RoleOutcome P st device client a x) : OnlyRolesOf (some client) st x.2 := by
  cases h with
  | refused => exact .refl _ _
  | duplicate => exact .refl _ _
  | dropped =>
    exact ⟨rfl, rfl, rfl, rfl, rfl, rfl, rfl, rfl, rfl, fun c _ => rolesOf_entered _ _ _ c⟩
  | asserted =>
    exact ⟨rfl, rfl, rfl, rfl, rfl, rfl, rfl, rfl, rfl, fun c hc => rolesOf_appendRole_ne st device client _ (hc client rfl)⟩
  | broken =>
    exact ⟨rfl, rfl, rfl, rfl, rfl, rfl, rfl, rfl, rfl, fun c hc => rolesOf_appendRole_ne st device client _ (hc client rfl)⟩

theorem ocSecAddNewCred_noClient (P : Platform) (st : SecState) (device : Nat) (a : CredArgs) :
    ocSecAddNewCred P st device true none a = (-1, st) := by
  unfold ocSecAddNewCred
  cases argsPublicKey P.mbedtls a <;> rfl

/-! ## Harmless operations -/

/-- The lookup by id after the entry was accepted changes nothing: no credential of the device has the
id, or the one that has it has the entry's flag already and is not taken for the owner's. -/
def lookupHarmless (st : SecState) (device : Nat) (credid : Int) (e : CredEntry) : Bool :=
  match ocSecGetCredByCredid st credid device with
  | none => true
  | some c => c.ownerCred == e.ownerCred && !(e.args.credtype == credtypePsk && e.args.privatedata == [])

/-- The operation of a role payload changes nothing but the role list: a `rowneruuid` is the present
one, and the id of an accepted entry does not hit a credential of the device. -/
def opHarmless (P : Platform) (device : Nat) (client : Option OcTlsPeer) (st : SecState) : CredOp → Bool
  | .rowneruuid v => ocStrToUuid v (st.creds device).rowneruuid == (st.creds device).rowneruuid
  | .entry item =>
    match decodeEntry item, client with
    | some e, some p => item.isEmpty || !roleAccepted P st p e.args || lookupHarmless st device (roleCredid P st p e.args) e
    | _, _ => true

theorem setCreds_self (st : SecState) (device : Nat) : st.setCreds device (st.creds device) = st := by
  unfold SecState.setCreds
  rw [Function.update_eq_self]

theorem setOwnerCred_same {st : SecState} {credid : Int} {device : Nat} {c : OcSecCred}
    (h : ocSecGetCredByCredid st credid device = some c) : setOwnerCred st credid device c.ownerCred = st := by
  obtain ⟨pre, post, hl, hm, -⟩ := Search.modify_of_find? (fun d : OcSecCred => d.credid == credid)
    (fun d : OcSecCred => { d with ownerCred := c.ownerCred }) (st.creds device).creds h
  unfold setOwnerCred
  simp only [hm]
  rw [← hl]
  exact setCreds_self st device

theorem markOwner_harmless {d : Decoding} {e : CredEntry} {credid : Int} {device : Nat}
    (h : lookupHarmless d.st device credid e = true) : markOwner d e credid device = d := by
  unfold lookupHarmless at h
  unfold markOwner
  cases hc : ocSecGetCredByCredid d.st credid device with
  | none => rfl
  | some c =>
    rw [hc] at h
    simp only [Bool.and_eq_true, beq_iff_eq, Bool.not_eq_true', Bool.and_eq_false_iff, beq_eq_false_iff_ne] at h
    obtain ⟨hflag, howner⟩ := h
    have hnot : ¬(e.args.credtype = credtypePsk ∧ e.args.privatedata = []) := by
      rintro ⟨h1, h2⟩
      rcases howner with h | h
      · exact h h1
      · exact h h2
    simp only [if_neg hnot]
    rw [← hflag, setOwnerCred_same hc]

theorem decodeOp_onlyRoles (P : Platform) (device : Nat) (client : Option OcTlsPeer) (d : Decoding) (op : CredOp)
    (h : opHarmless P device client d.st op = true) (ho : d.owner = none) :
    OnlyRolesOf client d.st (decodeOp P device true client d op).2.st ∧
    (decodeOp P device true client d op).2.owner = none := by
  cases op with
  | rowneruuid v =>
    have hv : ocStrToUuid v (d.st.creds device).rowneruuid = (d.st.creds device).rowneruuid := by
      simpa [opHarmless] using h
    simp only [decodeOp, hv]
    exact ⟨by rw [setCreds_self]; exact .refl _ _, ho⟩
  | entry item =>
    rcases decodeOp_entry_cases P device true client d item with heq | ⟨e, he, hi, heq⟩
    · rw [heq]
      exact ⟨.refl _ _, ho⟩
    · rw [heq]
      cases client with
      | none =>
        simp only [ocSecAddNewCred_noClient, reduceIte]
        exact ⟨.refl _ _, ho⟩
      | some p =>
        have hout := ocSecAddNewCred_outcome P d.st device p e.args
        have hframe := hout.onlyRoles
        by_cases hid : (ocSecAddNewCred P d.st device true (some p) e.args).1 = -1
        · simp only [hid, reduceIte]
          exact ⟨hframe, ho⟩
        · obtain ⟨hacc, hcredid⟩ := hout.accepted hid
          have hlook : lookupHarmless d.st device (roleCredid P d.st p e.args) e = true := by
            simpa [opHarmless, he, hi, hacc] using h
          simp only [hid, reduceIte]
          rw [markOwner_harmless]
          · exact ⟨hframe, ho⟩
          · rw [hcredid]
            unfold lookupHarmless ocSecGetCredByCredid at hlook ⊢
            rw [hframe.creds]
            exact hlook

/-- A POST to `/oic/sec/roles` whose operations are all harmless changes only the role list of the
peer it comes from. -/
theorem postRoles_onlyRoles (P : Platform) (st : SecState) (rep : List OcRep) (origin : OcEndpoint) (device : Nat)
    (h : allReached P device true (ocTlsGetPeer st origin) (opHarmless P device (ocTlsGetPeer st origin)) ⟨st, none⟩
      (credOps rep) = true) :
    OnlyRolesOf (ocTlsGetPeer st origin) st (postRoles P st rep origin device).2 := by
  obtain ⟨hframe, howner⟩ := decodeOps_invariant P device true (ocTlsGetPeer st origin)
    (fun d => OnlyRolesOf (ocTlsGetPeer st origin) st d.st ∧ d.owner = none)
    (fun d op hi hq =>
      let hop := decodeOp_onlyRoles P device (ocTlsGetPeer st origin) d op hq hi.2
      ⟨hi.1.trans hop.1, hop.2⟩)
    (credOps rep) ⟨st, none⟩ ⟨.refl _ _, rfl⟩ h
  unfold postRoles ocSecDecodeCred
  simp only [Bool.not_true, Bool.false_and, Bool.false_eq_true, reduceIte]
  rcases hd : decodeOps P device true (ocTlsGetPeer st origin) ⟨st, none⟩ (credOps rep) with ⟨_ | _, d⟩
  · rw [hd] at hframe howner
    have hnone : d.owner = none := howner
    simp only [hnone]
    exact hframe
  · rw [hd] at hframe
    exact hframe

/-! ## A payload that takes over the credential resource -/

/-- A role certificate for the role `user` of the authority `A`, issued to the device
`11111111-1111-1111-1111-111111111111`. -/
def sampleRoleCrt : Crt where
  raw := [3]
  version := 3
  sigMdIsSha256 := true
  sigPkIsEcdsa := true
  curveIsSecp256r1 := true
  validFrom := 0
  validTo := 100
  issuerRaw := ascii "Root"
  subjectRaw := ascii "Device"
  issuer := []
  subject := [⟨oidAtCn, ascii "11111111-1111-1111-1111-111111111111", []⟩]
  subjectAltNames := [.directoryName [⟨oidAtCn, ascii "user", []⟩, ⟨oidAtOrgUnit, ascii "A", []⟩]]
  keyUsage := kuDigitalSignature ||| kuKeyAgreement
  caIstrue := false
  maxPathlen := 0
  extKeyUsage := some [oidServerAuth, oidClientAuth, roleCertOid]
  pubkeyDer := some [5]

/-- An mbedTLS that parses the buffer `CERT` to the role certificate and rejects any other. -/
def sampleMbedtls : Mbedtls := ⟨fun buf => if buf = ascii "CERT" then (0, [sampleRoleCrt]) else (-8576, []), fun _ _ => true, 0⟩

/-- The endpoint of a TLS session over IPv6. -/
def sessionEndpoint : OcEndpoint :=
  { OcEndpoint.zero with flags := { TransportFlags.zero with secured := true, ipv6 := true }, port := 5684 }

/-- A certificate session of the device `11111111-1111-1111-1111-111111111111` with the public key `key`. -/
def sessionPeer (key : OcString) : OcTlsPeer :=
  ⟨1, sessionEndpoint, ocStrToUuid (ascii "11111111-1111-1111-1111-111111111111") OcUuid.nil, key, false⟩

/-- A device in RFNOP with that peer and one PSK credential. -/
def sessionState (key : OcString) : SecState :=
  { (SecState.empty .rfnop).setCreds 0 ⟨[{ OcSecCred.zero 7 with credid := 5, credtype := credtypePsk }], OcUuid.nil⟩ with
    tlsPeers := [sessionPeer key], liveCreds := [7], draws := 1 }

/-- A payload with one role entry: the given credential type and the role certificate. -/
def roleRep (credtype : Int) (more : List OcRep) : List OcRep :=
  [.objectArray (some (ascii "roles")) [
    [.int (some (ascii "credtype")) credtype,
     .string (some (ascii "credusage")) (ascii "oic.sec.cred.rolecert"),
     .object (some (ascii "publicdata"))
      [.string (some (ascii "encoding")) (ascii "oic.sec.encoding.pem"), .string (some (ascii "data")) (ascii "CERT")]]
    ++ more]]

/-- Any peer can make itself the owner of the cred resource by a POST to `/oic/sec/roles`. -/
theorem postRoles_sets_rowneruuid :
    let st := sessionState [5]
    let rep := [OcRep.string (some (ascii "rowneruuid")) (ascii "11111111-1111-1111-1111-111111111111")]
    ocTlsGetPeer st sessionEndpoint = some (sessionPeer [5]) ∧
    ¬OnlyRolesOf (some (sessionPeer [5])) st
      (postRoles (Platform.simple sampleMbedtls) st rep sessionEndpoint 0).2 := by
  refine ⟨by decide +kernel, fun h => ?_⟩
  have hcreds := congrArg (fun creds => (creds 0).rowneruuid) h.creds
  revert hcreds
  decide +kernel

/-- The assertion of the role alone does nothing else. -/
theorem postRoles_role_only :
    OnlyRolesOf (ocTlsGetPeer (sessionState [5]) sessionEndpoint) (sessionState [5])
      (postRoles (Platform.simple sampleMbedtls) (sessionState [5]) (roleRep credtypeCert []) sessionEndpoint 0).2 :=
  postRoles_onlyRoles _ _ _ _ _ (by decide +kernel)

end SmartGarage
