/-
`verify_certificate` of `oc_tls.c`, the callback with which a peer's chain is authorised: mbedTLS
calls it for each certificate of the chain, from the root down to the end entity, and the calls
share the trust anchor stored in `ctx` of the session's identity certificate.
-/
import SmartGarage.Security.State
import Mathlib.Tactic.Tauto

namespace SmartGarage

/-! ## The callback -/

/-- `oc_x509_crt_t`: an own certificate chain, with the trust anchor that the last handshake in which
one was recognised has left in `ctx`. -/
structure OcX509Crt where
  device : Nat
  cred : OcSecCred
  ctx : Option OcX509Cacrt
deriving DecidableEq

/-- What the callbacks of one handshake share: the own chain of the session, if it has one
(`get_identity_cert_for_session`), and the peer. -/
structure Handshake where
  idCert : Option OcX509Crt
  peer : OcTlsPeer
deriving DecidableEq

/-- The loop at `depth > 0`: the first trust anchor of the identity certificate's device with the
usage `trustca` that equals `crt` is stored in `ctx`. -/
def storeTrustca (caCerts : List OcX509Cacrt) (id : OcX509Crt) (crt : Crt) : OcX509Crt :=
  match caCerts.find? fun ca => ca.device == id.device && ca.cred.credusage == .trustca && crt.raw == ca.cert.crt.raw with
  | some ca => { id with ctx := some ca }
  | none => id

/-- The loop at depth 0, as whether it ends with `ca_cert != NULL`: its condition ends it at the first
entry of another device or another usage. -/
def findTrustca (device : Nat) (root : Crt) (uuid : OcUuid) : List OcX509Cacrt → Bool
  | [] => false
  | ca :: l =>
    if ca.device = device ∧ ca.cred.credusage = .trustca then
      if root.raw = ca.cert.crt.raw then
        if ca.cred.subjectuuid ≠ uuid then
          if ca.cred.subjectuuid ≠ OcUuid.wildcard then findTrustca device root uuid l else true
        else true
      else findTrustca device root uuid l
    -- the loop ends here with `ca_cert` pointing to a foreign entry
    else true

/-- `verify_certificate` at `depth > 0`. -/
def verifyIssuer (m : Mbedtls) (st : SecState) (h : Handshake) (crt : Crt) (depth : Nat) : Bool × Handshake :=
  let isOtm := (st.pstat h.peer.endpoint.device).s == .rfotm
  -- what fails as a root may pass as an intermediate, and then leaves `ctx` alone
  if !ocCertsValidateNonEndEntityCert m crt true isOtm depth then
    (ocCertsValidateNonEndEntityCert m crt false isOtm depth, h)
  else match h.idCert with
    | some id =>
      if id.cred.credusage = .identityCert then (true, { h with idCert := some (storeTrustca st.caCerts id crt) })
      else (true, h)
    | none => (true, h)

/-- The peer's UUID as `verify_certificate` takes it from the end entity: without a UUID in the CN a
session with an identity certificate fails, and any other has the peer `*`. -/
def peerUuid (h : Handshake) (crt : Crt) : Option OcUuid :=
  match ocCertsParseCNForUUID crt with
  | some uuid => some (ocStrToUuid uuid h.peer.uuid)
  | none =>
    if h.idCert.any (·.cred.credusage == .identityCert) then none
    else some h.peer.uuid.setStar

/-- The authorisation of the peer at depth 0, for sessions with an own chain that is no
manufacturer's. -/
def peerAuthorized (caCerts : List OcX509Cacrt) (idCert : Option OcX509Crt) (uuid : OcUuid) : Bool :=
  match idCert with
  | none => true
  | some id =>
    if id.cred.credusage = .mfgCert then true
    else match id.ctx with
      | none => false
      | some ca => findTrustca id.device ca.cert.crt uuid caCerts

/-- `verify_certificate` at depth 0. -/
def verifyEndEntity (m : Mbedtls) (st : SecState) (h : Handshake) (crt : Crt) : Bool × Handshake :=
  if !ocCertsValidateEndEntityCert m crt then (false, h)
  else match peerUuid h crt with
    | none => (false, h)
    | some uuid =>
      let h := { h with peer := { h.peer with uuid := uuid } }
      match crt.pubkeyDer with
      | none => (false, h)
      | some key =>
        -- the peer has its new UUID and key also where it is not authorised
        (peerAuthorized st.caCerts h.idCert uuid, { h with peer := { h.peer with publicKey := key } })

/-- `verify_certificate`; the result is `true` where it returns 0. -/
def verifyCertificate (m : Mbedtls) (st : SecState) (h : Handshake) (crt : Crt) (depth : Nat) : Bool × Handshake :=
  if depth > 0 then verifyIssuer m st h crt depth else verifyEndEntity m st h crt

/-- The calls mbedTLS makes for a chain, root first: the first failure ends the handshake. -/
def verifyChain (m : Mbedtls) (st : SecState) : Handshake → List Crt → Bool × Handshake
  | h, [] => (true, h)
  | h, crt :: rest =>
    match verifyCertificate m st h crt rest.length with
    | (true, h') => verifyChain m st h' rest
    | (false, h') => (false, h')

/-! ## What the callbacks decide -/

/-- A trust anchor of the device with the usage `trustca`. -/
def OwnTrustca (device : Nat) (ca : OcX509Cacrt) : Prop :=
  ca.device = device ∧ ca.cred.credusage = .trustca

/-- A trust anchor of the device that authorises the peer `uuid` under the root `root`. -/
def Authorizes (device : Nat) (root : Crt) (uuid : OcUuid) (ca : OcX509Cacrt) : Prop :=
  OwnTrustca device ca ∧ ca.cert.crt.raw = root.raw ∧
    (ca.cred.subjectuuid = uuid ∨ ca.cred.subjectuuid = OcUuid.wildcard)

theorem findTrustca_iff (device : Nat) (root : Crt) (uuid : OcUuid) : ∀ (l : List OcX509Cacrt),
    findTrustca device root uuid l = true ↔ ∃ ca ∈ l, ¬OwnTrustca device ca ∨ Authorizes device root uuid ca
  | [] => by simp [findTrustca]
  | ca :: l => by
    unfold findTrustca
    rw [List.exists_mem_cons_iff, ← findTrustca_iff device root uuid l]
    by_cases ho : ca.device = device ∧ ca.cred.credusage = .trustca
    · rw [if_pos ho]
      by_cases hr : root.raw = ca.cert.crt.raw
      · by_cases hu : ca.cred.subjectuuid = uuid
        · simp [OwnTrustca, Authorizes, ho, hr, hu]
        · by_cases hw : ca.cred.subjectuuid = OcUuid.wildcard <;> simp [OwnTrustca, Authorizes, ho, hr, hu, hw]
      · simp [OwnTrustca, Authorizes, ho, hr, Ne.symm hr]
    · rw [if_neg ho]
      simp [OwnTrustca, ho]

/-- The checks on the certificates alone: each issuer passes as a root or as an intermediate, and the
end entity passes and has a UUID in its CN and a public key. -/
def chainValid (m : Mbedtls) (isOtm : Bool) : List Crt → Bool
  | [] => true
  | [leaf] => ocCertsValidateEndEntityCert m leaf && (ocCertsParseCNForUUID leaf).isSome && leaf.pubkeyDer.isSome
  | crt :: rest =>
    (ocCertsValidateNonEndEntityCert m crt true isOtm rest.length ||
      ocCertsValidateNonEndEntityCert m crt false isOtm rest.length) && chainValid m isOtm rest

/-- The trust anchor in `ctx` after the issuers of a chain: of those that pass as a root and equal a
`trustca` of the device the one next to the end entity, or else what an earlier handshake left. -/
def storedTrustca (m : Mbedtls) (isOtm : Bool) (caCerts : List OcX509Cacrt) (id : OcX509Crt) : List Crt → OcX509Crt
  | [] => id
  | [_] => id
  | crt :: rest =>
    storedTrustca m isOtm caCerts
      (if ocCertsValidateNonEndEntityCert m crt true isOtm rest.length then storeTrustca caCerts id crt else id) rest

/-- The UUID in the CN of the chain's end entity, written over the peer's previous one. -/
def chainUuid (previous : OcUuid) (chain : List Crt) : Option OcUuid :=
  (chain.getLast?.bind ocCertsParseCNForUUID).map (ocStrToUuid · previous)

@[simp] theorem storeTrustca_device (caCerts : List OcX509Cacrt) (id : OcX509Crt) (crt : Crt) :
    (storeTrustca caCerts id crt).device = id.device := by
  unfold storeTrustca; split <;> rfl

@[simp] theorem storeTrustca_cred (caCerts : List OcX509Cacrt) (id : OcX509Crt) (crt : Crt) :
    (storeTrustca caCerts id crt).cred = id.cred := by
  unfold storeTrustca; split <;> rfl

theorem verifyIssuer_eq (m : Mbedtls) (st : SecState) (id : OcX509Crt) (peer : OcTlsPeer) (crt : Crt) (depth : Nat)
    (hid : id.cred.credusage = .identityCert) :
    let isOtm := (st.pstat peer.endpoint.device).s == .rfotm
    verifyIssuer m st ⟨some id, peer⟩ crt depth =
      (ocCertsValidateNonEndEntityCert m crt true isOtm depth || ocCertsValidateNonEndEntityCert m crt false isOtm depth,
        ⟨some (if ocCertsValidateNonEndEntityCert m crt true isOtm depth then storeTrustca st.caCerts id crt else id),
          peer⟩) := by
  unfold verifyIssuer
  cases hr : ocCertsValidateNonEndEntityCert m crt true ((st.pstat peer.endpoint.device).s == .rfotm) depth <;>
    simp [hr, hid]

theorem verifyEndEntity_spec (m : Mbedtls) (st : SecState) (id : OcX509Crt) (peer : OcTlsPeer) (leaf : Crt)
    (hid : id.cred.credusage = .identityCert) :
    let r := verifyEndEntity m st ⟨some id, peer⟩ leaf
    (r.1 = true ↔ chainValid m ((st.pstat peer.endpoint.device).s == .rfotm) [leaf] = true ∧
      ∃ ca uuid, id.ctx = some ca ∧ chainUuid peer.uuid [leaf] = some uuid ∧
        findTrustca id.device ca.cert.crt uuid st.caCerts = true) ∧
    (r.1 = true → chainUuid peer.uuid [leaf] = some r.2.peer.uuid) := by
  unfold verifyEndEntity peerUuid chainUuid peerAuthorized chainValid
  cases hv : ocCertsValidateEndEntityCert m leaf with
  | false => simp
  | true =>
    cases hc : ocCertsParseCNForUUID leaf with
    | none => simp [hc, hid]
    | some cn =>
      cases hk : leaf.pubkeyDer with
      | none => simp
      | some key =>
        cases hx : id.ctx with
        | none => simp [hid, hx]
        | some ca => simp [hid, hx, hc]

/-- The own chain after one issuer. -/
def afterIssuer (m : Mbedtls) (isOtm : Bool) (caCerts : List OcX509Cacrt) (id : OcX509Crt) (crt : Crt) (depth : Nat) :
    OcX509Crt :=
  if ocCertsValidateNonEndEntityCert m crt true isOtm depth then storeTrustca caCerts id crt else id

theorem chainValid_cons_cons (m : Mbedtls) (isOtm : Bool) (crt c : Crt) (rest : List Crt) :
    chainValid m isOtm (crt :: c :: rest) =
      ((ocCertsValidateNonEndEntityCert m crt true isOtm (c :: rest).length ||
        ocCertsValidateNonEndEntityCert m crt false isOtm (c :: rest).length) && chainValid m isOtm (c :: rest)) := rfl

theorem storedTrustca_cons_cons (m : Mbedtls) (isOtm : Bool) (caCerts : List OcX509Cacrt) (id : OcX509Crt) (crt c : Crt)
    (rest : List Crt) : storedTrustca m isOtm caCerts id (crt :: c :: rest) =
      storedTrustca m isOtm caCerts (afterIssuer m isOtm caCerts id crt (c :: rest).length) (c :: rest) := rfl

theorem chainUuid_cons_cons (previous : OcUuid) (crt c : Crt) (rest : List Crt) :
    chainUuid previous (crt :: c :: rest) = chainUuid previous (c :: rest) := by
  unfold chainUuid
  rw [List.getLast?_cons_cons]

theorem verifyChain_singleton (m : Mbedtls) (st : SecState) (h : Handshake) (leaf : Crt) :
    verifyChain m st h [leaf] = verifyEndEntity m st h leaf := by
  simp only [verifyChain, verifyCertificate, List.length_nil, gt_iff_lt, Nat.lt_irrefl, reduceIte]
  rcases verifyEndEntity m st h leaf with ⟨_ | _, h'⟩ <;> rfl

theorem verifyChain_cons_cons (m : Mbedtls) (st : SecState) (id : OcX509Crt) (peer : OcTlsPeer) (crt c : Crt)
    (rest : List Crt) (hid : id.cred.credusage = .identityCert) :
    let isOtm := (st.pstat peer.endpoint.device).s == .rfotm
    let h' : Handshake := ⟨some (afterIssuer m isOtm st.caCerts id crt (c :: rest).length), peer⟩
    verifyChain m st ⟨some id, peer⟩ (crt :: c :: rest) =
      if ocCertsValidateNonEndEntityCert m crt true isOtm (c :: rest).length ||
        ocCertsValidateNonEndEntityCert m crt false isOtm (c :: rest).length
      then verifyChain m st h' (c :: rest) else (false, h') := by
  have hstep : verifyCertificate m st ⟨some id, peer⟩ crt (c :: rest).length =
      verifyIssuer m st ⟨some id, peer⟩ crt (c :: rest).length := by
    unfold verifyCertificate
    rw [if_pos (by simp)]
  intro isOtm h'
  rw [verifyChain, hstep, verifyIssuer_eq m st id peer crt _ hid]
  generalize ocCertsValidateNonEndEntityCert m crt false _ _ = b
  cases hr : ocCertsValidateNonEndEntityCert m crt true isOtm (c :: rest).length <;> cases b <;>
    simp [isOtm, h', afterIssuer] at hr ⊢ <;> simp [hr]

/-- All calls for a chain, in a session with an identity certificate: the chain is accepted iff its
certificates pass and the last loop accepts the trust anchor stored by then. -/
theorem verifyChain_spec (m : Mbedtls) (st : SecState) (peer : OcTlsPeer) (isOtm : Bool)
    (hotm : isOtm = ((st.pstat peer.endpoint.device).s == .rfotm)) (chain : List Crt) (id : OcX509Crt)
    (hid : id.cred.credusage = .identityCert) (hne : chain ≠ []) :
    ((verifyChain m st ⟨some id, peer⟩ chain).1 = true ↔ chainValid m isOtm chain = true ∧
      ∃ ca uuid, (storedTrustca m isOtm st.caCerts id chain).ctx = some ca ∧ chainUuid peer.uuid chain = some uuid ∧
        findTrustca id.device ca.cert.crt uuid st.caCerts = true) ∧
    ((verifyChain m st ⟨some id, peer⟩ chain).1 = true →
      chainUuid peer.uuid chain = some (verifyChain m st ⟨some id, peer⟩ chain).2.peer.uuid) := by
  induction chain generalizing id with
  | nil => exact absurd rfl hne
  | cons crt rest ih =>
    cases rest with
    | nil =>
      rw [verifyChain_singleton, hotm]
      exact verifyEndEntity_spec m st id peer crt hid
    | cons c rest =>
      have hcred : (afterIssuer m isOtm st.caCerts id crt (c :: rest).length).cred.credusage = .identityCert := by
        unfold afterIssuer; split <;> simp [hid]
      have hdev : (afterIssuer m isOtm st.caCerts id crt (c :: rest).length).device = id.device := by
        unfold afterIssuer; split <;> simp
      have ih := ih _ hcred (by simp)
      rw [hdev] at ih
      rw [verifyChain_cons_cons m st id peer crt c rest hid, chainValid_cons_cons, storedTrustca_cons_cons,
        chainUuid_cons_cons, ← hotm, Bool.and_eq_true]
      cases hp : ocCertsValidateNonEndEntityCert m crt true isOtm (c :: rest).length ||
          ocCertsValidateNonEndEntityCert m crt false isOtm (c :: rest).length with
      | false => simp
      | true => simpa only [reduceIte, true_and] using ih

/-! ## Authorisation by the root of the peer's own chain -/

/-- If the chain is accepted, a `trustca` entry of the session's device has the chain's root and the
peer's UUID or the wildcard. -/
def AuthorizedByRoot (m : Mbedtls) (st : SecState) (id : OcX509Crt) (peer : OcTlsPeer) (root : Crt)
    (rest : List Crt) : Prop :=
  (verifyChain m st ⟨some id, peer⟩ (root :: rest)).1 = true →
    ∃ ca ∈ st.caCerts, Authorizes id.device root (verifyChain m st ⟨some id, peer⟩ (root :: rest)).2.peer.uuid ca

/-- Where the search at depth 0 cannot go wrong on a chain whose certificates pass, for the stored
trust anchor and the peer's UUID: the root has an authorising entry anyway, or no entry ends the
loop, neither one that is no `trustca` of the device nor one that authorises under the stored anchor. -/
def SearchHarmless (m : Mbedtls) (st : SecState) (id : OcX509Crt) (peer : OcTlsPeer) (root : Crt)
    (rest : List Crt) : Prop :=
  let isOtm := (st.pstat peer.endpoint.device).s == .rfotm
  chainValid m isOtm (root :: rest) = true → ∀ stored uuid,
    (storedTrustca m isOtm st.caCerts id (root :: rest)).ctx = some stored →
    chainUuid peer.uuid (root :: rest) = some uuid →
    (∃ ca ∈ st.caCerts, Authorizes id.device root uuid ca) ∨
    ∀ ca ∈ st.caCerts, OwnTrustca id.device ca ∧ ¬Authorizes id.device stored.cert.crt uuid ca

/-- For every list of trust anchors, every trust anchor left by earlier handshakes and every chain:
the acceptance is justified by the chain's own root iff the search is harmless. -/
theorem verifyChain_authorized_iff (m : Mbedtls) (st : SecState) (id : OcX509Crt) (peer : OcTlsPeer) (root : Crt)
    (rest : List Crt) (hid : id.cred.credusage = .identityCert) :
    AuthorizedByRoot m st id peer root rest ↔ SearchHarmless m st id peer root rest := by
  obtain ⟨haccept, huuid⟩ := verifyChain_spec m st peer _ rfl (root :: rest) id hid (by simp)
  simp only [AuthorizedByRoot, SearchHarmless]
  constructor
  · intro h hvalid stored uuid hs hu
    by_cases hex : ∃ ca ∈ st.caCerts, ¬OwnTrustca id.device ca ∨ Authorizes id.device stored.cert.crt uuid ca
    · have hacc := haccept.2 ⟨hvalid, stored, uuid, hs, hu, (findTrustca_iff _ _ _ _).2 hex⟩
      have hpeer := huuid hacc
      rw [hu, Option.some.injEq] at hpeer
      exact .inl (hpeer ▸ h hacc)
    · push Not at hex
      exact .inr fun ca hca => ⟨(hex ca hca).1, (hex ca hca).2⟩
  · intro h hacc
    obtain ⟨hvalid, stored, uuid, hs, hu, hfind⟩ := haccept.1 hacc
    have hpeer := huuid hacc
    rw [hu, Option.some.injEq] at hpeer
    rw [← hpeer]
    rcases h hvalid stored uuid hs hu with hroot | hnone
    · exact hroot
    · obtain ⟨ca, hca, hbad⟩ := (findTrustca_iff _ _ _ _).1 hfind
      rcases hbad with hforeign | hauth
      · exact absurd (hnone ca hca).1 hforeign
      · exact absurd hauth (hnone ca hca).2

/-! ## A root that is not trusted for the peer -/

/-- A self-signed certificate that passes as a root. -/
def sampleRoot : Crt where
  raw := [1]
  version := 3
  sigMdIsSha256 := true
  sigPkIsEcdsa := true
  curveIsSecp256r1 := true
  validFrom := 0
  validTo := 100
  issuerRaw := ascii "Root"
  subjectRaw := ascii "Root"
  issuer := []
  subject := []
  subjectAltNames := []
  keyUsage := kuKeyCertSign
  caIstrue := true
  maxPathlen := 0
  extKeyUsage := none
  pubkeyDer := some [1]

/-- An identity certificate of the device `11111111-1111-1111-1111-111111111111`. -/
def sampleIdentity : Crt where
  raw := [2]
  version := 3
  sigMdIsSha256 := true
  sigPkIsEcdsa := true
  curveIsSecp256r1 := true
  validFrom := 0
  validTo := 100
  issuerRaw := ascii "Root"
  subjectRaw := ascii "Device"
  issuer := []
  subject := [⟨oidAtCn, ascii "11111111-1111-1111-1111-111111111111", []⟩]
  subjectAltNames := []
  keyUsage := kuDigitalSignature ||| kuKeyAgreement
  caIstrue := false
  maxPathlen := 0
  extKeyUsage := some [oidServerAuth, oidClientAuth, identityCertOid]
  pubkeyDer := some [2]

/-- A trust anchor entry of device 0. -/
def sampleAnchor (usage : OcSecCredusage) (subject : OcUuid) (crt : Crt) : OcX509Cacrt :=
  ⟨0, { OcSecCred.zero 1 with credusage := usage, subjectuuid := subject }, ⟨1, crt⟩⟩

/-- The own identity certificate of device 0, before its first handshake. -/
def sampleIdCert : OcX509Crt := ⟨0, { OcSecCred.zero 2 with credusage := .identityCert }, none⟩

/-- A peer before its handshake. -/
def samplePeer : OcTlsPeer := ⟨1, OcEndpoint.zero, OcUuid.nil, [], false⟩

/-- A device in RFNOP with the given trust anchors. -/
def anchorState (l : List OcX509Cacrt) : SecState := { SecState.empty .rfnop with caCerts := l }

/-- The only `trustca` is for another subject, but the manufacturer's trust anchor behind it ends the
search, and the peer is accepted. -/
theorem verifyChain_foreign_anchor_accepts :
    sampleIdCert.cred.credusage = .identityCert ∧
    ¬AuthorizedByRoot Mbedtls.rejecting
      (anchorState [sampleAnchor .trustca OcUuid.nil sampleRoot, sampleAnchor .mfgTrustca OcUuid.nil sampleIdentity])
      sampleIdCert samplePeer sampleRoot [sampleIdentity] := by
  refine ⟨rfl, fun h => ?_⟩
  obtain ⟨ca, hca, ⟨-, husage⟩, -, hsub⟩ := h (by decide +kernel)
  revert hca husage hsub
  generalize huuid : (verifyChain _ _ _ _).2.peer.uuid = uuid
  have hne : uuid ≠ OcUuid.nil := by rw [← huuid]; decide +kernel
  intro hca husage hsub
  simp only [anchorState, List.mem_cons, List.not_mem_nil, or_false] at hca
  rcases hca with rfl | rfl
  · rcases hsub with hsub | hsub
    · exact hne hsub.symm
    · revert hsub; decide
  · cases husage

/-- With a wildcard `trustca` for the root in the list, the other entry does no harm. -/
theorem verifyChain_wildcard_anchor :
    AuthorizedByRoot Mbedtls.rejecting
      (anchorState [sampleAnchor .trustca OcUuid.wildcard sampleRoot, sampleAnchor .mfgTrustca OcUuid.nil sampleIdentity])
      sampleIdCert samplePeer sampleRoot [sampleIdentity] :=
  (verifyChain_authorized_iff _ _ sampleIdCert samplePeer sampleRoot [sampleIdentity] rfl).2 fun _ _ _ _ _ =>
    .inl ⟨sampleAnchor .trustca OcUuid.wildcard sampleRoot, List.mem_cons_self, ⟨rfl, rfl⟩, rfl, .inr rfl⟩

end SmartGarage
