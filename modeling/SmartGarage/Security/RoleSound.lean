/-
Soundness of role assertion. The possession of a role certificate's key is established by comparing
its public key with that of the peer's session; the comparison has the length of the key it
extracts, and it extracts one only for the credential type `CERT`. The theorem says for which
payloads every role added to the client's list still is one whose key the client has.
-/
import SmartGarage.Security.RoleFrame

namespace SmartGarage

/-! ## Records and the certificates they come from -/

/-- The record `c` of the client's role list comes from the certificate in `a`: the certificate has the
key of the client's session and the client's UUID in its CN, and it is accepted as a role
certificate for a role that may be asserted. (The role of a record freed by `oc_sec_remove_cred` is
gone.) -/
structure FromCertificate (P : Platform) (anchors : List Crt) (client : OcTlsPeer) (a : CredArgs) (c : OcSecCred) :
    Prop where
  key : ocCertsParsePublicKey P.mbedtls a.publicdata = some client.publicKey
  uuid : a.publicdata.bind (ocCertsParseCNForUUIDRaw P.mbedtls) = some (ocUuidToStr client.uuid)
  role : ∃ role authority, ocCertsParseRoleCertificate P.mbedtls anchors a.publicdata = some (c.ctx, role, authority) ∧
    checkRoleAssertion role = true ∧ ((c.role = role ∧ c.authority = authority) ∨ (c.role = [] ∧ c.authority = []))

/-- The credentials a payload describes. -/
def payloadArgs (ops : List CredOp) : List CredArgs :=
  ops.filterMap fun
    | .entry item => (decodeEntry item).map (·.args)
    | .rowneruuid _ => none

/-- The assertion adds a record to the client's list. -/
def roleAdded (P : Platform) (st : SecState) (client : OcTlsPeer) (a : CredArgs) : Bool :=
  (argsPublicKey P.mbedtls a).any (roleChecks P client a) &&
  !(ocSecGetRoles st client.addr).any (·.publicdata.data == a.publicdata.getD []) &&
  (ocCertsParseRoleCertificate P.mbedtls (st.trustAnchors.map (·.crt)) a.publicdata).any fun x => checkRoleAssertion x.2.1

/-- The whole session key is compared: the credential type is `CERT` and the certificate's key has
the length of the session's. -/
def keyCompared (P : Platform) (client : OcTlsPeer) (a : CredArgs) : Bool :=
  a.credtype == credtypeCert &&
  (ocCertsParsePublicKey P.mbedtls a.publicdata).any fun key => key.length == client.publicKey.length

/-- An entry that adds a record compares the whole session key, or has it anyway. -/
def entryKeyOk (P : Platform) (client : OcTlsPeer) (st : SecState) : CredOp → Bool
  | .rowneruuid _ => true
  | .entry item =>
    match decodeEntry item with
    | none => true
    | some e => item.isEmpty || !roleAdded P st client e.args || keyCompared P client e.args ||
        ocCertsParsePublicKey P.mbedtls e.args.publicdata == some client.publicKey

theorem keyCompared_key {P : Platform} {client : OcTlsPeer} {a : CredArgs} (hsession : client.publicKey ≠ [])
    (hchecks : ∃ key, argsPublicKey P.mbedtls a = some key ∧ roleChecks P client a key = true)
    (hcmp : keyCompared P client a = true) : ocCertsParsePublicKey P.mbedtls a.publicdata = some client.publicKey := by
  obtain ⟨key, hk, hc⟩ := hchecks
  simp only [keyCompared, Bool.and_eq_true, beq_iff_eq, Option.any_eq_true] at hcmp
  obtain ⟨htype, key', hkey', hlen⟩ := hcmp
  rw [argsPublicKey, if_pos htype, hkey', Option.some.injEq] at hk
  subst hk
  rw [hkey', Option.some.injEq]
  simp only [roleChecks, keyMatchesSession, Bool.and_eq_true, Bool.or_eq_true, beq_iff_eq] at hc
  rcases hc.1.2 with h | h
  · exact absurd h hsession
  · unfold lastBytes at h
    rw [hlen] at h
    simpa using h.symm

theorem parsePublicKey_of_role {m : Mbedtls} {anchors : List Crt} {cert : Option OcString} {chain : List Crt}
    {role authority : OcString} (h : ocCertsParseRoleCertificate m anchors cert = some (chain, role, authority)) :
    ocCertsParsePublicKey m cert = chain.head?.bind (·.pubkeyDer) := by
  unfold ocCertsParseRoleCertificate at h
  unfold ocCertsParsePublicKey
  cases cert with
  | none => cases h
  | some buf =>
    simp only at h ⊢
    split at h
    · cases h
    · rename_i hret
      rw [if_neg hret]
      split at h
      · cases h
      · rename_i c rest hparse
        rw [hparse]
        split at h
        · cases h
        · split at h
          · cases h
          · obtain ⟨p, -, hp⟩ := Option.map_eq_some_iff.1 h
            cases hp
            rfl

/-! ## One operation -/

/-- What a new record is, whether it stays or has been freed. -/
structure NewRole (P : Platform) (st : SecState) (device : Nat) (client : OcTlsPeer) (a : CredArgs) (c : OcSecCred) :
    Prop where
  addr : c.addr = roleAddr P st device
  accepted : ∃ role authority, RoleCertAccepted P st client a c.ctx role authority ∧
    ((c.role = role ∧ c.authority = authority) ∨ (c.role = [] ∧ c.authority = []))

theorem RoleCertAccepted.roleAdded {P : Platform} {st : SecState} {client : OcTlsPeer} {a : CredArgs}
    {chain : List Crt} {role authority : OcString} (h : RoleCertAccepted P st client a chain role authority) :
    roleAdded P st client a = true := by
  obtain ⟨key, hk, hc⟩ := h.checks
  have hdup : (ocSecGetRoles st client.addr).any (·.publicdata.data == a.publicdata.getD []) = false := by
    simpa using h.notDuplicate
  simp [SmartGarage.roleAdded, hk, hc, hdup, h.parsed, h.assertion]

/-- An assertion appends nothing or a new record to the client's list, and it does append one if the
checks pass. -/
theorem RoleOutcome.appends {P : Platform} {st : SecState} {device : Nat} {client : OcTlsPeer} {a : CredArgs}
    {x : Int × SecState} (h : RoleOutcome P st device client a x) :
    ∃ new, ocSecGetRoles x.2 client.addr = ocSecGetRoles st client.addr ++ new ∧
      (∀ c ∈ new, NewRole P st device client a c) ∧ (roleAdded P st client a = true → new ≠ []) := by
  cases h with
  | refused checks => exact ⟨[], by simp, by simp, by simp [SmartGarage.roleAdded, checks]⟩
  | duplicate r checks found =>
    have hany : (ocSecGetRoles st client.addr).any (·.publicdata.data == a.publicdata.getD []) = true := by
      rw [← List.isSome_find?, found]; rfl
    exact ⟨[], by simp, by simp, by simp [SmartGarage.roleAdded, hany]⟩
  | dropped rejected =>
    exact ⟨[], by simp [ocSecGetRoles_eq], by simp, by simp [SmartGarage.roleAdded, rejected]⟩
  | asserted chain role authority privatedata acc hp =>
    refine ⟨_, rolesOf_appendRole st device client _, fun c hc => ?_, by simp⟩
    rw [List.mem_singleton] at hc
    subst hc
    exact ⟨rfl, role, authority, acc, .inl ⟨rfl, rfl⟩⟩
  | broken chain role authority acc hp =>
    refine ⟨_, rolesOf_appendRole st device client _, fun c hc => ?_, by simp⟩
    rw [List.mem_singleton] at hc
    subst hc
    exact ⟨rfl, role, authority, acc, .inr ⟨rfl, rfl⟩⟩

theorem markOwner_roles (d : Decoding) (e : CredEntry) (credid : Int) (device : Nat) :
    (markOwner d e credid device).st.clients = d.st.clients ∧
    (markOwner d e credid device).st.trustAnchors = d.st.trustAnchors := by
  unfold markOwner setOwnerCred SecState.setCreds
  split
  · exact ⟨rfl, rfl⟩
  · split <;> exact ⟨rfl, rfl⟩

/-- For a new record, being from a certificate of the payload with the session's key is the same as
its own certificate having that key. -/
theorem NewRole.fromCertificate_iff {P : Platform} {st : SecState} {device : Nat} {client : OcTlsPeer} {a : CredArgs}
    {c : OcSecCred} (h : NewRole P st device client a c) (args : List CredArgs) (ha : a ∈ args) :
    (∃ b ∈ args, FromCertificate P (st.trustAnchors.map (·.crt)) client b c) ↔
      ocCertsParsePublicKey P.mbedtls a.publicdata = some client.publicKey := by
  obtain ⟨role, authority, acc, hrole⟩ := h.accepted
  constructor
  · rintro ⟨b, -, hb⟩
    obtain ⟨role', authority', hparsed, -, -⟩ := hb.role
    rw [parsePublicKey_of_role acc.parsed, ← parsePublicKey_of_role hparsed]
    exact hb.key
  · intro hkey
    obtain ⟨key, -, hchecks⟩ := acc.checks
    simp only [roleChecks, Bool.and_eq_true] at hchecks
    have huuid := hchecks.2
    refine ⟨a, ha, hkey, ?_, role, authority, acc.parsed, acc.assertion, hrole⟩
    unfold checkUuidFromCertRaw at huuid
    cases hp : a.publicdata with
    | none => rw [hp] at huuid; cases huuid
    | some buf => rw [hp] at huuid; simpa using huuid

theorem decodeOp_entry_roles (P : Platform) (device : Nat) (client : OcTlsPeer) (d : Decoding) {item : List OcRep}
    {e : CredEntry} (he : decodeEntry item = some e) (hi : item ≠ []) :
    ocSecGetRoles (decodeOp P device true (some client) d (.entry item)).2.st client.addr =
      ocSecGetRoles (ocSecAddNewCred P d.st device true (some client) e.args).2 client.addr ∧
    (decodeOp P device true (some client) d (.entry item)).2.st.trustAnchors =
      (ocSecAddNewCred P d.st device true (some client) e.args).2.trustAnchors := by
  rw [decodeOp_entry _ _ _ _ _ he hi]
  simp only [ocSecGetRoles_eq]
  split
  · exact ⟨rfl, rfl⟩
  · rw [(markOwner_roles _ _ _ _).1, (markOwner_roles _ _ _ _).2]
    exact ⟨rfl, rfl⟩

theorem decodeOp_appends (P : Platform) (device : Nat) (client : OcTlsPeer) (hsession : client.publicKey ≠ [])
    (d : Decoding) (op : CredOp) (args : List CredArgs) (hargs : ∀ a ∈ payloadArgs [op], a ∈ args) :
    ∃ new, ocSecGetRoles (decodeOp P device true (some client) d op).2.st client.addr =
        ocSecGetRoles d.st client.addr ++ new ∧
      (decodeOp P device true (some client) d op).2.st.trustAnchors = d.st.trustAnchors ∧
      (∀ c ∈ new, c ∉ ocSecGetRoles d.st client.addr) ∧
      ((∀ c ∈ new, ∃ b ∈ args, FromCertificate P (d.st.trustAnchors.map (·.crt)) client b c) ↔
        entryKeyOk P client d.st op = true) := by
  cases op with
  | rowneruuid v => exact ⟨[], by simp [decodeOp, SecState.setCreds, ocSecGetRoles_eq], rfl, by simp, by simp [entryKeyOk]⟩
  | entry item =>
    cases he : decodeEntry item with
    | none =>
      rw [decodeOp_none _ _ _ _ _ he]
      exact ⟨[], by simp, rfl, by simp, by simp [entryKeyOk, he]⟩
    | some e =>
      by_cases hi : item = []
      · subst hi
        rw [decodeOp_nil]
        exact ⟨[], by simp, rfl, by simp, by simp [entryKeyOk, he]⟩
      · have hout := ocSecAddNewCred_outcome P d.st device client e.args
        obtain ⟨new, hroles, hnew, hadds⟩ := hout.appends
        have hmem : e.args ∈ args := hargs _ (by simp [payloadArgs, he])
        have hst := decodeOp_entry_roles P device client d he hi
        refine ⟨new, hst.1.trans hroles, hst.2.trans hout.onlyRoles.trustAnchors, fun c hc hold => ?_, ?_⟩
        · exact roleAddr_ne_own P d.st device client.addr c hold (hnew c hc).addr
        · -- soundness of what is appended is the key condition of the entry
          have hkey : ∀ c ∈ new, ((∃ b ∈ args, FromCertificate P (d.st.trustAnchors.map (·.crt)) client b c) ↔
              ocCertsParsePublicKey P.mbedtls e.args.publicdata = some client.publicKey) :=
            fun c hc => (hnew c hc).fromCertificate_iff args hmem
          simp only [entryKeyOk, he, Bool.or_eq_true, List.isEmpty_iff, hi, false_or, Bool.not_eq_true', beq_iff_eq]
          constructor
          · intro hall
            by_cases hadd : roleAdded P d.st client e.args = true
            · obtain ⟨c, hc⟩ := List.exists_mem_of_ne_nil new (hadds hadd)
              exact .inr ((hkey c hc).1 (hall c hc))
            · exact .inl (.inl (Bool.eq_false_iff.2 hadd))
          · intro hok c hc
            rw [hkey c hc]
            obtain ⟨role, authority, acc, -⟩ := (hnew c hc).accepted
            rcases hok with (hadd | hcmp) | hkey
            · rw [acc.roleAdded] at hadd; cases hadd
            · exact keyCompared_key hsession acc.checks hcmp
            · exact hkey

/-! ## A whole payload -/

/-- Every record the decoder has added to the client's list comes from a certificate of the payload. -/
def RolesSound (P : Platform) (st st' : SecState) (client : OcTlsPeer) (args : List CredArgs) : Prop :=
  ∀ c ∈ ocSecGetRoles st' client.addr, c ∈ ocSecGetRoles st client.addr ∨
    ∃ a ∈ args, FromCertificate P (st.trustAnchors.map (·.crt)) client a c

/-- The client's list only grows. -/
theorem decodeOps_grows (P : Platform) (device : Nat) (client : OcTlsPeer) (hsession : client.publicKey ≠ []) :
    ∀ (l : List CredOp) (d : Decoding), ocSecGetRoles d.st client.addr ⊆
      ocSecGetRoles (decodeOps P device true (some client) d l).2.st client.addr
  | [], _ => fun _ h => h
  | op :: l, d => by
    obtain ⟨new, hroles, -⟩ := decodeOp_appends P device client hsession d op (payloadArgs [op]) (fun _ h => h)
    unfold decodeOps
    rcases hd : decodeOp P device true (some client) d op with ⟨_ | _, d'⟩
    · rw [hd] at hroles
      rw [hroles]
      exact List.subset_append_left _ _
    · rw [hd] at hroles
      refine List.Subset.trans ?_ (decodeOps_grows P device client hsession l d')
      rw [hroles]
      exact List.subset_append_left _ _

theorem decodeOps_sound_iff (P : Platform) (device : Nat) (client : OcTlsPeer) (hsession : client.publicKey ≠ [])
    (args : List CredArgs) : ∀ (l : List CredOp) (d : Decoding), (∀ a ∈ payloadArgs l, a ∈ args) →
      (RolesSound P d.st (decodeOps P device true (some client) d l).2.st client args ↔
        allReached P device true (some client) (entryKeyOk P client) d l = true)
  | [], d, _ => ⟨fun _ => rfl, fun _ _ hc => .inl hc⟩
  | op :: l, d, hargs => by
    have hop : ∀ a ∈ payloadArgs [op], a ∈ args := fun a ha => hargs a (by
      rw [payloadArgs, ← List.singleton_append, List.filterMap_append]
      exact List.mem_append_left _ ha)
    have hl : ∀ a ∈ payloadArgs l, a ∈ args := fun a ha => hargs a (by
      rw [payloadArgs, ← List.singleton_append, List.filterMap_append]
      exact List.mem_append_right _ ha)
    obtain ⟨new, hroles, hanchors, hfresh, hsound⟩ := decodeOp_appends P device client hsession d op args hop
    have hgrows := decodeOps_grows P device client hsession l
    have ih := decodeOps_sound_iff P device client hsession args l
    unfold decodeOps allReached
    rcases hd : decodeOp P device true (some client) d op with ⟨_ | _, d'⟩
    · -- the decoder stops here
      rw [hd] at hroles
      simp only [Bool.and_true]
      rw [← hsound]
      unfold RolesSound
      rw [hroles]
      constructor
      · intro h c hc
        exact (h c (List.mem_append_right _ hc)).resolve_left (hfresh c hc)
      · intro h c hc
        exact (List.mem_append.1 hc).imp id (h c)
    · rw [hd] at hroles hanchors
      simp only [Bool.and_eq_true]
      rw [← hsound, ← ih d' hl]
      unfold RolesSound
      rw [hanchors, hroles]
      constructor
      · intro h
        refine ⟨fun c hc => ?_, fun c hc => (h c hc).imp (List.mem_append_left _) id⟩
        exact (h c (hgrows d' (by rw [hroles]; exact List.mem_append_right _ hc))).resolve_left (hfresh c hc)
      · rintro ⟨hnew, hrest⟩ c hc
        rcases hrest c hc with hmem | hfrom
        · exact (List.mem_append.1 hmem).imp id (hnew c)
        · exact .inr hfrom

/-- For every session with a public key, every state and every payload: all roles that the decoder adds
to the client's list are sound iff each entry that adds one compares the whole session key, or has
it anyway. -/
theorem ocSecDecodeCred_sound_iff (P : Platform) (st : SecState) (rep : List OcRep) (client : OcTlsPeer)
    (device : Nat) (fromStorage : Bool) (hsession : client.publicKey ≠ []) :
    RolesSound P st (ocSecDecodeCred P st rep fromStorage true (some client) device).2.st client
      (payloadArgs (credOps rep)) ↔
      allReached P device true (some client) (entryKeyOk P client) ⟨st, none⟩ (credOps rep) = true := by
  have h := decodeOps_sound_iff P device client hsession (payloadArgs (credOps rep)) (credOps rep) ⟨st, none⟩
    fun _ h => h
  simpa [ocSecDecodeCred] using h

/-- With a credential type other than `CERT` no key is compared, and the peer gets a role whose key
it does not have. -/
theorem ocSecDecodeCred_foreign_key :
    let r := ocSecDecodeCred (Platform.simple sampleMbedtls) (sessionState [9]) (roleRep 0 []) false true
      (some (sessionPeer [9])) 0
    r.1 = true ∧ (sessionPeer [9]).publicKey ≠ [] ∧
    ¬RolesSound (Platform.simple sampleMbedtls) (sessionState [9]) r.2.st (sessionPeer [9])
      (payloadArgs (credOps (roleRep 0 []))) := by
  refine ⟨by decide +kernel, by decide, fun h => ?_⟩
  have hlist : ∃ c, c ∈ ocSecGetRoles (ocSecDecodeCred (Platform.simple sampleMbedtls) (sessionState [9]) (roleRep 0 [])
      false true (some (sessionPeer [9])) 0).2.st 1 := by
    refine List.exists_mem_of_ne_nil _ ?_
    decide +kernel
  obtain ⟨c, hc⟩ := hlist
  rcases h c hc with hold | ⟨a, ha, hfrom⟩
  · cases hold
  · have hkey := hfrom.key
    have hall : ∀ a ∈ payloadArgs (credOps (roleRep 0 [])),
        ocCertsParsePublicKey sampleMbedtls a.publicdata ≠ some [9] := by decide
    exact hall a ha hkey

/-- The same assertion as a certificate credential of the session's own key is sound. -/
theorem ocSecDecodeCred_own_key :
    RolesSound (Platform.simple sampleMbedtls) (sessionState [5])
      (ocSecDecodeCred (Platform.simple sampleMbedtls) (sessionState [5]) (roleRep credtypeCert []) false true
        (some (sessionPeer [5])) 0).2.st (sessionPeer [5]) (payloadArgs (credOps (roleRep credtypeCert []))) :=
  (ocSecDecodeCred_sound_iff _ _ _ _ _ _ (by decide)).2 (by decide +kernel)

end SmartGarage
