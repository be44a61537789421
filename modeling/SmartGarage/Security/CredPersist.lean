/-
Persisting credentials. What `oc_sec_encode_cred` writes to the storage is read back by
`oc_sec_decode_cred` exactly when every credential survives the texts it is written as: the theorem
is about every list that `oc_sec_add_new_cred` can build.
-/
import SmartGarage.Security.CredEncode
import SmartGarage.Security.CredList

namespace SmartGarage

variable {kp : Option OcEcdsaKeypair}

/-! ## Credentials that survive -/

/-- What a credential holds, apart from the address of its record. -/
def contents (c : OcSecCred) : OcSecCred := { c with addr := 0, ctx := [] }

theorem contents_eq_iff {c d : OcSecCred} : contents c = contents d ↔
    c.role = d.role ∧ c.authority = d.authority ∧ c.privatedata = d.privatedata ∧ c.publicdata = d.publicdata ∧
    c.credusage = d.credusage ∧ c.credid = d.credid ∧ c.credtype = d.credtype ∧ c.subjectuuid = d.subjectuuid ∧
    c.ownerCred = d.ownerCred := by
  unfold contents
  simp only [OcSecCred.mk.injEq, true_and]

/-- The role and the authority in the first certificate of a buffer. -/
def roleNames (m : Mbedtls) (cert : OcString) : Option (OcString × OcString) :=
  match (m.crtParse cert).2 with
  | [] => none
  | c :: _ => parseRoleNames c.issuer c.subjectAltNames

/-- The names that the certificate of a stored credential gives. -/
def recordNames (m : Mbedtls) (c : OcSecCred) : OcString × OcString :=
  if c.credusage = .roleCert then (roleNames m c.publicdata.data).getD ([], []) else ([], [])

/-- The credential is the same behind its stored representation: its subject does not merely start like
the wildcard, what is written as text has no zero byte, private data has an encoding, and a role that is
not written is the one of the certificate. -/
structure Survives (m : Mbedtls) (c : OcSecCred) : Prop where
  subject : c.subjectuuid.id.get 0 = 42 → c.subjectuuid = OcUuid.wildcard
  privateEncoding : c.privatedata.encoding = .unsupported → c.privatedata.data = []
  privateText : c.privatedata.encoding ≠ .raw → 0 ∉ c.privatedata.data
  publicText : c.publicdata.encoding = .pem → 0 ∉ c.publicdata.data
  noRole : c.role = [] → recordNames m c = ([], c.authority)
  roleText : c.role ≠ [] → 0 ∉ c.role
  authorityText : c.role ≠ [] → 0 ∉ c.authority
  noAuthority : c.role ≠ [] → c.authority = [] → (recordNames m c).2 = []

/-! ## One credential, read back -/

section Reload

variable {m : Mbedtls} {c : OcSecCred}

theorem publicdata_reloaded (hc : RecordOk m c) :
    argsPublicdata (storedArgs c) = c.publicdata ↔ (c.publicdata.encoding = .pem → 0 ∉ c.publicdata.data) := by
  have hempty := hc.publicEmpty
  unfold argsPublicdata storedArgs
  simp only
  generalize c.publicdata = d at hempty ⊢
  obtain ⟨data, encoding⟩ := d
  simp only at hempty ⊢
  cases data with
  | nil => simp [hempty, OcCredData.zero]
  | cons b l =>
    by_cases hpem : encoding = .pem
    · rw [← cstr_eq_self_iff]
      subst hpem
      simp only [ne_eq, reduceCtorEq, not_false_eq_true, reduceIte, forall_const]
      cases htext : cstr (b :: l) <;> simp [OcCredData.zero]
    · simp [hpem]

theorem generatedKey_encoding {d : OcCredData}
    (h : (match kp with
      | some kp => some (⟨kp.privateKey, .raw⟩ : OcCredData)
      | none => some OcCredData.zero) = some d) : d.encoding = .raw ∨ d = OcCredData.zero := by
  cases kp with
  | none => exact .inr (Option.some.inj h).symm
  | some k => exact .inl (by rw [← Option.some.inj h])

theorem privatedata_reloaded {d : OcCredData} (hc : RecordOk m c)
    (htype : castInt c.credtype = c.credtype) (hp : argsPrivatedata (storedArgs c) kp = some d)
    (hkp : kp ≠ none → c.credusage = .identityCert) :
    d = c.privatedata ↔ (c.privatedata.encoding = .unsupported → c.privatedata.data = []) ∧
      (c.privatedata.encoding ≠ .raw → 0 ∉ c.privatedata.data) := by
  obtain ⟨-, hempty, hpsk, hidentity, -, -, -⟩ := hc
  have hkp' : c.privatedata.data = [] → kp = none := by
    intro hdata
    by_contra hne
    exact hidentity (hkp hne) hdata
  clear hidentity hkp
  unfold argsPrivatedata storedArgs at hp
  simp only [htype] at hp
  rw [← cstr_eq_self_iff]
  generalize c.privatedata = p at *
  obtain ⟨data, encoding⟩ := p
  simp only at *
  by_cases hdata : data = []
  · subst hdata
    have hunsup := hempty rfl
    subst hunsup
    rw [hkp' rfl] at hp
    simp only [reduceCtorEq, reduceIte, cstr_nil, ne_eq, not_true_eq_false, Option.some.injEq] at hp
    subst hp
    simp [OcCredData.zero, cstr_nil]
  · -- raw data comes back as it is
    by_cases hraw : encoding = .raw
    · subst hraw
      simp only [reduceCtorEq, reduceIte, ne_eq, hdata, not_false_eq_true, and_false, Option.some.injEq] at hp
      subst hp
      simp
    · by_cases hunsup : encoding = .unsupported
      · subst hunsup
        simp only [reduceCtorEq, reduceIte, ne_eq, and_false] at hp
        have hne : d.encoding = .raw ∨ d = OcCredData.zero := by
          split at hp
          · exact .inl (by rw [← Option.some.inj hp])
          · exact generatedKey_encoding hp
        simp only [hdata, forall_const, false_and, iff_false]
        rintro rfl
        rcases hne with h | h
        · cases h
        · exact hdata (congrArg OcCredData.data h)
      · -- text ends at its first zero byte
        have hpsk' : ¬(c.credtype = credtypePsk ∧ encoding = .base64) := fun h => hpsk h.1 h.2
        simp only [hraw, hunsup, reduceIte, hpsk'] at hp
        simp only [hunsup, false_implies, true_and, ne_eq, hraw, not_false_eq_true, forall_const]
        split at hp
        · cases hp
          simp
        · rename_i htext
          have hnil : cstr data = [] := by simpa using htext
          rw [hnil]
          constructor
          · rintro rfl
            rcases generatedKey_encoding hp with h | h
            · exact absurd h hraw
            · exact absurd (congrArg OcCredData.data h) hdata
          · exact fun h => absurd h.symm hdata

theorem subject_reloaded {subject : OcUuid} (h : argsSubject (storedArgs c) = some subject) :
    subject = c.subjectuuid ↔ (c.subjectuuid.id.get 0 = 42 → c.subjectuuid = OcUuid.wildcard) := by
  rw [argsSubject_stored, Option.some.injEq] at h
  subst h
  split
  · rename_i hstar
    exact ⟨fun h _ => h.symm, fun h => (h hstar).symm⟩
  · rename_i hstar
    exact ⟨fun _ h => absurd h hstar, fun _ => rfl⟩

theorem roleNames_of_parse {anchors : List Crt} {buf : OcString} {x : List Crt × OcString × OcString}
    (h : ocCertsParseRoleCertificate m anchors (some buf) = some x) : roleNames m buf = some x.2 := by
  unfold ocCertsParseRoleCertificate at h
  unfold roleNames
  simp only at h
  cases hparse : (m.crtParse buf).2 with
  | nil =>
    rw [hparse, ite_self] at h
    cases h
  | cons crt rest =>
    show parseRoleNames crt.issuer crt.subjectAltNames = some x.2
    rw [hparse] at h
    obtain ⟨-, h⟩ := Option.ite_none_left_eq_some.1 h
    obtain ⟨-, h⟩ := Option.ite_none_left_eq_some.1 h
    obtain ⟨-, h⟩ := Option.ite_none_left_eq_some.1 h
    obtain ⟨p, hp, rfl⟩ := Option.map_eq_some_iff.1 h
    exact hp

theorem names_reloaded (names : OcString × OcString) :
    ((((storedArgs c).role.map cstr).getD names.1 = c.role) ∧
      ((if (storedArgs c).role.isSome then ((storedArgs c).authority.map cstr).getD names.2 else names.2) =
        c.authority)) ↔
    (c.role = [] → names = ([], c.authority)) ∧ (c.role ≠ [] → 0 ∉ c.role) ∧ (c.role ≠ [] → 0 ∉ c.authority) ∧
      (c.role ≠ [] → c.authority = [] → names.2 = []) := by
  unfold storedArgs
  obtain ⟨role, authority⟩ := names
  rw [← cstr_eq_self_iff, ← cstr_eq_self_iff]
  by_cases hrole : c.role = []
  · simp [hrole]
  · by_cases hauth : c.authority = []
    · simp [hrole, hauth, cstr_cstr, cstr_nil]
    · simp [hrole, hauth, cstr_cstr]

end Reload

/-! ## Loading one entry -/

/-- The integers of the record are C integers. -/
def IntFields (c : OcSecCred) : Prop := castInt c.credid = c.credid ∧ castInt c.credtype = c.credtype

section Load

variable {P : Platform} {device : Nat} {st : SecState} {c : OcSecCred}

theorem loadOp_encoded (P : Platform) (device : Nat) (st : SecState) (c : OcSecCred) :
    loadOp P device st (.entry (encodeCredItem true c)) =
      if (ocSecAddNewCred P st device false none (storedArgs c)).1 = -1 then
        (false, (ocSecAddNewCred P st device false none (storedArgs c)).2)
      else (true, setOwnerCred (ocSecAddNewCred P st device false none (storedArgs c)).2
        (ocSecAddNewCred P st device false none (storedArgs c)).1 device c.ownerCred) := by
  have hne : encodeCredItem true c ≠ [] := by simp [encodeCredItem]
  simp only [loadOp, decodeEntry_encode, hne, reduceIte]

theorem getCredByCredid_none {credid : Int} (h : credid ∉ (st.creds device).creds.map (·.credid)) :
    ocSecGetCredByCredid st credid device = none := by
  refine List.find?_eq_none.2 fun x hx hid => h ?_
  exact List.mem_map.2 ⟨x, hx, by simpa using hid⟩

theorem setOwnerCred_append {l : List OcSecCred} {credid : Int} {r : OcSecCred} {value : Bool}
    (hl : (st.creds device).creds = l ++ [r]) (hid : credid ∉ l.map (·.credid)) (hr : r.credid = credid) :
    ((setOwnerCred st credid device value).creds device).creds = l ++ [{ r with ownerCred := value }] := by
  rw [setOwnerCred_list, hl]
  clear hl
  induction l with
  | nil => simp [Search.modify, hr]
  | cons x l ih =>
    simp only [List.map_cons, List.mem_cons, not_or] at hid
    have hne : ¬(x.credid == credid) = true := fun h => hid.1 (by simpa using Eq.symm (by simpa using h))
    simp only [List.cons_append, Search.modify, hne, Bool.false_eq_true, reduceIte, List.cons.injEq, true_and]
    exact ih hid.2

theorem storedCred_reloaded {d : OcCredData} {subject : OcUuid} {addr : Nat}
    {names : OcString × OcString} (hc : RecordOk P.mbedtls c) (hint : IntFields c)
    (hs : argsSubject (storedArgs c) = some subject) (hp : argsPrivatedata (storedArgs c) kp = some d)
    (hkp : kp ≠ none → c.credusage = .identityCert)
    (hn : argsPublicdata (storedArgs c) = c.publicdata → names = recordNames P.mbedtls c) :
    contents { storedCred (storedArgs c) c.credid d { OcSecCred.zero addr with
      credtype := (storedArgs c).credtype, credusage := (storedArgs c).credusage, subjectuuid := subject
      role := names.1, authority := names.2 } with ownerCred := c.ownerCred } = contents c ↔ Survives P.mbedtls c := by
  have hsubject := subject_reloaded hs
  have hprivate := privatedata_reloaded hc hint.2 hp hkp
  have hpublic := publicdata_reloaded hc
  have hnames := names_reloaded (c := c) names
  have hfields : contents { storedCred (storedArgs c) c.credid d { OcSecCred.zero addr with
      credtype := (storedArgs c).credtype, credusage := (storedArgs c).credusage, subjectuuid := subject
      role := names.1, authority := names.2 } with ownerCred := c.ownerCred } = contents c ↔
      subject = c.subjectuuid ∧ d = c.privatedata ∧ argsPublicdata (storedArgs c) = c.publicdata ∧
      ((storedArgs c).role.map cstr).getD names.1 = c.role ∧
      (if (storedArgs c).role.isSome then ((storedArgs c).authority.map cstr).getD names.2 else names.2) =
        c.authority := by
    rw [contents_eq_iff]
    constructor
    · rintro ⟨h1, h2, h3, h4, -, -, -, h8, -⟩
      exact ⟨h8, h3, h4, h1, h2⟩
    · rintro ⟨h8, h3, h4, h1, h2⟩
      exact ⟨h1, h2, h3, h4, rfl, rfl, hint.2, h8, rfl⟩
  rw [hfields, hsubject, hprivate, hpublic, hnames]
  constructor
  · rintro ⟨h1, ⟨h2, h3⟩, h4, h5, h6, h7, h8⟩
    have heq := hn (hpublic.2 h4)
    rw [heq] at h5 h8
    exact ⟨h1, h2, h3, h4, h5, h6, h7, h8⟩
  · rintro ⟨h1, h2, h3, h4, h5, h6, h7, h8⟩
    have heq := hn (hpublic.2 h4)
    rw [heq]
    exact ⟨h1, ⟨h2, h3⟩, h4, h5, h6, h7, h8⟩

theorem ocSecAddNewCred_unused {a : CredArgs} (hid : a.credid ∉ (st.creds device).creds.map (·.credid)) :
    ocSecAddNewCred P st device false none a = (-1, st) ∨
    ∃ key subject kp, argsPublicKey P.mbedtls a = some key ∧ argsSubject a = some subject ∧
      argsKeypair P.mbedtls st device a key = some kp ∧
      ocSecAddNewCred P st device false none a = scanAndAllocate P st device a subject kp := by
  unfold ocSecAddNewCred
  cases hkey : argsPublicKey P.mbedtls a with
  | none => exact .inl rfl
  | some key =>
    cases hs : argsSubject a with
    | none => exact .inl rfl
    | some subject =>
      cases hkp : argsKeypair P.mbedtls st device a key with
      | none => exact .inl (by simp [hkp])
      | some kp =>
        refine .inr ⟨key, subject, kp, rfl, rfl, hkp, ?_⟩
        simp only [hkp, Bool.false_eq_true, reduceIte, addNewCred_eq, getCredByCredid_none hid]

theorem loadOp_new {key : OcString} {subject : OcUuid} (hc : RecordOk P.mbedtls c)
    (hint : IntFields c) (hid : c.credid ∉ (st.creds device).creds.map (·.credid))
    (hs : argsSubject (storedArgs c) = some subject) (hkp : argsKeypair P.mbedtls st device (storedArgs c) key = some kp)
    (hadd : ocSecAddNewCred P st device false none (storedArgs c) =
      scanAndAllocate P st device (storedArgs c) subject kp)
    (hscan : scanSubject (storedArgs c) subject (st.creds device).creds = .new)
    (hr : credRejected P st (storedArgs c) kp = false) :
    (loadOp P device st (.entry (encodeCredItem true c))).1 = true ∧
    ∃ r, ((loadOp P device st (.entry (encodeCredItem true c))).2.creds device).creds = (st.creds device).creds ++ [r] ∧
      r.credid = c.credid ∧ (contents r = contents c ↔ Survives P.mbedtls c) := by
  obtain ⟨d, credid, st', hp, hne, hnew, hcreds, heq⟩ := allocateNewCred_stored device subject hr
  have hcredid : credid = c.credid := by
    rcases hnew with h | ⟨h, -⟩
    · exact h.trans hint.1
    · exact absurd (hint.1.symm.trans h) hc.credid
  subst hcredid
  have hload : ocSecAddNewCred P st device false none (storedArgs c) = (c.credid, st') := by
    rw [hadd]
    unfold scanAndAllocate
    rw [hscan]
    exact heq
  rw [loadOp_encoded, hload]
  simp only [hc.credid, reduceIte, true_and]
  have hlist : (st'.creds device).creds = (st.creds device).creds ++
      [storedCred (storedArgs c) c.credid d (newRecord P st device (storedArgs c) subject)] := by
    rw [hcreds, setCreds_creds]
  refine ⟨_, setOwnerCred_append hlist hid rfl, rfl, storedCred_reloaded hc hint hs hp (fun hk => ?_) fun hpub => ?_⟩
  · -- a key pair is only taken for an identity certificate
    by_contra hu
    have hnone : argsKeypair P.mbedtls st device (storedArgs c) key = some none := by
      have hu' : ¬((storedArgs c).credusage = .identityCert ∧ (storedArgs c).privatedata = []) := fun h => hu h.1
      unfold argsKeypair
      rw [if_neg hu']
    exact hk (Option.some.inj (hkp.symm.trans hnone))
  · unfold certNames recordNames
    have husage : (storedArgs c).credusage = c.credusage := rfl
    rw [husage]
    by_cases hu : c.credusage = .roleCert
    · rw [if_pos hu, if_pos hu]
      have hrole : (ocCertsParseRoleCertificate P.mbedtls (st.trustAnchors.map (·.crt)) (storedArgs c).publicdata).isSome =
          true := by
        simp only [credRejected, husage, hu, beq_self_eq_true, Bool.true_and, Bool.or_eq_false_iff] at hr
        simpa using hr.1
      obtain ⟨x, hx⟩ := Option.isSome_iff_exists.1 hrole
      have hnames := roleNames_of_parse (publicdata_of_parseRole hx)
      rw [hpub] at hnames
      rw [hx, hnames]
      rfl
    · rw [if_neg hu, if_neg hu]

theorem loadOp_cases (hc : RecordOk P.mbedtls c) (hint : IntFields c)
    (hid : c.credid ∉ (st.creds device).creds.map (·.credid)) :
    (loadOp P device st (.entry (encodeCredItem true c))).1 = false ∨
    ((loadOp P device st (.entry (encodeCredItem true c))).2.creds device).creds.map (·.credid) =
      (st.creds device).creds.map (·.credid) ∨
    ∃ r, ((loadOp P device st (.entry (encodeCredItem true c))).2.creds device).creds = (st.creds device).creds ++ [r] ∧
      r.credid = c.credid ∧ (contents r = contents c ↔ Survives P.mbedtls c) := by
  have hid' : (storedArgs c).credid ∉ (st.creds device).creds.map (·.credid) := by
    have heq : (storedArgs c).credid = c.credid := hint.1
    rwa [heq]
  rcases ocSecAddNewCred_unused (P := P) hid' with hfail | ⟨key, subject, kp, hkey, hs, hkp, hadd⟩
  · rw [loadOp_encoded, hfail]
    exact .inl rfl
  · cases hscan : scanSubject (storedArgs c) subject (st.creds device).creds with
    | modify x => exact absurd (scanSubject_modify hscan) hid'
    | duplicate credid =>
      rw [loadOp_encoded, hadd]
      simp only [scanAndAllocate, hscan]
      split
      · exact .inl rfl
      · refine .inr (.inl ?_)
        rw [setOwnerCred_list, Search.map_modify (by intro x; rfl)]
    | new =>
      cases hr : credRejected P st (storedArgs c) kp with
      | true =>
        obtain ⟨st', heq, -⟩ := allocateNewCred_rejected device subject hr
        rw [loadOp_encoded, hadd]
        simp only [scanAndAllocate, hscan, heq, reduceIte]
        exact .inl trivial
      | false => exact .inr (.inr (loadOp_new hc hint hid hs hkp hadd hscan hr).2)

/-! ## Loading a credential that survives -/

theorem storedArgs_privatedata (h : Survives P.mbedtls c) : (storedArgs c).privatedata = c.privatedata.data := by
  unfold storedArgs
  by_cases hraw : c.privatedata.encoding = .raw
  · simp only [hraw, reduceIte]
  · simp only [hraw, reduceIte, cstr_eq_self_iff.2 (h.privateText hraw)]

theorem storedArgs_publicdata (h : Survives P.mbedtls c) (hne : c.publicdata.data ≠ []) :
    (storedArgs c).publicdata = some c.publicdata.data := by
  unfold storedArgs
  by_cases hpem : c.publicdata.encoding = .pem
  · simp only [hne, hpem, ne_eq, not_false_eq_true, reduceIte, cstr_eq_self_iff.2 (h.publicText hpem)]
  · simp only [hne, hpem, ne_eq, not_false_eq_true, reduceIte]

theorem publicKey_reloaded (hm : (P.mbedtls.crtParse []).1 < 0) (hc : RecordOk P.mbedtls c) (hint : IntFields c)
    (h : Survives P.mbedtls c) : ∃ key, argsPublicKey P.mbedtls (storedArgs c) = some key := by
  have htype : (storedArgs c).credtype = c.credtype := hint.2
  unfold argsPublicKey
  rw [htype]
  split
  · rename_i hcert
    obtain ⟨key, hkey⟩ := Option.isSome_iff_exists.1 (hc.cert hcert)
    have hne : c.publicdata.data ≠ [] := by
      intro hnil
      rw [hnil] at hkey
      simp [ocCertsParsePublicKey, hm] at hkey
    rw [storedArgs_publicdata h hne]
    exact ⟨key, hkey⟩
  · exact ⟨[], rfl⟩

theorem keypair_reloaded (st : SecState) (device : Nat) (hc : RecordOk P.mbedtls c) (h : Survives P.mbedtls c)
    (key : OcString) :
    argsKeypair P.mbedtls st device (storedArgs c) key = some none := by
  have hno : ¬((storedArgs c).credusage = .identityCert ∧ (storedArgs c).privatedata = []) := by
    rintro ⟨hu, hnil⟩
    rw [storedArgs_privatedata h] at hnil
    exact hc.identity hu hnil
  unfold argsKeypair
  rw [if_neg hno]

theorem accepted_reloaded (hm : (P.mbedtls.crtParse []).1 < 0)
    (hparse : ∀ anchors anchors' cert x, ocCertsParseRoleCertificate P.mbedtls anchors cert = some x →
      ocCertsParseRoleCertificate P.mbedtls anchors' cert = some x)
    (hc : RecordOk P.mbedtls c) (hint : IntFields c) (h : Survives P.mbedtls c) :
    credRejected P st (storedArgs c) none = false := by
  have htype : (storedArgs c).credtype = c.credtype := hint.2
  unfold credRejected
  rw [Bool.or_eq_false_iff]
  constructor
  · by_cases hu : c.credusage = .roleCert
    · obtain ⟨anchors, x, hx⟩ := hc.roleCert hu
      have hne : c.publicdata.data ≠ [] := by
        intro hnil
        rw [hnil] at hx
        simp [ocCertsParseRoleCertificate, hm] at hx
      rw [storedArgs_publicdata h hne, hparse anchors _ _ x hx]
      simp
    · have hu' : (storedArgs c).credusage ≠ .roleCert := hu
      simp [hu']
  · have hpsk : ¬((storedArgs c).credtype = credtypePsk ∧ (storedArgs c).privatedataEncoding = .base64) := by
      rw [htype]
      rintro ⟨ht, he⟩
      unfold storedArgs at he
      simp only at he
      split at he
      · cases he
      · exact hc.psk ht he
    unfold argsPrivatedata
    rw [if_neg hpsk]
    split <;> rfl

theorem loadOp_survives (hm : (P.mbedtls.crtParse []).1 < 0)
    (hparse : ∀ anchors anchors' cert x, ocCertsParseRoleCertificate P.mbedtls anchors cert = some x →
      ocCertsParseRoleCertificate P.mbedtls anchors' cert = some x)
    (hc : RecordOk P.mbedtls c) (hint : IntFields c) (h : Survives P.mbedtls c)
    (hid : c.credid ∉ (st.creds device).creds.map (·.credid)) (hnew : ∀ d ∈ (st.creds device).creds, ¬SameCert d c) :
    (loadOp P device st (.entry (encodeCredItem true c))).1 = true ∧
    ∃ r, ((loadOp P device st (.entry (encodeCredItem true c))).2.creds device).creds = (st.creds device).creds ++ [r] ∧
      r.credid = c.credid ∧ contents r = contents c := by
  have heq : (storedArgs c).credid = c.credid := hint.1
  have htype : (storedArgs c).credtype = c.credtype := hint.2
  have hid' : (storedArgs c).credid ∉ (st.creds device).creds.map (·.credid) := by rwa [heq]
  obtain ⟨key, hkey⟩ := publicKey_reloaded hm hc hint h
  have hkp := keypair_reloaded st device hc h key
  obtain ⟨subject, hs⟩ : ∃ subject, argsSubject (storedArgs c) = some subject := ⟨_, argsSubject_stored c⟩
  have hsubject : subject = c.subjectuuid := (subject_reloaded hs).2 h.subject
  have hadd : ocSecAddNewCred P st device false none (storedArgs c) =
      scanAndAllocate P st device (storedArgs c) subject none := by
    simp only [ocSecAddNewCred, hkey, hs, hkp, Bool.false_eq_true, reduceIte, addNewCred_eq, getCredByCredid_none hid']
  have hscan : scanSubject (storedArgs c) subject (st.creds device).creds = .new := by
    refine (scanSubject_new_iff hid').2 fun d hd hdup => hnew d hd ?_
    obtain ⟨h1, h2, h3, h4, h5, h6⟩ := hdup
    have hne : c.publicdata.data ≠ [] := by
      intro hnil
      exact h5 (by simp [storedArgs, hnil])
    rw [storedArgs_publicdata h hne, Option.getD_some] at h6
    rw [htype] at h2 h3
    exact ⟨h1.trans hsubject, h2, h3, h4, hne, h6⟩
  obtain ⟨hok, r, hlist, hrid, hr⟩ := loadOp_new hc hint hid hs hkp hadd hscan (accepted_reloaded hm hparse hc hint h)
  exact ⟨hok, r, hlist, hrid, hr.2 h⟩

end Load

/-! ## Loading a list -/

/-- The entries of a list of credentials. -/
def credEntries (l : List OcSecCred) : List CredOp := l.map fun c => .entry (encodeCredItem true c)

theorem loadOps_cons_true {P : Platform} {device : Nat} {st : SecState} {op : CredOp} {l : List CredOp}
    (h : (loadOp P device st op).1 = true) :
    loadOps P device st (op :: l) = loadOps P device (loadOp P device st op).2 l := by
  rw [loadOps]
  generalize loadOp P device st op = x at h ⊢
  obtain ⟨b, st'⟩ := x
  cases h
  rfl

theorem loadOps_append_true {P : Platform} {device : Nat} {l' : List CredOp} : ∀ {l : List CredOp} {st : SecState},
    (loadOps P device st l).1 = true →
    loadOps P device st (l ++ l') = loadOps P device (loadOps P device st l).2 l'
  | [], _, _ => rfl
  | op :: l, st, h => by
    have hop : (loadOp P device st op).1 = true := by
      rw [loadOps] at h
      generalize loadOp P device st op = x at h ⊢
      obtain ⟨b, st'⟩ := x
      cases b
      · exact h
      · rfl
    rw [loadOps_cons_true hop] at h
    rw [List.cons_append, loadOps_cons_true hop, loadOps_cons_true hop]
    exact loadOps_append_true h

theorem loadOps_append_false {P : Platform} {device : Nat} {l' : List CredOp} : ∀ {l : List CredOp} {st : SecState},
    (loadOps P device st l).1 = false → (loadOps P device st (l ++ l')).1 = false
  | [], _, h => nomatch h
  | op :: l, st, h => by
    rw [List.cons_append]
    rw [loadOps] at h ⊢
    generalize loadOp P device st op = x at h ⊢
    obtain ⟨b, st'⟩ := x
    cases b
    · exact h
    · exact loadOps_append_false h

/-- Either fewer records are there than entries were loaded, or one was appended for each entry, as the
credential itself exactly if it survives. -/
theorem loadOps_outcome {P : Platform} {device : Nat} : ∀ (l : List OcSecCred) (st : SecState),
    (∀ c ∈ l, RecordOk P.mbedtls c) → (∀ c ∈ l, IntFields c) →
    ((st.creds device).creds.map (·.credid) ++ l.map (·.credid)).Nodup →
    (loadOps P device st (credEntries l)).1 = true →
    ((loadOps P device st (credEntries l)).2.creds device).creds.length < (st.creds device).creds.length + l.length ∨
    ∃ rs, ((loadOps P device st (credEntries l)).2.creds device).creds = (st.creds device).creds ++ rs ∧
      List.Forall₂ (fun r c => contents r = contents c ↔ Survives P.mbedtls c) rs l
  | [], st, _, _, _, _ => .inr ⟨[], by simp [credEntries, loadOps], .nil⟩
  | c :: l, st, hok, hint, hn, hload => by
    have hid : c.credid ∉ (st.creds device).creds.map (·.credid) := by
      intro hmem
      exact (List.nodup_append.1 hn).2.2 _ hmem _ (by simp) rfl
    -- an entry that is refused ends the loading
    have hop : (loadOp P device st (.entry (encodeCredItem true c))).1 = true := by
      by_contra hfalse
      have hl : (loadOps P device st (credEntries [c] ++ credEntries l)).1 = false := by
        refine loadOps_append_false ?_
        simp only [credEntries, List.map_cons, List.map_nil, loadOps]
        generalize loadOp P device st (.entry (encodeCredItem true c)) = x at hfalse
        obtain ⟨b, st'⟩ := x
        cases b
        · rfl
        · exact absurd rfl hfalse
      exact absurd (hload.symm.trans hl) (by simp)
    have hrest : loadOps P device st (credEntries (c :: l)) =
        loadOps P device (loadOp P device st (.entry (encodeCredItem true c))).2 (credEntries l) := loadOps_cons_true hop
    rw [hrest] at hload ⊢
    have hcases := loadOp_cases (hok c List.mem_cons_self) (hint c List.mem_cons_self) hid
    generalize (loadOp P device st (.entry (encodeCredItem true c))) = x at hop hload hcases ⊢
    have hok' : ∀ x ∈ l, RecordOk P.mbedtls x := fun x hx => hok x (List.mem_cons_of_mem _ hx)
    have hint' : ∀ x ∈ l, IntFields x := fun x hx => hint x (List.mem_cons_of_mem _ hx)
    rcases hcases with hfalse | hsame | ⟨r, hlist, hrid, hr⟩
    · rw [hop] at hfalse
      cases hfalse
    · -- a duplicate: the list is at least one record short from here on
      have hlen := congrArg List.length hsame
      rw [List.length_map, List.length_map] at hlen
      have hn' : ((x.2.creds device).creds.map (·.credid) ++ l.map (·.credid)).Nodup := by
        rw [hsame]
        exact hn.sublist ((List.sublist_cons_self _ _).append_left _)
      left
      rcases loadOps_outcome l x.2 hok' hint' hn' hload with hlt | ⟨rs, hrs, hall⟩
      · simp only [List.length_cons]
        omega
      · rw [hrs, List.length_append, hall.length_eq, List.length_cons]
        omega
    · have hn' : ((x.2.creds device).creds.map (·.credid) ++ l.map (·.credid)).Nodup := by
        rw [hlist, List.map_append, List.map_singleton, hrid, List.append_assoc]
        exact hn
      rcases loadOps_outcome l x.2 hok' hint' hn' hload with hlt | ⟨rs, hrs, hall⟩
      · left
        rw [hlist] at hlt
        simp only [List.length_append, List.length_cons, List.length_nil] at hlt ⊢
        omega
      · right
        refine ⟨r :: rs, ?_, .cons hr hall⟩
        rw [hrs, hlist, List.append_assoc]
        rfl

theorem SameCert.of_contents {c d c' d' : OcSecCred} (hc : contents c = contents c') (hd : contents d = contents d')
    (h : SameCert c d) : SameCert c' d' := by
  obtain ⟨-, -, -, hpub, husage, -, htype, hsub, -⟩ := contents_eq_iff.1 hc
  obtain ⟨-, -, -, hpub', husage', -, htype', hsub', -⟩ := contents_eq_iff.1 hd
  unfold SameCert at *
  rw [← hpub, ← husage, ← htype, ← hsub, ← hpub', ← husage', ← htype', ← hsub']
  exact h

theorem loadOps_survives {P : Platform} {device : Nat} (hm : (P.mbedtls.crtParse []).1 < 0)
    (hparse : ∀ anchors anchors' cert x, ocCertsParseRoleCertificate P.mbedtls anchors cert = some x →
      ocCertsParseRoleCertificate P.mbedtls anchors' cert = some x) :
    ∀ (l pre : List OcSecCred) (st : SecState), (∀ c ∈ l, RecordOk P.mbedtls c) → (∀ c ∈ l, IntFields c) →
    (∀ c ∈ l, Survives P.mbedtls c) → (st.creds device).creds.map contents = pre.map contents →
    ((pre ++ l).map (·.credid)).Nodup → ((pre ++ l).Pairwise fun c d => ¬SameCert c d) →
    (loadOps P device st (credEntries l)).1 = true ∧
    ((loadOps P device st (credEntries l)).2.creds device).creds.map contents = (pre ++ l).map contents
  | [], pre, st, _, _, _, hpre, _, _ => by
    refine ⟨rfl, ?_⟩
    rw [List.append_nil, ← hpre]
    rfl
  | c :: l, pre, st, hok, hint, hsurv, hpre, hn, hdist => by
    have hids : (st.creds device).creds.map (·.credid) = pre.map (·.credid) := by
      have hcomp := congrArg (List.map OcSecCred.credid) hpre
      rwa [List.map_map, List.map_map] at hcomp
    have hid : c.credid ∉ (st.creds device).creds.map (·.credid) := by
      rw [hids]
      rw [List.map_append] at hn
      intro hmem
      exact (List.nodup_append.1 hn).2.2 _ hmem _ (by simp) rfl
    have hnew : ∀ d ∈ (st.creds device).creds, ¬SameCert d c := by
      intro d hd hsame
      have hmem : contents d ∈ pre.map contents := hpre ▸ List.mem_map_of_mem hd
      obtain ⟨d', hd', heq⟩ := List.mem_map.1 hmem
      exact (List.pairwise_append.1 hdist).2.2 d' hd' c List.mem_cons_self (hsame.of_contents heq.symm rfl)
    obtain ⟨hop, r, hlist, -, hr⟩ := loadOp_survives hm hparse (hok c List.mem_cons_self) (hint c List.mem_cons_self)
      (hsurv c List.mem_cons_self) hid hnew
    have hrest : loadOps P device st (credEntries (c :: l)) =
        loadOps P device (loadOp P device st (.entry (encodeCredItem true c))).2 (credEntries l) := loadOps_cons_true hop
    rw [hrest]
    have hpre' : ((loadOp P device st (.entry (encodeCredItem true c))).2.creds device).creds.map contents =
        (pre ++ [c]).map contents := by
      rw [hlist, List.map_append, List.map_append, hpre, List.map_singleton, List.map_singleton, hr]
    have happ : pre ++ c :: l = (pre ++ [c]) ++ l := by simp
    rw [happ] at hn hdist ⊢
    exact loadOps_survives hm hparse l (pre ++ [c]) _ (fun x hx => hok x (List.mem_cons_of_mem _ hx))
      (fun x hx => hint x (List.mem_cons_of_mem _ hx)) (fun x hx => hsurv x (List.mem_cons_of_mem _ hx)) hpre' hn hdist

/-! ## Storing and loading -/

/-- The representation of the credentials in `st`, decoded into the empty list of `fresh`, gives the same
credentials in the same order and the same owner. -/
def StoredLossless (P : Platform) (device : Nat) (st fresh : SecState) : Prop :=
  let r := ocSecLoadCred P fresh (ocSecEncodeCred true true (st.creds device)) device
  r.1 = true ∧ (r.2.creds device).creds.map contents = (st.creds device).creds.map contents ∧
  (r.2.creds device).rowneruuid = (st.creds device).rowneruuid

theorem credOps_encode (creds : OcSecCreds) : credOps (ocSecEncodeCred true true creds) =
    credEntries creds.creds ++ [.rowneruuid (ocUuidToStr creds.rowneruuid)] := by
  have hops : credOps (ocSecEncodeCred true true creds) =
      [] ++ ([] ++ ((creds.creds.map (encodeCredItem true)).map .entry ++
        ([.rowneruuid (ocUuidToStr creds.rowneruuid)] ++ []))) := rfl
  rw [hops, List.map_map]
  rfl

theorem ocSecLoadCred_encode (P : Platform) (st : SecState) (creds : OcSecCreds) (device : Nat) :
    ocSecLoadCred P st (ocSecEncodeCred true true creds) device =
      loadOps P device st (credEntries creds.creds ++ [.rowneruuid (ocUuidToStr creds.rowneruuid)]) := by
  have hall : (ocSecEncodeCred true true creds).all (credPropertyAllowed (st.pstat device).s true) = true := by
    simp [ocSecEncodeCred, credBaseline, credPropertyAllowed]
  unfold ocSecLoadCred
  rw [hall, credOps_encode]
  rfl

theorem storedLossless_iff_entries (P : Platform) (device : Nat) (st fresh : SecState) :
    StoredLossless P device st fresh ↔
      (loadOps P device fresh (credEntries (st.creds device).creds)).1 = true ∧
      ((loadOps P device fresh (credEntries (st.creds device).creds)).2.creds device).creds.map contents =
        (st.creds device).creds.map contents := by
  unfold StoredLossless
  simp only [ocSecLoadCred_encode]
  cases hl : (loadOps P device fresh (credEntries (st.creds device).creds)).1 with
  | false => simp [loadOps_append_false hl]
  | true =>
    rw [loadOps_append_true hl]
    -- every owner survives its text
    simp [loadOps, loadOp, ocStrToUuid_ocUuidToStr]

/-- Storing and loading is lossless for exactly those lists whose credentials all survive. -/
theorem credPersist_lossless_iff (P : Platform) (device : Nat) (hm : (P.mbedtls.crtParse []).1 < 0)
    (hparse : ∀ anchors anchors' cert x, ocCertsParseRoleCertificate P.mbedtls anchors cert = some x →
      ocCertsParseRoleCertificate P.mbedtls anchors' cert = some x)
    (st : SecState) (hr : CredsReached P device st) (hint : ∀ c ∈ (st.creds device).creds, IntFields c)
    (fresh : SecState) (hfresh : (fresh.creds device).creds = []) :
    StoredLossless P device st fresh ↔ ∀ c ∈ (st.creds device).creds, Survives P.mbedtls c := by
  rw [storedLossless_iff_entries]
  have hok := hr.ok
  constructor
  · rintro ⟨hload, hsame⟩
    have hn : ((fresh.creds device).creds.map (·.credid) ++ (st.creds device).creds.map (·.credid)).Nodup := by
      rw [hfresh]
      exact hok.credids
    have hlen := congrArg List.length hsame
    rw [List.length_map, List.length_map] at hlen
    rcases loadOps_outcome _ fresh hok.records hint hn hload with hlt | ⟨rs, hrs, hall⟩
    · rw [hfresh, List.length_nil] at hlt
      omega
    · rw [hfresh, List.nil_append] at hrs
      rw [hrs] at hsame
      -- the records agree with the credentials one by one
      clear hrs hlen hload hn hint hok hr
      generalize (st.creds device).creds = l at hsame hall
      induction hall with
      | nil => exact fun c hc => nomatch hc
      | cons hrc _ ih =>
        rw [List.map_cons, List.map_cons, List.cons.injEq] at hsame
        rw [List.forall_mem_cons]
        exact ⟨hrc.1 hsame.1, ih hsame.2⟩
  · intro hsurv
    exact loadOps_survives hm hparse (st.creds device).creds [] fresh hok.records hint hsurv (by rw [hfresh])
      hok.credids hok.distinct

/-- A pre-shared key for the given subject. -/
def pskFor (subject : OcString) : CredArgs :=
  ⟨-1, credtypePsk, .null, some subject, .raw, [1, 2, 3, 4], .unsupported, none, none, none⟩

/-- The state in which a device has that key. -/
def pskState (subject : OcString) : SecState :=
  (ocSecAddNewCred (Platform.simple Mbedtls.rejecting) (SecState.empty .rfpro) 0 false none (pskFor subject)).2

theorem pskState_reached (subject : OcString) : CredsReached (Platform.simple Mbedtls.rejecting) 0 (pskState subject) :=
  .add none _ (.empty _ rfl) (fun _ h => nomatch h)

/-- The state in which it has a second key, for another subject, of which it is the owner. -/
def twoKeys : SecState :=
  setOwnerCred (ocSecAddNewCred (Platform.simple Mbedtls.rejecting) (pskState (ascii "11111111-1111-1111-1111-111111111111")) 0
    false none { pskFor (ascii "22222222-2222-2222-2222-222222222222") with privatedata := [5, 6] }).2 2 0 true

theorem twoKeys_creds : (twoKeys.creds 0).creds =
    [{ OcSecCred.zero 1 with
        credid := 1, credtype := credtypePsk, privatedata := ⟨[1, 2, 3, 4], .raw⟩, subjectuuid := ⟨Vector.replicate 16 17⟩ },
      { OcSecCred.zero 2 with
        credid := 2, credtype := credtypePsk, privatedata := ⟨[5, 6], .raw⟩, subjectuuid := ⟨Vector.replicate 16 34⟩
        ownerCred := true }] := by decide +kernel

/-- Pre-shared keys survive, and which of them is the owner's. -/
theorem credPersist_psk : StoredLossless (Platform.simple Mbedtls.rejecting) 0 twoKeys (SecState.empty .rfnop) := by
  have hkeypairs : (pskState (ascii "11111111-1111-1111-1111-111111111111")).keypairs 0 = none := by decide +kernel
  have hreached : CredsReached (Platform.simple Mbedtls.rejecting) 0 twoKeys :=
    .ownerCred 2 true (.add none _ (pskState_reached _) fun _ h => absurd (hkeypairs.symm.trans h) (by simp))
  refine (credPersist_lossless_iff _ 0 (by decide) (fun _ _ cert _ h => ?_) _ hreached ?_ _ rfl).2 ?_
  · cases cert <;> cases h
  · rw [twoKeys_creds, List.forall_mem_cons, List.forall_mem_singleton]
    exact ⟨⟨by decide, by decide⟩, by decide, by decide⟩
  · rw [twoKeys_creds, List.forall_mem_cons, List.forall_mem_singleton]
    exact ⟨⟨by decide +kernel, by decide, by decide, by decide, by decide, by decide, by decide, by decide⟩,
      by decide +kernel, by decide, by decide, by decide, by decide, by decide, by decide, by decide⟩

/-- One for a subject that starts like the wildcard does not. -/
theorem credPersist_star : CredsReached (Platform.simple Mbedtls.rejecting) 0
      (pskState (ascii "2a111111-1111-1111-1111-111111111111")) ∧
    ¬StoredLossless (Platform.simple Mbedtls.rejecting) 0 (pskState (ascii "2a111111-1111-1111-1111-111111111111"))
      (SecState.empty .rfnop) := by
  refine ⟨pskState_reached _, ?_⟩
  unfold StoredLossless
  decide +kernel

end SmartGarage
