/-
Atomicity of credential provisioning. `oc_sec_add_new_cred` evicts the credential with the given id
before it knows whether the new one can be stored, and `oc_sec_decode_cred` applies a payload entry
by entry; the theorem says when a failure leaves the stored credentials as they were.
-/
import SmartGarage.Security.AnchorRuns
import SmartGarage.Security.DeviceFrame

namespace SmartGarage

/-! ## Giving up a new record -/

/-- The new record is given up after its allocation: the role certificate is not accepted, or the private
data cannot be stored. -/
def credRejected (P : Platform) (st : SecState) (a : CredArgs) (kp : Option OcEcdsaKeypair) : Bool :=
  (a.credusage == .roleCert &&
    (ocCertsParseRoleCertificate P.mbedtls (st.trustAnchors.map (·.crt)) a.publicdata).isNone) ||
  (argsPrivatedata a kp).isNone

section

variable {P : Platform} {st : SecState} {device : Nat} {a : CredArgs} {subject : OcUuid} {kp : Option OcEcdsaKeypair}

theorem allocated_new (P : Platform) (st : SecState) (device : Nat) (a : CredArgs) (subject : OcUuid) :
    Allocated P st device (ocSecAllocateCred P st subject a.credtype a.credusage device).1
      (ocSecAllocateCred P st subject a.credtype a.credusage device).2 := ⟨rfl, rfl, rfl, rfl, rfl⟩

theorem allocateNewCred_rejected (device : Nat) (subject : OcUuid) (h : credRejected P st a kp = true) :
    ∃ st', allocateNewCred P st device a subject kp = (-1, st') ∧ st'.creds = st.creds := by
  have halloc := allocated_new P st device a subject
  unfold allocateNewCred
  simp only
  by_cases hrole : a.credusage = .roleCert
  · rw [if_pos hrole]
    cases hcert : ocCertsParseRoleCertificate P.mbedtls
        ((ocSecAllocateCred P st subject a.credtype a.credusage device).2.trustAnchors.map (·.crt)) a.publicdata with
    | none =>
      refine ⟨_, rfl, (halloc.undo rfl fun hx => ?_).creds⟩
      have hu : isAnchorUsage a.credusage = true := hx.2
      rw [hrole] at hu
      cases hu
    | some x =>
      have hsome : ocCertsParseRoleCertificate P.mbedtls (st.trustAnchors.map (·.crt)) a.publicdata = some x := hcert
      have hp : argsPrivatedata a kp = none := by simpa [credRejected, hsome] using h
      obtain ⟨st', heq, hsame⟩ := finishCred_none halloc { (ocSecAllocateCred P st subject a.credtype a.credusage
        device).1 with role := x.2.1, authority := x.2.2 } rfl rfl hp
      exact ⟨st', heq, hsame.creds⟩
  · rw [if_neg hrole]
    have hp : argsPrivatedata a kp = none := by simpa [credRejected, hrole] using h
    obtain ⟨st', heq, hsame⟩ := finishCred_none halloc _ rfl rfl hp
    exact ⟨st', heq, hsame.creds⟩

/-- Role and authority of the role certificate in the arguments. -/
def certNames (P : Platform) (st : SecState) (a : CredArgs) : OcString × OcString :=
  if a.credusage = .roleCert then
    ((ocCertsParseRoleCertificate P.mbedtls (st.trustAnchors.map (·.crt)) a.publicdata).map (·.2)).getD ([], [])
  else ([], [])

/-- The record that is allocated for the arguments. -/
def newRecord (P : Platform) (st : SecState) (device : Nat) (a : CredArgs) (subject : OcUuid) : OcSecCred :=
  { OcSecCred.zero (roleAddr P st device) with
    credtype := a.credtype, credusage := a.credusage, subjectuuid := subject
    role := (certNames P st a).1, authority := (certNames P st a).2 }

theorem finishCred_stored (subject : OcUuid) {privatedata : OcCredData} (cred : OcSecCred) (ha : cred.addr = roleAddr P st device)
    (hp : argsPrivatedata a kp = some privatedata) :
    ∃ credid st', credid ≠ -1 ∧
      (credid = a.credid ∨ a.credid = -1 ∧ credid ∉ (st.creds device).creds.map (·.credid)) ∧
      st'.creds = (withCred st device (storedCred a credid privatedata cred)).creds ∧
      finishCred P (ocSecAllocateCred P st subject a.credtype a.credusage device).2 device a kp cred = (credid, st') := by
  obtain ⟨credid, st', hne, hid, hsame, heq⟩ := finishCred_some (allocated_new P st device a subject) cred ha hp
  refine ⟨credid, _, hne, hid, ?_, heq⟩
  split
  · obtain ⟨_, _, _, hrefresh⟩ := ocTlsRefreshTrustAnchors_only P st'
    rw [hrefresh]
    exact hsame.creds
  · exact hsame.creds

/-- A record that is not given up is at the end of the list, under an id. -/
theorem allocateNewCred_stored (device : Nat) (subject : OcUuid) (h : credRejected P st a kp = false) :
    ∃ privatedata credid st', argsPrivatedata a kp = some privatedata ∧ credid ≠ -1 ∧
      (credid = a.credid ∨ a.credid = -1 ∧ credid ∉ (st.creds device).creds.map (·.credid)) ∧
      st'.creds = (withCred st device (storedCred a credid privatedata (newRecord P st device a subject))).creds ∧
      allocateNewCred P st device a subject kp = (credid, st') := by
  simp only [credRejected, Bool.or_eq_false_iff, Bool.and_eq_false_iff, beq_eq_false_iff_ne,
    Option.isNone_eq_false_iff, Option.isSome_iff_exists] at h
  obtain ⟨hcert, privatedata, hp⟩ := h
  obtain ⟨credid, st', hne, hid, hcreds, heq⟩ :=
    finishCred_stored subject (newRecord P st device a subject) rfl hp
  refine ⟨privatedata, credid, st', hp, hne, hid, hcreds, heq ▸ ?_⟩
  unfold allocateNewCred newRecord certNames
  simp only
  by_cases hrole : a.credusage = .roleCert
  · rw [if_pos hrole, if_pos hrole]
    obtain ⟨x, hx⟩ := hcert.resolve_left fun h => h hrole
    have hx' : ocCertsParseRoleCertificate P.mbedtls
        ((ocSecAllocateCred P st subject a.credtype a.credusage device).2.trustAnchors.map (·.crt)) a.publicdata =
          some x := hx
    rw [hx', hx]
    rfl
  · rw [if_neg hrole, if_neg hrole]
    rfl

/-! ## Evicting a credential in vain -/

/-- The search for the subject and the allocation in the state `st`, as they end in a failure. -/
def scanRejected (P : Platform) (st : SecState) (device : Nat) (a : CredArgs) (subject : OcUuid)
    (kp : Option OcEcdsaKeypair) : Bool :=
  match scanSubject a subject (st.creds device).creds with
  | .duplicate credid => credid == -1
  | .modify c => credRejected P (ocSecRemoveCred P st c device) a kp
  | .new => credRejected P st a kp

/-- The part of `oc_sec_add_new_cred` behind the eviction. -/
def scanAndAllocate (P : Platform) (st : SecState) (device : Nat) (a : CredArgs) (subject : OcUuid)
    (kp : Option OcEcdsaKeypair) : Int × SecState :=
  match scanSubject a subject (st.creds device).creds with
  | .duplicate credid => (credid, st)
  | .modify c => allocateNewCred P (ocSecRemoveCred P st c device) device a subject kp
  | .new => allocateNewCred P st device a subject kp

theorem addNewCred_eq : addNewCred P st device a subject kp =
    match ocSecGetCredByCredid st a.credid device with
    | some c => if sameCred c a subject then (a.credid, st)
        else scanAndAllocate P (ocSecRemoveCred P st c device) device a subject kp
    | none => scanAndAllocate P st device a subject kp := by
  unfold addNewCred scanAndAllocate
  cases hget : ocSecGetCredByCredid st a.credid device with
  | none => rfl
  | some c =>
    have hremove : (ocSecRemoveCredByCredid P st a.credid device).2 = ocSecRemoveCred P st c device := by
      unfold ocSecRemoveCredByCredid
      rw [hget]
    exact congrArg (fun s => if sameCred c a subject then (a.credid, st)
      else scanAndAllocate P s device a subject kp) hremove

theorem scanAndAllocate_fails :
    ((scanAndAllocate P st device a subject kp).1 = -1 ↔ scanRejected P st device a subject kp = true) ∧
    (scanRejected P st device a subject kp = true →
      ((scanAndAllocate P st device a subject kp).2.creds device).creds.Sublist (st.creds device).creds) := by
  have halloc (st : SecState) : ((allocateNewCred P st device a subject kp).1 = -1 ↔ credRejected P st a kp = true) ∧
      (credRejected P st a kp = true → (allocateNewCred P st device a subject kp).2.creds = st.creds) := by
    cases hr : credRejected P st a kp with
    | true =>
      obtain ⟨st', heq, hcreds⟩ := allocateNewCred_rejected device subject hr
      rw [heq]
      exact ⟨by simp, fun _ => hcreds⟩
    | false =>
      obtain ⟨_, credid, st', -, hne, -, -, heq⟩ := allocateNewCred_stored device subject hr
      rw [heq]
      exact ⟨by simpa using hne, fun h => nomatch h⟩
  unfold scanAndAllocate scanRejected
  cases scanSubject a subject (st.creds device).creds with
  | duplicate credid => exact ⟨by simp, fun _ => List.Sublist.refl _⟩
  | modify c =>
    obtain ⟨h1, h2⟩ := halloc (ocSecRemoveCred P st c device)
    refine ⟨h1, fun h => ?_⟩
    simp only [h2 h, (removeCred_list P st c device).1]
    exact List.eraseP_sublist
  | new =>
    obtain ⟨h1, h2⟩ := halloc st
    refine ⟨h1, fun h => ?_⟩
    simp only [h2 h]
    exact List.Sublist.refl _

theorem scanAndAllocate_unchanged (hid : a.credid ∉ (st.creds device).creds.map (·.credid))
    (h : scanRejected P st device a subject kp = true) :
    (scanAndAllocate P st device a subject kp).2.creds = st.creds := by
  unfold scanAndAllocate
  unfold scanRejected at h
  cases hs : scanSubject a subject (st.creds device).creds with
  | duplicate credid => rfl
  | modify c => exact absurd (scanSubject_modify hs) hid
  | new =>
    rw [hs] at h
    obtain ⟨st', heq, hcreds⟩ := allocateNewCred_rejected device subject h
    rw [heq]
    exact hcreds

/-- The credential with the id is evicted for the arguments, and the new one is not stored. -/
def evictedInVain (P : Platform) (st : SecState) (device : Nat) (a : CredArgs) : Bool :=
  match argsPublicKey P.mbedtls a with
  | none => false
  | some key =>
    match argsSubject a, argsKeypair P.mbedtls st device a key with
    | some subject, some kp =>
      ((ocSecGetCredByCredid st a.credid device).filter fun c => !sameCred c a subject).any fun c =>
        scanRejected P (ocSecRemoveCred P st c device) device a subject kp
    | _, _ => false

/-- A failed `oc_sec_add_new_cred` has removed or changed no stored credential. -/
def AddAtomic (P : Platform) (st : SecState) (device : Nat) (client : Option OcTlsPeer) (a : CredArgs) : Prop :=
  (ocSecAddNewCred P st device false client a).1 = -1 →
    (st.creds device).creds.Sublist ((ocSecAddNewCred P st device false client a).2.creds device).creds

theorem credid_notMem_of_none (h : ocSecGetCredByCredid st a.credid device = none) :
    a.credid ∉ (st.creds device).creds.map (·.credid) := by
  intro hmem
  obtain ⟨x, hx, hid⟩ := List.mem_map.1 hmem
  exact List.find?_eq_none.1 h x hx (by simpa using hid)

theorem addNewCred_atomic_iff :
    ((addNewCred P st device a subject kp).1 = -1 →
      (st.creds device).creds.Sublist ((addNewCred P st device a subject kp).2.creds device).creds) ↔
    ((ocSecGetCredByCredid st a.credid device).filter fun c => !sameCred c a subject).any (fun c =>
      scanRejected P (ocSecRemoveCred P st c device) device a subject kp) = false := by
  rw [addNewCred_eq]
  cases hget : ocSecGetCredByCredid st a.credid device with
  | none =>
    simp only [Option.filter_none, Option.any_none, iff_true]
    intro hfail
    rw [scanAndAllocate_unchanged (credid_notMem_of_none hget) (scanAndAllocate_fails.1.1 hfail)]
  | some c =>
    cases hsame : sameCred c a subject with
    | true => simp [hsame]
    | false =>
      simp only [Bool.false_eq_true, reduceIte, hsame, Bool.not_false, Option.filter_some, Option.any_some]
      have hc : c ∈ (st.creds device).creds := List.mem_of_find?_eq_some hget
      obtain ⟨hfail, hsub⟩ := @scanAndAllocate_fails P (ocSecRemoveCred P st c device) device a subject kp
      cases hr : scanRejected P (ocSecRemoveCred P st c device) device a subject kp with
      | false =>
        rw [hr] at hfail
        exact ⟨fun _ => rfl, fun _ h => absurd (hfail.1 h) (by decide)⟩
      | true =>
        -- the list is at least one record shorter
        refine ⟨fun h => ?_, fun h => nomatch h⟩
        have hkept := h (hfail.2 hr)
        have hlost := hsub hr
        rw [(removeCred_list P st c device).1] at hlost
        have hlen := List.length_eraseP_of_mem (p := fun x : OcSecCred => x.addr == c.addr) hc (by simp)
        have h1 := hkept.length_le
        have h2 := hlost.length_le
        have h3 := List.length_pos_of_mem hc
        omega

theorem ocSecAddNewCred_atomic_iff (client : Option OcTlsPeer) :
    AddAtomic P st device client a ↔ evictedInVain P st device a = false := by
  unfold AddAtomic evictedInVain ocSecAddNewCred
  cases argsPublicKey P.mbedtls a with
  | none => simp
  | some key =>
    simp only [Bool.false_eq_true, reduceIte]
    cases hs : argsSubject a with
    | none => simp
    | some subject =>
      cases hk : argsKeypair P.mbedtls st device a key with
      | none => simp
      | some kp => exact addNewCred_atomic_iff

end

/-! ## Whole payloads -/

/-- The entry leaves the credentials as they are: it does not pass the checks, repeats a stored credential
with its flag, or is given up while no credential has its id. -/
def entryKeepsCreds (P : Platform) (device : Nat) (st : SecState) (e : CredEntry) : Bool :=
  match argsPublicKey P.mbedtls e.args with
  | none => true
  | some key =>
    match argsSubject e.args, argsKeypair P.mbedtls st device e.args key with
    | some subject, some kp =>
      match ocSecGetCredByCredid st e.args.credid device with
      | some c => sameCred c e.args subject && lookupHarmless st device e.args.credid e
      | none =>
        match scanSubject e.args subject (st.creds device).creds with
        | .duplicate credid => lookupHarmless st device credid e
        | .modify _ => false
        | .new => credRejected P st e.args kp
    | _, _ => true

/-- The operation leaves credentials and owner as they are. -/
def opKeepsCreds (P : Platform) (device : Nat) (st : SecState) : CredOp → Bool
  | .rowneruuid v => ocStrToUuid v (st.creds device).rowneruuid == (st.creds device).rowneruuid
  | .entry item =>
    match decodeEntry item with
    | none => true
    | some e => item.isEmpty || entryKeepsCreds P device st e

/-- What such an entry does: it fails with the credentials as they were, or returns an id whose flag the
decoder finds as the entry has it. -/
theorem ocSecAddNewCred_keeps {P : Platform} {device : Nat} {st : SecState} {e : CredEntry}
    (client : Option OcTlsPeer) (h : entryKeepsCreds P device st e = true) :
    ((ocSecAddNewCred P st device false client e.args).1 = -1 ∧
      (ocSecAddNewCred P st device false client e.args).2.creds = st.creds) ∨
    ((ocSecAddNewCred P st device false client e.args).2 = st ∧
      lookupHarmless st device (ocSecAddNewCred P st device false client e.args).1 e = true) := by
  unfold entryKeepsCreds at h
  unfold ocSecAddNewCred
  cases hkey : argsPublicKey P.mbedtls e.args with
  | none => exact .inl ⟨rfl, rfl⟩
  | some key =>
    simp only [hkey] at h
    simp only [Bool.false_eq_true, reduceIte]
    cases hs : argsSubject e.args with
    | none => exact .inl ⟨rfl, rfl⟩
    | some subject =>
      cases hk : argsKeypair P.mbedtls st device e.args key with
      | none => exact .inl ⟨rfl, rfl⟩
      | some kp =>
        simp only [hs, hk] at h
        simp only [addNewCred_eq]
        cases hget : ocSecGetCredByCredid st e.args.credid device with
        | some c =>
          simp only [hget, Bool.and_eq_true] at h
          simp only [h.1, reduceIte]
          exact .inr ⟨trivial, h.2⟩
        | none =>
          simp only [hget] at h
          cases hscan : scanSubject e.args subject (st.creds device).creds with
          | duplicate credid =>
            rw [hscan] at h
            exact .inr (by simpa [scanAndAllocate, hscan] using h)
          | modify c =>
            rw [hscan] at h
            cases h
          | new =>
            rw [hscan] at h
            have hr : scanRejected P st device e.args subject kp = true := by simpa [scanRejected, hscan] using h
            exact .inl ⟨scanAndAllocate_fails.1.2 hr, scanAndAllocate_unchanged (credid_notMem_of_none hget) hr⟩

theorem decodeOp_keepsCreds (P : Platform) (device : Nat) (client : Option OcTlsPeer) (d : Decoding) (op : CredOp)
    (h : opKeepsCreds P device d.st op = true) :
    (decodeOp P device false client d op).2.st.creds device = d.st.creds device := by
  cases op with
  | rowneruuid v =>
    have hv : ocStrToUuid v (d.st.creds device).rowneruuid = (d.st.creds device).rowneruuid := by
      simpa [opKeepsCreds] using h
    simp only [decodeOp, hv, setCreds_creds]
  | entry item =>
    rcases decodeOp_entry_cases P device false client d item with heq | ⟨e, he, hi, heq⟩
    · rw [heq]
    · have hkeep : entryKeepsCreds P device d.st e = true := by simpa [opKeepsCreds, he, hi] using h
      rw [heq]
      rcases ocSecAddNewCred_keeps client hkeep with ⟨hfail, hcreds⟩ | ⟨hst, hlook⟩
      · simp only [hfail, reduceIte, hcreds]
      · dsimp only
        split
        · rw [hst]
        · rw [hst, markOwner_harmless hlook]

/-- `oc_sec_add_new_cred` fails: the arguments do not pass the checks, repeat a credential under the id -1, or are given
up behind the eviction of the credential with their id. -/
def addFails (P : Platform) (st : SecState) (device : Nat) (a : CredArgs) : Bool :=
  match argsPublicKey P.mbedtls a with
  | none => true
  | some key =>
    match argsSubject a, argsKeypair P.mbedtls st device a key with
    | some subject, some kp =>
      match ocSecGetCredByCredid st a.credid device with
      | some c =>
        if sameCred c a subject then a.credid == -1 else scanRejected P (ocSecRemoveCred P st c device) device a subject kp
      | none => scanRejected P st device a subject kp
    | _, _ => true

theorem ocSecAddNewCred_fails_iff (P : Platform) (st : SecState) (device : Nat) (client : Option OcTlsPeer) (a : CredArgs) :
    (ocSecAddNewCred P st device false client a).1 = -1 ↔ addFails P st device a = true := by
  unfold ocSecAddNewCred addFails
  cases argsPublicKey P.mbedtls a with
  | none => simp
  | some key =>
    simp only [Bool.false_eq_true, reduceIte]
    cases argsSubject a with
    | none => simp
    | some subject =>
      cases argsKeypair P.mbedtls st device a key with
      | none => simp
      | some kp =>
        simp only [addNewCred_eq]
        cases ocSecGetCredByCredid st a.credid device with
        | none => exact scanAndAllocate_fails.1
        | some c =>
          cases hsame : sameCred c a subject with
          | true => simp [hsame]
          | false =>
            simp only [hsame, Bool.false_eq_true, reduceIte]
            exact scanAndAllocate_fails.1

/-- The operation of a payload to cred fails. -/
def opFails (P : Platform) (device : Nat) (st : SecState) : CredOp → Bool
  | .rowneruuid _ => false
  | .entry item =>
    match decodeEntry item with
    | none => true
    | some e => !item.isEmpty && addFails P st device e.args

theorem decodeOp_fails_iff (P : Platform) (device : Nat) (client : Option OcTlsPeer) (d : Decoding) (op : CredOp) :
    (decodeOp P device false client d op).1 = false ↔ opFails P device d.st op = true := by
  cases op with
  | rowneruuid v => simp [decodeOp, opFails]
  | entry item =>
    cases he : decodeEntry item with
    | none => simp [decodeOp_none _ _ _ _ _ he, opFails, he]
    | some e =>
      by_cases hi : item = []
      · subst hi
        simp [decodeOp_nil, opFails, he]
      · rw [decodeOp_entry _ _ _ _ _ he hi]
        have hfails := ocSecAddNewCred_fails_iff P d.st device client e.args
        by_cases hid : (ocSecAddNewCred P d.st device false client e.args).1 = -1
        · simp [hid, opFails, he, hi, hfails.1 hid]
        · simp [hid, opFails, he, Bool.eq_false_iff.2 (hfails.not.1 hid)]

/-- The decoder fails just if it comes to an operation that does. -/
theorem decodeOps_fails_iff (P : Platform) (device : Nat) (client : Option OcTlsPeer) : ∀ (l : List CredOp) (d : Decoding),
    (decodeOps P device false client d l).1 = false ↔
      allReached P device false client (fun st op => !opFails P device st op) d l = false
  | [], _ => Iff.rfl
  | op :: l, d => by
    have hop := decodeOp_fails_iff P device client d op
    unfold decodeOps allReached
    rcases hd : decodeOp P device false client d op with ⟨_ | _, d'⟩
    · rw [hd] at hop
      simp [hop.1 rfl]
    · rw [hd] at hop
      have hnot : opFails P device d.st op = false := Bool.eq_false_iff.2 fun h => Bool.noConfusion (hop.2 h)
      simp only [hnot, Bool.not_false, Bool.true_and]
      exact decodeOps_fails_iff P device client l d'

/-- A failed `oc_sec_decode_cred` for the cred resource has left credentials and owner as they were. -/
def DecodeAtomic (P : Platform) (st : SecState) (rep : List OcRep) (client : Option OcTlsPeer) (device : Nat) : Prop :=
  (ocSecDecodeCred P st rep false false client device).1 = false →
    (ocSecDecodeCred P st rep false false client device).2.st.creds device = st.creds device

/-- Where the state allows the payload and an operation that the decoder comes to fails, that one and all those in front
of it leave the credentials as they are. -/
def FailureKeeps (P : Platform) (st : SecState) (rep : List OcRep) (client : Option OcTlsPeer) (device : Nat) : Prop :=
  rep.all (credPropertyAllowed (st.pstat device).s false) = true →
    allReached P device false client (fun st op => !opFails P device st op) ⟨st, none⟩ (credOps rep) = false →
      allReached P device false client (opKeepsCreds P device) ⟨st, none⟩ (credOps rep) = true

instance (P : Platform) (st : SecState) (rep : List OcRep) (client : Option OcTlsPeer) (device : Nat) :
    Decidable (FailureKeeps P st rep client device) := inferInstanceAs (Decidable (_ → _ → _))

/-- A device in RFPRO with one pre-shared key. -/
def provisionedState : SecState :=
  { (SecState.empty .rfpro).setCreds 0
      ⟨[{ OcSecCred.zero 7 with credid := 5, credtype := credtypePsk, privatedata := ⟨[1, 2, 3, 4], .raw⟩ }], OcUuid.nil⟩ with
    liveCreds := [7], draws := 1 }

/-- An entry for a pre-shared key whose text is no Base64. -/
def badPskRep (credid : Int) : List OcRep :=
  [.objectArray (some (ascii "creds")) [
    [.int (some (ascii "credid")) credid, .int (some (ascii "credtype")) credtypePsk,
     .string (some (ascii "subjectuuid")) (ascii "11111111-1111-1111-1111-111111111111"),
     .object (some (ascii "privatedata"))
      [.string (some (ascii "encoding")) (ascii "oic.sec.encoding.base64"), .string (some (ascii "data")) (ascii "abc")]]]]

end SmartGarage
