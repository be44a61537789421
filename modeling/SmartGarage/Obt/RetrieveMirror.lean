/-
Which ACLs and credentials the onboarding tool shows as the device has them, and when `acl2_rsrc` walks a list that has
not been initialised.
-/
import SmartGarage.Obt.Retrieve

namespace SmartGarage.Retrieve

/-! ## The representations -/

/-- `oc_sec_encode_acl`; `baseline` is `to_storage || iface_mask & OC_IF_BASELINE`. -/
def encodeAcl (baseline : Bool) (acl : OcSecAcl) : List OcRep :=
  (if baseline then svrBaseline (ascii "oic.r.acl2") else []) ++
  [.objectArray (some (ascii "aclist2")) (acl.subjects.map encodeAce),
   .string (some (ascii "rowneruuid")) (ocUuidToStr acl.rowneruuid)]

/-- An entry as it is listed: its href, or else its wildcard. -/
def listedRes (res : OcAceRes) : OcAceRes := if res.href ≠ [] then { res with wildcard := .noWc } else res

/-- An ACE as it is listed. -/
def listedAce (ace : OcSecAce) : OcSecAce := { ace with resources := ace.resources.map listedRes }

/-- A credential as it is listed, without what `persist` alone would write. -/
def listedCred (c : OcSecCred) : OcSecCred :=
  { c with addr := 0, ctx := [], ownerCred := false, privatedata := ⟨[], c.privatedata.encoding⟩ }

/-- What the tool builds of the ACL has the same ACEs in the same order, and the same owner. -/
def AclMirrored (baseline : Bool) (acl : OcSecAcl) : Prop :=
  ∃ subjects, (decodeAcl (fun _ => true) (encodeAcl baseline acl)).2 = ⟨acl.rowneruuid, some subjects⟩ ∧
    subjects.map listedAce = acl.subjects.map listedAce

/-- What the tool builds of the credentials has the same ones in the same order, and the same owner. -/
def CredsMirrored (baseline : Bool) (creds : OcSecCreds) : Prop :=
  ∃ l, (decodeCred (fun _ => true) (ocSecEncodeCred false baseline creds)).2 = ⟨creds.rowneruuid, some l⟩ ∧
    l.map listedCred = creds.creds.map listedCred

/-! ## One ACE -/

theorem decodeRes_encode (res : OcAceRes) :
    (encodeAceRes res).foldl decodeResKey ⟨[], .noWc⟩ =
      if res.href ≠ [] then ⟨cstr res.href, .noWc⟩
      else ⟨[], if res.wildcard = .minusOne then .noWc else res.wildcard⟩ := by
  have hhref : nameIs (some (ascii "href")) "href" = true := by decide
  obtain ⟨href, wildcard⟩ := res
  by_cases hh : href = []
  · subst hh
    cases wildcard <;> decide
  · simp [encodeAceRes, hh, decodeResKey, hhref]

theorem decodeResources_all (items : List (List OcRep)) : ∀ k,
    (decodeResources (fun _ => true) k items).done = true ∧
      (decodeResources (fun _ => true) k items).items = items.map (·.foldl decodeResKey ⟨[], .noWc⟩) := by
  induction items with
  | nil => exact fun _ => ⟨rfl, rfl⟩
  | cons item rest ih =>
    intro k
    obtain ⟨hdone, hitems⟩ := ih (k + 1)
    rw [decodeResources, if_pos rfl]
    exact ⟨hdone, congrArg (_ :: ·) hitems⟩

/-- An ACE that is written for a device and read by the tool. -/
def restoredAce (ace : OcSecAce) : OcSecAce :=
  { ace with
    subject := restoreSubject ace.subject
    resources := ace.resources.map fun res => (encodeAceRes res).foldl decodeResKey ⟨[], .noWc⟩ }

theorem decodeAceKeys_encode {ace : OcSecAce} (hlower : -2 ^ 31 ≤ ace.aceid) (hupper : ace.aceid < 2 ^ 31) :
    (encodeAce ace).foldl decodeAceKey ⟨⟨[], .uuid OcUuid.nil, 0, 0⟩, []⟩ =
      ⟨⟨[], restoreSubject ace.subject, ace.aceid, ace.permission⟩, ace.resources.map encodeAceRes⟩ := by
  have hresources : nameIs (some (ascii "resources")) "resources" = true := by decide
  have hpermission : nameIs (some (ascii "permission")) "permission" = true := by decide
  have haceid : nameIs (some (ascii "aceid")) "permission" = false ∧ nameIs (some (ascii "aceid")) "aceid" = true := by
    decide
  simp only [encodeAce, List.foldl_cons, List.foldl_nil, decodeAceKey, decodeSubject_encode, hresources, hpermission,
    haceid, castUInt16_toNat, castInt_self hlower hupper, if_true, Bool.false_eq_true, if_false]

theorem decodeAces_encode : ∀ (l : List OcSecAce) (k : Nat), (∀ ace ∈ l, -2 ^ 31 ≤ ace.aceid ∧ ace.aceid < 2 ^ 31) →
    (decodeAces (fun _ => true) k (l.map encodeAce)).done = true ∧
      (decodeAces (fun _ => true) k (l.map encodeAce)).items = l.map restoredAce
  | [], _, _ => ⟨rfl, rfl⟩
  | ace :: l, k, h => by
    obtain ⟨hlower, hupper⟩ := h ace List.mem_cons_self
    obtain ⟨hdone, hitems⟩ := decodeResources_all (ace.resources.map encodeAceRes) (k + 1)
    rw [List.map_cons, decodeAces, if_pos rfl, decodeAceKeys_encode hlower hupper]
    dsimp only
    rw [if_pos hdone]
    have hrest := decodeAces_encode l (decodeResources (fun _ => true) (k + 1) (ace.resources.map encodeAceRes)).count
      fun a ha => h a (List.mem_cons_of_mem ace ha)
    refine ⟨hrest.1, ?_⟩
    rw [hrest.2, hitems, List.map_map, List.map_cons]
    rfl

theorem decodeAcl_encode (baseline : Bool) {acl : OcSecAcl}
    (h : ∀ ace ∈ acl.subjects, -2 ^ 31 ≤ ace.aceid ∧ ace.aceid < 2 ^ 31) :
    (decodeAcl (fun _ => true) (encodeAcl baseline acl)).2 = ⟨acl.rowneruuid, some (acl.subjects.map restoredAce)⟩ := by
  have hrowner : nameIs (some (ascii "rowneruuid")) "rowneruuid" = true := by decide
  obtain ⟨hdone, hitems⟩ := decodeAces_encode acl.subjects 0 h
  cases baseline with
  | false =>
    simp only [decodeAcl, encodeAcl, decodeAclFrom, Bool.false_eq_true, if_false, List.nil_append, hdone, hitems,
      hrowner, if_true, ocStrToUuid_ocUuidToStr]
  | true =>
    simp only [decodeAcl, encodeAcl, svrBaseline, decodeAclFrom, if_true, List.cons_append, List.nil_append, hdone,
      hitems, hrowner, ocStrToUuid_ocUuidToStr]

/-- The condition for an ACE to be mirrored: no text has a zero byte, and an entry without an href has a wildcard that
can be written. -/
structure AceListable (ace : OcSecAce) : Prop where
  subject : ∀ role authority, ace.subject = .role role authority → 0 ∉ role ∧ 0 ∉ authority
  hrefs : ∀ res ∈ ace.resources, 0 ∉ res.href
  wildcards : ∀ res ∈ ace.resources, res.href = [] → res.wildcard ≠ .minusOne

theorem listedRes_restored_iff (res : OcAceRes) :
    listedRes ((encodeAceRes res).foldl decodeResKey ⟨[], .noWc⟩) = listedRes res ↔
      0 ∉ res.href ∧ (res.href = [] → res.wildcard ≠ .minusOne) := by
  rw [decodeRes_encode]
  obtain ⟨href, wildcard⟩ := res
  by_cases hh : href = []
  · subst hh
    cases wildcard <;> simp [listedRes]
  · by_cases hcut : cstr href = []
    · have hzero : 0 ∈ href := by
        by_contra hzero
        exact hh ((cstr_eq_self_iff.2 hzero).symm.trans hcut)
      simp [listedRes, hh, hcut, hzero, Ne.symm hh]
    · simp [listedRes, hh, hcut, cstr_eq_self_iff]

theorem listedAce_restored_iff (ace : OcSecAce) : listedAce (restoredAce ace) = listedAce ace ↔ AceListable ace := by
  have hiff : listedAce (restoredAce ace) = listedAce ace ↔ restoreSubject ace.subject = ace.subject ∧
      ∀ res ∈ ace.resources, listedRes ((encodeAceRes res).foldl decodeResKey ⟨[], .noWc⟩) = listedRes res := by
    simp only [listedAce, restoredAce, OcSecAce.mk.injEq, List.map_map, List.map_inj_left, Function.comp_apply,
      and_true]
    exact and_comm
  rw [hiff, restoreSubject_eq_self_iff]
  simp only [listedRes_restored_iff]
  exact ⟨fun h => ⟨h.1, fun res hres => (h.2 res hres).1, fun res hres => (h.2 res hres).2⟩,
    fun h => ⟨h.subject, fun res hres => ⟨h.hrefs res hres, h.wildcards res hres⟩⟩⟩

theorem aclMirrored_iff (baseline : Bool) {acl : OcSecAcl}
    (h : ∀ ace ∈ acl.subjects, -2 ^ 31 ≤ ace.aceid ∧ ace.aceid < 2 ^ 31) :
    AclMirrored baseline acl ↔ ∀ ace ∈ acl.subjects, AceListable ace := by
  have hlist : (acl.subjects.map restoredAce).map listedAce = acl.subjects.map listedAce ↔
      ∀ ace ∈ acl.subjects, AceListable ace := by
    simp only [List.map_map, List.map_inj_left, Function.comp_apply, listedAce_restored_iff]
  unfold AclMirrored
  rw [decodeAcl_encode baseline h, ← hlist]
  constructor
  · rintro ⟨subjects, hsubjects, hsame⟩
    cases hsubjects
    exact hsame
  · exact fun hsame => ⟨_, rfl, hsame⟩

/-! ## One credential -/

/-- A credential that is written for a client and read by the tool. -/
def restoredCred (k : Nat) (c : OcSecCred) : OcSecCred where
  addr := k
  role := if c.credtype = credtypePsk ∧ c.role ≠ [] then
    if c.authority ≠ [] then cstr c.authority else cstr c.role else []
  authority := []
  privatedata := ⟨[], if c.privatedata.encoding = .unsupported then .raw else c.privatedata.encoding⟩
  publicdata :=
    if c.publicdata.data ≠ [] then
      ⟨if c.publicdata.encoding = .pem then cstr c.publicdata.data else c.publicdata.data, c.publicdata.encoding⟩
    else OcCredData.zero
  credusage := c.credusage
  ctx := []
  credid := castInt c.credid
  credtype := castInt c.credtype
  subjectuuid := ocStrToUuid (encodeSubject c.subjectuuid) OcUuid.nil
  ownerCred := false

section Keys

variable (cr : OcSecCred)

theorem decodeKey_credid (v : Int) :
    decodeCredKey cr (.int (some (ascii "credid")) v) = { cr with credid := castInt v } := rfl

theorem decodeKey_credtype (v : Int) :
    decodeCredKey cr (.int (some (ascii "credtype")) v) = { cr with credtype := castInt v } := rfl

theorem decodeKey_subjectuuid (v : OcString) : decodeCredKey cr (.string (some (ascii "subjectuuid")) v) =
    { cr with subjectuuid := ocStrToUuid v cr.subjectuuid } := rfl

theorem decodeKeys_roleid (c : OcSecCred) (hrole : cr.role = []) :
    (encodeRoleid false c).foldl decodeCredKey cr = { cr with role := (restoredCred 0 c).role } := by
  obtain ⟨_, _, _, _, _, _, _, _, _, _, _⟩ := cr
  subst hrole
  unfold encodeRoleid restoredCred
  by_cases hwritten : c.credtype = credtypePsk ∧ c.role ≠ []
  · by_cases hauthority : c.authority = []
    · simp only [Bool.false_eq_true, false_or, if_pos hwritten, hauthority, ne_eq, not_true_eq_false, if_false]
      rfl
    · simp only [Bool.false_eq_true, false_or, if_pos hwritten, hauthority, ne_eq, not_false_eq_true, if_true]
      rfl
  · simp only [Bool.false_eq_true, false_or, if_neg hwritten]
    rfl

theorem decodeKey_privatedata (c : OcSecCred) (hdata : cr.privatedata.data = []) :
    decodeCredKey cr (encodePrivatedata false c.privatedata) =
      { cr with privatedata := (restoredCred 0 c).privatedata } := by
  obtain ⟨_, _, _, ⟨_, _⟩, _, _, _, _, _, _, _⟩ := cr
  subst hdata
  unfold encodePrivatedata restoredCred
  cases c.privatedata.encoding <;> rfl

theorem decodeKeys_credusage (u : OcSecCredusage) (hu : cr.credusage = .null) :
    (encodeCredusage u).foldl decodeCredKey cr = { cr with credusage := u } := by
  obtain ⟨_, _, _, _, _, _, _, _, _, _, _⟩ := cr
  subst hu
  cases u <;> rfl

theorem decodeKey_publicdata (entries : List OcRep) : decodeCredKey cr (.object (some (ascii "publicdata")) entries) =
    { cr with publicdata := entries.foldl decodeDataKey cr.publicdata } := rfl

theorem decodeData_encode {first : OcRep} {v : OcString} (e : OcSecEncoding)
    (hfirst : first = .string (some (ascii "data")) v ∨ first = .byteString (some (ascii "data")) v) :
    (first :: if (ocCredReadEncoding e).length > 7 then [.string (some (ascii "encoding")) (ocCredReadEncoding e)]
      else []).foldl decodeDataKey OcCredData.zero = ⟨v, e⟩ := by
  have hdata : decodeDataKey OcCredData.zero first = ⟨v, .unsupported⟩ := by
    rcases hfirst with rfl | rfl
    · cases v <;> rfl
    · cases v <;> rfl
  rw [List.foldl_cons, hdata]
  cases e <;> rfl

theorem decodeKeys_publicdata (c : OcSecCred) (hpublic : cr.publicdata = OcCredData.zero) :
    (encodePublicdata c.publicdata).foldl decodeCredKey cr =
      { cr with publicdata := (restoredCred 0 c).publicdata } := by
  unfold encodePublicdata restoredCred
  by_cases hdata : c.publicdata.data = []
  · simp [hdata, ← hpublic]
  · rw [if_pos hdata, if_pos hdata, List.foldl_cons, List.foldl_nil, decodeKey_publicdata, hpublic]
    refine congrArg (fun d => { cr with publicdata := d }) (decodeData_encode _ ?_)
    by_cases hpem : c.publicdata.encoding = .pem
    · rw [if_pos hpem, if_pos hpem]
      exact .inl rfl
    · rw [if_neg hpem, if_neg hpem]
      exact .inr rfl

end Keys

theorem decodeCredKeys_encode (k : Nat) (c : OcSecCred) :
    (encodeCredItem false c).foldl decodeCredKey (.zero k) = restoredCred k c := by
  unfold encodeCredItem
  simp only [List.foldl_append, List.foldl_cons, List.foldl_nil, decodeKey_credid, decodeKey_credtype,
    decodeKey_subjectuuid, Bool.false_eq_true, if_false]
  rw [decodeKeys_roleid _ c rfl, decodeKey_privatedata _ c rfl, decodeKeys_credusage _ _ rfl,
    decodeKeys_publicdata _ c rfl]
  rfl

theorem decodeCreds_encode : ∀ (l : List OcSecCred) (k : Nat),
    (decodeCreds (fun _ => true) k (l.map (encodeCredItem false))).done = true ∧
      (decodeCreds (fun _ => true) k (l.map (encodeCredItem false))).items.map listedCred =
        l.map fun c => listedCred (restoredCred 0 c)
  | [], _ => ⟨rfl, rfl⟩
  | c :: l, k => by
    obtain ⟨hdone, hitems⟩ := decodeCreds_encode l (k + 1)
    rw [List.map_cons, decodeCreds, if_pos rfl, decodeCredKeys_encode]
    exact ⟨hdone, congrArg (_ :: ·) hitems⟩

/-- The condition for a credential to be mirrored. -/
structure CredListable (c : OcSecCred) : Prop where
  /-- a subject that begins with the byte of the wildcard is the wildcard -/
  subject : c.subjectuuid.id.get 0 = 42 → c.subjectuuid = OcUuid.wildcard
  /-- a role is one of a PSK, and it has no authority -/
  role : c.role ≠ [] → c.credtype = credtypePsk ∧ 0 ∉ c.role
  authority : c.authority = []
  /-- the encodings are written -/
  privatedata : c.privatedata.encoding ≠ .unsupported
  publicdata : c.publicdata.data = [] → c.publicdata.encoding = .unsupported
  pem : c.publicdata.encoding = .pem → 0 ∉ c.publicdata.data

theorem subject_restored_iff (uuid : OcUuid) :
    ocStrToUuid (encodeSubject uuid) OcUuid.nil = uuid ↔ (uuid.id.get 0 = 42 → uuid = OcUuid.wildcard) := by
  have hget : uuid.id[0] = uuid.id.get 0 := rfl
  unfold encodeSubject
  rw [hget]
  by_cases hstar : uuid.id.get 0 = 42
  · have hwildcard : ocStrToUuid [42] OcUuid.nil = OcUuid.wildcard := by decide
    rw [if_pos hstar, hwildcard]
    exact ⟨fun h _ => h.symm, fun h => (h hstar).symm⟩
  · rw [if_neg hstar, ocStrToUuid_ocUuidToStr]
    exact iff_of_true rfl fun h => absurd h hstar

theorem role_restored_iff (c : OcSecCred) :
    ((restoredCred 0 c).role = c.role ∧ (restoredCred 0 c).authority = c.authority) ↔
      (c.role ≠ [] → c.credtype = credtypePsk ∧ 0 ∉ c.role) ∧ c.authority = [] := by
  unfold restoredCred
  dsimp only
  by_cases hauthority : c.authority = []
  · by_cases hrole : c.role = []
    · simp [hauthority, hrole]
    · by_cases hpsk : c.credtype = credtypePsk
      · simp [hauthority, hrole, hpsk, cstr_eq_self_iff]
      · simp [hauthority, hrole, hpsk, Ne.symm hrole]
  · simp [hauthority, Ne.symm hauthority]

theorem publicdata_restored_iff (c : OcSecCred) :
    (restoredCred 0 c).publicdata = c.publicdata ↔
      (c.publicdata.data = [] → c.publicdata.encoding = .unsupported) ∧
        (c.publicdata.encoding = .pem → 0 ∉ c.publicdata.data) := by
  unfold restoredCred
  dsimp only
  generalize c.publicdata = d
  obtain ⟨data, encoding⟩ := d
  by_cases hdata : data = []
  · subst hdata
    simp [OcCredData.zero, eq_comm]
  · by_cases hpem : encoding = .pem
    · simp [hdata, hpem, cstr_eq_self_iff]
    · simp [hdata, hpem]

theorem privatedata_restored_iff (e : OcSecEncoding) :
    (if e = .unsupported then .raw else e) = e ↔ e ≠ .unsupported := by
  cases e <;> decide

/-- The integers, which have no bound here, are of the type `int`. -/
structure CredInts (c : OcSecCred) : Prop where
  credid : -2 ^ 31 ≤ c.credid ∧ c.credid < 2 ^ 31
  credtype : -2 ^ 31 ≤ c.credtype ∧ c.credtype < 2 ^ 31

theorem listedCred_restored_iff {c : OcSecCred} (h : CredInts c) :
    listedCred (restoredCred 0 c) = listedCred c ↔ CredListable c := by
  have hcredid : castInt c.credid = c.credid := castInt_self h.credid.1 h.credid.2
  have hcredtype : castInt c.credtype = c.credtype := castInt_self h.credtype.1 h.credtype.2
  have hiff : listedCred (restoredCred 0 c) = listedCred c ↔
      ((restoredCred 0 c).role = c.role ∧ (restoredCred 0 c).authority = c.authority) ∧
        (restoredCred 0 c).privatedata.encoding = c.privatedata.encoding ∧
        (restoredCred 0 c).publicdata = c.publicdata ∧ (restoredCred 0 c).subjectuuid = c.subjectuuid := by
    simp only [listedCred, OcSecCred.mk.injEq, OcCredData.mk.injEq, true_and, and_true]
    have hsame : (restoredCred 0 c).credusage = c.credusage ∧ (restoredCred 0 c).credid = c.credid ∧
        (restoredCred 0 c).credtype = c.credtype := ⟨rfl, hcredid, hcredtype⟩
    tauto
  rw [hiff, role_restored_iff, publicdata_restored_iff]
  have hprivate : (restoredCred 0 c).privatedata.encoding = c.privatedata.encoding ↔
      c.privatedata.encoding ≠ .unsupported := privatedata_restored_iff _
  have hsubject : (restoredCred 0 c).subjectuuid = c.subjectuuid ↔
      (c.subjectuuid.id.get 0 = 42 → c.subjectuuid = OcUuid.wildcard) := subject_restored_iff _
  rw [hprivate, hsubject]
  constructor
  · rintro ⟨⟨hrole, hauthority⟩, hencoding, ⟨hempty, hpem⟩, hstar⟩
    exact ⟨hstar, hrole, hauthority, hencoding, hempty, hpem⟩
  · intro hl
    exact ⟨⟨hl.role, hl.authority⟩, hl.privatedata, ⟨hl.publicdata, hl.pem⟩, hl.subject⟩

theorem decodeCred_encode (baseline : Bool) (creds : OcSecCreds) :
    (decodeCred (fun _ => true) (ocSecEncodeCred false baseline creds)).2 =
      ⟨creds.rowneruuid, some (decodeCreds (fun _ => true) 0 (creds.creds.map (encodeCredItem false))).items⟩ := by
  have hcreds : nameIs (some (ascii "creds")) "creds" = true := by decide
  have hrowner : nameIs (some (ascii "rowneruuid")) "rowneruuid" = true := by decide
  have hdone := (decodeCreds_encode creds.creds 0).1
  cases baseline with
  | false =>
    simp only [decodeCred, ocSecEncodeCred, decodeCredFrom, Bool.false_eq_true, if_false, List.nil_append, hcreds,
      Bool.true_or, if_true, hdone, hrowner, ocStrToUuid_ocUuidToStr, Option.map_some]
  | true =>
    simp only [decodeCred, ocSecEncodeCred, credBaseline, decodeCredFrom, if_true, List.cons_append, List.nil_append,
      hcreds, Bool.true_or, hdone, hrowner, ocStrToUuid_ocUuidToStr, Option.map_some]

theorem credsMirrored_iff (baseline : Bool) {creds : OcSecCreds} (h : ∀ c ∈ creds.creds, CredInts c) :
    CredsMirrored baseline creds ↔ ∀ c ∈ creds.creds, CredListable c := by
  have hlist : (creds.creds.map fun c => listedCred (restoredCred 0 c)) = creds.creds.map listedCred ↔
      ∀ c ∈ creds.creds, CredListable c := by
    rw [List.map_inj_left]
    exact forall_congr' fun c => forall_congr' fun hc => listedCred_restored_iff (h c hc)
  unfold CredsMirrored
  rw [decodeCred_encode, ← hlist, ← (decodeCreds_encode creds.creds 0).2]
  constructor
  · rintro ⟨l, hl, hsame⟩
    cases hl
    exact hsame
  · exact fun hsame => ⟨_, rfl, hsame⟩

/-! ## Lists that are walked -/

/-- The payload has an array of objects, the only property that initialises `acl->subjects`. -/
def HasObjectArray (rep : List OcRep) : Prop := ∃ r ∈ rep, ∃ name items, r = .objectArray name items

theorem decodeAclFrom_initialised (memory : Nat → Bool) (rep : List OcRep) : ∀ (k : Nat) (acl : ObtAcl),
    (decodeAclFrom memory k acl rep).2.subjects.isSome = true ↔ acl.subjects.isSome = true ∨ HasObjectArray rep := by
  have hnone : ¬HasObjectArray [] := fun ⟨_, h, _⟩ => absurd h List.not_mem_nil
  have hcons (r : OcRep) (rest : List OcRep) :
      HasObjectArray (r :: rest) ↔ (∃ name items, r = .objectArray name items) ∨ HasObjectArray rest := by
    simp only [HasObjectArray, List.mem_cons, or_and_right, exists_or, exists_eq_left]
  induction rep with
  | nil => simp [decodeAclFrom, hnone]
  | cons r rest ih =>
    intro k acl
    rw [hcons]
    cases r with
    | string n v =>
      rw [decodeAclFrom, ih]
      split
      · simp
      · simp
    | objectArray n items =>
      have hsome : (∃ name items', OcRep.objectArray n items = .objectArray name items') := ⟨n, items, rfl⟩
      simp only [decodeAclFrom, hsome, true_or, or_true, iff_true]
      split
      · rw [ih]
        exact .inl rfl
      · rfl
    | _ => simp [decodeAclFrom, ih]

theorem acl2Rsrc_uninitialised_iff (r : RetrieveResponse) :
    acl2Rsrc r = .uninitialised ↔ r.decoded = true ∧ ¬HasObjectArray r.payload := by
  have hiff := decodeAclFrom_initialised r.memory r.payload 0 ⟨OcUuid.nil, none⟩
  simp only [Option.isSome_none, Bool.false_eq_true, false_or] at hiff
  rw [← hiff]
  unfold acl2Rsrc RetrieveResponse.decoded decodeAcl
  cases r.known <;> cases r.status.isError <;> cases r.allocated <;> simp
  cases (decodeAclFrom r.memory 0 ⟨OcUuid.nil, none⟩ r.payload).2.subjects with
  | none => simp
  | some l => cases l <;> simp

theorem decodeCredFrom_initialised (memory : Nat → Bool) (rep : List OcRep) : ∀ (k : Nat) (creds : ObtCreds),
    creds.creds.isSome = true → (decodeCredFrom memory k creds rep).2.creds.isSome = true := by
  induction rep with
  | nil => exact fun _ _ h => h
  | cons r rest ih =>
    intro k creds h
    cases r with
    | string n v =>
      rw [decodeCredFrom]
      refine ih _ _ ?_
      split
      · exact h
      · exact h
    | objectArray n items =>
      rw [decodeCredFrom]
      dsimp only
      split
      · split
        · exact ih _ _ (by simpa using h)
        · simpa using h
      · exact ih _ _ h
    | _ => exact ih _ _ h

theorem credRsrc_initialised (r : RetrieveResponse) : credRsrc r ≠ .uninitialised := by
  have hsome := decodeCredFrom_initialised r.memory r.payload 0 ⟨OcUuid.nil, some []⟩ rfl
  obtain ⟨l, hl⟩ := Option.isSome_iff_exists.1 hsome
  unfold credRsrc decodeCred
  simp only [hl]
  cases r.known <;> cases r.status.isError <;> cases r.allocated <;> cases l <;> simp

/-! ## Retrieval -/

/-- Retrieval mirrors a device, and both handlers only walk lists that have been initialised, exactly where every ACE and
every credential is one that can be listed and a response of `/oic/sec/acl2` that is decoded has an array of objects. -/
theorem retrieval_mirrors_iff (baseline : Bool) (acl : OcSecAcl) (creds : OcSecCreds) (response : RetrieveResponse)
    (hacl : ∀ ace ∈ acl.subjects, -2 ^ 31 ≤ ace.aceid ∧ ace.aceid < 2 ^ 31) (hcreds : ∀ c ∈ creds.creds, CredInts c) :
    (AclMirrored baseline acl ↔ ∀ ace ∈ acl.subjects, AceListable ace) ∧
      (CredsMirrored baseline creds ↔ ∀ c ∈ creds.creds, CredListable c) ∧
      (acl2Rsrc response ≠ .uninitialised ↔ (response.decoded = true → HasObjectArray response.payload)) ∧
      credRsrc response ≠ .uninitialised := by
  refine ⟨aclMirrored_iff baseline hacl, credsMirrored_iff baseline hcreds, ?_, credRsrc_initialised response⟩
  rw [Ne, acl2Rsrc_uninitialised_iff, not_and, not_not]

/-- A PSK for a role. -/
def sampleCred (authority : OcString) : OcSecCred :=
  { OcSecCred.zero 0 with
    credid := 1, credtype := credtypePsk, role := ascii "guard", authority := authority, privatedata := ⟨[7], .raw⟩ }

/-- An answer to a retrieval with a payload. -/
def sampleResponse (payload : List OcRep) : RetrieveResponse := ⟨true, .ok, payload, true, fun _ => true⟩

theorem retrieval_mirrors_iff_psk :
    (AclMirrored true ⟨[⟨[⟨ascii "/a", .noWc⟩], .conn .anonClear, 5, 2⟩], OcUuid.nil⟩ ↔
        ∀ ace ∈ [(⟨[⟨ascii "/a", .noWc⟩], .conn .anonClear, 5, 2⟩ : OcSecAce)], AceListable ace) ∧
      (CredsMirrored true ⟨[sampleCred []], OcUuid.nil⟩ ↔ ∀ c ∈ [sampleCred []], CredListable c) ∧
      (acl2Rsrc (sampleResponse []) ≠ .uninitialised ↔
        ((sampleResponse []).decoded = true → HasObjectArray (sampleResponse []).payload)) ∧
      credRsrc (sampleResponse []) ≠ .uninitialised := by
  refine retrieval_mirrors_iff true ⟨[⟨[⟨ascii "/a", .noWc⟩], .conn .anonClear, 5, 2⟩], OcUuid.nil⟩
    ⟨[sampleCred []], OcUuid.nil⟩ (sampleResponse []) (fun ace h => ?_) fun c h => ?_
  · rw [List.mem_singleton.1 h]
    decide
  · rw [List.mem_singleton.1 h]
    exact ⟨by decide, by decide⟩

/-- The role of a PSK comes back as its authority, and a payload with an owner only makes `acl2_rsrc` walk a list that
has not been initialised. -/
theorem retrieved_authority :
    ¬CredsMirrored false ⟨[sampleCred (ascii "site")], OcUuid.nil⟩ ∧
      ((decodeCred (fun _ => true) (ocSecEncodeCred false false ⟨[sampleCred (ascii "site")], OcUuid.nil⟩)).2.creds.map
        (·.map fun c => (c.role, c.authority))) = some [(ascii "site", [])] ∧
      acl2Rsrc (sampleResponse [.string (some (ascii "rowneruuid")) (ocUuidToStr OcUuid.nil)]) = .uninitialised := by
  refine ⟨?_, by decide, by decide⟩
  rw [credsMirrored_iff false fun c h => by
    rw [List.mem_singleton.1 h]
    exact ⟨by decide, by decide⟩]
  intro h
  exact absurd (h _ List.mem_cons_self).authority (by decide)

end SmartGarage.Retrieve
