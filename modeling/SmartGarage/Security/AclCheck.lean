/-
What `oc_sec_check_acl` decides, as a rule over the ACL: the nested resumable searches over ACEs,
resource entries and asserted roles are folds over the matching elements, so the accumulated
permission has a bit exactly if one matching, covering ACE has it, and the early returns are
disjuncts of the rule.
-/
import SmartGarage.Security.Acl
import Mathlib.Tactic.Tauto

namespace SmartGarage

/-! ## Permission bits -/

/-- The permissions of which one suffices for a method. -/
def methodBits : OcMethod → BitVec 16
  | .get => permRetrieve ||| permNotify
  | .put | .post => permCreate ||| permUpdate
  | .delete => permDelete

theorem or_and_ne_zero {w : Nat} (x y m : BitVec w) : (x ||| y) &&& m ≠ 0#w ↔ x &&& m ≠ 0#w ∨ y &&& m ≠ 0#w := by
  rw [BitVec.and_or_distrib_right, ne_eq, BitVec.or_eq_zero_iff]
  tauto

theorem and_or_ne_zero {w : Nat} (x a b : BitVec w) : x &&& (a ||| b) ≠ 0#w ↔ x &&& a ≠ 0#w ∨ x &&& b ≠ 0#w := by
  rw [BitVec.and_or_distrib_left, ne_eq, BitVec.or_eq_zero_iff]
  tauto

/-- A value that has a bit of some mask is not zero, so the outer test of `oc_sec_check_acl` is
implied by the inner ones. -/
theorem ne_zero_and_or (p a b : BitVec 16) :
    p ≠ 0#16 ∧ (p &&& a ≠ 0#16 ∨ p &&& b ≠ 0#16) ↔ p &&& (a ||| b) ≠ 0#16 := by
  rw [and_or_ne_zero]
  refine ⟨And.right, fun h => ⟨?_, h⟩⟩
  rintro rfl
  simp at h

theorem methodAllowed_iff (method : OcMethod) (p : BitVec 16) :
    methodAllowed method p = true ↔ p &&& methodBits method ≠ 0#16 := by
  have hor : ∀ a b : BitVec 16, (p != 0#16 && (p &&& a != 0#16 || p &&& b != 0#16)) = true ↔
      p &&& (a ||| b) ≠ 0#16 := by
    intro a b
    rw [← ne_zero_and_or, Bool.and_eq_true, Bool.or_eq_true, bne_iff_ne, bne_iff_ne, bne_iff_ne]
  cases method with
  | get => exact hor permRetrieve permNotify
  | post => exact hor permCreate permUpdate
  | put => exact hor permCreate permUpdate
  | delete => simpa [methodAllowed, methodBits] using hor permDelete permDelete

theorem foldl_or_and_ne_zero {α : Type} (f : α → BitVec 16) (m : BitVec 16) :
    ∀ (l : List α) (acc : BitVec 16), l.foldl (fun p a => p ||| f a) acc &&& m ≠ 0#16 ↔
      acc &&& m ≠ 0#16 ∨ ∃ a ∈ l, f a &&& m ≠ 0#16
  | [], acc => by simp
  | a :: l, acc => by
    rw [List.foldl_cons, foldl_or_and_ne_zero f m l, or_and_ne_zero]
    simp only [List.mem_cons, exists_eq_or_imp]
    tauto

/-! ## Covering resource entries -/

/-- The wildcard rule documented in `oc_ace_get_permission`: `*` covers every resource, `+` those
that are discoverable, `-` those that are discoverable and public. -/
def wildcardCovers (w : OcAceWildcard) (discoverable isPublic : Bool) : Prop :=
  match w with
  | .noWc => False
  | .wcAll => True
  | .wcAllSecured => discoverable = true
  | .wcAllPublic => discoverable = true ∧ isPublic = true
  | .minusOne => discoverable = true

/-- The href of an entry names a URI: it is the URI, behind one more character where the URI lacks its slash. -/
def HrefNames (uri href : OcString) : Prop :=
  if uri.head? = some 47 then href = uri else href ≠ [] ∧ href.tail = uri

theorem hrefMatches_iff (uri href : OcString) : hrefMatches uri href = true ↔ HrefNames uri href := by
  rw [hrefMatches, hrefSkip, HrefNames, Bool.and_eq_true, beq_iff_eq, beq_iff_eq]
  split
  · exact ⟨And.right, by rintro rfl; exact ⟨rfl, rfl⟩⟩
  · cases href with
    | nil => simp
    | cons c t => exact ⟨fun h => ⟨nofun, h.2⟩, fun h => ⟨congrArg (·.length + 1) h.2.symm, h.2⟩⟩

/-- A resource entry covers a resource: an entry without an href covers, by its wildcard, only
resources that are not DCRs; one with an href covers the resource of that href, subject to its
wildcard (if it has one) unless the resource is a DCR. -/
def EntryCovers (res : OcAceRes) (resource : OcResource) (isDCR : Bool) : Prop :=
  if res.href = [] then
    isDCR = false ∧ wildcardCovers res.wildcard resource.discoverable (!resource.secure)
  else HrefNames resource.uri res.href ∧
    (isDCR = true ∨ res.wildcard = .noWc ∨ wildcardCovers res.wildcard resource.discoverable (!resource.secure))

/-- The comparison of two wildcards that are both set. -/
def wildcardsMeet (wc w : BitVec 32) : Prop :=
  wc ≠ OcAceWildcard.wcAll.bits ∧ wc &&& w ≠ 0#32 ∨
  wc = OcAceWildcard.wcAll.bits ∧ w = OcAceWildcard.wcAll.bits

/-- The test of `oc_sec_ace_find_resource` without its flags: hrefs that are both there are equal,
wildcards that are both set meet, and there is at least one of the two pairs. -/
theorem aceResMatches_eq (href : Option OcString) (wc : BitVec 32) (res : OcAceRes) :
    aceResMatches href wc res = true ↔
      (∀ h ∈ href, res.href ≠ [] → hrefMatches h res.href = true) ∧
      (wc ≠ 0#32 → res.wildcard.bits ≠ 0#32 → wildcardsMeet wc res.wildcard.bits) ∧
      (href ≠ none ∧ res.href ≠ [] ∨ wc ≠ 0#32 ∧ res.wildcard.bits ≠ 0#32) := by
  unfold aceResMatches wildcardsMeet
  generalize OcAceWildcard.wcAll.bits = all
  generalize res.wildcard.bits = w
  by_cases hc : wc = 0#32
  · cases href with
    | none => simp [hc]
    | some h =>
      by_cases hh : res.href = []
      · simp [hc, hh]
      · by_cases hm : hrefMatches h res.href = true <;> simp [hc, hh, hm]
  · by_cases hw : w = 0#32
    · cases href with
      | none => simp [hw]
      | some h =>
        by_cases hh : res.href = []
        · simp [hw, hh]
        · by_cases hm : hrefMatches h res.href = true <;> simp [hw, hh, hm]
    · cases href with
      | none => by_cases ha : wc = all <;> by_cases hb : wc &&& w = 0#32 <;> by_cases hd : w = all <;> simp_all
      | some h =>
        by_cases hh : res.href = []
        · by_cases ha : wc = all <;> by_cases hb : wc &&& w = 0#32 <;> by_cases hd : w = all <;> simp_all
        · by_cases hm : hrefMatches h res.href = true
          · by_cases ha : wc = all <;> by_cases hb : wc &&& w = 0#32 <;> by_cases hd : w = all <;> simp_all
          · simp [hh, hm]

theorem bits_ne_zero (w : OcAceWildcard) : w.bits ≠ 0#32 ↔ w ≠ .noWc := by
  cases w <;> decide

/-- The wildcard of a resource that is not a DCR is set, and it meets those that cover the
resource by the documented rule. -/
theorem resourceWildcard_meets (w : OcAceWildcard) (resource : OcResource) :
    resourceWildcard resource false (!resource.secure) ≠ 0#32 ∧
    (w ≠ .noWc ∧ wildcardsMeet (resourceWildcard resource false (!resource.secure)) w.bits ↔
      wildcardCovers w resource.discoverable (!resource.secure)) := by
  unfold resourceWildcard wildcardsMeet
  cases resource.discoverable <;> cases resource.secure <;> cases w <;> simp +decide [wildcardCovers]

theorem aceResMatches_iff (res : OcAceRes) (resource : OcResource) (isDCR : Bool) :
    aceResMatches (some resource.uri) (resourceWildcard resource isDCR (!resource.secure)) res = true ↔
      EntryCovers res resource isDCR := by
  rw [aceResMatches_eq]
  simp only [EntryCovers, hrefMatches_iff]
  cases isDCR with
  | true =>
    have hw : resourceWildcard resource true (!resource.secure) = 0#32 := by simp [resourceWildcard]
    by_cases hh : res.href = [] <;> simp [hw, hh]
  | false =>
    obtain ⟨h0, hcov⟩ := resourceWildcard_meets res.wildcard resource
    have hb := bits_ne_zero res.wildcard
    by_cases hh : res.href = []
    · simp only [hh, Option.mem_some_iff, ne_eq, not_true_eq_false, false_implies, implies_true, true_and,
        and_false, false_or, reduceIte]
      tauto
    · simp only [hh, Option.mem_some_iff, forall_eq', ne_eq, not_false_eq_true, true_implies, reduceIte,
        reduceCtorEq, and_self, true_or, and_true, false_or]
      tauto

/-! ## The permissions of one subject -/

/-- The subject of an ACE applies to a requester's subject: the same UUID, the same connection
type, or the same role with the ACE's authority, any authority if the ACE has none. -/
def SubjectApplies (subject ace : OcAceSubject) : Prop :=
  match subject, ace with
  | .uuid u, .uuid v => u = v
  | .role r a, .role r' a' => r = r' ∧ (a' = [] ∨ a' = a)
  | .conn c, .conn c' => c = c'
  | _, _ => False

theorem subjectMatches_iff (subject ace : OcAceSubject) :
    subjectMatches subject ace = true ↔ SubjectApplies subject ace := by
  cases subject <;> cases ace <;> simp [subjectMatches, SubjectApplies]

/-- An ACE for the subject that covers the resource has one of the permissions `bits`. -/
def AclGrants (acl : OcSecAcl) (subject : OcAceSubject) (resource : OcResource) (isDCR : Bool)
    (bits : BitVec 16) : Prop :=
  ∃ ace ∈ acl.subjects, SubjectApplies subject ace.subject ∧
    (∃ res ∈ ace.resources, EntryCovers res resource isDCR) ∧ ace.permission &&& bits ≠ 0#16

theorem aceMatches_any (subject : OcAceSubject) (ace : OcSecAce) :
    aceMatches subject (-1) 0 ace = true ↔ SubjectApplies subject ace.subject := by
  rw [← subjectMatches_iff]
  simp [aceMatches]

theorem ocAceGetPermission_bits (ace : OcSecAce) (resource : OcResource) (isDCR : Bool) (bits : BitVec 16) :
    ocAceGetPermission ace resource isDCR (!resource.secure) &&& bits ≠ 0#16 ↔
      (∃ res ∈ ace.resources, EntryCovers res resource isDCR) ∧ ace.permission &&& bits ≠ 0#16 := by
  unfold ocAceGetPermission
  rw [Search.foldMatches_eq, BitVec.ofNat_eq_ofNat, foldl_or_and_ne_zero (fun _ => ace.permission)]
  simp only [BitVec.zero_and, ne_eq, not_true_eq_false, false_or, List.mem_filter, aceResMatches_iff]
  tauto

theorem subjectPermissions_bits (acl : OcSecAcl) (subject : OcAceSubject) (resource : OcResource)
    (isDCR : Bool) (permission bits : BitVec 16) :
    subjectPermissions acl subject resource isDCR (!resource.secure) permission &&& bits ≠ 0#16 ↔
      permission &&& bits ≠ 0#16 ∨ AclGrants acl subject resource isDCR bits := by
  unfold subjectPermissions AclGrants
  rw [Search.foldMatches_eq, foldl_or_and_ne_zero (fun ace => ocAceGetPermission ace resource isDCR (!resource.secure))]
  simp only [List.mem_filter, aceMatches_any, ocAceGetPermission_bits, and_assoc]

theorem getRolePermissions_bits (acl : OcSecAcl) (c : OcSecCred) (resource : OcResource) (isDCR : Bool)
    (bits : BitVec 16) :
    getRolePermissions acl c resource isDCR (!resource.secure) &&& bits ≠ 0#16 ↔
      AclGrants acl (.role c.role c.authority) resource isDCR bits := by
  unfold getRolePermissions
  rw [subjectPermissions_bits]
  simp

/-! ## The asserted roles -/

/-- The certificate of an asserted role is (still) a valid role certificate. -/
def RoleValid (P : Platform) (c : OcSecCred) : Prop :=
  c.ctx.head?.any (ocCertsValidateRoleCert P.mbedtls) = true

/-- The loop over the asserted roles ends early iff a valid one is `oic.role.owner`; if it does not,
it has added the permissions of the valid ones. -/
theorem checkRoles_spec (P : Platform) (acl : OcSecAcl) (client : Nat) (resource : OcResource) (isDCR : Bool)
    (bits : BitVec 16) : ∀ (l : List OcSecCred) (st : SecState) (permission : BitVec 16),
    let r := (checkRoles P acl client resource isDCR (!resource.secure) l st permission).1
    (r = none ↔ ∃ c ∈ l, RoleValid P c ∧ c.role = ascii "oic.role.owner") ∧
    ∀ q, r = some q → (q &&& bits ≠ 0#16 ↔ permission &&& bits ≠ 0#16 ∨
      ∃ c ∈ l, RoleValid P c ∧ AclGrants acl (.role c.role c.authority) resource isDCR bits)
  | [], st, permission => by simp [checkRoles]
  | c :: l, st, permission => by
    unfold checkRoles
    by_cases hv : RoleValid P c
    · have hc : (!(c.ctx.head?.any (ocCertsValidateRoleCert P.mbedtls))) = false := by
        rw [Bool.not_eq_false']; exact hv
      rw [if_neg (by simp [hc])]
      by_cases ho : c.role = ascii "oic.role.owner"
      · rw [if_pos ho]
        exact ⟨⟨fun _ => ⟨c, List.mem_cons_self, hv, ho⟩, fun _ => rfl⟩, fun q hq => nomatch hq⟩
      · rw [if_neg ho]
        obtain ⟨hnone, hsome⟩ := checkRoles_spec P acl client resource isDCR bits l st
          (permission ||| getRolePermissions acl c resource isDCR (!resource.secure))
        refine ⟨?_, fun q hq => ?_⟩
        · rw [hnone]
          simp [ho]
        · rw [hsome q hq, or_and_ne_zero, getRolePermissions_bits]
          simp only [List.mem_cons, exists_eq_or_imp, hv, true_and]
          tauto
    · -- an invalid role is freed and contributes nothing; the rest of the list is already fixed
      have hc : (!(c.ctx.head?.any (ocCertsValidateRoleCert P.mbedtls))) = true := by
        rw [Bool.not_eq_true']; exact Bool.eq_false_iff.2 hv
      rw [if_pos hc]
      obtain ⟨hnone, hsome⟩ := checkRoles_spec P acl client resource isDCR bits l (ocSecFreeRole st c.addr client)
        permission
      refine ⟨?_, fun q hq => ?_⟩
      · rw [hnone]
        simp [hv]
      · rw [hsome q hq]
        simp [hv]

/-! ## The rule -/

/-- The subjects a request counts as: the peer's UUID, the role of its PSK credential or its valid
asserted roles, `auth-crypt` on a secured endpoint, and `anon-clear` always. -/
def RequestSubject (P : Platform) (st : SecState) (endpoint : OcEndpoint) : OcAceSubject → Prop
  | .uuid u => ∃ peer, ocTlsGetPeer st endpoint = some peer ∧ u = peer.uuid
  | .role r a => ∃ peer, ocTlsGetPeer st endpoint = some peer ∧
      ((peer.usesPskCred = true ∧ ∃ c, ocSecFindCred (st.creds endpoint.device) peer.uuid credtypePsk .null = some c ∧
        c.role ≠ [] ∧ r = c.role ∧ a = c.authority) ∨
      (peer.usesPskCred = false ∧ ∃ c ∈ ocSecGetRoles st peer.addr, RoleValid P c ∧ r = c.role ∧ a = c.authority))
  | .conn .authCrypt => endpoint.flags.secured = true
  | .conn .anonClear => True

/-- The peer's UUID is the `rowneruuid` of that very resource. -/
def OwnsResource (st : SecState) (peer : OcTlsPeer) (resource : OcResource) (device : Nat) : Prop :=
  (peer.uuid = (st.aclist device).rowneruuid ∧ resource.uri = ascii "/oic/sec/acl2") ∨
  (peer.uuid = (st.doxm device).rowneruuid ∧ resource.uri = ascii "/oic/sec/doxm") ∨
  (peer.uuid = (st.pstat device).rowneruuid ∧ resource.uri = ascii "/oic/sec/pstat") ∨
  (peer.uuid = (st.creds device).rowneruuid ∧ resource.uri = ascii "/oic/sec/cred")

/-- The rights of an authenticated peer that no ACE gives. -/
def ImplicitAccess (P : Platform) (st : SecState) (resource : OcResource) (endpoint : OcEndpoint)
    (peer : OcTlsPeer) : Prop :=
  OwnsResource st peer resource endpoint.device ∨
  ((st.pstat endpoint.device).s ∈ [OcDostype.rfpro, .rfnop, .sreset] ∧ resource.uri = ascii "/oic/sec/roles") ∨
  (peer.usesPskCred = false ∧
    ∃ c ∈ ocSecGetRoles st peer.addr, RoleValid P c ∧ c.role = ascii "oic.role.owner")

/-- The documented access rule. -/
def AccessRule (P : Platform) (st : SecState) (method : OcMethod) (resource : OcResource)
    (endpoint : OcEndpoint) : Prop :=
  let isDCR := ocCoreIsDCR P.ocfD resource resource.device
  (isDCR = true ∨ (st.pstat endpoint.device).s = .rfnop) ∧
  ((∃ peer, ocTlsGetPeer st endpoint = some peer ∧ ImplicitAccess P st resource endpoint peer) ∨
    ∃ subject, RequestSubject P st endpoint subject ∧
      AclGrants (st.aclist endpoint.device) subject resource isDCR (methodBits method))

theorem connectionAllowed_iff (acl : OcSecAcl) (method : OcMethod) (resource : OcResource) (endpoint : OcEndpoint)
    (isDCR : Bool) (permission : BitVec 16) :
    connectionAllowed acl method resource endpoint isDCR (!resource.secure) permission = true ↔
      permission &&& methodBits method ≠ 0#16 ∨
      (endpoint.flags.secured = true ∧ AclGrants acl (.conn .authCrypt) resource isDCR (methodBits method)) ∨
      AclGrants acl (.conn .anonClear) resource isDCR (methodBits method) := by
  unfold connectionAllowed
  rw [methodAllowed_iff, subjectPermissions_bits]
  by_cases hs : endpoint.flags.secured = true
  · simp only [hs, reduceIte, subjectPermissions_bits, true_and, or_assoc]
  · simp [hs]

theorem peerOwnsResource_iff (st : SecState) (peer : OcTlsPeer) (resource : OcResource) (device : Nat) :
    peerOwnsResource st peer resource device = true ↔ OwnsResource st peer resource device := by
  simp only [peerOwnsResource, OwnsResource, Bool.or_eq_true, Bool.and_eq_true, beq_iff_eq, or_assoc]

theorem rolesAllowed_iff (s : OcDostype) (resource : OcResource) : rolesAllowed s resource = true ↔
    s ∈ [OcDostype.rfpro, .rfnop, .sreset] ∧ resource.uri = ascii "/oic/sec/roles" := by
  simp only [rolesAllowed, Bool.or_eq_true, Bool.and_eq_true, beq_iff_eq, List.mem_cons, List.not_mem_nil,
    or_false, or_assoc]

theorem peerPermissions_spec (P : Platform) (st : SecState) (peer : OcTlsPeer) (resource : OcResource)
    (endpoint : OcEndpoint) (isDCR : Bool) (bits : BitVec 16) (hp : ocTlsGetPeer st endpoint = some peer) :
    let r := (peerPermissions P st peer resource endpoint.device isDCR (!resource.secure)).1
    (r = none ↔ peer.usesPskCred = false ∧
      ∃ c ∈ ocSecGetRoles st peer.addr, RoleValid P c ∧ c.role = ascii "oic.role.owner") ∧
    ∀ q, r = some q → (q &&& bits ≠ 0#16 ↔
      AclGrants (st.aclist endpoint.device) (.uuid peer.uuid) resource isDCR bits ∨
      ∃ role authority, RequestSubject P st endpoint (.role role authority) ∧
        AclGrants (st.aclist endpoint.device) (.role role authority) resource isDCR bits) := by
  have huuid : ∀ b : BitVec 16, subjectPermissions (st.aclist endpoint.device) (.uuid peer.uuid) resource isDCR
      (!resource.secure) 0 &&& b ≠ 0#16 ↔ AclGrants (st.aclist endpoint.device) (.uuid peer.uuid) resource isDCR b := by
    intro b
    rw [subjectPermissions_bits]
    simp
  unfold peerPermissions
  simp only [RequestSubject, hp, Option.some.injEq, exists_eq_left']
  by_cases hpsk : peer.usesPskCred = true
  · simp only [hpsk, reduceIte, true_and, Bool.true_eq_false, false_and, or_false, iff_false]
    cases hc : ocSecFindCred (st.creds endpoint.device) peer.uuid credtypePsk .null with
    | none => simpa using huuid bits
    | some c =>
      -- a PSK credential without a role is no subject
      by_cases hr : c.role = []
      · simpa [hr] using huuid bits
      · simp only [hr, ne_eq, not_false_eq_true, reduceIte, reduceCtorEq, true_and, Option.some.injEq, forall_eq']
        rw [← ne_eq, or_and_ne_zero, huuid, getRolePermissions_bits]
        simp [hr]
  · rw [Bool.not_eq_true] at hpsk
    obtain ⟨hnone, hsome⟩ := checkRoles_spec P (st.aclist endpoint.device) peer.addr resource isDCR bits
      (ocSecGetRoles st peer.addr) st
      (subjectPermissions (st.aclist endpoint.device) (.uuid peer.uuid) resource isDCR (!resource.secure) 0)
    simp only [hpsk, Bool.false_eq_true, reduceIte, true_and, false_and, false_or]
    refine ⟨hnone, fun q hq => ?_⟩
    rw [hsome q hq, huuid]
    constructor
    · rintro (h | ⟨c, hc, hv, hg⟩)
      · exact .inl h
      · exact .inr ⟨c.role, c.authority, ⟨c, hc, hv, rfl, rfl⟩, hg⟩
    · rintro (h | ⟨_, _, ⟨c, hc, hv, rfl, rfl⟩, hg⟩)
      · exact .inl h
      · exact .inr ⟨c, hc, hv, hg⟩

theorem exists_requestSubject (P : Platform) (st : SecState) (endpoint : OcEndpoint) (Q : OcAceSubject → Prop) :
    (∃ subject, RequestSubject P st endpoint subject ∧ Q subject) ↔
      (∃ peer, ocTlsGetPeer st endpoint = some peer ∧ Q (.uuid peer.uuid)) ∨
      (∃ role authority, RequestSubject P st endpoint (.role role authority) ∧ Q (.role role authority)) ∨
      (endpoint.flags.secured = true ∧ Q (.conn .authCrypt)) ∨ Q (.conn .anonClear) := by
  constructor
  · rintro ⟨u | ⟨r, a⟩ | (_ | _), hs, hq⟩
    · obtain ⟨peer, hp, rfl⟩ := hs
      exact .inl ⟨peer, hp, hq⟩
    · exact .inr (.inl ⟨r, a, hs, hq⟩)
    · exact .inr (.inr (.inl ⟨hs, hq⟩))
    · exact .inr (.inr (.inr hq))
  · rintro (⟨peer, hp, hq⟩ | ⟨r, a, hs, hq⟩ | ⟨hs, hq⟩ | hq)
    · exact ⟨.uuid peer.uuid, ⟨peer, hp, rfl⟩, hq⟩
    · exact ⟨.role r a, hs, hq⟩
    · exact ⟨.conn .authCrypt, hs, hq⟩
    · exact ⟨.conn .anonClear, trivial, hq⟩

/-- `oc_sec_check_acl` decides the access rule, for every state, resource, endpoint and method. -/
theorem ocSecCheckAcl_iff (P : Platform) (st : SecState) (method : OcMethod) (resource : OcResource)
    (endpoint : OcEndpoint) :
    (ocSecCheckAcl P st method resource endpoint).1 = true ↔ AccessRule P st method resource endpoint := by
  unfold ocSecCheckAcl AccessRule
  simp only
  generalize ocCoreIsDCR P.ocfD resource resource.device = isDCR
  by_cases hstate : isDCR = true ∨ (st.pstat endpoint.device).s = .rfnop
  · have hcond : ¬((!isDCR && (st.pstat endpoint.device).s != .rfnop) = true) := by
      rcases hstate with h | h <;> simp [h]
    rw [if_neg hcond, exists_requestSubject]
    simp only [hstate, true_and]
    cases hp : ocTlsGetPeer st endpoint with
    | none =>
      -- without a peer only the connection subjects are left
      rw [connectionAllowed_iff]
      simp [RequestSubject, hp]
    | some peer =>
      simp only [Option.some.injEq, exists_eq_left', ImplicitAccess]
      rw [← peerOwnsResource_iff, ← rolesAllowed_iff]
      by_cases hi : (peerOwnsResource st peer resource endpoint.device ||
          rolesAllowed (st.pstat endpoint.device).s resource) = true
      · rw [if_pos hi, ← or_assoc (a := peerOwnsResource st peer resource endpoint.device = true),
          ← Bool.or_eq_true, hi]
        simp
      · rw [if_neg hi, ← or_assoc (a := peerOwnsResource st peer resource endpoint.device = true),
          ← Bool.or_eq_true]
        simp only [hi, Bool.false_eq_true, false_or]
        obtain ⟨hnone, hsome⟩ := peerPermissions_spec P st peer resource endpoint isDCR (methodBits method) hp
        -- `none` is the return for the owner role
        rcases hr : peerPermissions P st peer resource endpoint.device isDCR (!resource.secure) with ⟨_ | q, st'⟩
        · rw [hr] at hnone
          simp [hnone.1 rfl]
        · rw [hr] at hnone hsome
          have howner := mt hnone.2 (by simp)
          simp only [connectionAllowed_iff, hsome q rfl, howner, false_or, or_assoc]
  · -- outside RFNOP only DCRs are served, and both sides are false
    have hcond : (!isDCR && (st.pstat endpoint.device).s != .rfnop) = true := by
      simpa [not_or] using hstate
    rw [if_pos hcond]
    simp [hstate]

end SmartGarage
