/-
What provisioning an ACE grants. The entries of a payload's ACE all go into one ACE of the list,
the first one the search finds or a new one, and there only those are added that the entry search
does not take for one already present. So the list afterwards yields what it yielded before and
what that ACE has, on the added entries, for its own subject; the last theorems say exactly when
this is what the payload asked for.
-/
import SmartGarage.Security.AclDecode

namespace SmartGarage

/-! ## The permissions an ACL yields -/

instance (subject ace : OcAceSubject) : Decidable (SubjectApplies subject ace) :=
  decidable_of_iff _ (subjectMatches_iff subject ace)

instance (res : OcAceRes) (resource : OcResource) (isDCR : Bool) : Decidable (EntryCovers res resource isDCR) :=
  decidable_of_iff _ (aceResMatches_iff res resource isDCR)

/-- The permission set the ACL yields for a subject and a resource. -/
def aclYields (ocfD : Nat) (acl : OcSecAcl) (subject : OcAceSubject) (resource : OcResource) : BitVec 16 :=
  subjectPermissions acl subject resource (ocCoreIsDCR ocfD resource resource.device) (!resource.secure) 0

theorem aclYields_bits (ocfD : Nat) (acl : OcSecAcl) (subject : OcAceSubject) (resource : OcResource)
    (bits : BitVec 16) : aclYields ocfD acl subject resource &&& bits ≠ 0#16 ↔
      AclGrants acl subject resource (ocCoreIsDCR ocfD resource resource.device) bits := by
  unfold aclYields
  rw [subjectPermissions_bits]
  simp

theorem eq_iff_bits (x y : BitVec 16) : x = y ↔ ∀ m : BitVec 16, x &&& m ≠ 0#16 ↔ y &&& m ≠ 0#16 := by
  refine ⟨fun h m => by rw [h], fun h => ?_⟩
  have hxy : x &&& ~~~y = 0#16 := by
    by_contra hne
    exact (h (~~~y)).1 hne (BitVec.and_not_self y)
  have hyx : y &&& ~~~x = 0#16 := by
    by_contra hne
    exact (h (~~~x)).2 hne (BitVec.and_not_self x)
  ext i hi
  have h1 : (x &&& ~~~y)[i] = (0#16)[i] := by rw [hxy]
  have h2 : (y &&& ~~~x)[i] = (0#16)[i] := by rw [hyx]
  simp only [BitVec.getElem_and, BitVec.getElem_not, BitVec.getElem_zero] at h1 h2
  cases hx : x[i] <;> cases hy : y[i] <;> simp [hx, hy] at h1 h2 ⊢

/-! ## Where the entries go -/

/-- The search of `oc_sec_ace_get_res` takes the entry for one of `entries`. -/
def entryKnown (entries : List OcAceRes) (e : ResEntry) : Bool :=
  entries.any (aceResMatches e.href e.wildcard.bits)

/-- The entries that are added to an ACE that has `entries`. -/
def newEntries : List OcAceRes → List ResEntry → List ResEntry
  | _, [] => []
  | entries, e :: l =>
    if entryKnown entries e then newEntries entries l else e :: newEntries (entries ++ [e.toRes]) l

/-- The ACE the entries go into: the first one the search finds, or a new one. -/
def targetAce (acl : OcSecAcl) (d : AcePayload) : OcSecAce :=
  (acl.subjects.find? (aceMatches d.subject d.aceid d.permission)).getD ⟨[], d.subject, d.aceid, d.permission⟩

theorem newEntries_subset : ∀ (l : List ResEntry) (entries : List OcAceRes), newEntries entries l ⊆ l
  | [], _ => by simp [newEntries]
  | e :: l, entries => by
    unfold newEntries
    split
    · exact List.subset_cons_of_subset _ (newEntries_subset l entries)
    · exact List.cons_subset_cons _ (newEntries_subset l _)

theorem subjectMatches_self (s : OcAceSubject) : subjectMatches s s = true := by
  cases s <;> simp [subjectMatches]

/-- What the search guarantees of the target: it applies to everybody the payload's subject applies
to, and has the payload's permission unless that is 0. -/
theorem targetAce_spec (acl : OcSecAcl) (d : AcePayload) :
    (∀ T, SubjectApplies T d.subject → SubjectApplies T (targetAce acl d).subject) ∧
    (d.permission = 0#16 ∨ (targetAce acl d).permission = d.permission) := by
  unfold targetAce
  cases hf : acl.subjects.find? (aceMatches d.subject d.aceid d.permission) with
  | none => exact ⟨fun _ h => h, .inr rfl⟩
  | some ace =>
    have hm := List.find?_some hf
    simp only [aceMatches, Bool.and_eq_true, Bool.or_eq_true, beq_iff_eq, subjectMatches_iff] at hm
    obtain ⟨⟨-, hp⟩, hs⟩ := hm
    refine ⟨fun T hT => ?_, hp⟩
    rw [Option.getD_some]
    generalize d.subject = s at hs hT
    revert hs hT
    cases T <;> cases s <;> cases ace.subject <;> simp only [SubjectApplies] <;> grind

/-- The part of the list's permissions that one ACE gives. -/
def AceGrants (ace : OcSecAce) (T : OcAceSubject) (resource : OcResource) (isDCR : Bool) (bits : BitVec 16) : Prop :=
  SubjectApplies T ace.subject ∧ (∃ res ∈ ace.resources, EntryCovers res resource isDCR) ∧
    ace.permission &&& bits ≠ 0#16

theorem aceGrants_add (ace : OcSecAce) (res : OcAceRes) (T : OcAceSubject) (resource : OcResource) (isDCR : Bool)
    (bits : BitVec 16) : AceGrants { ace with resources := ace.resources ++ [res] } T resource isDCR bits ↔
      AceGrants ace T resource isDCR bits ∨
      SubjectApplies T ace.subject ∧ EntryCovers res resource isDCR ∧ ace.permission &&& bits ≠ 0#16 := by
  simp only [AceGrants, List.mem_append, List.mem_singleton, or_and_right, exists_or, exists_eq_left, and_or_left]

theorem aclGrants_append (l m : List OcSecAce) (rowner : OcUuid) (T : OcAceSubject) (resource : OcResource)
    (isDCR : Bool) (bits : BitVec 16) : AclGrants ⟨l ++ m, rowner⟩ T resource isDCR bits ↔
      (∃ ace ∈ l, AceGrants ace T resource isDCR bits) ∨ ∃ ace ∈ m, AceGrants ace T resource isDCR bits := by
  simp only [AclGrants, AceGrants, List.mem_append, or_and_right, exists_or]

theorem findSubject_none {l : List OcSecAce} {subject : OcAceSubject} {aceid : Int} {permission : BitVec 16}
    (h : l.find? (aceMatches subject aceid permission) = none) :
    ocSecAclFindSubject l subject aceid permission = none := by
  rw [← Search.next_map_fst, Option.map_eq_none_iff] at h
  exact h

theorem findSubject_some {l : List OcSecAce} {subject : OcAceSubject} {aceid : Int} {permission : BitVec 16}
    {ace : OcSecAce} (h : l.find? (aceMatches subject aceid permission) = some ace) :
    ∃ rest, ocSecAclFindSubject l subject aceid permission = some (ace, rest) := by
  rw [← Search.next_map_fst, Option.map_eq_some_iff] at h
  obtain ⟨⟨a, rest⟩, hn, rfl⟩ := h
  exact ⟨rest, hn⟩

theorem findResource_isSome (entries : List OcAceRes) (e : ResEntry) :
    (ocSecAceFindResource entries e.href e.wildcard.bits).isSome = entryKnown entries e := by
  unfold entryKnown ocSecAceFindResource
  rw [← Option.isSome_map, Search.next_map_fst, List.isSome_find?]

@[simp] theorem setAcl_aclist (st : SecState) (device : Nat) (acl : OcSecAcl) :
    (st.setAcl device acl).aclist device = acl := by
  simp [SecState.setAcl]

/-- What one call of `oc_sec_ace_get_res` does to the target ACE and to the permissions. -/
structure EntryAdded (acl acl' : OcSecAcl) (d : AcePayload) (e : ResEntry) : Prop where
  subject : (targetAce acl' d).subject = (targetAce acl d).subject
  permission : (targetAce acl' d).permission = (targetAce acl d).permission
  resources : (targetAce acl' d).resources = if entryKnown (targetAce acl d).resources e then
    (targetAce acl d).resources else (targetAce acl d).resources ++ [e.toRes]
  grants : ∀ T resource isDCR bits, AclGrants acl' T resource isDCR bits ↔ AclGrants acl T resource isDCR bits ∨
    (entryKnown (targetAce acl d).resources e = false ∧ SubjectApplies T (targetAce acl d).subject ∧
      EntryCovers e.toRes resource isDCR ∧ (targetAce acl d).permission &&& bits ≠ 0#16)

theorem entryAdded_found {acl : OcSecAcl} {d : AcePayload} {ace : OcSecAce} (e : ResEntry)
    (hf : acl.subjects.find? (aceMatches d.subject d.aceid d.permission) = some ace)
    (hk : entryKnown ace.resources e = false) :
    EntryAdded acl { acl with subjects := Search.modify (aceMatches d.subject d.aceid d.permission)
                                            (fun a => { a with resources := a.resources ++ [e.toRes] }) acl.subjects } d e := by
  have hmatch : aceMatches d.subject d.aceid d.permission { ace with resources := ace.resources ++ [e.toRes] } = true := by
    have h := List.find?_some hf
    exact h
  have ht : targetAce acl d = ace := by rw [targetAce, hf]; rfl
  obtain ⟨pre, post, hl, hm, -⟩ := Search.modify_of_find? (aceMatches d.subject d.aceid d.permission)
    (fun a : OcSecAce => { a with resources := a.resources ++ [e.toRes] }) acl.subjects hf
  have hfind := Search.find?_modify (f := fun a : OcSecAce => { a with resources := a.resources ++ [e.toRes] }) hf hmatch
  constructor
  · simp [targetAce, hfind, hf]
  · simp [targetAce, hfind, hf]
  · simp [targetAce, hfind, hf, hk]
  · intro T resource isDCR bits
    have hacl : acl = ⟨pre ++ ace :: post, acl.rowneruuid⟩ := by rw [← hl]
    rw [ht, hm, aclGrants_append]
    conv_rhs => rw [hacl]
    rw [aclGrants_append]
    simp only [List.mem_cons, exists_eq_or_imp, aceGrants_add, hk, true_and]
    simp only [or_assoc, or_comm, or_left_comm]

theorem entryAdded_new {acl : OcSecAcl} {d : AcePayload} (e : ResEntry) {aceid : Int}
    (hf : acl.subjects.find? (aceMatches d.subject d.aceid d.permission) = none)
    (hid : d.aceid = -1 ∨ aceid = d.aceid) :
    EntryAdded acl { acl with subjects := acl.subjects ++ [⟨[e.toRes], d.subject, aceid, d.permission⟩] } d e := by
  have hmatch : aceMatches d.subject d.aceid d.permission ⟨[e.toRes], d.subject, aceid, d.permission⟩ = true := by
    rcases hid with h | h <;> simp [aceMatches, subjectMatches_self, h]
  have ht : targetAce acl d = ⟨[], d.subject, d.aceid, d.permission⟩ := by rw [targetAce, hf]; rfl
  have ht' : targetAce { acl with subjects := acl.subjects ++ [⟨[e.toRes], d.subject, aceid, d.permission⟩] } d =
      ⟨[e.toRes], d.subject, aceid, d.permission⟩ := by
    rw [targetAce, List.find?_append, hf, List.find?_cons_of_pos hmatch]
    rfl
  constructor
  · rw [ht, ht']
  · rw [ht, ht']
  · rw [ht, ht']; simp [entryKnown]
  · intro T resource isDCR bits
    rw [ht, aclGrants_append]
    simp [AceGrants, entryKnown, AclGrants]

theorem ocSecAceGetRes_spec (P : Platform) (st : SecState) (device : Nat) (d : AcePayload) (e : ResEntry) :
    EntryAdded (st.aclist device)
      ((ocSecAceGetRes P st d.subject d.aceid d.permission e device).aclist device) d e := by
  unfold ocSecAceGetRes
  cases hf : (st.aclist device).subjects.find? (aceMatches d.subject d.aceid d.permission) with
  | none =>
    simp only [findSubject_none hf]
    by_cases hid : d.aceid = -1
    · simpa [hid, getNewAceid] using entryAdded_new e hf (.inl hid)
    · simpa [hid] using entryAdded_new e hf (.inr rfl)
  | some ace =>
    obtain ⟨rest, hs⟩ := findSubject_some hf
    simp only [hs]
    have hk := findResource_isSome ace.resources e
    have ht : targetAce (st.aclist device) d = ace := by rw [targetAce, hf]; rfl
    cases hr : ocSecAceFindResource ace.resources e.href e.wildcard.bits with
    | some res =>
      have hk' : entryKnown ace.resources e = true := by rw [← hk, hr]; rfl
      exact ⟨rfl, rfl, by rw [ht, hk']; rfl, by rw [ht, hk']; simp⟩
    | none =>
      have hk' : entryKnown ace.resources e = false := by rw [← hk, hr]; rfl
      simpa using entryAdded_found e hf hk'

/-- The whole loop over the entries of an ACE: the list yields in addition what the target has, on
the entries that are new to it. -/
theorem addEntries_grants (P : Platform) (device : Nat) (d : AcePayload) (T : OcAceSubject) (resource : OcResource)
    (isDCR : Bool) (bits : BitVec 16) : ∀ (l : List ResEntry) (st : SecState),
    AclGrants ((addEntries P device d l st).aclist device) T resource isDCR bits ↔
      AclGrants (st.aclist device) T resource isDCR bits ∨
      (SubjectApplies T (targetAce (st.aclist device) d).subject ∧
        (∃ e ∈ newEntries (targetAce (st.aclist device) d).resources l, EntryCovers e.toRes resource isDCR) ∧
        (targetAce (st.aclist device) d).permission &&& bits ≠ 0#16)
  | [], st => by simp [addEntries, newEntries]
  | e :: l, st => by
    have hstep := ocSecAceGetRes_spec P st device d e
    have ih := addEntries_grants P device d T resource isDCR bits l
      (ocSecAceGetRes P st d.subject d.aceid d.permission e device)
    rw [hstep.subject, hstep.permission, hstep.resources, hstep.grants] at ih
    have hfold : addEntries P device d (e :: l) st =
        addEntries P device d l (ocSecAceGetRes P st d.subject d.aceid d.permission e device) := rfl
    rw [hfold, ih]
    cases hk : entryKnown (targetAce (st.aclist device) d).resources e with
    | true => simp [newEntries, hk]
    | false =>
      simp only [newEntries, hk, Bool.false_eq_true, reduceIte, List.mem_cons, exists_eq_or_imp, true_and]
      tauto

/-! ## A payload with one ACE -/

/-- The ACEs in one property of a payload. -/
def aceItems : OcRep → List (List OcRep)
  | .objectArray _ items => items
  | _ => []

theorem decodeAclProperty_subjects (P : Platform) (device : Nat) (st : SecState) (rep : OcRep)
    (h : aceItems rep = []) :
    ((decodeAclProperty P device st rep).aclist device).subjects = (st.aclist device).subjects := by
  cases rep with
  | string n v =>
    simp only [decodeAclProperty]
    split
    · rw [setAcl_aclist]
    · rfl
  | objectArray n items =>
    have : items = [] := h
    subst this
    rfl
  | _ => rfl

theorem decode_none (P : Platform) (device : Nat) : ∀ (rep : List OcRep) (st : SecState), rep.flatMap aceItems = [] →
    ((rep.foldl (decodeAclProperty P device) st).aclist device).subjects = (st.aclist device).subjects
  | [], _, _ => rfl
  | r :: rep, st, h => by
    rw [List.flatMap_cons, List.append_eq_nil_iff] at h
    rw [List.foldl_cons, decode_none P device rep _ h.2, decodeAclProperty_subjects P device st r h.1]

theorem decode_one (P : Platform) (device : Nat) {item : List OcRep} : ∀ (rep : List OcRep) (st : SecState),
    rep.flatMap aceItems = [item] → ∃ st₁ : SecState, (st₁.aclist device).subjects = (st.aclist device).subjects ∧
      ((rep.foldl (decodeAclProperty P device) st).aclist device).subjects =
        ((provisionAce P device st₁ item).aclist device).subjects
  | r :: rep, st, h => by
    rw [List.flatMap_cons] at h
    rw [List.foldl_cons]
    rcases List.append_eq_cons_iff.1 h with ⟨hr, hrep⟩ | ⟨t, hr, ht⟩
    · obtain ⟨st₁, h1, h2⟩ := decode_one P device rep (decodeAclProperty P device st r) hrep
      exact ⟨st₁, h1.trans (decodeAclProperty_subjects P device st r hr), h2⟩
    · obtain ⟨rfl, hrep⟩ := List.append_eq_nil_iff.1 ht.symm
      refine ⟨st, rfl, ?_⟩
      rw [decode_none P device rep _ hrep]
      cases r with
      | objectArray n items =>
        have : items = [item] := hr
        subst this
        rfl
      | _ => cases hr

/-- Provisioning the ACE `d` granted exactly `d`: each subject has on each resource what it had, and
the payload's permission if the payload's subject and one of its entries apply. -/
def GrantsExactly (ocfD : Nat) (acl acl' : OcSecAcl) (d : AcePayload) : Prop :=
  ∀ T resource, aclYields ocfD acl' T resource = aclYields ocfD acl T resource |||
    if SubjectApplies T d.subject ∧
        ∃ e ∈ d.resources, EntryCovers e.toRes resource (ocCoreIsDCR ocfD resource resource.device) then
      d.permission else 0

/-- The entries of the payload that the target ACE does not have yet, by the entry search. -/
def addedEntries (acl : OcSecAcl) (d : AcePayload) : List ResEntry :=
  newEntries (targetAce acl d).resources d.resources

/-- When the merge is harmless: whoever the target ACE applies to, beyond the payload's subject or
with another permission than the payload's, had its permission on the added entries already, and
where the entry search drops an entry, the payload's subject had the payload's permission. -/
structure MergeHarmless (ocfD : Nat) (acl : OcSecAcl) (d : AcePayload) : Prop where
  nothingExtra : ∀ T resource, SubjectApplies T (targetAce acl d).subject →
    (∃ e ∈ addedEntries acl d, EntryCovers e.toRes resource (ocCoreIsDCR ocfD resource resource.device)) →
    (SubjectApplies T d.subject ∧ (targetAce acl d).permission = d.permission) ∨
      aclYields ocfD acl T resource ||| (targetAce acl d).permission = aclYields ocfD acl T resource
  nothingLost : ∀ T resource, SubjectApplies T d.subject →
    (∃ e ∈ d.resources, EntryCovers e.toRes resource (ocCoreIsDCR ocfD resource resource.device)) →
    (∃ e ∈ addedEntries acl d, EntryCovers e.toRes resource (ocCoreIsDCR ocfD resource resource.device)) ∨
      aclYields ocfD acl T resource ||| d.permission = aclYields ocfD acl T resource

theorem aclYields_addEntries (P : Platform) (device : Nat) (d : AcePayload) (st : SecState) (T : OcAceSubject)
    (resource : OcResource) :
    aclYields P.ocfD ((addEntries P device d d.resources st).aclist device) T resource =
      aclYields P.ocfD (st.aclist device) T resource |||
      if SubjectApplies T (targetAce (st.aclist device) d).subject ∧ ∃ e ∈ addedEntries (st.aclist device) d,
          EntryCovers e.toRes resource (ocCoreIsDCR P.ocfD resource resource.device) then
        (targetAce (st.aclist device) d).permission else 0 := by
  rw [eq_iff_bits]
  intro m
  rw [or_and_ne_zero, aclYields_bits, aclYields_bits, addEntries_grants, addedEntries]
  split
  · rename_i h
    simp [h]
  · rename_i h
    simp only [BitVec.ofNat_eq_ofNat, BitVec.zero_and, ne_eq, not_true_eq_false, or_false]
    exact ⟨fun hg => hg.elim id fun ⟨ha, hk, _⟩ => absurd ⟨ha, hk⟩ h, .inl⟩

theorem union_eq_iff {x a p : BitVec 16} {At St Kr Rr : Prop} [Decidable (At ∧ Kr)] [Decidable (St ∧ Rr)]
    (hsub : St → At) (hent : Kr → Rr) (hperm : p = 0#16 ∨ a = p) :
    (x ||| (if At ∧ Kr then a else 0) = x ||| if St ∧ Rr then p else 0) ↔
      (At → Kr → (St ∧ a = p) ∨ x ||| a = x) ∧ (St → Rr → Kr ∨ x ||| p = x) := by
  have hz : x ||| (0 : BitVec 16) = x := by simp
  by_cases hS : St ∧ Rr
  · have hA := hsub hS.1
    by_cases hK : Kr
    · rcases hperm with rfl | rfl
      · simp only [hS, hA, hK, and_self, reduceIte, true_implies, true_and, true_or, and_true]
        rw [BitVec.or_zero]
        refine ⟨.inr, ?_⟩
        rintro (h | h)
        · rw [h, BitVec.or_zero]
        · exact h
      · simp [hS, hA, hK]
    · simp [hS, hA, hK, eq_comm]
  · by_cases hK : At ∧ Kr
    · have hR := hent hK.2
      have hnS : ¬St := fun h => hS ⟨h, hR⟩
      simp [hK, hnS]
    · simp only [hS, hK, reduceIte, true_iff]
      exact ⟨fun h1 h2 => absurd ⟨h1, h2⟩ hK, fun h1 h2 => absurd ⟨h1, h2⟩ hS⟩

theorem addEntries_exact_iff (P : Platform) (device : Nat) (d : AcePayload) (st : SecState) :
    GrantsExactly P.ocfD (st.aclist device) ((addEntries P device d d.resources st).aclist device) d ↔
      MergeHarmless P.ocfD (st.aclist device) d := by
  obtain ⟨hsub, hperm⟩ := targetAce_spec (st.aclist device) d
  have hent : ∀ resource, (∃ e ∈ addedEntries (st.aclist device) d, EntryCovers e.toRes resource
      (ocCoreIsDCR P.ocfD resource resource.device)) →
      ∃ e ∈ d.resources, EntryCovers e.toRes resource (ocCoreIsDCR P.ocfD resource resource.device) :=
    fun resource ⟨e, he, hc⟩ => ⟨e, newEntries_subset _ _ he, hc⟩
  have key := fun T resource => union_eq_iff (x := aclYields P.ocfD (st.aclist device) T resource)
    (hsub T) (hent resource) hperm
  unfold GrantsExactly
  simp only [aclYields_addEntries, key]
  exact ⟨fun h => ⟨fun T r => (h T r).1, fun T r => (h T r).2⟩, fun h T r => ⟨h.nothingExtra T r, h.nothingLost T r⟩⟩

/-! ## Congruence: only the ACEs matter -/

theorem grantsExactly_congr (ocfD : Nat) {acl₁ acl₂ acl₁' acl₂' : OcSecAcl} (d : AcePayload)
    (h : acl₁.subjects = acl₂.subjects) (h' : acl₁'.subjects = acl₂'.subjects) :
    GrantsExactly ocfD acl₁ acl₁' d ↔ GrantsExactly ocfD acl₂ acl₂' d := by
  unfold GrantsExactly aclYields subjectPermissions
  rw [h, h']

theorem mergeHarmless_congr (ocfD : Nat) {acl₁ acl₂ : OcSecAcl} (d : AcePayload)
    (h : acl₁.subjects = acl₂.subjects) (hm : MergeHarmless ocfD acl₁ d) : MergeHarmless ocfD acl₂ d := by
  have ht : targetAce acl₁ d = targetAce acl₂ d := by unfold targetAce; rw [h]
  have ha : addedEntries acl₁ d = addedEntries acl₂ d := by unfold addedEntries; rw [ht]
  have hy : aclYields ocfD acl₁ = aclYields ocfD acl₂ := by
    funext T r
    unfold aclYields subjectPermissions
    rw [h]
  obtain ⟨h1, h2⟩ := hm
  rw [ht, ha, hy] at h1
  rw [ha, hy] at h2
  exact ⟨h1, h2⟩

/-- A successful `oc_sec_decode_acl` of one ACE under an unused id, with a subject of one kind, grants exactly that ACE iff
the merge into the ACE and the entries already there is harmless. -/
theorem ocSecDecodeAcl_exact_iff (P : Platform) (st : SecState) (rep : List OcRep) (fromStorage : Bool)
    (device : Nat) (item : List OcRep) (hone : rep.flatMap aceItems = [item]) (_hkind : oneKindSubject item)
    (hid : (decodeAce item).aceid = -1 ∨ uniqueAceid (st.aclist device) (decodeAce item).aceid = true)
    (hok : (ocSecDecodeAcl P st rep fromStorage device).1 = true) :
    GrantsExactly P.ocfD (st.aclist device) ((ocSecDecodeAcl P st rep fromStorage device).2.aclist device)
      (decodeAce item) ↔ MergeHarmless P.ocfD (st.aclist device) (decodeAce item) := by
  unfold ocSecDecodeAcl at hok ⊢
  split at hok
  · rename_i hall
    rw [if_pos hall]
    obtain ⟨st₁, h1, h2⟩ := decode_one P device rep st hone
    have hnot : ¬((decodeAce item).aceid ≠ -1 ∧ uniqueAceid (st₁.aclist device) (decodeAce item).aceid = false) := by
      rintro ⟨ha, hb⟩
      unfold uniqueAceid at hid hb
      rw [h1] at hb
      rcases hid with h | h
      · exact ha h
      · rw [hb] at h; cases h
    have hprov : provisionAce P device st₁ item =
        addEntries P device (decodeAce item) (decodeAce item).resources st₁ := by
      simp only [provisionAce, if_neg hnot]
    rw [hprov] at h2
    rw [grantsExactly_congr P.ocfD (decodeAce item) h1.symm h2, addEntries_exact_iff]
    exact ⟨mergeHarmless_congr P.ocfD _ h1, mergeHarmless_congr P.ocfD _ h1.symm⟩
  · cases hok

/-- An item of an `aclist2` array: role, authority, href and permission, without an id. -/
def roleAceItem (role authority href : String) (permission : Int) : List OcRep :=
  [.object (some (ascii "subject"))
    [.string (some (ascii "role")) (ascii role), .string (some (ascii "authority")) (ascii authority)],
   .objectArray (some (ascii "resources")) [[.string (some (ascii "href")) (ascii href)]],
   .int (some (ascii "permission")) permission]

/-- A device in RFPRO whose ACL has one ACE: role `user`, no authority, may retrieve `/a`. -/
def userAceState : SecState :=
  (SecState.empty .rfpro).setAcl 0
    ⟨[⟨[⟨ascii "/a", .noWc⟩], .role (ascii "user") [], 1, permRetrieve⟩], OcUuid.nil⟩

/-- An ACE for role `user` of authority `A` is merged into the ACE for role `user` of any authority,
so holders of the role from another authority may retrieve `/b` too. -/
theorem ocSecDecodeAcl_widens_authority :
    let rep := [OcRep.objectArray (some (ascii "aclist2")) [roleAceItem "user" "A" "/b" 2]]
    let r := ocSecDecodeAcl (Platform.simple Mbedtls.rejecting) userAceState rep false 0
    rep.flatMap aceItems = [roleAceItem "user" "A" "/b" 2] ∧ oneKindSubject (roleAceItem "user" "A" "/b" 2) = true ∧
    (decodeAce (roleAceItem "user" "A" "/b" 2)).aceid = -1 ∧ r.1 = true ∧
    ¬GrantsExactly 14 (userAceState.aclist 0) (r.2.aclist 0) (decodeAce (roleAceItem "user" "A" "/b" 2)) := by
  refine ⟨rfl, by decide, by decide, by decide, fun h => ?_⟩
  have h' := h (.role (ascii "user") (ascii "B")) ⟨ascii "/b", 0, none, true, true⟩
  simp only [aclYields, subjectPermissions, ocAceGetPermission, Search.foldMatches_eq] at h'
  revert h'
  decide

/-- The same payload for another role is provisioned as it should be. -/
theorem ocSecDecodeAcl_exact_other_role :
    let rep := [OcRep.objectArray (some (ascii "aclist2")) [roleAceItem "guest" "A" "/b" 2]]
    GrantsExactly 14 (userAceState.aclist 0)
      ((ocSecDecodeAcl (Platform.simple Mbedtls.rejecting) userAceState rep false 0).2.aclist 0)
      (decodeAce (roleAceItem "guest" "A" "/b" 2)) := by
  have ht : targetAce (userAceState.aclist 0) (decodeAce (roleAceItem "guest" "A" "/b" 2)) =
      ⟨[], .role (ascii "guest") (ascii "A"), -1, 2⟩ := by decide
  have hd : decodeAce (roleAceItem "guest" "A" "/b" 2) =
      ⟨.role (ascii "guest") (ascii "A"), -1, 2, [⟨some (ascii "/b"), .noWc⟩]⟩ := by decide
  have ha : addedEntries (userAceState.aclist 0) (decodeAce (roleAceItem "guest" "A" "/b" 2)) =
      [⟨some (ascii "/b"), .noWc⟩] := by decide
  refine (ocSecDecodeAcl_exact_iff (Platform.simple Mbedtls.rejecting) userAceState _ false 0
    (roleAceItem "guest" "A" "/b" 2) rfl (by decide) (by decide) (by decide)).2 ⟨?_, ?_⟩
  · intro T resource hT _
    rw [ht] at hT
    rw [ht, hd]
    exact .inl ⟨hT, rfl⟩
  · intro T resource _ he
    rw [hd] at he
    rw [ha]
    exact .inl he

end SmartGarage
