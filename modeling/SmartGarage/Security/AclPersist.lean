/-
`oc_acl.c`: the encoder `oc_sec_encode_acl` for the storage, and what `oc_sec_decode_acl` makes of its output in an
empty list. An entry with an href is written without its wildcard, so that it covers more after a restart.
-/
import SmartGarage.Security.AclList
import SmartGarage.Security.Sp

namespace SmartGarage

variable {resource : OcResource} {isDCR : Bool}

/-! ## The encoder -/

/-- The `subject` object of an ACE; texts end at their first zero byte. -/
def encodeAceSubject : OcAceSubject → List OcRep
  | .uuid uuid => [.string (some (ascii "uuid")) (ocUuidToStr uuid)]
  | .role role authority =>
    .string (some (ascii "role")) (cstr role) ::
    if authority ≠ [] then [.string (some (ascii "authority")) (cstr authority)] else []
  | .conn .authCrypt => [.string (some (ascii "conntype")) (ascii "auth-crypt")]
  | .conn .anonClear => [.string (some (ascii "conntype")) (ascii "anon-clear")]

/-- One item of the array `resources`: the href, or else the wildcard. -/
def encodeAceRes (res : OcAceRes) : List OcRep :=
  if res.href ≠ [] then [.string (some (ascii "href")) (cstr res.href)]
  else match res.wildcard with
    | .wcAllSecured => [.string (some (ascii "wc")) (ascii "+")]
    | .wcAllPublic => [.string (some (ascii "wc")) (ascii "-")]
    | .wcAll => [.string (some (ascii "wc")) (ascii "*")]
    | .noWc | .minusOne => []

/-- One item of the array `aclist2`. -/
def encodeAce (ace : OcSecAce) : List OcRep :=
  [.object (some (ascii "subject")) (encodeAceSubject ace.subject),
   .objectArray (some (ascii "resources")) (ace.resources.map encodeAceRes),
   .int (some (ascii "permission")) ace.permission.toNat, .int (some (ascii "aceid")) ace.aceid]

/-- `oc_sec_encode_acl` for the storage -/
def ocSecEncodeAcl (acl : OcSecAcl) : List OcRep :=
  svrBaseline (ascii "oic.r.acl2") ++
  [.objectArray (some (ascii "aclist2")) (acl.subjects.map encodeAce),
   .string (some (ascii "rowneruuid")) (ocUuidToStr acl.rowneruuid)]

/-! ## Reading one ACE back -/

/-- The subject that is read back. -/
def restoreSubject : OcAceSubject → OcAceSubject
  | .role role authority => .role (cstr role) (cstr authority)
  | s => s

/-- The resource entry that is read back. -/
def restoreEntry (res : OcAceRes) : ResEntry :=
  if res.href ≠ [] then ⟨some (cstr res.href), .noWc⟩
  else ⟨none, if res.wildcard = .minusOne then .noWc else res.wildcard⟩

/-- The ACE that is read back: entries that the search takes for repetitions are dropped. -/
def restoreAce (ace : OcSecAce) : OcSecAce :=
  { ace with
    subject := restoreSubject ace.subject
    resources := (newEntries [] (ace.resources.map restoreEntry)).map ResEntry.toRes }

theorem decodeSubjectKey_string (subject : OcAceSubject) (n : Option OcString) (v : OcString) :
    decodeSubjectKey subject (.string n v) =
      if nameIs n "uuid" then .uuid (ocStrToUuid v (match subject with | .uuid u => u | _ => OcUuid.nil))
      else if nameIs n "role" then .role v (match subject with | .role _ a => a | _ => [])
      else if nameIs n "authority" then .role (match subject with | .role r _ => r | _ => []) v
      else if nameIs n "conntype" then
        if v = ascii "auth-crypt" then .conn .authCrypt
        else if v = ascii "anon-clear" then .conn .anonClear
        else .conn (match subject with | .conn c => c | _ => .authCrypt)
      else subject := by
  unfold decodeSubjectKey
  rfl

theorem decodeSubject_encode (subject : OcAceSubject) :
    (encodeAceSubject subject).foldl decodeSubjectKey (.uuid OcUuid.nil) = restoreSubject subject := by
  have huuid : nameIs (some (ascii "uuid")) "uuid" = true := by decide
  have hrole : nameIs (some (ascii "role")) "uuid" = false ∧ nameIs (some (ascii "role")) "role" = true := by decide
  have hauthority : nameIs (some (ascii "authority")) "uuid" = false ∧ nameIs (some (ascii "authority")) "role" = false ∧
      nameIs (some (ascii "authority")) "authority" = true := by decide
  cases subject with
  | uuid uuid =>
    simp only [encodeAceSubject, List.foldl_cons, List.foldl_nil, restoreSubject, decodeSubjectKey_string]
    rw [if_pos huuid, ocStrToUuid_ocUuidToStr]
  | role role authority =>
    by_cases ha : authority = []
    · simp only [encodeAceSubject, ha, ne_eq, not_true_eq_false, if_false, List.foldl_cons, List.foldl_nil,
        decodeSubjectKey_string, hrole, Bool.false_eq_true, if_true, restoreSubject, cstr_nil]
    · simp only [encodeAceSubject, ha, ne_eq, not_false_eq_true, if_true, List.foldl_cons, List.foldl_nil,
        decodeSubjectKey_string, hrole, hauthority, Bool.false_eq_true, if_false, restoreSubject]
  | conn conn => cases conn <;> decide

theorem decodeRes_encode (res : OcAceRes) :
    (encodeAceRes res).foldl decodeResKey ⟨none, .noWc⟩ = restoreEntry res := by
  have hhref : nameIs (some (ascii "href")) "href" = true := by decide
  obtain ⟨href, wildcard⟩ := res
  by_cases hh : href = []
  · subst hh
    cases wildcard <;> decide
  · simp [encodeAceRes, restoreEntry, hh, decodeResKey, hhref, cstr_cstr]

theorem castUInt16_toNat (p : BitVec 16) : castUInt16 p.toNat = p := by
  simp [castUInt16]

theorem castInt_self {v : Int} (hlower : -2 ^ 31 ≤ v) (hupper : v < 2 ^ 31) : castInt v = v := by
  unfold castInt
  exact Int.bmod_eq_of_le (by omega) (by omega)

theorem decodeAce_encode {ace : OcSecAce} (h : AceOk ace) (hint : ace.aceid < 2 ^ 31) :
    decodeAce (encodeAce ace) =
      ⟨restoreSubject ace.subject, ace.aceid, ace.permission, ace.resources.map restoreEntry⟩ := by
  have hres : (ace.resources.map encodeAceRes).map (·.foldl decodeResKey ⟨none, .noWc⟩) =
      ace.resources.map restoreEntry := by
    rw [List.map_map]
    exact List.map_congr_left fun res _ => decodeRes_encode res
  have hresources : nameIs (some (ascii "resources")) "resources" = true := by decide
  have hpermission : nameIs (some (ascii "permission")) "permission" = true := by decide
  have haceid : nameIs (some (ascii "aceid")) "permission" = false ∧ nameIs (some (ascii "aceid")) "aceid" = true := by
    decide
  simp only [decodeAce, encodeAce, List.foldl_cons, List.foldl_nil, decodeAceKey, decodeSubject_encode, hresources,
    hres, hpermission, haceid, castUInt16_toNat, castInt_self h.lower hint, if_true, Bool.false_eq_true, if_false]

/-! ## Loading the list -/

section Load

variable {P : Platform} {st : SecState} {device : Nat}

theorem addEntries_last {d : AcePayload} (hne : d.aceid ≠ -1) {pre : List OcSecAce} {rowner : OcUuid}
    (hpre : d.aceid ∉ pre.map (·.aceid)) : ∀ (l : List ResEntry) {resources : List OcAceRes} {st : SecState},
      st.aclist device = ⟨pre ++ [⟨resources, d.subject, d.aceid, d.permission⟩], rowner⟩ →
      (addEntries P device d l st).aclist device =
        ⟨pre ++ [⟨resources ++ (newEntries resources l).map ResEntry.toRes, d.subject, d.aceid, d.permission⟩], rowner⟩
  | [], resources, st, h => by
    rw [newEntries, List.map_nil, List.append_nil]
    exact h
  | e :: l, resources, st, h => by
    have hnone : ∀ x ∈ pre, aceMatches d.subject d.aceid d.permission x = false := by
      intro x hx
      have hid : x.aceid ≠ d.aceid := fun heq => hpre (heq ▸ List.mem_map_of_mem hx)
      simp [aceMatches, hne, hid]
    have hself := @aceMatches_self d.subject d.aceid d.permission resources
    have hfind : (pre ++ [(⟨resources, d.subject, d.aceid, d.permission⟩ : OcSecAce)]).find?
        (aceMatches d.subject d.aceid d.permission) = some ⟨resources, d.subject, d.aceid, d.permission⟩ := by
      rw [List.find?_append, List.find?_eq_none.2 fun x hx => by simp [hnone x hx], List.find?_cons_of_pos hself]
      rfl
    have hput := ocSecAceGetRes_aclist P st d.subject d.aceid d.permission e device
    rw [h] at hput
    simp only [putEntry, hfind] at hput
    show (addEntries P device d l (ocSecAceGetRes P st d.subject d.aceid d.permission e device)).aclist device = _
    cases hk : entryKnown resources e with
    | true =>
      simp only [hk, if_true] at hput
      rw [addEntries_last hne hpre l hput, newEntries, if_pos hk]
    | false =>
      simp only [hk, Bool.false_eq_true, if_false, Search.modify_append hnone, Search.modify, hself, if_true] at hput
      rw [addEntries_last hne hpre l hput, newEntries, if_neg (by simp [hk]), List.map_cons, List.append_assoc,
        List.singleton_append]

theorem provisionAce_encode {ace : OcSecAce} (h : AceOk ace) (hint : ace.aceid < 2 ^ 31) {pre : List OcSecAce} {rowner : OcUuid}
    (hpre : ace.aceid ∉ pre.map (·.aceid)) (hst : st.aclist device = ⟨pre, rowner⟩) :
    (provisionAce P device st (encodeAce ace)).aclist device = ⟨pre ++ [restoreAce ace], rowner⟩ := by
  have hunique : ¬(ace.aceid ≠ -1 ∧ uniqueAceid (st.aclist device) ace.aceid = false) := by
    rintro ⟨-, hu⟩
    simp only [hst, uniqueAceid, Bool.not_eq_false', List.any_eq_true, beq_iff_eq] at hu
    obtain ⟨x, hx, hid⟩ := hu
    exact hpre (hid ▸ List.mem_map_of_mem hx)
  simp only [provisionAce, decodeAce_encode h hint]
  rw [if_neg hunique]
  obtain ⟨res, resources, hres⟩ := List.exists_cons_of_ne_nil h.resources
  have hfind : pre.find? (aceMatches (restoreSubject ace.subject) ace.aceid ace.permission) = none := by
    refine List.find?_eq_none.2 fun x hx => ?_
    have hid : x.aceid ≠ ace.aceid := fun heq => hpre (heq ▸ List.mem_map_of_mem hx)
    simp [aceMatches, h.ne, hid]
  have hput := ocSecAceGetRes_aclist P st (restoreSubject ace.subject) ace.aceid ace.permission (restoreEntry res) device
  rw [hst] at hput
  simp only [putEntry, hfind, newAceid, if_neg h.ne] at hput
  simp only [restoreAce, hres, List.map_cons]
  exact addEntries_last (d := ⟨restoreSubject ace.subject, ace.aceid, ace.permission, _⟩) h.ne hpre _ hput

theorem foldl_provisionAce_encode {rowner : OcUuid} : ∀ (l pre : List OcSecAce) {st : SecState},
    (∀ ace ∈ l, AceOk ace ∧ ace.aceid < 2 ^ 31) → ((pre ++ l).map (·.aceid)).Nodup → st.aclist device = ⟨pre.map restoreAce, rowner⟩ →
    ((l.map encodeAce).foldl (provisionAce P device) st).aclist device = ⟨(pre ++ l).map restoreAce, rowner⟩
  | [], pre, st, _, _, h => by
    rw [List.append_nil]
    exact h
  | ace :: l, pre, st, hok, hn, h => by
    have hpre : ace.aceid ∉ (pre.map restoreAce).map (·.aceid) := by
      rw [List.map_map]
      intro hmem
      rw [List.map_append, List.nodup_append] at hn
      exact hn.2.2 _ hmem _ (by simp) rfl
    have hstep := provisionAce_encode (P := P) (hok ace List.mem_cons_self).1 (hok ace List.mem_cons_self).2 hpre h
    rw [← List.map_singleton, ← List.map_append] at hstep
    have hrest := foldl_provisionAce_encode l (pre ++ [ace]) (fun x hx => hok x (List.mem_cons_of_mem ace hx))
      (by rw [List.append_assoc]; exact hn) hstep
    rw [List.append_assoc] at hrest
    exact hrest

theorem ocSecDecodeAcl_encode (P : Platform) (device : Nat) {acl : OcSecAcl} (hok : ∀ ace ∈ acl.subjects, AceOk ace)
    (hint : ∀ ace ∈ acl.subjects, ace.aceid < 2 ^ 31) (hn : (acl.subjects.map (·.aceid)).Nodup) {fresh : SecState}
    (hfresh : (fresh.aclist device).subjects = []) :
    (ocSecDecodeAcl P fresh (ocSecEncodeAcl acl) true device).2.aclist device =
      ⟨acl.subjects.map restoreAce, acl.rowneruuid⟩ := by
  have hallowed : (ocSecEncodeAcl acl).all (aclPropertyAllowed (fresh.pstat device).s true) = true := by
    simp [ocSecEncodeAcl, svrBaseline, aclPropertyAllowed]
  have hempty : fresh.aclist device = ⟨[], (fresh.aclist device).rowneruuid⟩ := congrArg (OcSecAcl.mk · _) hfresh
  have hlist := @foldl_provisionAce_encode P device _ acl.subjects [] fresh
    (fun ace hace => ⟨hok ace hace, hint ace hace⟩) hn hempty
  rw [ocSecDecodeAcl, if_pos hallowed]
  have hrowner : nameIs (some (ascii "rowneruuid")) "rowneruuid" = true := by decide
  simp only [ocSecEncodeAcl, svrBaseline, List.cons_append, List.nil_append, List.foldl_cons, List.foldl_nil,
    decodeAclProperty, hrowner, if_true, setAcl_aclist]
  rw [hlist, ocStrToUuid_ocUuidToStr]
  rfl

end Load

/-! ## What the entries cover -/

/-- A URI as `oc_store_uri` stores it in a resource. -/
def StoredUri (uri : OcString) : Prop := uri.head? = some 47

theorem hrefNames_stored {uri : OcString} (h : StoredUri uri) (href : OcString) : HrefNames uri href ↔ uri = href :=
  (iff_of_eq (if_pos h)).trans eq_comm

/-- The shape of an entry that is read back: an href or one of the wildcards of a payload. -/
structure Plain (e : ResEntry) : Prop where
  href : ∀ h ∈ e.href, h ≠ [] ∧ e.wildcard = .noWc
  wildcard : e.wildcard ≠ .minusOne

theorem Plain.toRes {e : ResEntry} (h : Plain e) (hne : e.toRes.href ≠ []) : e.wildcard = .noWc := by
  cases hh : e.href with
  | none => exact absurd (by rw [ResEntry.toRes, hh]; rfl) hne
  | some href => exact (h.href href hh).2

theorem restoreEntry_plain {res : OcAceRes} (h : 0 ∉ res.href) : Plain (restoreEntry res) := by
  unfold restoreEntry
  by_cases hne : res.href ≠ []
  · rw [if_pos hne, cstr_eq_self_iff.2 h]
    exact ⟨fun x hx => by cases hx; exact ⟨hne, rfl⟩, OcAceWildcard.noConfusion⟩
  · rw [if_neg hne]
    refine ⟨fun x hx => (nomatch hx), ?_⟩
    by_cases hw : res.wildcard = .minusOne
    · simp [hw]
    · simp [hw]

/-- Wildcards of a payload that meet in the search cover alike, from the searched one to the one that is there. -/
theorem wildcardCovers_of_meet {w w' : OcAceWildcard} (hw : w ≠ .minusOne) (hmeet : wildcardsMeet w.bits w'.bits)
    {discoverable isPublic : Bool} (h : wildcardCovers w discoverable isPublic) :
    wildcardCovers w' discoverable isPublic := by
  cases w <;> cases w' <;>
    first
    | exact absurd rfl hw
    | exact h
    | exact h.1
    | exact absurd hmeet (by unfold wildcardsMeet; decide)
    | simp_all [wildcardCovers]

theorem known_covers {entries : List OcAceRes} {e : ResEntry}
    (hentries : ∀ x ∈ entries, x.href ≠ [] → x.wildcard = .noWc) (he : Plain e) (huri : StoredUri resource.uri)
    (hk : entryKnown entries e = true) (hcovers : EntryCovers e.toRes resource isDCR) :
    ∃ x ∈ entries, EntryCovers x resource isDCR := by
  obtain ⟨x, hx, hmatch⟩ := List.any_eq_true.1 hk
  refine ⟨x, hx, ?_⟩
  rw [aceResMatches_eq] at hmatch
  obtain ⟨hhref, hwild, hpositive⟩ := hmatch
  cases hh : e.href with
  | some href =>
    obtain ⟨hne, hw⟩ := he.href href hh
    have hxne : x.href ≠ [] := by
      rcases hpositive with hp | hp
      · exact hp.2
      · exact absurd (by rw [hw]; rfl) hp.1
    have hmatches : HrefNames href x.href := (hrefMatches_iff href x.href).1 (hhref href hh hxne)
    simp only [EntryCovers, ResEntry.toRes, hh, Option.getD_some, if_neg hne] at hcovers
    obtain rfl := (hrefNames_stored huri href).1 hcovers.1
    rw [EntryCovers, if_neg hxne]
    exact ⟨hmatches, .inr (.inl (hentries x hx hxne))⟩
  | none =>
    simp only [EntryCovers, ResEntry.toRes, hh, Option.getD_none, if_true] at hcovers
    rcases hpositive with hp | ⟨hw, hxw⟩
    · exact absurd hh hp.1
    · have hxne : x.href = [] := by
        by_contra hne
        exact (bits_ne_zero x.wildcard).1 hxw (hentries x hx hne)
      rw [EntryCovers, if_pos hxne]
      exact ⟨hcovers.1, wildcardCovers_of_meet he.wildcard (hwild hw hxw) hcovers.2⟩

theorem newEntries_covers {resource : OcResource} {isDCR : Bool} (huri : StoredUri resource.uri) :
    ∀ (l : List ResEntry) {entries : List OcAceRes}, (∀ x ∈ entries, x.href ≠ [] → x.wildcard = .noWc) →
      (∀ e ∈ l, Plain e) →
      ((∃ x ∈ entries ++ (newEntries entries l).map ResEntry.toRes, EntryCovers x resource isDCR) ↔
        ∃ x ∈ entries ++ l.map ResEntry.toRes, EntryCovers x resource isDCR)
  | [], _, _, _ => Iff.rfl
  | e :: l, entries, hentries, hl => by
    have hl' : ∀ x ∈ l, Plain x := fun x hx => hl x (List.mem_cons_of_mem e hx)
    rw [newEntries]
    split
    · next hk =>
      rw [newEntries_covers huri l hentries hl']
      constructor
      · rintro ⟨x, hx, hc⟩
        refine ⟨x, ?_, hc⟩
        rcases List.mem_append.1 hx with hx | hx
        · exact List.mem_append_left _ hx
        · exact List.mem_append_right _ (List.mem_cons_of_mem _ hx)
      · rintro ⟨x, hx, hc⟩
        rcases List.mem_append.1 hx with hx | hx
        · exact ⟨x, List.mem_append_left _ hx, hc⟩
        · rw [List.map_cons] at hx
          rcases List.mem_cons.1 hx with rfl | hx
          · obtain ⟨y, hy, hcy⟩ := known_covers hentries (hl e List.mem_cons_self) huri hk hc
            exact ⟨y, List.mem_append_left _ hy, hcy⟩
          · exact ⟨x, List.mem_append_right _ hx, hc⟩
    · have hentries' : ∀ x ∈ entries ++ [e.toRes], x.href ≠ [] → x.wildcard = .noWc := by
        intro x hx
        rcases List.mem_append.1 hx with hx | hx
        · exact hentries x hx
        · rw [List.mem_singleton.1 hx]
          exact (hl e List.mem_cons_self).toRes
      have ih := @newEntries_covers resource isDCR huri l _ hentries' hl'
      rw [List.append_assoc, List.append_assoc, List.singleton_append, List.singleton_append] at ih
      rw [List.map_cons, List.map_cons]
      exact ih

theorem restoreEntry_covers {res : OcAceRes}
    (hres : 0 ∉ res.href ∧ (res.href = [] → res.wildcard ≠ .minusOne)) (huri : StoredUri resource.uri) :
    EntryCovers (restoreEntry res).toRes resource isDCR ↔
      EntryCovers res resource isDCR ∨ res.href ≠ [] ∧ res.wildcard ≠ .noWc ∧ resource.uri = res.href := by
  by_cases hh : res.href = []
  · have hentry : (restoreEntry res).toRes = res := by
      rw [restoreEntry, if_neg (not_not.2 hh), if_neg (hres.2 hh)]
      exact congrArg (OcAceRes.mk · res.wildcard) hh.symm
    rw [hentry]
    exact ⟨.inl, fun h => h.elim id fun h => absurd hh h.1⟩
  · have hentry : (restoreEntry res).toRes = ⟨res.href, .noWc⟩ := by
      rw [restoreEntry, if_pos hh, cstr_eq_self_iff.2 hres.1]
      rfl
    rw [hentry]
    simp only [EntryCovers, if_neg hh, hrefNames_stored huri]
    by_cases hw : res.wildcard = .noWc
    · simp [hw]
    · simp only [hw, false_or, ne_eq, hh, not_false_eq_true, true_and]
      tauto

/-! ## The rights after a restart -/

/-- The lists have the same ids, subjects and permissions in the same order and the same owner, and they give the same
answer to every request for a resource, in every state of the device. -/
structure AclRestored (P : Platform) (device : Nat) (acl acl' : OcSecAcl) : Prop where
  aces : acl'.subjects.map (fun ace => (ace.aceid, ace.subject, ace.permission)) =
    acl.subjects.map fun ace => (ace.aceid, ace.subject, ace.permission)
  rowneruuid : acl'.rowneruuid = acl.rowneruuid
  checks : ∀ (st : SecState) method resource endpoint, StoredUri resource.uri → endpoint.device = device →
    (ocSecCheckAcl P (st.setAcl device acl') method resource endpoint).1 =
      (ocSecCheckAcl P (st.setAcl device acl) method resource endpoint).1

/-- The request is one that the ACE would permit for the resources of its entries: the device serves the resource in
its state, the ACE applies to the requester, and its permission includes the method. -/
structure AceRequest (P : Platform) (st : SecState) (method : OcMethod) (resource : OcResource)
    (endpoint : OcEndpoint) (ace : OcSecAce) : Prop where
  served : ocCoreIsDCR P.ocfD resource resource.device = true ∨ (st.pstat endpoint.device).s = .rfnop
  subject : ∃ T, RequestSubject P st endpoint T ∧ SubjectApplies T ace.subject
  method : methodAllowed method ace.permission = true

/-- The condition for a list to survive: no role or authority has a zero byte, and the wildcard of an entry with an
href keeps no request from the resource of the href that the list does not permit anyway. -/
structure SurvivesRestart (P : Platform) (device : Nat) (acl : OcSecAcl) : Prop where
  roles : ∀ ace ∈ acl.subjects, ∀ role authority, ace.subject = .role role authority → 0 ∉ role ∧ 0 ∉ authority
  hrefs : ∀ ace ∈ acl.subjects, ∀ res ∈ ace.resources, res.href ≠ [] → res.wildcard ≠ .noWc →
    ∀ (st : SecState) method resource endpoint, StoredUri resource.uri → resource.uri = res.href → endpoint.device = device →
      AceRequest P st method resource endpoint ace → AccessRule P (st.setAcl device acl) method resource endpoint

theorem implicitAccess_setAcl {P : Platform} {st : SecState} {device : Nat} {acl acl' : OcSecAcl}
    (h : acl'.rowneruuid = acl.rowneruuid) {endpoint : OcEndpoint} {peer : OcTlsPeer}
    (hd : endpoint.device = device) :
    ImplicitAccess P (st.setAcl device acl') resource endpoint peer ↔
      ImplicitAccess P (st.setAcl device acl) resource endpoint peer := by
  subst hd
  simp only [ImplicitAccess, OwnsResource, setAcl_aclist, h]
  exact Iff.rfl

theorem restoreSubject_eq_self_iff (subject : OcAceSubject) :
    restoreSubject subject = subject ↔
      ∀ role authority, subject = .role role authority → 0 ∉ role ∧ 0 ∉ authority := by
  cases subject with
  | role role authority =>
    simp only [restoreSubject, OcAceSubject.role.injEq, cstr_eq_self_iff]
    exact ⟨fun h r a heq => heq.1 ▸ heq.2 ▸ h, fun h => h role authority ⟨rfl, rfl⟩⟩
  | uuid uuid => exact iff_of_true rfl fun _ _ h => nomatch h
  | conn conn => exact iff_of_true rfl fun _ _ h => nomatch h

/-- What the ACEs that are read back grant: what they granted, and their permission on the resources of the hrefs. -/
theorem aclGrants_restored {acl : OcSecAcl} (hok : ∀ ace ∈ acl.subjects, AceOk ace)
    (hroles : ∀ ace ∈ acl.subjects, restoreSubject ace.subject = ace.subject) {T : OcAceSubject}
    (huri : StoredUri resource.uri) {bits : BitVec 16} :
    AclGrants ⟨acl.subjects.map restoreAce, acl.rowneruuid⟩ T resource isDCR bits ↔
      AclGrants acl T resource isDCR bits ∨
      ∃ ace ∈ acl.subjects, ∃ res ∈ ace.resources, SubjectApplies T ace.subject ∧
        (res.href ≠ [] ∧ res.wildcard ≠ .noWc ∧ resource.uri = res.href) ∧ ace.permission &&& bits ≠ 0#16 := by
  have hcovers : ∀ ace ∈ acl.subjects, ((∃ x ∈ (restoreAce ace).resources, EntryCovers x resource isDCR) ↔
      ∃ res ∈ ace.resources, EntryCovers res resource isDCR ∨
        res.href ≠ [] ∧ res.wildcard ≠ .noWc ∧ resource.uri = res.href) := by
    intro ace hace
    have hplain : ∀ e ∈ ace.resources.map restoreEntry, Plain e := by
      intro e he
      obtain ⟨res, hres, rfl⟩ := List.mem_map.1 he
      exact restoreEntry_plain ((hok ace hace).hrefs res hres).1
    have hnew := @newEntries_covers resource isDCR huri (ace.resources.map restoreEntry) []
      (fun x hx => absurd hx List.not_mem_nil) hplain
    rw [List.nil_append, List.nil_append, List.map_map] at hnew
    refine hnew.trans ?_
    simp only [List.mem_map, Function.comp_apply, exists_exists_and_eq_and]
    refine exists_congr fun res => and_congr_right fun hres => ?_
    exact restoreEntry_covers ((hok ace hace).hrefs res hres) huri
  have hsubject : ∀ ace ∈ acl.subjects, (restoreAce ace).subject = ace.subject := hroles
  constructor
  · rintro ⟨x, hx, happlies, hc, hp⟩
    obtain ⟨ace, hace, rfl⟩ := List.mem_map.1 hx
    rw [hsubject ace hace] at happlies
    obtain ⟨res, hres, hc | hc⟩ := (hcovers ace hace).1 hc
    · exact .inl ⟨ace, hace, happlies, ⟨res, hres, hc⟩, hp⟩
    · exact .inr ⟨ace, hace, res, hres, happlies, hc, hp⟩
  · rintro (⟨ace, hace, happlies, ⟨res, hres, hc⟩, hp⟩ | ⟨ace, hace, res, hres, happlies, hc, hp⟩)
    · rw [← hsubject ace hace] at happlies
      exact ⟨restoreAce ace, List.mem_map_of_mem hace, happlies, (hcovers ace hace).2 ⟨res, hres, .inl hc⟩, hp⟩
    · rw [← hsubject ace hace] at happlies
      exact ⟨restoreAce ace, List.mem_map_of_mem hace, happlies, (hcovers ace hace).2 ⟨res, hres, .inr hc⟩, hp⟩

theorem check_restored_iff {P : Platform} {device : Nat} {acl : OcSecAcl} (hok : ∀ ace ∈ acl.subjects, AceOk ace)
    (hroles : ∀ ace ∈ acl.subjects, restoreSubject ace.subject = ace.subject) (st : SecState) (method : OcMethod)
    (huri : StoredUri resource.uri) {endpoint : OcEndpoint} (hd : endpoint.device = device) :
    (ocSecCheckAcl P (st.setAcl device ⟨acl.subjects.map restoreAce, acl.rowneruuid⟩) method resource endpoint).1 = true ↔
      (ocSecCheckAcl P (st.setAcl device acl) method resource endpoint).1 = true ∨
      ∃ ace ∈ acl.subjects, ∃ res ∈ ace.resources, (res.href ≠ [] ∧ res.wildcard ≠ .noWc ∧ resource.uri = res.href) ∧
        AceRequest P st method resource endpoint ace := by
  rw [ocSecCheckAcl_iff, ocSecCheckAcl_iff]
  subst hd
  simp only [AccessRule, setAcl_aclist, aclGrants_restored hok hroles huri]
  have himplicit : ∀ peer, ImplicitAccess P (st.setAcl endpoint.device ⟨acl.subjects.map restoreAce, acl.rowneruuid⟩)
      resource endpoint peer ↔ ImplicitAccess P (st.setAcl endpoint.device acl) resource endpoint peer := fun peer =>
    @implicitAccess_setAcl resource P st endpoint.device acl ⟨acl.subjects.map restoreAce, acl.rowneruuid⟩ rfl endpoint
      peer rfl
  simp only [himplicit]
  constructor
  · rintro ⟨hserved, himp | ⟨T, hT, hg | ⟨ace, hace, res, hres, happlies, hc, hp⟩⟩⟩
    · exact .inl ⟨hserved, .inl himp⟩
    · exact .inl ⟨hserved, .inr ⟨T, hT, hg⟩⟩
    · exact .inr ⟨ace, hace, res, hres, hc, hserved, ⟨T, hT, happlies⟩, (methodAllowed_iff method _).2 hp⟩
  · rintro (⟨hserved, himp | ⟨T, hT, hg⟩⟩ | ⟨ace, hace, res, hres, hc, hserved, ⟨T, hT, happlies⟩, hm⟩)
    · exact ⟨hserved, .inl himp⟩
    · exact ⟨hserved, .inr ⟨T, hT, .inl hg⟩⟩
    · exact ⟨hserved, .inr ⟨T, hT, .inr ⟨ace, hace, res, hres, happlies, hc, (methodAllowed_iff method _).1 hm⟩⟩⟩

/-- Every ACE of a payload has a subject of one kind. -/
def OneKindSubjects (rep : List OcRep) : Prop := ∀ item ∈ rep.flatMap aceItems, oneKindSubject item

/-- The ACL of a device that is written to the storage and read into an empty list: exactly the lists that meet the
condition come back with the same rights. The ids, integers without a bound here, are of the type `int`. -/
theorem acl_restored_iff (P : DevicePlatform) (hP : CoreUrisOk P) (device : Nat) (st fresh : SecState)
    (h : AclReachedBy OneKindSubjects P device st) (hint : ∀ ace ∈ (st.aclist device).subjects, ace.aceid < 2 ^ 31)
    (hfresh : (fresh.aclist device).subjects = []) :
    AclRestored P.toPlatform device (st.aclist device)
      ((ocSecDecodeAcl P.toPlatform fresh (ocSecEncodeAcl (st.aclist device)) true device).2.aclist device) ↔
    SurvivesRestart P.toPlatform device (st.aclist device) := by
  have hok := h.ok.aces hP
  rw [ocSecDecodeAcl_encode P.toPlatform device hok hint h.ok.aceids hfresh]
  have haces : ((st.aclist device).subjects.map restoreAce).map (fun ace => (ace.aceid, ace.subject, ace.permission)) =
      (st.aclist device).subjects.map (fun ace => (ace.aceid, ace.subject, ace.permission)) ↔
      ∀ ace ∈ (st.aclist device).subjects, restoreSubject ace.subject = ace.subject := by
    rw [List.map_map, List.map_inj_left]
    refine forall_congr' fun ace => forall_congr' fun _ => ?_
    simp [restoreAce]
  constructor
  · intro hr
    have hroles := haces.1 hr.aces
    refine ⟨fun ace hace => (restoreSubject_eq_self_iff ace.subject).1 (hroles ace hace), ?_⟩
    intro ace hace res hres hh hw st' method resource endpoint huri heq hd hreq
    rw [← ocSecCheckAcl_iff, ← hr.checks st' method resource endpoint huri hd]
    exact (check_restored_iff hok hroles st' method huri hd).2 (.inr ⟨ace, hace, res, hres, ⟨hh, hw, heq⟩, hreq⟩)
  · intro hs
    have hroles : ∀ ace ∈ (st.aclist device).subjects, restoreSubject ace.subject = ace.subject := fun ace hace =>
      (restoreSubject_eq_self_iff ace.subject).2 (hs.roles ace hace)
    refine ⟨haces.2 hroles, rfl, fun st' method resource endpoint huri hd => ?_⟩
    rw [Bool.eq_iff_iff, check_restored_iff hok hroles st' method huri hd]
    refine ⟨fun hc => hc.elim id ?_, .inl⟩
    rintro ⟨ace, hace, res, hres, ⟨hh, hw, heq⟩, hreq⟩
    rw [ocSecCheckAcl_iff]
    exact hs.hrefs ace hace res hres hh hw st' method resource endpoint huri heq hd hreq

/-- A payload with one ACE for `anon-clear`, to retrieve the resource `/a`. -/
def anonClearRep (res : List OcRep) : List OcRep :=
  [.objectArray (some (ascii "aclist2"))
    [[.object (some (ascii "subject")) [.string (some (ascii "conntype")) (ascii "anon-clear")],
      .objectArray (some (ascii "resources")) [.string (some (ascii "href")) (ascii "/a") :: res],
      .int (some (ascii "permission")) 2, .int (some (ascii "aceid")) 5]]]

/-- A device in RFPRO with that ACE. -/
def anonClearState (res : List OcRep) : SecState :=
  (ocSecDecodeAcl (Platform.simple Mbedtls.rejecting) (.empty .rfpro) (anonClearRep res) false 0).2

theorem acl_restored_href : AclRestored (Platform.simple Mbedtls.rejecting) 0 ((anonClearState []).aclist 0)
    ((ocSecDecodeAcl (Platform.simple Mbedtls.rejecting) (.empty .reset) (ocSecEncodeAcl ((anonClearState []).aclist 0))
      true 0).2.aclist 0) := by
  have hacl : (anonClearState []).aclist 0 = ⟨[⟨[⟨ascii "/a", .noWc⟩], .conn .anonClear, 5, 2⟩], OcUuid.nil⟩ := by
    decide
  have hace : ∀ ace ∈ ((anonClearState []).aclist 0).subjects,
      ace = ⟨[⟨ascii "/a", .noWc⟩], .conn .anonClear, 5, 2⟩ := by
    rw [hacl]
    exact fun ace h => List.mem_singleton.1 h
  refine (acl_restored_iff (DevicePlatform.simple Mbedtls.rejecting 7) (by unfold CoreUrisOk; decide) 0 _ _
    (.decode (anonClearRep []) false (by unfold OneKindSubjects; decide) (.empty _ rfl)) (fun ace h => ?_) rfl).2 ⟨fun ace h => ?_, fun ace h => ?_⟩
  · rw [hace ace h]
    decide
  · rw [hace ace h]
    exact fun _ _ h => nomatch h
  · rw [hace ace h]
    intro res hres _ hw
    exact absurd (by rw [List.mem_singleton.1 hres]) hw

/-- The payload with the wildcard `-` in the entry: after a restart, `/a` may be read although it is not discoverable. -/
theorem acl_restored_wildcard :
    let acl := (anonClearState [.string (some (ascii "wc")) (ascii "-")]).aclist 0
    ¬AclRestored (Platform.simple Mbedtls.rejecting) 0 acl
      ((ocSecDecodeAcl (Platform.simple Mbedtls.rejecting) (.empty .reset) (ocSecEncodeAcl acl) true 0).2.aclist 0) := by
  have hacl : (anonClearState [.string (some (ascii "wc")) (ascii "-")]).aclist 0 =
      ⟨[⟨[⟨ascii "/a", .wcAllPublic⟩], .conn .anonClear, 5, 2⟩], OcUuid.nil⟩ := by decide
  have hloaded : (ocSecDecodeAcl (Platform.simple Mbedtls.rejecting) (.empty .reset)
      (ocSecEncodeAcl ⟨[⟨[⟨ascii "/a", .wcAllPublic⟩], .conn .anonClear, 5, 2⟩], OcUuid.nil⟩) true 0).2.aclist 0 =
      ⟨[⟨[⟨ascii "/a", .noWc⟩], .conn .anonClear, 5, 2⟩], OcUuid.nil⟩ := by decide +kernel
  intro acl h
  have hchecks := h.checks (.empty .rfnop) .get ⟨ascii "/a", 0, none, false, true⟩ OcEndpoint.zero rfl rfl
  simp only [acl, hacl, hloaded, ocSecCheckAcl, connectionAllowed, subjectPermissions, ocAceGetPermission,
    Search.foldMatches_eq] at hchecks
  revert hchecks
  decide

end SmartGarage
