/-
`oc_acl.c`: taking back what an unowned device grants to everyone. `oc_sec_acl_default` opens the
security resources to anyone, and `oc_sec_ace_clear_bootstrap_aces` removes them from these ACEs
again: the resources it names, up to the first ACE that has no other.
-/
import SmartGarage.Security.AclList

namespace SmartGarage

/-! ## The code -/

/-- `oc_ace_free_resources` with an href: `none` where the ACE has no resource left, and is freed. -/
def ocAceFreeResources (ace : OcSecAce) (href : OcString) : Option OcSecAce :=
  let ace := { ace with resources := ace.resources.filter (·.href ≠ href) }
  if ace.resources.isEmpty then none else some ace

/-- The resources `oc_sec_ace_clear_bootstrap_aces` takes away, in its order. -/
def bootstrapUris : List OcString :=
  [ascii "/oic/sec/acl2", ascii "/oic/sec/cred", ascii "/oic/sec/pstat", ascii "/oic/sec/doxm", ascii "/oic/sec/sp",
    ascii "/oic/sec/csr", ascii "/oic/sec/sdi"]

/-- The ACEs that are searched: everyone, with the permissions to retrieve, update and delete. -/
def isBootstrapAce (ace : OcSecAce) : Bool := aceMatches (.conn .anonClear) (-1) 14 ace

/-- The loop of `oc_sec_ace_clear_bootstrap_aces` over the ACEs that are left. -/
def clearBootstrapAces : List OcSecAce → List OcSecAce
  | [] => []
  | ace :: rest =>
    if isBootstrapAce ace then
      match bootstrapUris.foldlM ocAceFreeResources ace with
      | some ace => ace :: clearBootstrapAces rest
      -- the ACE has been freed, and there is none to go on from
      | none => rest
    else ace :: clearBootstrapAces rest

/-- `oc_sec_ace_clear_bootstrap_aces` -/
def ocSecAceClearBootstrapAces (st : SecState) (device : Nat) : SecState :=
  st.setAcl device { st.aclist device with subjects := clearBootstrapAces (st.aclist device).subjects }

/-- Something that adds an ACE: `oc_sec_ace_update_res`, or an ACE of a payload, which replaces the one
with its id. -/
inductive AceAddition
  | updateRes (subject : OcAceSubject) (aceid : Int) (permission : BitVec 16) (entry : ResEntry)
  | payload (item : List OcRep)

/-- The state after an addition. -/
def AceAddition.apply (P : Platform) (device : Nat) (st : SecState) : AceAddition → SecState
  | updateRes subject aceid permission entry => ocSecAceGetRes P st subject aceid permission entry device
  | payload item => provisionAce P device st item

/-! ## What is left -/

/-- The ACE has an entry for the resource. -/
def OcSecAce.lists (ace : OcSecAce) (uri : OcString) : Prop := ∃ res ∈ ace.resources, res.href = uri

/-- No ACE for everyone lists a security resource. -/
def AcesClosed (l : List OcSecAce) : Prop :=
  ∀ ace ∈ l, isBootstrapAce ace = true → ∀ uri ∈ securityUris, ¬ ace.lists uri

/-- The ACE has only resources that are taken away. -/
def OcSecAce.emptied (ace : OcSecAce) : Prop := ∀ res ∈ ace.resources, res.href ∈ bootstrapUris

/-- Clearing is enough: no ACE for everyone lists `/oic/sec/ael`, and behind one that is emptied none lists
any security resource. -/
def ClearingSuffices (l : List OcSecAce) : Prop :=
  (∀ ace ∈ l, isBootstrapAce ace = true → ¬ ace.lists (ascii "/oic/sec/ael")) ∧
  l.Pairwise fun ace later => isBootstrapAce ace = true → ace.emptied → isBootstrapAce later = true →
    ∀ uri ∈ securityUris, ¬ later.lists uri

theorem freeResources_spec : ∀ (uris : List OcString) (uri : OcString) (ace : OcSecAce),
    (uri :: uris).foldlM ocAceFreeResources ace =
      let kept := ace.resources.filter (·.href ∉ uri :: uris)
      if kept.isEmpty then none else some { ace with resources := kept }
  | [], uri, ace => by simp [ocAceFreeResources, Option.bind_eq_bind]
  | next :: uris, uri, ace => by
    have hfilter (l : List OcAceRes) : (l.filter (·.href ≠ uri)).filter (·.href ∉ next :: uris) =
        l.filter (·.href ∉ uri :: next :: uris) := by
      rw [List.filter_filter]
      exact List.filter_congr fun res _ => by simp [Bool.and_comm]
    rw [List.foldlM_cons]
    simp only [ocAceFreeResources]
    split
    · rename_i hempty
      -- nothing is left for the further resources
      rw [List.isEmpty_iff] at hempty
      have hkept := hfilter ace.resources
      rw [hempty, List.filter_nil] at hkept
      simp only [← hkept]
      rfl
    · rw [Option.bind_eq_bind, Option.bind_some, freeResources_spec uris next]
      simp only [hfilter]

theorem freeBootstrap (ace : OcSecAce) :
    (ace.emptied ∧ bootstrapUris.foldlM ocAceFreeResources ace = none) ∨
    (¬ ace.emptied ∧ ∃ ace', bootstrapUris.foldlM ocAceFreeResources ace = some ace' ∧
      isBootstrapAce ace' = isBootstrapAce ace ∧ ∀ uri, ace'.lists uri ↔ ace.lists uri ∧ uri ∉ bootstrapUris) := by
  have hspec := freeResources_spec bootstrapUris.tail (ascii "/oic/sec/acl2") ace
  have huris : ascii "/oic/sec/acl2" :: bootstrapUris.tail = bootstrapUris := rfl
  rw [huris] at hspec
  simp only at hspec
  split at hspec
  · rename_i hempty
    rw [List.isEmpty_iff, List.filter_eq_nil_iff] at hempty
    exact .inl ⟨fun res hres => by simpa using hempty res hres, hspec⟩
  · rename_i hkept
    rw [List.isEmpty_iff, List.filter_eq_nil_iff] at hkept
    refine .inr ⟨fun h => hkept fun res hres => by simpa using h res hres, _, hspec, rfl, fun uri => ?_⟩
    simp only [OcSecAce.lists, List.mem_filter, decide_eq_true_eq]
    exact ⟨fun ⟨res, ⟨hres, hnot⟩, heq⟩ => ⟨⟨res, hres, heq⟩, heq ▸ hnot⟩,
      fun ⟨⟨res, hres, heq⟩, hnot⟩ => ⟨res, ⟨hres, heq ▸ hnot⟩, heq⟩⟩

theorem mem_securityUris (uri : OcString) (h : uri ∈ securityUris) :
    uri ∉ bootstrapUris ↔ uri = ascii "/oic/sec/ael" := by
  have hall : ∀ uri ∈ securityUris, uri ∉ bootstrapUris ↔ uri = ascii "/oic/sec/ael" := by decide
  exact hall uri h

theorem ael_mem : ascii "/oic/sec/ael" ∈ securityUris := by decide

theorem ael_kept : ascii "/oic/sec/ael" ∉ bootstrapUris := by decide

theorem acesClosed_cons (ace : OcSecAce) (l : List OcSecAce) :
    AcesClosed (ace :: l) ↔ (isBootstrapAce ace = true → ∀ uri ∈ securityUris, ¬ ace.lists uri) ∧ AcesClosed l :=
  List.forall_mem_cons

theorem clearBootstrapAces_closed_iff : ∀ (l : List OcSecAce), AcesClosed (clearBootstrapAces l) ↔ ClearingSuffices l
  | [] => by simp [clearBootstrapAces, AcesClosed, ClearingSuffices]
  | ace :: rest => by
    have ih := clearBootstrapAces_closed_iff rest
    unfold clearBootstrapAces
    unfold ClearingSuffices at ih ⊢
    rw [List.forall_mem_cons, List.pairwise_cons]
    by_cases hb : isBootstrapAce ace = true
    · rw [if_pos hb]
      rcases freeBootstrap ace with ⟨hempty, hfree⟩ | ⟨hkeeps, ace', hfree, hb', hlists⟩
      · -- the loop ends here, and what follows stays as it is
        rw [hfree]
        constructor
        · intro h
          refine ⟨⟨fun _ ⟨res, hres, heq⟩ => ael_kept (heq ▸ hempty res hres),
            fun later hl hbl => h later hl hbl _ ael_mem⟩, fun later hl _ _ hbl => h later hl hbl, ?_⟩
          exact List.pairwise_of_forall_mem_list fun _ _ later hl _ _ hbl => h later hl hbl
        · exact fun h later hl hbl => h.2.1 later hl hb hempty hbl
      · rw [hfree]
        simp only
        rw [acesClosed_cons, ih, hb']
        constructor
        · rintro ⟨hace, hael, hpair⟩
          refine ⟨⟨fun _ h => hace hb _ ael_mem ((hlists _).2 ⟨h, ael_kept⟩), hael⟩, ?_, hpair⟩
          exact fun _ _ _ hempty => absurd hempty hkeeps
        · rintro ⟨⟨hace, hael⟩, -, hpair⟩
          refine ⟨fun _ uri huri h => ?_, hael, hpair⟩
          obtain ⟨hl, hnot⟩ := (hlists uri).1 h
          exact hace hb ((mem_securityUris uri huri).1 hnot ▸ hl)
    · rw [if_neg hb, acesClosed_cons, ih]
      constructor
      · rintro ⟨-, hael, hpair⟩
        exact ⟨⟨fun h => absurd h hb, hael⟩, fun _ _ h => absurd h hb, hpair⟩
      · rintro ⟨⟨-, hael⟩, -, hpair⟩
        exact ⟨fun h => absurd h hb, hael, hpair⟩

/-! ## What additions to the default list leave -/

/-- Some ACE for everyone lists `/oic/sec/ael`. -/
def AelOpen (l : List OcSecAce) : Prop :=
  ∃ ace ∈ l, isBootstrapAce ace = true ∧ ace.lists (ascii "/oic/sec/ael")

theorem putEntry_keeps {subject : OcAceSubject} {aceid : Int} {permission : BitVec 16} {e : ResEntry} {newId : Int}
    {l : List OcSecAce} {a : OcSecAce} (h : a ∈ l) : ∃ ace ∈ putEntry subject aceid permission e newId l,
      isBootstrapAce ace = isBootstrapAce a ∧ ∀ uri, a.lists uri → ace.lists uri := by
  unfold putEntry
  cases hf : l.find? (aceMatches subject aceid permission) with
  | none => exact ⟨a, List.mem_append_left _ h, rfl, fun _ h => h⟩
  | some b =>
    simp only
    split
    · exact ⟨a, h, rfl, fun _ h => h⟩
    · obtain ⟨pre, post, hl, hm, -⟩ := Search.modify_of_find? (aceMatches subject aceid permission)
        (fun a : OcSecAce => { a with resources := a.resources ++ [e.toRes] }) l hf
      rw [hm]
      rw [hl] at h
      rcases List.mem_append.1 h with h | h
      · exact ⟨a, List.mem_append_left _ h, rfl, fun _ h => h⟩
      · rcases List.mem_cons.1 h with rfl | h
        · refine ⟨_, List.mem_append_right _ List.mem_cons_self, rfl, fun uri ⟨res, hres, heq⟩ => ?_⟩
          exact ⟨res, List.mem_append_left _ hres, heq⟩
        · exact ⟨a, List.mem_append_right _ (List.mem_cons_of_mem _ h), rfl, fun _ h => h⟩

theorem AelOpen.getRes {P : Platform} {st : SecState} {device : Nat} (h : AelOpen (st.aclist device).subjects)
    (subject : OcAceSubject) (aceid : Int) (permission : BitVec 16) (e : ResEntry) :
    AelOpen ((ocSecAceGetRes P st subject aceid permission e device).aclist device).subjects := by
  obtain ⟨a, ha, hb, hl⟩ := h
  rw [ocSecAceGetRes_aclist]
  obtain ⟨ace, hace, hsame, hlists⟩ := putEntry_keeps ha
  exact ⟨ace, hace, hsame.trans hb, hlists _ hl⟩

theorem putEntry_lists {subject : OcAceSubject} {aceid : Int} {permission : BitVec 16} {uri : OcString}
    {wildcard : OcAceWildcard} {newId : Int} {l : List OcSecAce}
    (hnamed : ∀ ace ∈ l, aceMatches subject aceid permission ace = true → ∀ res ∈ ace.resources, res.href ≠ [])
    (hnew : aceMatches subject aceid permission ⟨[⟨uri, wildcard⟩], subject, newId, permission⟩ = true)
    (hslash : hrefSkip uri = 0) : ∃ ace ∈ putEntry subject aceid permission ⟨some uri, wildcard⟩ newId l,
      aceMatches subject aceid permission ace = true ∧ ace.lists uri := by
  unfold putEntry
  cases hf : l.find? (aceMatches subject aceid permission) with
  | none =>
    exact ⟨_, List.mem_append_right _ List.mem_cons_self, hnew, ⟨uri, wildcard⟩, List.mem_cons_self, rfl⟩
  | some ace =>
    have hmem := List.mem_of_find?_eq_some hf
    have hm := List.find?_some hf
    simp only
    split
    · rename_i hknown
      obtain ⟨res, hres, hmatch⟩ := List.any_eq_true.1 hknown
      refine ⟨ace, hmem, hm, res, hres, ?_⟩
      have hne := hnamed ace hmem hm res hres
      by_cases heq : hrefMatches uri res.href = true
      · simp only [hrefMatches, hslash, List.drop_zero, Bool.and_eq_true, beq_iff_eq] at heq
        exact heq.2
      · simp [aceResMatches, hne, heq] at hmatch
    · obtain ⟨pre, post, -, hmodify, -⟩ := Search.modify_of_find? (aceMatches subject aceid permission)
        (fun a : OcSecAce => { a with resources := a.resources ++ [⟨uri, wildcard⟩] }) l hf
      refine ⟨{ ace with resources := ace.resources ++ [⟨uri, wildcard⟩] }, ?_, hm, ⟨uri, wildcard⟩, by simp, rfl⟩
      have hthere : { ace with resources := ace.resources ++ [⟨uri, wildcard⟩] } ∈
          pre ++ { ace with resources := ace.resources ++ [⟨uri, wildcard⟩] } :: post :=
        List.mem_append_right pre List.mem_cons_self
      rwa [← hmodify] at hthere

section Default

variable {P : DevicePlatform} {device : Nat} {st : SecState}

theorem addDefault_readable : ∀ (uris : List OcString) {st : SecState},
    (∀ ace ∈ (st.aclist device).subjects, ace.aceid = 1) →
    ∀ ace ∈ ((addDefault P device 1 2 .noWc uris st).aclist device).subjects, ace.aceid = 1
  | [], _, h => h
  | uri :: uris, st, h => by
    have hstep : ∀ ace ∈ ((ocSecAceGetRes P.toPlatform st (.conn .anonClear) 1 2 ⟨some uri, .noWc⟩ device).aclist
        device).subjects, ace.aceid = 1 := ?_
    · exact addDefault_readable uris hstep
    intro ace hace
    rw [ocSecAceGetRes_aclist] at hace
    rcases mem_putEntry hace with ⟨a, ha, rfl | rfl⟩ | ⟨-, rfl⟩
    · exact h ace ha
    · exact h a ha
    · rfl

/-- The ACEs with the id 2 list named resources only. -/
def NamedOnly (l : List OcSecAce) : Prop := ∀ ace ∈ l, ace.aceid = 2 → ∀ res ∈ ace.resources, res.href ≠ []

theorem NamedOnly.getRes (h : NamedOnly (st.aclist device).subjects) {uri : OcString} (huri : uri ≠ [])
    (wildcard : OcAceWildcard) : NamedOnly ((ocSecAceGetRes P.toPlatform st (.conn .anonClear) 2 14
      ⟨some uri, wildcard⟩ device).aclist device).subjects := by
  rw [ocSecAceGetRes_aclist]
  intro ace hace hid res hres
  rcases mem_putEntry hace with ⟨a, ha, rfl | rfl⟩ | ⟨-, rfl⟩
  · exact h ace ha hid res hres
  · rcases List.mem_append.1 hres with hres | hres
    · exact h a ha hid res hres
    · rw [List.mem_singleton.1 hres]
      exact huri
  · rw [List.mem_singleton.1 hres]
    exact huri

theorem AelOpen.addDefault {aceid : Int} {permission : BitVec 16} {wildcard : OcAceWildcard} :
    ∀ (uris : List OcString) {st : SecState}, AelOpen (st.aclist device).subjects →
      AelOpen ((addDefault P device aceid permission wildcard uris st).aclist device).subjects
  | [], _, h => h
  | uri :: uris, _, h => AelOpen.addDefault uris (h.getRes (.conn .anonClear) aceid permission ⟨some uri, wildcard⟩)

theorem addDefault_ael (h : NamedOnly (st.aclist device).subjects) :
    AelOpen ((addDefault P device 2 14 .minusOne securityUris st).aclist device).subjects := by
  have hopen : ∀ (uris : List OcString) {st : SecState}, NamedOnly (st.aclist device).subjects →
      (∀ uri ∈ uris, uri ≠ []) → ascii "/oic/sec/ael" ∈ uris →
      AelOpen ((addDefault P device 2 14 .minusOne uris st).aclist device).subjects := by
    intro uris
    induction uris with
    | nil => exact fun _ _ hmem => absurd hmem List.not_mem_nil
    | cons uri uris ih =>
      intro st h hne hmem
      rcases List.mem_cons.1 hmem with rfl | hmem
      · have hstep : AelOpen ((ocSecAceGetRes P.toPlatform st (.conn .anonClear) 2 14
            ⟨some (ascii "/oic/sec/ael"), .minusOne⟩ device).aclist device).subjects := ?_
        · exact AelOpen.addDefault uris hstep
        rw [ocSecAceGetRes_aclist]
        have hnamed : ∀ ace ∈ (st.aclist device).subjects, aceMatches (.conn .anonClear) 2 14 ace = true →
            ∀ res ∈ ace.resources, res.href ≠ [] := by
          intro ace hace hm
          refine h ace hace ?_
          simp only [aceMatches, Bool.and_eq_true, Bool.or_eq_true, beq_iff_eq] at hm
          omega
        have hnew : aceMatches (.conn .anonClear) 2 14 ⟨[⟨ascii "/oic/sec/ael", .minusOne⟩], .conn .anonClear,
            newAceid P.toPlatform st 2 device, 14⟩ = true := by
          simp [aceMatches, newAceid, subjectMatches_self]
        obtain ⟨ace, hace, hm, hlists⟩ := putEntry_lists hnamed hnew (by decide)
        refine ⟨ace, hace, ?_, hlists⟩
        simp only [aceMatches, Bool.and_eq_true] at hm
        simp only [isBootstrapAce, aceMatches, beq_self_eq_true, Bool.true_or, Bool.true_and, Bool.and_eq_true]
        exact ⟨hm.1.2, hm.2⟩
      · exact ih (h.getRes (hne uri List.mem_cons_self) .minusOne) (fun x hx => hne x (List.mem_cons_of_mem uri hx)) hmem
  exact hopen securityUris h (fun uri huri => (securityUris_ok uri huri).2) ael_mem

theorem ocSecAclDefault_ael (P : DevicePlatform) (st : SecState) (device : Nat) :
    AelOpen ((ocSecAclDefault P st device).aclist device).subjects := by
  rw [ocSecAclDefault_subjects]
  have hcore : ∀ ace ∈ ((addDefault P device 1 2 .noWc P.coreUris (ocSecClearAcl st device)).aclist device).subjects,
      ace.aceid = 1 := by
    refine addDefault_readable P.coreUris ?_
    rw [ocSecClearAcl, setAcl_aclist]
    exact fun ace h => absurd h List.not_mem_nil
  have hnamed : NamedOnly
      ((addDefault P device 1 2 .noWc P.coreUris (ocSecClearAcl st device)).aclist device).subjects := by
    intro ace hace hid
    rw [hcore ace hace] at hid
    omega
  exact AelOpen.addDefault [P.deviceUri] (addDefault_ael hnamed)

end Default

/-- The state after `oc_sec_acl_default` and a sequence of additions. -/
def addedToDefault (P : DevicePlatform) (device : Nat) (st : SecState) (additions : List AceAddition) : SecState :=
  additions.foldl (AceAddition.apply P.toPlatform device) (ocSecAclDefault P st device)

/-- An addition that replaces no ACE. -/
def AceAddition.onlyAdds : AceAddition → Bool
  | updateRes .. => true
  | payload _ => false

theorem AelOpen.additions {P : DevicePlatform} {device : Nat} : ∀ (additions : List AceAddition) {st : SecState},
    AelOpen (st.aclist device).subjects → (∀ a ∈ additions, a.onlyAdds = true) →
    AelOpen ((additions.foldl (AceAddition.apply P.toPlatform device) st).aclist device).subjects
  | [], _, h, _ => h
  | .updateRes subject aceid permission e :: l, _, h, hadds =>
    AelOpen.additions l (h.getRes subject aceid permission e) fun a ha => hadds a (List.mem_cons_of_mem _ ha)
  | .payload item :: _, _, _, hadds => nomatch hadds (.payload item) List.mem_cons_self

/-- After the default ACL and any additions, clearing closes the security resources iff no ACE for everyone
lists `/oic/sec/ael`, and behind one that is emptied none lists any security resource. With additions that
replace no ACE, `/oic/sec/ael` stays open. -/
theorem clearBootstrapAces_closes_iff (P : DevicePlatform) (st : SecState) (device : Nat) (additions : List AceAddition) :
    (AcesClosed ((ocSecAceClearBootstrapAces (addedToDefault P device st additions) device).aclist device).subjects ↔
      ClearingSuffices ((addedToDefault P device st additions).aclist device).subjects) ∧
    ((∀ a ∈ additions, a.onlyAdds = true) →
      ¬ AcesClosed ((ocSecAceClearBootstrapAces (addedToDefault P device st additions) device).aclist device).subjects) := by
  have hiff : AcesClosed
      ((ocSecAceClearBootstrapAces (addedToDefault P device st additions) device).aclist device).subjects ↔
      ClearingSuffices ((addedToDefault P device st additions).aclist device).subjects := by
    rw [ocSecAceClearBootstrapAces, setAcl_aclist]
    exact clearBootstrapAces_closed_iff _
  refine ⟨hiff, fun hadds hclosed => ?_⟩
  obtain ⟨ace, hace, hb, hl⟩ := AelOpen.additions additions (ocSecAclDefault_ael P st device) hadds
  exact (hiff.1 hclosed).1 ace hace hb hl

/-- On a device with the default ACL everyone may still provision `/oic/sec/ael`. -/
theorem clearBootstrapAces_leaves_ael :
    ¬ AcesClosed ((ocSecAceClearBootstrapAces
      (addedToDefault (DevicePlatform.simple Mbedtls.rejecting 7) 0 (.empty .rfotm) []) 0).aclist 0).subjects := by
  intro h
  have hael : ∃ ace ∈ ((ocSecAceClearBootstrapAces
      (addedToDefault (DevicePlatform.simple Mbedtls.rejecting 7) 0 (.empty .rfotm) []) 0).aclist 0).subjects,
      isBootstrapAce ace = true ∧ ∃ res ∈ ace.resources, res.href = ascii "/oic/sec/ael" := by decide
  obtain ⟨ace, hace, hb, hl⟩ := hael
  exact h ace hace hb _ ael_mem hl

end SmartGarage
