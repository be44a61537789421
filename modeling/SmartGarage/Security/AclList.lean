/-
The lists of ACEs that the operations of `oc_acl.c` build: the default list, the ACEs of payloads, deletions and the
ACEs for created resources. Ids are unique, and every ACE has a resource entry.
-/
import SmartGarage.Security.AclProvision
import SmartGarage.Security.DeviceFrame

namespace SmartGarage

variable {permission : BitVec 16}

/-! ## One entry -/

/-- The list of ACEs that `oc_sec_ace_get_res` leaves; `newId` is the id of an ACE it has to make. -/
def putEntry (subject : OcAceSubject) (aceid : Int) (permission : BitVec 16) (e : ResEntry) (newId : Int)
    (l : List OcSecAce) : List OcSecAce :=
  match l.find? (aceMatches subject aceid permission) with
  | some ace =>
    if entryKnown ace.resources e then l
    else Search.modify (aceMatches subject aceid permission) (fun a => { a with resources := a.resources ++ [e.toRes] }) l
  | none => l ++ [⟨[e.toRes], subject, newId, permission⟩]

/-- The id that `oc_sec_ace_get_res` gives a new ACE. -/
def newAceid (P : Platform) (st : SecState) (aceid : Int) (device : Nat) : Int :=
  if aceid = -1 then P.newId st.draws ((st.aclist device).subjects.map (·.aceid)) else aceid

theorem ocSecAceGetRes_aclist (P : Platform) (st : SecState) (subject : OcAceSubject) (aceid : Int)
    (permission : BitVec 16) (e : ResEntry) (device : Nat) :
    (ocSecAceGetRes P st subject aceid permission e device).aclist device =
      { st.aclist device with
        subjects := putEntry subject aceid permission e (newAceid P st aceid device) (st.aclist device).subjects } := by
  unfold ocSecAceGetRes putEntry newAceid
  cases hf : (st.aclist device).subjects.find? (aceMatches subject aceid permission) with
  | none =>
    simp only [findSubject_none hf]
    by_cases hid : aceid = -1 <;> simp [hid, getNewAceid]
  | some ace =>
    obtain ⟨rest, hs⟩ := findSubject_some hf
    simp only [hs]
    have hk := findResource_isSome ace.resources e
    cases hr : ocSecAceFindResource ace.resources e.href e.wildcard.bits with
    | some res =>
      rw [hr, Option.isSome_some] at hk
      simp [← hk]
    | none =>
      rw [hr, Option.isSome_none] at hk
      simp [← hk]

/-- The search finds an ACE with the id, or the id is free, or there is none. -/
def Placed (subject : OcAceSubject) (aceid : Int) (permission : BitVec 16) (l : List OcSecAce) : Prop :=
  aceid = -1 ∨ aceid ∉ l.map (·.aceid) ∨ ∃ ace ∈ l, aceMatches subject aceid permission ace = true

/-- An ACE that an operation has made: its id is given and no less than an `int` can be, it has a resource entry, an
href is a C string, and an entry without an href has no wildcard but those that can be written. -/
structure AceOk (ace : OcSecAce) : Prop where
  ne : ace.aceid ≠ -1
  lower : -2 ^ 31 ≤ ace.aceid
  resources : ace.resources ≠ []
  hrefs : ∀ res ∈ ace.resources, 0 ∉ res.href ∧ (res.href = [] → res.wildcard ≠ .minusOne)

/-- The URIs of the core resources are C strings. -/
def CoreUrisOk (P : DevicePlatform) : Prop := ∀ uri ∈ P.deviceUri :: P.coreUris, 0 ∉ uri

/-- The list of a device. -/
structure AclOk (P : DevicePlatform) (l : List OcSecAce) : Prop where
  aceids : (l.map (·.aceid)).Nodup
  aces : CoreUrisOk P → ∀ ace ∈ l, AceOk ace

theorem AclOk.nil (P : DevicePlatform) : AclOk P [] := ⟨List.nodup_nil, fun _ _ h => absurd h List.not_mem_nil⟩

theorem AclOk.sublist {P : DevicePlatform} {l l' : List OcSecAce} (h : AclOk P l) (hs : l'.Sublist l) : AclOk P l' :=
  ⟨h.aceids.sublist (hs.map _), fun hP ace hace => h.aces hP ace (hs.subset hace)⟩

/-- A resource entry whose href is a C string, and which has a wildcard that can be written or an href. -/
structure EntryOk (e : ResEntry) : Prop where
  href : 0 ∉ e.toRes.href
  wildcard : e.toRes.href = [] → e.wildcard ≠ .minusOne

section Put

variable {subject : OcAceSubject} {aceid : Int} {permission : BitVec 16} {e : ResEntry} {newId : Int}
  {l : List OcSecAce}

theorem aceMatches_self (subject : OcAceSubject) {aceid : Int} (permission : BitVec 16) (resources : List OcAceRes) :
    aceMatches subject aceid permission ⟨resources, subject, aceid, permission⟩ = true := by
  simp [aceMatches, subjectMatches_self]

/-- An ACE of the new list is one of the old ones, perhaps with the entry added, or the new one. -/
theorem mem_putEntry {ace : OcSecAce} (h : ace ∈ putEntry subject aceid permission e newId l) :
    (∃ a ∈ l, ace = a ∨ ace = { a with resources := a.resources ++ [e.toRes] }) ∨
    l.find? (aceMatches subject aceid permission) = none ∧ ace = ⟨[e.toRes], subject, newId, permission⟩ := by
  unfold putEntry at h
  cases hf : l.find? (aceMatches subject aceid permission) with
  | some a =>
    rw [hf] at h
    simp only at h
    split at h
    · exact .inl ⟨ace, h, .inl rfl⟩
    · exact .inl (Search.mem_modify h)
  | none =>
    rw [hf] at h
    rcases List.mem_append.1 h with h | h
    · exact .inl ⟨ace, h, .inl rfl⟩
    · exact .inr ⟨rfl, List.mem_singleton.1 h⟩

theorem putEntry_ids (hp : Placed subject aceid permission l)
    (hid : newId = aceid ∨ newId ∉ l.map (·.aceid)) (hn : (l.map (·.aceid)).Nodup) (hnew : aceid = -1 → newId ≠ aceid) :
    ((putEntry subject aceid permission e newId l).map (·.aceid)).Nodup := by
  unfold putEntry
  cases hf : l.find? (aceMatches subject aceid permission) with
  | some ace =>
    simp only
    split
    · exact hn
    · rw [Search.map_modify (by intro a; rfl)]
      exact hn
  | none =>
    refine Search.nodup_append_new hn ?_
    show newId ∉ l.map (·.aceid)
    rcases hid with rfl | hid
    · rcases hp with hp | hp | ⟨ace, hace, hm⟩
      · exact absurd rfl (hnew hp)
      · exact hp
      · exact absurd hm (List.find?_eq_none.1 hf ace hace)
    · exact hid

theorem putEntry_placed (e' : ResEntry) (hid : aceid ≠ -1 → newId = aceid) :
    Placed subject aceid permission (putEntry subject aceid permission e' newId l) := by
  by_cases hne : aceid = -1
  · exact .inl hne
  · refine .inr (.inr ?_)
    unfold putEntry
    cases hf : l.find? (aceMatches subject aceid permission) with
    | some ace =>
      simp only
      split
      · exact ⟨ace, List.mem_of_find?_eq_some hf, List.find?_some hf⟩
      · have hmatch : aceMatches subject aceid permission { ace with resources := ace.resources ++ [e'.toRes] } = true := by
          have h := List.find?_some hf
          exact h
        exact ⟨_, List.mem_of_find?_eq_some
          (Search.find?_modify (f := fun a : OcSecAce => { a with resources := a.resources ++ [e'.toRes] }) hf hmatch),
          hmatch⟩
    | none =>
      rw [hid hne]
      exact ⟨_, List.mem_append_right _ (List.mem_singleton_self _), aceMatches_self subject permission _⟩

theorem putEntry_aces (h : ∀ ace ∈ l, AceOk ace) (he : EntryOk e) (hne : newId ≠ -1) (hlower : -2 ^ 31 ≤ newId) :
    ∀ ace ∈ putEntry subject aceid permission e newId l, AceOk ace := by
  intro ace hace
  rcases mem_putEntry hace with ⟨a, ha, rfl | rfl⟩ | ⟨-, rfl⟩
  · exact h ace ha
  · refine ⟨(h a ha).ne, (h a ha).lower, by simp, fun res hres => ?_⟩
    rcases List.mem_append.1 hres with hres | hres
    · exact (h a ha).hrefs res hres
    · rw [List.mem_singleton.1 hres]
      exact ⟨he.href, he.wildcard⟩
  · refine ⟨hne, hlower, by simp, fun res hres => ?_⟩
    rw [List.mem_singleton.1 hres]
    exact ⟨he.href, he.wildcard⟩

end Put

/-! ## The operations -/

section Operations

variable {P : DevicePlatform} {st : SecState} {device : Nat}

theorem newAceid_eq {aceid : Int} (h : aceid ≠ -1) : newAceid P.toPlatform st aceid device = aceid := if_neg h

theorem newAceid_new : newAceid P.toPlatform st (-1) device ∉ (st.aclist device).subjects.map (·.aceid) := by
  rw [newAceid, if_pos rfl]
  exact P.newId_notMem _ _

theorem newAceid_nonneg : 0 ≤ newAceid P.toPlatform st (-1) device := by
  rw [newAceid, if_pos rfl]
  exact P.newId_nonneg _ _

theorem AclOk.getRes (h : AclOk P (st.aclist device).subjects) {subject : OcAceSubject} {aceid : Int} {e : ResEntry}
    (hp : Placed subject aceid permission (st.aclist device).subjects)
    (hlower : -2 ^ 31 ≤ aceid) (he : CoreUrisOk P → EntryOk e) :
    AclOk P ((ocSecAceGetRes P.toPlatform st subject aceid permission e device).aclist device).subjects ∧
    Placed subject aceid permission
      ((ocSecAceGetRes P.toPlatform st subject aceid permission e device).aclist device).subjects := by
  rw [ocSecAceGetRes_aclist]
  refine ⟨⟨putEntry_ids hp ?_ h.aceids ?_, fun hP => ?_⟩, putEntry_placed e newAceid_eq⟩
  · by_cases hid : aceid = -1
    · exact .inr (hid ▸ newAceid_new)
    · exact .inl (newAceid_eq hid)
  · rintro rfl
    have := @newAceid_nonneg P st device
    omega
  · by_cases hid : aceid = -1
    · subst hid
      have hnonneg := @newAceid_nonneg P st device
      exact putEntry_aces (h.aces hP) (he hP) (by omega) (by omega)
    · rw [newAceid_eq hid]
      exact putEntry_aces (h.aces hP) (he hP) hid hlower

/-- What the decoder makes of one item: the id is an `int`, and the entries are ones that can be written. -/
structure PayloadOk (d : AcePayload) : Prop where
  lower : -2 ^ 31 ≤ d.aceid
  entries : ∀ e ∈ d.resources, EntryOk e

theorem decodeResKey_ok {e : ResEntry} (h : 0 ∉ e.toRes.href ∧ e.wildcard ≠ .minusOne) (r : OcRep) :
    0 ∉ (decodeResKey e r).toRes.href ∧ (decodeResKey e r).wildcard ≠ .minusOne := by
  unfold decodeResKey
  split
  · split
    · refine ⟨?_, h.2⟩
      exact cstr_eq_self_iff.1 (cstr_cstr _)
    · split
      · refine ⟨h.1, ?_⟩
        simp only
        split
        · decide
        · split
          · decide
          · split
            · decide
            · exact h.2
      · exact h
  · exact h

theorem foldl_decodeResKey_ok : ∀ (l : List OcRep) {e : ResEntry}, 0 ∉ e.toRes.href ∧ e.wildcard ≠ .minusOne →
    0 ∉ (l.foldl decodeResKey e).toRes.href ∧ (l.foldl decodeResKey e).wildcard ≠ .minusOne
  | [], _, h => h
  | r :: l, _, h => foldl_decodeResKey_ok l (decodeResKey_ok h r)

theorem le_castInt (v : Int) : -2 ^ 31 ≤ castInt v := by
  unfold castInt
  have h := Int.le_bmod (x := v) (m := 2 ^ 32) (by decide)
  omega

theorem decodeAceKey_ok {d : AcePayload} (h : PayloadOk d) (r : OcRep) : PayloadOk (decodeAceKey d r) := by
  unfold decodeAceKey
  split
  · split
    · exact ⟨h.lower, h.entries⟩
    · split
      · exact ⟨le_castInt _, h.entries⟩
      · exact h
  · split
    · refine ⟨h.lower, fun e he => ?_⟩
      obtain ⟨item, -, rfl⟩ := List.mem_map.1 he
      obtain ⟨hhref, hwild⟩ := foldl_decodeResKey_ok item (e := ⟨none, .noWc⟩) ⟨List.not_mem_nil, by decide⟩
      exact ⟨hhref, fun _ => hwild⟩
    · exact h
  · exact ⟨h.lower, h.entries⟩
  · exact h

theorem decodeAce_ok (item : List OcRep) : PayloadOk (decodeAce item) := by
  have hfold : ∀ (l : List OcRep) (d : AcePayload), PayloadOk d → PayloadOk (l.foldl decodeAceKey d) := by
    intro l
    induction l with
    | nil => exact fun d h => h
    | cons r l ih => exact fun d h => ih _ (decodeAceKey_ok h r)
  exact hfold item _ ⟨by decide, fun e he => absurd he List.not_mem_nil⟩

theorem AclOk.addEntries (d : AcePayload) (hd : -2 ^ 31 ≤ d.aceid) :
    ∀ (l : List ResEntry) {st : SecState}, AclOk P (st.aclist device).subjects →
      Placed d.subject d.aceid d.permission (st.aclist device).subjects → (CoreUrisOk P → ∀ e ∈ l, EntryOk e) →
      AclOk P ((addEntries P.toPlatform device d l st).aclist device).subjects
  | [], _, h, _, _ => h
  | e :: l, _, h, hp, he => by
    obtain ⟨hok, hplaced⟩ := h.getRes hp hd fun hP => he hP e List.mem_cons_self
    exact AclOk.addEntries d hd l hok hplaced fun hP x hx => he hP x (List.mem_cons_of_mem e hx)

theorem AclOk.provisionAce (h : AclOk P (st.aclist device).subjects) (item : List OcRep) :
    AclOk P ((provisionAce P.toPlatform device st item).aclist device).subjects := by
  have hd := decodeAce_ok item
  unfold SmartGarage.provisionAce
  simp only
  split
  · refine AclOk.addEntries _ hd.lower _ ?_ (.inr (.inl ?_)) fun _ => hd.entries
    · rw [ocAclRemoveAce, setAcl_aclist]
      exact h.sublist List.eraseP_sublist
    · rw [ocAclRemoveAce, setAcl_aclist]
      intro hmem
      obtain ⟨ace, hace, hid⟩ := List.mem_map.1 hmem
      exact Search.key_ne_of_mem_eraseP h.aceids hace hid
  · next hnot =>
    refine AclOk.addEntries _ hd.lower _ h ?_ fun _ => hd.entries
    by_cases hid : (decodeAce item).aceid = -1
    · exact .inl hid
    · refine .inr (.inl fun hmem => hnot ⟨hid, ?_⟩)
      obtain ⟨ace, hace, heq⟩ := List.mem_map.1 hmem
      simp only [uniqueAceid, Bool.not_eq_false', List.any_eq_true, beq_iff_eq]
      exact ⟨ace, hace, heq⟩

theorem AclOk.decodeProperty (h : AclOk P (st.aclist device).subjects) (r : OcRep) :
    AclOk P ((decodeAclProperty P.toPlatform device st r).aclist device).subjects := by
  have hitems : ∀ (items : List (List OcRep)) {st : SecState}, AclOk P (st.aclist device).subjects →
      AclOk P ((items.foldl (SmartGarage.provisionAce P.toPlatform device) st).aclist device).subjects := by
    intro items
    induction items with
    | nil => exact fun h => h
    | cons item items ih => exact fun h => ih (h.provisionAce item)
  unfold decodeAclProperty
  split
  · split
    · rw [setAcl_aclist]
      exact h
    · exact h
  · exact hitems _ h
  · exact h

theorem AclOk.decode (h : AclOk P (st.aclist device).subjects) (rep : List OcRep) (fromStorage : Bool) :
    AclOk P ((ocSecDecodeAcl P.toPlatform st rep fromStorage device).2.aclist device).subjects := by
  have hrep : ∀ (rep : List OcRep) {st : SecState}, AclOk P (st.aclist device).subjects →
      AclOk P ((rep.foldl (decodeAclProperty P.toPlatform device) st).aclist device).subjects := by
    intro rep
    induction rep with
    | nil => exact fun h => h
    | cons r rep ih => exact fun h => ih (h.decodeProperty r)
  unfold ocSecDecodeAcl
  split
  · exact hrep rep h
  · exact h

theorem AclOk.removeAce (h : AclOk P (st.aclist device).subjects) (aceid : Int) :
    AclOk P ((ocAclRemoveAce st aceid device).aclist device).subjects := by
  rw [ocAclRemoveAce, setAcl_aclist]
  exact h.sublist List.eraseP_sublist

theorem AclOk.delete (h : AclOk P (st.aclist device).subjects) (aceid : Option Int) :
    AclOk P ((deleteAcl st aceid device).2.aclist device).subjects := by
  unfold deleteAcl
  split
  · exact h
  · split
    · split
      · exact h.removeAce _
      · exact h
    · rw [ocSecClearAcl, setAcl_aclist]
      exact .nil P

/-! ## The default list -/

/-- The ACEs of the default list: `anon-clear` with the id 1 to read, and with the id 2 to provision. -/
def DefaultAces (l : List OcSecAce) : Prop :=
  ∀ ace ∈ l, ace.subject = .conn .anonClear ∧ (ace.aceid = 1 ∧ ace.permission = 2 ∨ ace.aceid = 2 ∧ ace.permission = 14)

theorem DefaultAces.placed {l : List OcSecAce} (h : DefaultAces l) {aceid : Int}
    (hid : aceid = 1 ∧ permission = 2 ∨ aceid = 2 ∧ permission = 14) :
    Placed (.conn .anonClear) aceid permission l := by
  by_cases hmem : aceid ∈ l.map (·.aceid)
  · obtain ⟨ace, hace, rfl⟩ := List.mem_map.1 hmem
    obtain ⟨hsubject, hdefault⟩ := h ace hace
    refine .inr (.inr ⟨ace, hace, ?_⟩)
    have hperm : ace.permission = permission := by
      rcases hid with ⟨h₁, rfl⟩ | ⟨h₁, rfl⟩ <;> rcases hdefault with ⟨h₂, h₃⟩ | ⟨h₂, h₃⟩
      · exact h₃
      · omega
      · omega
      · exact h₃
    simp [aceMatches, hperm, hsubject, subjectMatches_self]
  · exact .inr (.inl hmem)

theorem DefaultAces.getRes (h : DefaultAces (st.aclist device).subjects) {aceid : Int}
    (hid : aceid = 1 ∧ permission = 2 ∨ aceid = 2 ∧ permission = 14) (e : ResEntry) :
    DefaultAces
      ((ocSecAceGetRes P.toPlatform st (.conn .anonClear) aceid permission e device).aclist device).subjects := by
  rw [ocSecAceGetRes_aclist]
  have hne : aceid ≠ -1 := by omega
  intro ace hace
  rcases mem_putEntry hace with ⟨a, ha, rfl | rfl⟩ | ⟨-, rfl⟩
  · exact h ace ha
  · exact h a ha
  · refine ⟨rfl, ?_⟩
    rw [newAceid_eq hne]
    exact hid

/-- One of the loops over URIs of `oc_sec_acl_default`. -/
def addDefault (P : DevicePlatform) (device : Nat) (aceid : Int) (permission : BitVec 16) (wildcard : OcAceWildcard)
    (uris : List OcString) (st : SecState) : SecState :=
  uris.foldl (fun st uri =>
    ocSecAceGetRes P.toPlatform st (.conn .anonClear) aceid permission ⟨some uri, wildcard⟩ device) st

theorem ocSecAclDefault_subjects (P : DevicePlatform) (st : SecState) (device : Nat) :
    ((ocSecAclDefault P st device).aclist device).subjects =
      ((addDefault P device 1 2 .noWc [P.deviceUri] (addDefault P device 2 14 .minusOne securityUris
        (addDefault P device 1 2 .noWc P.coreUris (ocSecClearAcl st device)))).aclist device).subjects := by
  simp only [ocSecAclDefault, setAcl_aclist, addDefault, List.foldl_cons, List.foldl_nil]

theorem AclOk.addDefault {aceid : Int}
    (hid : aceid = 1 ∧ permission = 2 ∨ aceid = 2 ∧ permission = 14) (wildcard : OcAceWildcard) :
    ∀ (uris : List OcString) {st : SecState}, AclOk P (st.aclist device).subjects →
      DefaultAces (st.aclist device).subjects →
      (CoreUrisOk P → ∀ uri ∈ uris, 0 ∉ uri ∧ (uri = [] → wildcard ≠ .minusOne)) →
      AclOk P ((addDefault P device aceid permission wildcard uris st).aclist device).subjects ∧
      DefaultAces ((addDefault P device aceid permission wildcard uris st).aclist device).subjects
  | [], _, h, hdef, _ => ⟨h, hdef⟩
  | uri :: uris, _, h, hdef, huris => by
    have hok := (h.getRes (e := ⟨some uri, wildcard⟩) (hdef.placed hid) (by omega) fun hP =>
      ⟨(huris hP uri List.mem_cons_self).1, (huris hP uri List.mem_cons_self).2⟩).1
    exact AclOk.addDefault hid wildcard uris hok (hdef.getRes hid _) fun hP x hx =>
      huris hP x (List.mem_cons_of_mem uri hx)

theorem securityUris_ok : ∀ uri ∈ securityUris, 0 ∉ uri ∧ uri ≠ [] := by
  decide

theorem AclOk.default (st : SecState) : AclOk P ((ocSecAclDefault P st device).aclist device).subjects := by
  have hread : (1 : Int) = 1 ∧ (2 : BitVec 16) = 2 ∨ (1 : Int) = 2 ∧ (2 : BitVec 16) = 14 := .inl ⟨rfl, rfl⟩
  have hprovision : (2 : Int) = 1 ∧ (14 : BitVec 16) = 2 ∨ (2 : Int) = 2 ∧ (14 : BitVec 16) = 14 := .inr ⟨rfl, rfl⟩
  have hclear : ((ocSecClearAcl st device).aclist device).subjects = [] := by rw [ocSecClearAcl, setAcl_aclist]
  have hempty : AclOk P ((ocSecClearAcl st device).aclist device).subjects := by
    rw [hclear]
    exact .nil P
  have hnone : DefaultAces ((ocSecClearAcl st device).aclist device).subjects := by
    rw [hclear]
    exact fun ace h => absurd h List.not_mem_nil
  have hnoWc : ∀ uri : OcString, uri = [] → OcAceWildcard.noWc ≠ .minusOne := fun _ _ => by decide
  obtain ⟨h₁, d₁⟩ := AclOk.addDefault hread .noWc P.coreUris hempty hnone
    fun hP uri huri => ⟨hP uri (List.mem_cons_of_mem _ huri), hnoWc uri⟩
  obtain ⟨h₂, d₂⟩ := AclOk.addDefault hprovision .minusOne securityUris h₁ d₁
    fun _ uri huri => ⟨(securityUris_ok uri huri).1, fun h => absurd h (securityUris_ok uri huri).2⟩
  obtain ⟨h₃, -⟩ := AclOk.addDefault hread .noWc [P.deviceUri] h₂ d₂
    fun hP uri huri => ⟨hP uri (by rw [List.mem_singleton.1 huri]; exact List.mem_cons_self), hnoWc uri⟩
  rw [ocSecAclDefault_subjects]
  exact h₃

end Operations

/-! ## Reachable lists -/

/-- `oc_sec_acl_add_created_resource_ace` -/
def ocSecAclAddCreatedResourceAce (P : Platform) (st : SecState) (href : OcString) (client : OcEndpoint) (device : Nat)
    (collection : Bool) : Bool × SecState :=
  match ocTlsGetPeer st client with
  | none => (false, st)
  | some peer =>
    let perm := permRetrieve ||| permDelete ||| permUpdate ||| if collection then permCreate else 0
    (true, ocSecAceGetRes P st (.uuid peer.uuid) (-1) perm ⟨some (cstr href), .noWc⟩ device)

/-- The states whose ACL has been built by the operations on ACEs, with anything in between that leaves it alone. The
payloads that are decoded are of a kind. -/
inductive AclReachedBy (payload : List OcRep → Prop) (P : DevicePlatform) (device : Nat) : SecState → Prop
  | empty (st : SecState) : (st.aclist device).subjects = [] → AclReachedBy payload P device st
  | default {st : SecState} : AclReachedBy payload P device st → AclReachedBy payload P device (ocSecAclDefault P st device)
  | decode {st : SecState} (rep : List OcRep) (fromStorage : Bool) : payload rep → AclReachedBy payload P device st →
      AclReachedBy payload P device (ocSecDecodeAcl P.toPlatform st rep fromStorage device).2
  | delete {st : SecState} (aceid : Option Int) : AclReachedBy payload P device st →
      AclReachedBy payload P device (deleteAcl st aceid device).2
  | created {st : SecState} (href : OcString) (client : OcEndpoint) (collection : Bool) :
      AclReachedBy payload P device st →
      AclReachedBy payload P device (ocSecAclAddCreatedResourceAce P.toPlatform st href client device collection).2
  | other {st st' : SecState} : AclReachedBy payload P device st → st'.aclist device = st.aclist device →
      AclReachedBy payload P device st'

/-- The states whose ACL has been built of any payloads. -/
abbrev AclReached (P : DevicePlatform) (device : Nat) : SecState → Prop := AclReachedBy (fun _ => True) P device

theorem AclReachedBy.ok {payload : List OcRep → Prop} {P : DevicePlatform} {device : Nat} {st : SecState}
    (h : AclReachedBy payload P device st) :
    AclOk P (st.aclist device).subjects := by
  induction h with
  | empty st hnil =>
    rw [hnil]
    exact .nil P
  | default _ _ => exact .default _
  | decode rep fromStorage _ _ ih => exact ih.decode rep fromStorage
  | delete aceid _ ih => exact ih.delete aceid
  | created href client collection _ ih =>
    unfold ocSecAclAddCreatedResourceAce
    split
    · exact ih
    · have hentry : EntryOk ⟨some (cstr href), .noWc⟩ :=
        ⟨cstr_eq_self_iff.1 (cstr_cstr href), fun _ h => nomatch h⟩
      exact (ih.getRes (.inl rfl) (by decide) fun _ => hentry).1
  | other _ hsame ih =>
    rw [hsame]
    exact ih

end SmartGarage
