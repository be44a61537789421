/-
Which links a publish response moves, and how many links a resource has over a run of the directory.

The handler takes for each link of a response the first link in `rd_publish_resources` whose URI is not a longer one
that begins with the href. Its URI may be any other; that the right links are moved hangs on the order of both lists.
-/
import SmartGarage.Api.References
import SmartGarage.Cloud.Rd
import Mathlib.Data.List.Perm.Basic

namespace SmartGarage

/-! ## Lists -/

section Lists

variable {α : Type} {p : α → Bool} {a : α}

theorem find?_eraseP : ∀ {l : List α}, l.find? p = some a →
    ∃ l₁ l₂, l = l₁ ++ a :: l₂ ∧ l.eraseP p = l₁ ++ l₂ := by
  intro l h
  obtain ⟨hp, l₁, l₂, rfl, hl₁⟩ := List.find?_eq_some_iff_append.1 h
  refine ⟨l₁, l₂, rfl, ?_⟩
  rw [List.eraseP_append_right _ fun b hb => by simpa using hl₁ b hb, List.eraseP_cons_of_pos hp]

theorem rdLinkAdd_eq (head : List RdLink) (link : RdLink) : rdLinkAdd head link = head ++ [link] := by
  cases head <;> rfl

theorem rdLinkAdd_foldl : ∀ (links head : List RdLink), links.foldl rdLinkAdd head = head ++ links
  | [], head => (List.append_nil head).symm
  | l :: links, head => by
    rw [List.foldl_cons, rdLinkAdd_foldl links, rdLinkAdd_eq, List.append_assoc]
    rfl

end Lists

/-! ## One link of a response -/

section Publish

variable {rd : CloudRd} {href : OcString} {ins : Int}

theorem publishLink_none (h : rdLinkFindByHref rd.publishResources href = none) : publishLink rd (href, ins) = rd := by
  rw [publishLink]
  dsimp only
  rw [h]

end Publish

/-! ## All links of a response -/

section Response

/-- The hrefs of a response. -/
def hrefs (entries : List (OcString × Int)) : List OcString := entries.map Prod.fst

/-- Just the links that the response names have been moved, each with an instance id given for its own href, and all
other links are where they were. -/
def MovesNamed (entries : List (OcString × Int)) (before after : CloudRd) : Prop :=
  after.publishResources = before.publishResources.filter (fun l => l.uri ∉ hrefs entries) ∧
    (∃ moved, after.publishedResources = before.publishedResources ++ moved ∧
      (moved.map RdLink.resource).Perm
        ((before.publishResources.filter fun l => l.uri ∈ hrefs entries).map RdLink.resource) ∧
      ∀ l ∈ moved, (l.uri, l.ins) ∈ entries) ∧
    after.deleteResources = before.deleteResources

/-- For each link of the response in turn: the first link that is left, of those whose URI is not a longer one that
begins with the href, has the href as URI. -/
def HitsInTurn : List RdLink → List (OcString × Int) → Prop
  | _, [] => True
  | links, (href, _) :: entries =>
    (∀ l, links.find? (fun l => !skipsHref href l) = some l → l.uri = href) ∧
      HitsInTurn (links.eraseP fun l => !skipsHref href l) entries

/-- The response names every URI as often as there are links with it. -/
def NamesEach (links : List RdLink) (entries : List (OcString × Int)) : Prop :=
  ∀ href ∈ hrefs entries, links.countP (fun l => l.uri = href) ≤ entries.countP fun e => e.1 = href

instance (links : List RdLink) (entries : List (OcString × Int)) : Decidable (NamesEach links entries) :=
  inferInstanceAs (Decidable (∀ href ∈ hrefs entries, _ ≤ _))

/-- The links that are left behind all links of a response. -/
def leftLinks (links : List RdLink) (entries : List (OcString × Int)) : List RdLink :=
  entries.foldl (fun links e => links.eraseP fun l => !skipsHref e.1 l) links

/-- The links that have been taken out, as they are published. -/
def movedLinks : List RdLink → List (OcString × Int) → List RdLink
  | _, [] => []
  | links, (href, ins) :: entries =>
    ((rdLinkFindByHref links href).map fun l => { l with ins := ins }).toList ++
      movedLinks (links.eraseP fun l => !skipsHref href l) entries

theorem eraseP_none {links : List RdLink} {href : OcString} (h : rdLinkFindByHref links href = none) :
    links.eraseP (fun l => !skipsHref href l) = links :=
  List.eraseP_of_forall_not fun l hl => List.find?_eq_none.1 h l hl

theorem publishLinks_eq : ∀ (entries : List (OcString × Int)) (rd : CloudRd), entries.foldl publishLink rd =
    ⟨leftLinks rd.publishResources entries, rd.publishedResources ++ movedLinks rd.publishResources entries,
      rd.deleteResources⟩
  | [], rd => by
    rw [movedLinks, List.append_nil]
    rfl
  | (href, ins) :: entries, rd => by
    rw [List.foldl_cons, publishLinks_eq entries, movedLinks, leftLinks, leftLinks, List.foldl_cons]
    cases hfind : rdLinkFindByHref rd.publishResources href with
    | none =>
      rw [publishLink_none hfind, eraseP_none hfind]
      rfl
    | some l =>
      rw [publishLink]
      dsimp only
      rw [hfind]
      dsimp only
      rw [rdLinkAdd_eq, rdLinkRemove, List.append_assoc]
      rfl

theorem movedLinks_perm : ∀ (entries : List (OcString × Int)) (links : List RdLink),
    ((movedLinks links entries).map RdLink.resource ++ (leftLinks links entries).map RdLink.resource).Perm
      (links.map RdLink.resource)
  | [], links => .refl _
  | (href, ins) :: entries, links => by
    have ih := movedLinks_perm entries (links.eraseP fun l => !skipsHref href l)
    rw [movedLinks, leftLinks, List.foldl_cons]
    cases hfind : rdLinkFindByHref links href with
    | none =>
      rw [eraseP_none hfind] at ih ⊢
      exact ih
    | some l =>
      obtain ⟨l₁, l₂, hlist, herase⟩ := find?_eraseP hfind
      rw [herase] at ih ⊢
      rw [hlist]
      refine (List.Perm.cons l.resource ih).trans ?_
      rw [List.map_append, List.map_append, List.map_cons]
      exact List.perm_middle.symm

section Hits

variable {entries : List (OcString × Int)} {links : List RdLink}

theorem movedLinks_named : ∀ {entries : List (OcString × Int)} {links : List RdLink}, HitsInTurn links entries →
    ∀ l ∈ movedLinks links entries, (l.uri, l.ins) ∈ entries
  | (href, ins) :: entries, links, h, l, hl => by
    rw [movedLinks, List.mem_append, Option.mem_toList, Option.map_eq_some_iff] at hl
    obtain ⟨l', hfind, rfl⟩ | hl := hl
    · have huri := h.1 l' hfind
      exact List.mem_cons.2 (.inl (Prod.ext huri rfl))
    · exact List.mem_cons_of_mem _ (movedLinks_named h.2 l hl)

theorem hitsInTurn_of_named {all : List (OcString × Int)} (hnodup : (all.map Prod.snd).Nodup) :
    ∀ {entries : List (OcString × Int)} {links : List RdLink}, (∀ e ∈ entries, e ∈ all) →
      (∀ l ∈ movedLinks links entries, (l.uri, l.ins) ∈ all) → HitsInTurn links entries
  | [], _, _, _ => trivial
  | (href, ins) :: entries, links, hsub, hnamed => by
    rw [movedLinks] at hnamed
    refine ⟨fun l hfind => ?_, hitsInTurn_of_named hnodup (fun e he => hsub e (List.mem_cons_of_mem _ he)) fun l hl =>
      hnamed l (List.mem_append_right _ hl)⟩
    have hl := hnamed { l with ins := ins } (List.mem_append_left _ (Option.mem_toList.2 (Option.mem_map_of_mem _ hfind)))
    have heq := List.inj_on_of_nodup_map hnodup hl (hsub _ List.mem_cons_self) rfl
    exact congrArg Prod.fst heq

theorem leftLinks_count (href : OcString) : ∀ {entries : List (OcString × Int)} {links : List RdLink},
    HitsInTurn links entries → (leftLinks links entries).countP (fun l => l.uri = href) =
      links.countP (fun l => l.uri = href) - entries.countP fun e => e.1 = href
  | [], _, _ => rfl
  | (href', ins) :: entries, links, h => by
    have ih := leftLinks_count href h.2
    rw [leftLinks, List.foldl_cons]
    refine ih.trans ?_
    rw [List.countP_cons]
    cases hfind : rdLinkFindByHref links href' with
    | none =>
      rw [eraseP_none hfind]
      by_cases heq : href' = href
      · have hzero : links.countP (fun l => l.uri = href) = 0 := List.countP_eq_zero.2 fun l hl huri => by
          have hnot := List.find?_eq_none.1 hfind l hl
          rw [skipsHref, of_decide_eq_true huri, heq] at hnot
          simp at hnot
        rw [hzero, Nat.zero_sub, Nat.zero_sub]
      · rw [if_neg (by simpa using heq), Nat.add_zero]
    | some l =>
      have huri : l.uri = href' := h.1 l hfind
      obtain ⟨l₁, l₂, hlist, herase⟩ := find?_eraseP hfind
      rw [herase, hlist, List.countP_append, List.countP_append, List.countP_cons, huri]
      by_cases heq : href' = href
      · rw [if_pos (by simpa using heq)]
        omega
      · rw [if_neg (by simpa using heq)]
        omega

theorem leftLinks_filter {names : List OcString} : ∀ {entries : List (OcString × Int)} {links : List RdLink},
    HitsInTurn links entries → (∀ href ∈ hrefs entries, href ∈ names) →
      (leftLinks links entries).filter (fun l => l.uri ∉ names) = links.filter fun l => l.uri ∉ names
  | [], _, _, _ => rfl
  | (href, ins) :: entries, links, h, hnames => by
    obtain ⟨hname, hnames⟩ := List.forall_mem_cons.1 hnames
    rw [leftLinks, List.foldl_cons]
    refine (leftLinks_filter h.2 hnames).trans ?_
    cases hfind : rdLinkFindByHref links href with
    | none => rw [eraseP_none hfind]
    | some l =>
      have huri : l.uri = href := h.1 l hfind
      obtain ⟨l₁, l₂, hlist, herase⟩ := find?_eraseP hfind
      rw [herase, hlist, List.filter_append, List.filter_append, List.filter_cons_of_neg (by simpa [huri] using hname)]

theorem movesNamed_of_hits {rd : CloudRd} (hhits : HitsInTurn rd.publishResources entries)
    (heach : NamesEach rd.publishResources entries) : MovesNamed entries rd (entries.foldl publishLink rd) := by
  rw [publishLinks_eq]
  have hleft : leftLinks rd.publishResources entries =
      rd.publishResources.filter fun l => l.uri ∉ hrefs entries := by
    rw [← leftLinks_filter hhits fun _ h => h]
    refine (List.filter_eq_self.2 fun l hl => ?_).symm
    rw [decide_eq_true_eq]
    intro hname
    have hcount := leftLinks_count l.uri hhits
    have hle := heach l.uri hname
    have hzero : (leftLinks rd.publishResources entries).countP (fun l' => l'.uri = l.uri) = 0 := by omega
    exact List.countP_eq_zero.1 hzero l hl (decide_eq_true rfl)
  refine ⟨hleft, ⟨_, rfl, ?_, movedLinks_named hhits⟩, rfl⟩
  have hperm := movedLinks_perm entries rd.publishResources
  rw [hleft] at hperm
  have hsplit : (rd.publishResources.filter (fun l => l.uri ∈ hrefs entries) ++
      rd.publishResources.filter fun l => l.uri ∉ hrefs entries).Perm rd.publishResources := by
    have h := List.filter_append_perm (fun l : RdLink => decide (l.uri ∈ hrefs entries)) rd.publishResources
    simpa using h
  have hresources := hperm.trans (hsplit.map RdLink.resource).symm
  rw [List.map_append] at hresources
  exact (List.perm_append_right_iff _).1 hresources

theorem hits_of_movesNamed {rd : CloudRd} (hnodup : (entries.map Prod.snd).Nodup)
    (h : MovesNamed entries rd (entries.foldl publishLink rd)) :
    HitsInTurn rd.publishResources entries ∧ NamesEach rd.publishResources entries := by
  rw [publishLinks_eq] at h
  obtain ⟨hleft, ⟨moved, hpublished, -, hnamed⟩, -⟩ := h
  have hmoved : movedLinks rd.publishResources entries = moved := List.append_cancel_left hpublished
  have hhits := hitsInTurn_of_named hnodup (fun _ h => h) fun l hl => hnamed l (hmoved ▸ hl)
  refine ⟨hhits, fun href hname => ?_⟩
  have hcount := leftLinks_count href hhits
  have hzero : (leftLinks rd.publishResources entries).countP (fun l => l.uri = href) = 0 := by
    show List.countP _ (leftLinks rd.publishResources entries) = 0
    rw [show leftLinks rd.publishResources entries = _ from hleft]
    refine List.countP_eq_zero.2 fun l hl huri => ?_
    exact of_decide_eq_true (List.mem_filter.1 hl).2 (of_decide_eq_true huri ▸ hname)
  omega

end Hits

end Response

/-! ## The links as references -/

section References

open References

/-- The address of the resource of a link. -/
def RdLink.address (l : RdLink) : Option Nat := l.resource.map RdResource.address

/-- The lists as the references to resources have them. -/
def CloudRd.references (rd : CloudRd) (device : Nat) : CloudLinks where
  device := device
  publish := rd.publishResources.map RdLink.address
  published := rd.publishedResources.map RdLink.address
  delete := rd.deleteResources.map RdLink.address

/-- No other resource of the links is at the address of the resource. -/
def AloneAt (res : RdResource) (links : List RdLink) : Prop :=
  ∀ l ∈ links, l.address = some res.address → l.resource = some res

variable {res : RdResource} {rd : CloudRd} {s : Registry} {r : References.Resource}

theorem rdLinkFind_address {links : List RdLink} (h : AloneAt res links) :
    (rdLinkFind links res).isSome = true ↔ some res.address ∈ links.map RdLink.address := by
  rw [rdLinkFind, List.find?_isSome, List.mem_map]
  refine exists_congr fun l => and_congr_right fun hl => ?_
  rw [decide_eq_true_eq]
  refine ⟨fun hres => ?_, h l hl⟩
  rw [RdLink.address, hres]
  rfl

theorem rdLinkRemove_address : ∀ {links : List RdLink}, AloneAt res links →
    (links.eraseP fun l => l.resource = some res).map RdLink.address = (links.map RdLink.address).erase (some res.address)
  | [], _ => rfl
  | l :: links, h => by
    rw [List.map_cons, List.eraseP_cons, List.erase_cons]
    by_cases hres : l.resource = some res
    · have haddress : l.address = some res.address := by
        rw [RdLink.address, hres]
        rfl
      simp [hres, haddress]
    · have haddress : ¬l.address = some res.address := fun heq => hres (h l List.mem_cons_self heq)
      simp [hres, haddress, rdLinkRemove_address fun x hx => h x (List.mem_cons_of_mem l hx)]

theorem Registry.context?_changeContext {device : Nat} {ctx : CloudLinks} {f : CloudLinks → CloudLinks}
    (hctx : s.context? device = some ctx) (hf : (f ctx).device = ctx.device) :
    (s.changeContext device f).context? device = some (f ctx) := by
  have hdevice : ctx.device = device := by simpa using List.find?_some hctx
  exact Search.find?_modify hctx (decide_eq_true (hf.trans hdevice))

theorem Registry.context?_deleteFound (list : List (Option Nat)) (a device : Nat) :
    (s.deleteFound list a).context? device = s.context? device := by
  unfold Registry.deleteFound
  split <;> rfl

/-- Both models of `oc_cloud_add_resource` make the same links. -/
theorem ocCloudAddResource_references (random : UInt32) (hr : s.at? res.address = some r)
    (hctx : s.context? r.device = some (rd.references r.device)) (hpublish : AloneAt res rd.publishResources)
    (hpublished : AloneAt res rd.publishedResources) (hdelete : AloneAt res rd.deleteResources) :
    (s.ocCloudAddResource res.address).context? r.device =
      some ((ocCloudAddResource rd res random).references r.device) := by
  have hpublish : _ ↔ some res.address ∈ (rd.references r.device).publish := rdLinkFind_address hpublish
  have hpublished : _ ↔ some res.address ∈ (rd.references r.device).published := rdLinkFind_address hpublished
  unfold Registry.ocCloudAddResource ocCloudAddResource
  rw [hr]
  dsimp only
  rw [hctx]
  dsimp only
  by_cases hadded : (rdLinkFind rd.publishResources res).isSome = true
  · rw [if_pos (.inl (hpublish.1 hadded)), if_pos hadded, hctx]
  · by_cases hdone : (rdLinkFind rd.publishedResources res).isSome = true
    · rw [if_pos (.inr (hpublished.1 hdone)), if_neg hadded, if_pos hdone, hctx]
    · have hctx' : ((s.deleteFound (rd.references r.device).delete res.address).countUp res.address).context? r.device =
          some (rd.references r.device) := (Registry.context?_deleteFound _ _ _).trans hctx
      rw [if_neg (not_or.2 ⟨mt hpublish.2 hadded, mt hpublished.2 hdone⟩), if_neg hadded, if_neg hdone,
        Registry.context?_changeContext hctx' rfl]
      simp [CloudRd.references, rdLinkRemoveByResource, rdLinkRemove, rdLinkRemove_address hdelete, rdLinkAdd_eq,
        RdLink.address]

/-- Both models of `oc_cloud_delete_resource` leave the same links. -/
theorem ocCloudDeleteResource_references (hr : s.at? res.address = some r)
    (hctx : s.context? r.device = some (rd.references r.device)) (hpublish : AloneAt res rd.publishResources)
    (hpublished : AloneAt res rd.publishedResources) :
    (s.ocCloudDeleteResource res.address).context? r.device =
      some ((ocCloudDeleteResource rd res).references r.device) := by
  unfold Registry.ocCloudDeleteResource
  rw [hr]
  dsimp only
  rw [hctx]
  dsimp only
  rw [Registry.context?_changeContext ((Registry.context?_deleteFound _ _ _).trans hctx) rfl]
  have hfound : _ ↔ some res.address ∈ (rd.references r.device).published := rdLinkFind_address hpublished
  have hdelete : (if some res.address ∈ (rd.references r.device).published then
      (rd.references r.device).delete ++ [none] else (rd.references r.device).delete) =
      ((ocCloudDeleteResource rd res).references r.device).delete := by
    unfold ocCloudDeleteResource rdLinkRemoveByResource
    cases hfind : rdLinkFind rd.publishedResources res with
    | none => exact if_neg fun hmem => by simpa [hfind] using hfound.2 hmem
    | some l =>
      rw [if_pos (hfound.1 (by rw [hfind]; rfl))]
      simp [CloudRd.references, rdLinkAdd_eq, RdLink.address]
  rw [hdelete]
  simp [CloudRd.references, ocCloudDeleteResource, rdLinkRemoveByResource, rdLinkRemove, rdLinkRemove_address hpublish,
    rdLinkRemove_address hpublished]

end References

/-! ## Runs of the directory -/

/-- What the directory meets. -/
inductive RdEvent
  | add (res : RdResource) (random : UInt32)
  | delete (res : RdResource)
  | republish
  | published (status : UInt8) (response : CloudResponse)
  | deleted (status : UInt8) (response : CloudResponse)

/-- A step of the directory. -/
def rdStep (rd : CloudRd) : RdEvent → CloudRd
  | .add res random => ocCloudAddResource rd res random
  | .delete res => ocCloudDeleteResource rd res
  | .republish => movePublishedToPublishResources rd
  | .published status response => publishResourcesHandler status response rd
  | .deleted status response => deleteResourcesHandler status response rd

/-- The directory of a new context. -/
def CloudRd.empty : CloudRd := ⟨[], [], []⟩

/-- The resources that have been added and not deleted since. -/
def addedStep (added : RdResource → Bool) : RdEvent → RdResource → Bool
  | .add res _ => Function.update added res true
  | .delete res => Function.update added res false
  | _ => added

/-- How many links of the first two lists belong to a resource. -/
def CloudRd.count (rd : CloudRd) (res : RdResource) : Nat :=
  (rd.publishResources ++ rd.publishedResources).countP fun l => l.resource = some res

/-- Every resource that has been added has one link, and no other resource has one. -/
def RdCounts (rd : CloudRd) (added : RdResource → Bool) : Prop := ∀ res, rd.count res = if added res then 1 else 0

section Runs

variable {rd : CloudRd} {added : RdResource → Bool}

theorem count_eq (rd : CloudRd) (res : RdResource) : rd.count res =
    rd.publishResources.countP (fun l => l.resource = some res) +
      rd.publishedResources.countP fun l => l.resource = some res := List.countP_append

theorem count_eraseP (head : List RdLink) (res res' : RdResource) :
    (head.eraseP fun l => l.resource = some res).countP (fun l => l.resource = some res') =
      head.countP (fun l => l.resource = some res') - if res = res' then 1 else 0 := by
  cases hfind : head.find? fun l => l.resource = some res with
  | none =>
    rw [List.eraseP_of_forall_not (List.find?_eq_none.1 hfind)]
    by_cases heq : res = res'
    · subst heq
      rw [List.countP_eq_zero.2 (List.find?_eq_none.1 hfind), Nat.zero_sub]
    · rw [if_neg heq, Nat.sub_zero]
  | some l =>
    have hl : l.resource = some res := by simpa using List.find?_some hfind
    obtain ⟨l₁, l₂, hlist, herase⟩ := find?_eraseP hfind
    rw [herase, hlist, List.countP_append, List.countP_append, List.countP_cons, hl]
    by_cases heq : res = res'
    · subst heq
      rw [if_pos rfl, if_pos (decide_eq_true rfl)]
      omega
    · rw [if_neg heq, if_neg (by simpa using heq)]
      omega

theorem rdLinkFind_isSome (head : List RdLink) (res : RdResource) :
    (rdLinkFind head res).isSome ↔ head.countP (fun l => l.resource = some res) ≠ 0 := by
  rw [rdLinkFind, List.find?_isSome, ← Nat.pos_iff_ne_zero, List.countP_pos_iff]

theorem ocCloudAddResource_counts (h : RdCounts rd added) (res : RdResource) (random : UInt32) :
    RdCounts (ocCloudAddResource rd res random) (Function.update added res true) := by
  have hres := h res
  rw [count_eq] at hres
  intro res'
  by_cases hadded : added res
  · -- the link that is there stays the only one
    have hsame : ocCloudAddResource rd res random = rd := by
      rw [if_pos hadded] at hres
      unfold ocCloudAddResource
      by_cases hpublish : (rdLinkFind rd.publishResources res).isSome
      · rw [if_pos hpublish]
      · rw [if_neg hpublish, if_pos ((rdLinkFind_isSome _ _).2 _)]
        rw [rdLinkFind_isSome, not_not] at hpublish
        omega
    rw [hsame, Function.update_apply, h res']
    by_cases heq : res' = res
    · rw [if_pos heq, heq, if_pos hadded, if_pos rfl]
    · rw [if_neg heq]
  · rw [if_neg hadded] at hres
    have hnew : ocCloudAddResource rd res random =
        { rd with
          deleteResources := (rdLinkRemoveByResource rd.deleteResources res).2
          publishResources := rd.publishResources ++ [⟨some res, random.toNat⟩] } := by
      have hnone : ∀ head : List RdLink, head.countP (fun l => l.resource = some res) = 0 →
          ¬(rdLinkFind head res).isSome := fun head hzero hsome => (rdLinkFind_isSome head res).1 hsome hzero
      unfold ocCloudAddResource
      rw [if_neg (hnone _ (by omega)), if_neg (hnone _ (by omega)), rdLinkAdd_eq]
    have hold := h res'
    rw [count_eq] at hold
    rw [hnew, count_eq, Function.update_apply]
    show List.countP _ (rd.publishResources ++ [_]) + List.countP _ rd.publishedResources = _
    rw [List.countP_append, List.countP_singleton]
    by_cases heq : res' = res
    · subst heq
      rw [if_pos rfl, if_pos rfl, if_pos (decide_eq_true rfl)]
      omega
    · rw [if_neg heq, if_neg (by simpa using Ne.symm heq)]
      omega

theorem ocCloudDeleteResource_counts (h : RdCounts rd added) (res : RdResource) :
    RdCounts (ocCloudDeleteResource rd res) (Function.update added res false) := by
  intro res'
  have hold := h res'
  rw [count_eq] at hold ⊢
  show List.countP _ (rd.publishResources.eraseP fun l => l.resource = some res) +
    List.countP _ (rd.publishedResources.eraseP fun l => l.resource = some res) = _
  rw [count_eraseP, count_eraseP, Function.update_apply]
  by_cases heq : res' = res
  · subst heq
    rw [if_pos rfl, if_pos rfl]
    have hle : (if added res' = true then 1 else 0) ≤ 1 := by split <;> omega
    simp only [Bool.false_eq_true, if_false]
    omega
  · rw [if_neg heq, if_neg (Ne.symm heq)]
    omega

theorem publishResourcesHandler_count (status : UInt8) (response : CloudResponse) (rd : CloudRd) (res : RdResource) :
    (publishResourcesHandler status response rd).count res = rd.count res := by
  unfold publishResourcesHandler
  split
  · rfl
  · split
    · rfl
    · have hresource : ∀ links : List RdLink, links.countP (fun l => l.resource = some res) =
          (links.map RdLink.resource).countP fun r => r = some res := fun links => by
        rw [List.countP_map]
        rfl
      have hperm := (movedLinks_perm (responseLinks response.payload) rd.publishResources).countP_eq fun r => r = some res
      rw [List.countP_append, ← hresource, ← hresource, ← hresource] at hperm
      rw [publishLinks_eq, count_eq, count_eq]
      show List.countP _ (leftLinks _ _) + List.countP _ (rd.publishedResources ++ movedLinks _ _) = _
      rw [List.countP_append]
      omega

theorem rdStep_counts (h : RdCounts rd added) (event : RdEvent) : RdCounts (rdStep rd event) (addedStep added event) := by
  cases event with
  | add res random => exact ocCloudAddResource_counts h res random
  | delete res => exact ocCloudDeleteResource_counts h res
  | republish =>
    intro res
    refine Eq.trans ?_ (h res)
    rw [rdStep, movePublishedToPublishResources, CloudRd.count, rdLinkAdd_foldl, List.append_nil]
    rfl
  | published status response =>
    intro res
    exact (publishResourcesHandler_count status response rd res).trans (h res)
  | deleted status response =>
    intro res
    refine Eq.trans ?_ (h res)
    show (deleteResourcesHandler status response rd).count res = _
    unfold deleteResourcesHandler
    split
    · rfl
    · split <;> rfl

theorem rdRun_counts : ∀ (events : List RdEvent) {rd : CloudRd} {added : RdResource → Bool}, RdCounts rd added →
    RdCounts (Runs.runFrom rdStep rd events) (events.foldl addedStep added)
  | [], _, _, h => h
  | event :: events, _, _, h => rdRun_counts events (rdStep_counts h event)

/-- A successful publish response moves the right links if, and where its instance ids differ only if, the link that
each search hits has the href it is searched with, and the response names each URI as often as there are links with it.
Over any run a resource has one link in the two lists together if it has been added and not deleted since, and else
none. -/
theorem rd_links_iff (rd : CloudRd) (status : UInt8) (response : CloudResponse)
    (hstatus : statusHas status ocCloudLoggedIn) (hcode : response.code = .status .changed) (events : List RdEvent)
    (res : RdResource) :
    (let entries := responseLinks response.payload
      let moves := MovesNamed entries rd (publishResourcesHandler status response rd)
      let hits := HitsInTurn rd.publishResources entries ∧ NamesEach rd.publishResources entries
      (hits → moves) ∧ ((entries.map Prod.snd).Nodup → moves → hits)) ∧
    (Runs.runFrom rdStep .empty events).count res =
      if events.foldl addedStep (fun _ => false) res then 1 else 0 := by
  constructor
  · have hhandler : publishResourcesHandler status response rd =
        (responseLinks response.payload).foldl publishLink rd := by
      unfold publishResourcesHandler
      rw [hstatus, hcode, if_neg (by decide), if_neg (by decide)]
    rw [hhandler]
    exact ⟨fun h => movesNamed_of_hits h.1 h.2, hits_of_movesNamed⟩
  · exact rdRun_counts events (fun res => rfl) res

/-- Two lights, and what the directory answers when it is asked to publish them. -/
def lightLink (address : Nat) (uri : String) : RdLink := ⟨some ⟨address, ascii uri⟩, 0⟩

/-- A link of a response. -/
def answeredLink (uri : String) (ins : Int) : List RepNode :=
  [.leaf (ascii "href") (.string (ascii uri)), .leaf (ascii "ins") (.int ins)]

/-- Two links, and the answer that names them in their order. -/
theorem rd_links_iff_one :
    let rd : CloudRd := ⟨[lightLink 1 "/a", lightLink 2 "/b"], [], []⟩
    let response : CloudResponse :=
      ⟨.status .changed, [.objectArray (ascii "links") [answeredLink "/a" 7, answeredLink "/b" 9] [] 2]⟩
    MovesNamed (responseLinks response.payload) rd (publishResourcesHandler ocCloudLoggedIn response rd) := by
  intro rd response
  have hanswer : responseLinks response.payload = [(ascii "/a", 7), (ascii "/b", 9)] := by decide
  refine (rd_links_iff rd ocCloudLoggedIn response (by decide) rfl [.add ⟨1, ascii "/a"⟩ 7, .delete ⟨1, ascii "/a"⟩]
    ⟨1, ascii "/a"⟩).1.1 ?_
  rw [hanswer]
  refine ⟨⟨fun l hl => ?_, fun l hl => ?_, trivial⟩, by decide⟩
  · have hfound : some (lightLink 1 "/a") = some l := Eq.trans (by decide) hl
    cases hfound
    rfl
  · have hfound : some (lightLink 2 "/b") = some l := Eq.trans (by decide) hl
    cases hfound
    rfl

/-- The answer names the second link first, and the first link is taken for it. -/
theorem publishResourcesHandler_swapped :
    let rd : CloudRd := ⟨[lightLink 1 "/a", lightLink 2 "/b"], [], []⟩
    let response : CloudResponse :=
      ⟨.status .changed, [.objectArray (ascii "links") [answeredLink "/b" 7, answeredLink "/a" 9] [] 2]⟩
    ¬MovesNamed (responseLinks response.payload) rd (publishResourcesHandler ocCloudLoggedIn response rd) := by
  intro rd response h
  obtain ⟨-, ⟨moved, hpublished, -, hnamed⟩, -⟩ := h
  have hmoved : moved = [⟨some ⟨1, ascii "/a"⟩, 7⟩, ⟨some ⟨2, ascii "/b"⟩, 9⟩] :=
    List.append_cancel_left (hpublished.symm.trans (by decide))
  have hwrong := hnamed ⟨some ⟨1, ascii "/a"⟩, 7⟩ (hmoved ▸ List.mem_cons_self)
  have hanswer : responseLinks response.payload = [(ascii "/b", 7), (ascii "/a", 9)] := by decide
  rw [hanswer] at hwrong
  exact absurd hwrong (by decide)

end Runs

end SmartGarage
