/-
References over every run: nothing refers to a resource that has been deleted, and `num_links` is the number of links,
as long as nothing refers to a resource when it is deleted, no more than 255 links are made for it, and no link that
the cloud has published is taken from it.
-/
import SmartGarage.Api.ReferenceSteps

namespace SmartGarage.References

open Runs

/-! ## Every run -/

/-- The condition of an action. -/
def Guard (s : Registry) : Action → Prop
  -- no link refers to the address, which may have been that of another resource
  | .newResource a _ _ | .newCollection a _ _ => s.at? a = none → some a ∉ s.fields
  | .deleteResource a => s.Plain a → s.Unreferenced a
  | .deleteCollection c => s.Collection c → s.Unreferenced c
  | .newLink l a => l ∉ s.links.map (·.id) → s.Exists a → s.numLinks a ≠ 255
  | .deleteLink l => l ∈ s.links.map (·.id) → ∀ r ∈ s.resources, l ∉ r.linkIds
  | .addLink c l => s.Plain c ∨ s.Collection c ∧ (∀ r ∈ s.resources, l ∉ r.linkIds) ∧
      ∃ link ∈ s.links, link.id = l ∧ ∀ a ∈ link.resource, s.Exists a
  | .removeLink c _ => s.Exists c
  | .delayNotification _ a => s.Exists a
  | .cloudAdd a => ∀ r ctx, s.at? a = some r → s.context? r.device = some ctx →
      some a ∉ ctx.publish → some a ∉ ctx.published → s.numLinks a ≠ 255
  | .cloudDelete a => ∀ r ctx, s.at? a = some r → s.context? r.device = some ctx → some a ∉ ctx.published
  | _ => True

section Runs

variable {s : Registry}

theorem exists_cases {c : Nat} (h : s.Exists c) : s.Plain c ∨ s.Collection c := by
  obtain ⟨r, hr⟩ := Option.isSome_iff_exists.1 (at?_isSome.2 h)
  by_cases hlinks : r.links = none
  · exact .inl ⟨r, hr, hlinks⟩
  · exact .inr ⟨r, hr, hlinks⟩

theorem Sound.deleteResource (h : Sound s) {a : Nat} (hunref : s.Plain a → s.Unreferenced a) :
    Sound (s.ocRiDeleteResource a) := by
  unfold Registry.ocRiDeleteResource
  split
  · rename_i hr
    exact h.free (hunref ⟨_, hr, rfl⟩)
  · exact h

theorem Sound.addLink (h : Sound s) {c l : Nat} (hguard : Guard s (.addLink c l)) :
    Sound (s.ocCollectionAddLink c l) := by
  rcases hguard with ⟨r, hr, hplain⟩ | ⟨⟨r, hr, hlinks⟩, hfree, hlink⟩
  · have hsame : s.ocCollectionAddLink c l = s := changeLinks_plain hr hplain _
    rw [hsame]
    exact h
  · obtain ⟨ls, hls⟩ := Option.ne_none_iff_exists'.1 hlinks
    refine h.changeLinks hr hls (fun l' hl' => ?_) fun pre post hsplit => ?_
    · rcases List.mem_append.1 hl' with hl' | hl'
      · exact .inl hl'
      · exact .inr (List.mem_singleton.1 hl' ▸ hlink)
    · have hnew : l ∉ s.resources.flatMap Resource.linkIds := fun hmem => by
        obtain ⟨r', hr', hl'⟩ := List.mem_flatMap.1 hmem
        exact hfree r' hr' hl'
      have hplaced := List.nodup_cons.2 ⟨hnew, h.placed⟩
      rw [hsplit] at hplaced
      refine (List.Perm.nodup_iff ?_).1 hplaced
      rw [← List.append_assoc, List.append_assoc, List.append_assoc, List.singleton_append]
      rw [← List.append_assoc, ← List.append_assoc]
      exact List.perm_middle.symm

theorem Sound.removeLink (h : Sound s) {c l : Nat} (hc : s.Exists c) : Sound (s.ocCollectionRemoveLink c l) := by
  rcases exists_cases hc with ⟨r, hr, hplain⟩ | ⟨r, hr, hlinks⟩
  · have hsame : s.ocCollectionRemoveLink c l = s := changeLinks_plain hr hplain _
    rw [hsame]
    exact h
  · obtain ⟨ls, hls⟩ := Option.ne_none_iff_exists'.1 hlinks
    refine h.changeLinks hr hls (fun l' hl' => .inl (List.mem_of_mem_erase hl')) fun pre post hsplit => ?_
    have hplaced := h.placed
    rw [hsplit] at hplaced
    exact hplaced.sublist ((List.erase_sublist.append_right post).append_left pre)

theorem Sound.cloudDelete (h : Sound s) {a : Nat} (hguard : Guard s (.cloudDelete a)) :
    Sound (s.ocCloudDeleteResource a) := by
  cases hr : s.at? a with
  | none =>
    unfold Registry.ocCloudDeleteResource
    rw [hr]
    exact h
  | some r =>
    cases hctx : s.context? r.device with
    | none =>
      unfold Registry.ocCloudDeleteResource
      rw [hr]
      dsimp only
      rw [hctx]
      exact h
    | some ctx =>
      obtain ⟨numLinks, contexts, rest, heq, hdeleted, hspec⟩ := cloudDelete_spec h hr hctx
      rw [if_neg (hguard r ctx hr hctx)] at hspec
      rw [heq]
      exact h.cloud (hspec.1.perm hspec.2.symm) hdeleted

theorem step_sound (h : Sound s) (action : Action) (hguard : Guard s action) : Sound (step s action) := by
  cases action with
  | newResource a device periodic => exact h.alloc rfl hguard
  | newCollection a device periodic => exact h.alloc rfl hguard
  | deleteResource a => exact h.deleteResource hguard
  | deleteCollection c => exact h.deleteCollection hguard
  | newLink l a => exact h.newLink hguard
  | deleteLink l => exact h.deleteLink hguard
  | addLink c l => exact h.addLink hguard
  | removeLink c l => exact h.removeLink hguard
  | observe a accepted batch => exact h.observe a accepted batch
  | cancelObserve a => exact h.cancelObserve a
  | periodicExpired a notified => exact h.periodicExpired a notified
  | delayNotification callback a => exact h.delayed callback hguard
  | timedExpired i => exact h.timedExpired i
  | cloudAdd a => exact h.cloudAdd hguard
  | cloudDelete a => exact h.cloudDelete hguard
  | cloudPublished device i => exact h.cloudPublished device i
  | cloudRepublish device => exact h.cloudRepublish device
  | cloudDeleted device => exact h.cloudDeleted device
  | cloudDeinit device => exact h.cloudDeinit device

/-! ### Steps that break it -/

theorem alloc_broken {r : Resource} (hnone : s.at? r.id = none) (hmem : some r.id ∈ s.fields) :
    ¬(s.alloc r).NoDangling := by
  have heq : s.alloc r =
      { s with resources := s.resources ++ [r], numLinks := Function.update s.numLinks r.id 0 } := by
    unfold Registry.alloc
    rw [hnone]
    rfl
  rw [heq]
  intro h
  have hcount : (Function.update s.numLinks r.id 0 r.id).toNat = s.fields.count (some r.id) :=
    h.numLinks r (List.mem_append_right _ (List.mem_singleton.2 rfl))
  rw [Function.update_self] at hcount
  exact absurd (List.count_pos_iff.2 hmem) (hcount ▸ Nat.lt_irrefl 0)

theorem unreferenced_of_noDangling (h : Sound s) {t : Registry} {a : Nat}
    (hresources : t.resources = s.resources.filter (·.id ≠ a)) (hobserve : t.observeCallbacks = s.observeCallbacks)
    (htimed : t.timedCallbacks = s.timedCallbacks) (hsub : ∀ link ∈ t.links, link ∈ s.links) (ht : t.NoDangling) :
    s.Unreferenced a := by
  have hgone : ¬t.Exists a := by
    rintro ⟨r, hr, hid⟩
    rw [hresources] at hr
    exact of_decide_eq_true (List.mem_filter.1 hr).2 hid
  refine ⟨fun ha => hgone (ht.observed a (hobserve ▸ ha)), fun x hx heq => hgone (heq ▸ ht.timed x (htimed ▸ hx)),
    fun r hr hne l hl link hlink hid heq => hgone ?_⟩
  obtain ⟨link', hlink', hid', hres⟩ := ht.linked r (hresources ▸ List.mem_filter.2 ⟨hr, decide_eq_true hne⟩) l hl
  have hsame : link' = link := List.inj_on_of_nodup_map h.linkIds (hsub link' hlink') hlink (hid'.trans hid.symm)
  exact hres a (hsame ▸ heq)

theorem deleteResource_broken (h : Sound s) {a : Nat} (hplain : s.Plain a) (hunref : ¬s.Unreferenced a) :
    ¬(s.ocRiDeleteResource a).NoDangling := by
  obtain ⟨⟨b, device, periodic, links⟩, hr, hlinks⟩ := hplain
  cases hlinks
  unfold Registry.ocRiDeleteResource
  rw [hr]
  exact mt (unreferenced_of_noDangling h rfl rfl rfl fun _ hlink => hlink) hunref

theorem deleteCollection_broken (h : Sound s) {c : Nat} (hc : s.Collection c) (hunref : ¬s.Unreferenced c) :
    ¬(s.ocCollectionFree c).NoDangling := by
  obtain ⟨r, hr, hlinks⟩ := hc
  obtain ⟨ls, hls⟩ := Option.ne_none_iff_exists'.1 hlinks
  obtain ⟨numLinks, heq, -⟩ := ocCollectionFree_eq h hr hls
  rw [heq]
  exact mt (unreferenced_of_noDangling h rfl rfl rfl fun _ hlink => List.mem_of_mem_filter hlink) hunref

theorem newLink_broken (h : Sound s) {l a : Nat} (hnew : l ∉ s.links.map (·.id)) (ha : s.Exists a)
    (hfull : s.numLinks a = 255) : ¬(s.ocNewLink l a).NoDangling := by
  unfold Registry.ocNewLink
  rw [if_neg hnew]
  intro h'
  refine h.accounted.not_up (exists_iff_mem.1 ha) hfull (h'.accounted.perm ?_)
  unfold Registry.fields
  dsimp only
  rw [List.map_append, List.map_singleton, List.append_assoc, List.singleton_append]
  exact List.perm_middle

theorem deleteLink_broken (h : Sound s) {l : Nat} (hmem : l ∈ s.links.map (·.id)) {r : Resource}
    (hr : r ∈ s.resources) (hl : l ∈ r.linkIds) : ¬(s.ocDeleteLink l).NoDangling := by
  obtain ⟨link, hlink, rfl⟩ := List.mem_map.1 hmem
  rw [ocDeleteLink_eq h.linkIds hlink]
  intro h'
  obtain ⟨link', hlink', hid, -⟩ := h'.linked r hr _ hl
  exact of_decide_eq_true (List.mem_filter.1 hlink').2 hid

theorem delayed_broken {callback : Callback} {a : Nat} (ha : ¬s.Exists a) :
    ¬(s.ocSetDelayedCallback callback a).NoDangling :=
  fun h => ha (h.timed ⟨callback, a⟩ (List.mem_append_right _ (List.mem_singleton.2 rfl)))

theorem changeLinks_broken {c : Nat} (hc : ¬s.Exists c) (f : List Nat → List Nat) :
    ¬(s.changeLinks c f).NoDangling := by
  rw [changeLinks_eq fun ⟨r, hr, _⟩ => hc (at?_isSome.1 (by rw [hr]; rfl))]
  exact delayed_broken (mt exists_withLinks.1 hc)

theorem addLink_broken (h : Sound s) {c l : Nat} (hguard : ¬Guard s (.addLink c l)) :
    ¬(s.ocCollectionAddLink c l).NoDangling := by
  unfold Guard at hguard
  rw [not_or] at hguard
  obtain ⟨hplain, hnot⟩ := hguard
  by_cases hexists : s.Exists c
  · obtain ⟨r, hr, hlinks⟩ := (exists_cases hexists).resolve_left hplain
    obtain ⟨ls, hls⟩ := Option.ne_none_iff_exists'.1 hlinks
    obtain ⟨hmem, rfl⟩ := at?_some hr
    obtain ⟨pre, post, hsplit, hmapped⟩ := map_at h.ids hmem fun x => { x with links := x.links.map (· ++ [l]) }
    change (s.withLinks r.id (· ++ [l])).resources = _ at hmapped
    have hold : r.linkIds = ls := by
      unfold Resource.linkIds
      rw [hls]
      rfl
    have hnew : Resource.linkIds { r with links := r.links.map (· ++ [l]) } = ls ++ [l] := by
      unfold Resource.linkIds
      rw [hls]
      rfl
    unfold Registry.ocCollectionAddLink
    rw [changeLinks_eq hplain]
    intro h'
    refine hnot ⟨⟨r, hr, hlinks⟩, fun x hx hl => ?_, ?_⟩
    · have hplaced : ((s.withLinks r.id (· ++ [l])).resources.flatMap Resource.linkIds).Nodup := h'.placed
      rw [hmapped, List.flatMap_append, List.flatMap_cons, hnew] at hplaced
      have hperm : (pre.flatMap Resource.linkIds ++ (ls ++ [l] ++ post.flatMap Resource.linkIds)).Perm
          (l :: s.resources.flatMap Resource.linkIds) := by
        rw [hsplit, List.flatMap_append, List.flatMap_cons, hold, List.append_assoc, List.singleton_append,
          ← List.append_assoc, ← List.append_assoc]
        exact List.perm_middle
      exact (List.nodup_cons.1 (hperm.nodup_iff.1 hplaced)).1 (List.mem_flatMap.2 ⟨x, hx, hl⟩)
    · have hchanged : ({ r with links := r.links.map (· ++ [l]) } : Resource) ∈
          (s.withLinks r.id (· ++ [l])).resources := by
        rw [hmapped]
        exact List.mem_append_right _ List.mem_cons_self
      obtain ⟨link, hlink, hid, hres⟩ := h'.linked _ hchanged l
        (by rw [hnew]; exact List.mem_append_right _ (List.mem_singleton.2 rfl))
      exact ⟨link, hlink, hid, fun a ha => exists_withLinks.1 (hres a ha)⟩
  · exact changeLinks_broken hexists _

theorem cloudAdd_broken (h : Sound s) {a : Nat} (hguard : ¬Guard s (.cloudAdd a)) :
    ¬(s.ocCloudAddResource a).NoDangling := by
  unfold Guard at hguard
  simp only [not_forall, not_not] at hguard
  obtain ⟨r, ctx, hr, hctx, hpublish, hpublished, hfull⟩ := hguard
  rw [ocCloudAddResource_eq h hr hctx, if_neg (not_or.2 ⟨hpublish, hpublished⟩)]
  intro h'
  have hfields := (fields_cloudAdd h hctx a).1
  refine h.accounted.not_up (exists_iff_mem.1 (at?_isSome.1 (by rw [hr]; rfl))) hfull (Accounted.perm ?_ hfields)
  exact h'.accounted

theorem cloudDelete_broken (h : Sound s) {a : Nat} (hguard : ¬Guard s (.cloudDelete a)) :
    ¬(s.ocCloudDeleteResource a).NoDangling := by
  unfold Guard at hguard
  simp only [not_forall, not_not] at hguard
  obtain ⟨r, ctx, hr, hctx, hpublished⟩ := hguard
  obtain ⟨numLinks, contexts, rest, heq, -, hspec⟩ := cloudDelete_spec h hr hctx
  rw [if_pos hpublished] at hspec
  rw [heq]
  intro h'
  refine hspec.1.not_forget (exists_iff_mem.1 (at?_isSome.1 (by rw [hr]; rfl))) (accounted_none.1 ?_)
  exact Accounted.perm h'.accounted hspec.2

theorem step_broken (h : Sound s) (action : Action) (hguard : ¬Guard s action) : ¬(step s action).NoDangling := by
  cases action with
  | newResource a device periodic | newCollection a device periodic =>
    obtain ⟨hnone, hmem⟩ := Classical.not_imp.1 hguard
    exact alloc_broken hnone (not_not.1 hmem)
  | deleteResource a =>
    obtain ⟨hplain, hunref⟩ := Classical.not_imp.1 hguard
    exact deleteResource_broken h hplain hunref
  | deleteCollection c =>
    obtain ⟨hc, hunref⟩ := Classical.not_imp.1 hguard
    exact deleteCollection_broken h hc hunref
  | newLink l a =>
    obtain ⟨hnew, hguard⟩ := Classical.not_imp.1 hguard
    obtain ⟨ha, hfull⟩ := Classical.not_imp.1 hguard
    exact newLink_broken h hnew ha (not_not.1 hfull)
  | deleteLink l =>
    obtain ⟨hmem, hguard⟩ := Classical.not_imp.1 hguard
    simp only [not_forall, not_not] at hguard
    obtain ⟨r, hr, hl⟩ := hguard
    exact deleteLink_broken h hmem hr hl
  | addLink c l => exact addLink_broken h hguard
  | removeLink c l => exact changeLinks_broken hguard _
  | delayNotification callback a => exact delayed_broken hguard
  | cloudAdd a => exact cloudAdd_broken h hguard
  | cloudDelete a => exact cloudDelete_broken h hguard
  | _ => exact absurd trivial hguard

end Runs

/-- In every state of a run no callback and no link of a collection refers to a resource that has been deleted, and
`num_links` is the number of links of each resource, if and only if every step meets its condition: a resource is
deleted when nothing refers to it, no 256th link is made for it, and no link of it that the cloud has published loses
it. -/
theorem references_iff (devices : List Nat) (run : List Action) :
    (∀ run', run' <+: run → (runFrom step (.init devices) run').NoDangling) ↔ Guarded step Guard (.init devices) run :=
  always_iff_guarded (fun _ h => h.toNoDangling) (fun _ action h hguard => step_sound h action hguard)
    (fun _ action h hguard => step_broken h action hguard) (sound_init devices)

/-- A resource that is in a collection, that a client observes, and for which a delayed notification has been set. -/
def referencedRun : List Action :=
  [.newResource 1 0 true, .newCollection 2 0 false, .newLink 1 1, .addLink 2 1, .observe 1 true false,
    .delayNotification .observeNotification 1]

/-- When it is deleted, they all still refer to it. -/
theorem deleted_resource_referenced :
    ¬(runFrom step (.init [0]) (referencedRun ++ [.deleteResource 1])).NoDangling := by
  have hleft : 1 ∈ (runFrom step (.init [0]) (referencedRun ++ [.deleteResource 1])).observeCallbacks ∧
      ∀ r ∈ (runFrom step (.init [0]) (referencedRun ++ [.deleteResource 1])).resources, r.id ≠ 1 := by
    decide
  intro h
  obtain ⟨r, hr, hid⟩ := h.observed 1 hleft.1
  exact hleft.2 r hr hid

end SmartGarage.References
