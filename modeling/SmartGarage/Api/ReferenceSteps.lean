/-
Nothing dangles: every callback and every link of a collection refers to what exists, and `num_links` is the number of
links. What each operation needs to keep that.
-/
import Mathlib.Data.List.Flatten
import Mathlib.Data.List.Pairwise
import Mathlib.Data.List.Perm.Basic
import SmartGarage.Api.References

namespace SmartGarage.References

/-! ## Counting links -/

/-- `num_links` is right at some addresses. -/
def Accounted (ids : List Nat) (numLinks : Nat → UInt8) (fields : List (Option Nat)) : Prop :=
  ∀ a ∈ ids, (numLinks a).toNat = fields.count (some a)

section Accounted

variable {ids : List Nat} {numLinks : Nat → UInt8} {fields fields' : List (Option Nat)} {a : Nat}

theorem Accounted.perm (h : Accounted ids numLinks fields) (hperm : fields.Perm fields') :
    Accounted ids numLinks fields' := by
  intro b hb
  rw [← hperm.count_eq]
  exact h b hb

theorem Accounted.up (h : Accounted ids numLinks fields) (hroom : a ∈ ids → numLinks a ≠ 255) :
    Accounted ids (Function.update numLinks a (numLinks a + 1)) (some a :: fields) := by
  intro b hb
  by_cases heq : b = a
  · subst heq
    have hlt : (numLinks b).toNat ≠ 255 := fun h255 => hroom hb (UInt8.toNat_inj.1 h255)
    have hbound := (numLinks b).toNat_lt
    rw [Function.update_self, List.count_cons_self, ← h b hb, UInt8.toNat_add]
    change ((numLinks b).toNat + 1) % 256 = _
    omega
  · rw [Function.update_of_ne heq, List.count_cons_of_ne (fun h' => heq (Option.some.inj h').symm)]
    exact h b hb

theorem Accounted.down (h : Accounted ids numLinks (some a :: fields)) :
    Accounted ids (Function.update numLinks a (numLinks a - 1)) fields := by
  intro b hb
  have hcount := h b hb
  by_cases heq : b = a
  · subst heq
    rw [List.count_cons_self] at hcount
    have hbound := (numLinks b).toNat_lt
    rw [Function.update_self, UInt8.toNat_sub_of_le _ _ (UInt8.le_iff_toNat_le.2 (by change 1 ≤ _; omega))]
    change (numLinks b).toNat - 1 = _
    omega
  · rw [Function.update_of_ne heq]
    rwa [List.count_cons_of_ne (fun h' => heq (Option.some.inj h').symm)] at hcount

theorem accounted_none : Accounted ids numLinks (none :: fields) ↔ Accounted ids numLinks fields := by
  refine forall₂_congr fun b _ => ?_
  rw [List.count_cons_of_ne (by simp)]

theorem Accounted.not_up (h : Accounted ids numLinks fields) (ha : a ∈ ids) (hfull : numLinks a = 255) :
    ¬Accounted ids (Function.update numLinks a (numLinks a + 1)) (some a :: fields) := by
  intro h'
  have hnew := h' a ha
  rw [Function.update_self, hfull, List.count_cons_self, ← h a ha, hfull] at hnew
  exact absurd hnew (by decide)

theorem Accounted.zero (h : Accounted ids numLinks fields) (hfree : some a ∉ fields) :
    Accounted (ids ++ [a]) (Function.update numLinks a 0) fields := by
  intro b hb
  by_cases heq : b = a
  · subst heq
    rw [Function.update_self, List.count_eq_zero_of_not_mem hfree]
    rfl
  · rw [Function.update_of_ne heq]
    exact h b ((List.mem_append.1 hb).resolve_right fun h' => heq (List.mem_singleton.1 h'))

theorem Accounted.not_forget (h : Accounted ids numLinks (some a :: fields)) (ha : a ∈ ids) :
    ¬Accounted ids numLinks fields := by
  intro h'
  have hold := h a ha
  rw [List.count_cons_self, ← h' a ha] at hold
  omega

end Accounted

/-! ## Nothing dangles -/

/-- The links of a resource, which has none unless it is a collection. -/
def Resource.linkIds (r : Resource) : List Nat := r.links.getD []

/-- There is a resource or a collection at the address. -/
def Registry.Exists (s : Registry) (a : Nat) : Prop := ∃ r ∈ s.resources, r.id = a

/-- All callbacks and all links of collections refer to what exists, a link is in one collection at most, and
`num_links` is the number of links. -/
structure Registry.NoDangling (s : Registry) : Prop where
  observed : ∀ a ∈ s.observeCallbacks, s.Exists a
  timed : ∀ t ∈ s.timedCallbacks, s.Exists t.data
  linked : ∀ r ∈ s.resources, ∀ l ∈ r.linkIds, ∃ link ∈ s.links, link.id = l ∧ ∀ a ∈ link.resource, s.Exists a
  placed : (s.resources.flatMap Resource.linkIds).Nodup
  numLinks : ∀ r ∈ s.resources, (s.numLinks r.id).toNat = s.fields.count (some r.id)

/-- The invariant: addresses are those of one object, and what the cloud is to delete refers to no resource. -/
structure Sound (s : Registry) : Prop extends s.NoDangling where
  ids : (s.resources.map (·.id)).Nodup
  linkIds : (s.links.map (·.id)).Nodup
  deleted : ∀ ctx ∈ s.contexts, ∀ f ∈ ctx.delete, f = none

/-- There is a collection at the address. -/
def Registry.Collection (s : Registry) (c : Nat) : Prop := ∃ r, s.at? c = some r ∧ r.links ≠ none

/-- There is a resource that is no collection at the address. -/
def Registry.Plain (s : Registry) (a : Nat) : Prop := ∃ r, s.at? a = some r ∧ r.links = none

section Basics

variable {s : Registry} {a : Nat}

theorem accounted_iff : (∀ r ∈ s.resources, (s.numLinks r.id).toNat = s.fields.count (some r.id)) ↔
    Accounted (s.resources.map (·.id)) s.numLinks s.fields := by
  unfold Accounted
  rw [List.forall_mem_map]

theorem Registry.NoDangling.accounted (h : s.NoDangling) :
    Accounted (s.resources.map (·.id)) s.numLinks s.fields := accounted_iff.1 h.numLinks

theorem at?_some {r : Resource} (h : s.at? a = some r) : r ∈ s.resources ∧ r.id = a :=
  ⟨List.mem_of_find?_eq_some h, by simpa using List.find?_some h⟩

theorem at?_eq_none : s.at? a = none ↔ ¬s.Exists a := by
  unfold Registry.at? Registry.Exists
  simp

theorem at?_isSome : (s.at? a).isSome ↔ s.Exists a := by
  unfold Registry.at? Registry.Exists
  simp

theorem sound_init (devices : List Nat) : Sound (.init devices) where
  observed := nofun
  timed := nofun
  linked := nofun
  placed := List.nodup_nil
  numLinks := nofun
  ids := List.nodup_nil
  linkIds := List.nodup_nil
  deleted ctx hctx := by
    obtain ⟨device, -, rfl⟩ := List.mem_map.1 hctx
    exact nofun

end Basics

/-! ## Resources and links -/

section Links

variable {s : Registry} {a l : Nat}

theorem countDown_eq (s : Registry) (f : Option Nat) :
    s.countDown f = { s with numLinks := (s.countDown f).numLinks } := by
  cases f <;> rfl

theorem accounted_countDown {ids : List Nat} {f : Option Nat} {fields : List (Option Nat)}
    (h : Accounted ids s.numLinks (f :: fields)) : Accounted ids (s.countDown f).numLinks fields := by
  cases f with
  | none => exact accounted_none.1 h
  | some a => exact h.down

theorem accounted_foldl {ids : List Nat} {fields : List (Option Nat)} : ∀ (fs : List (Option Nat)) {s : Registry},
    Accounted ids s.numLinks (fs ++ fields) →
    Accounted ids (fs.foldl Registry.countDown s).numLinks fields ∧
      fs.foldl Registry.countDown s = { s with numLinks := (fs.foldl Registry.countDown s).numLinks }
  | [], _, h => ⟨h, rfl⟩
  | f :: fs, s, h => by
    obtain ⟨haccounted, heq⟩ := accounted_foldl fs (s := s.countDown f) (accounted_countDown h)
    refine ⟨haccounted, heq.trans ?_⟩
    cases f <;> rfl

theorem perm_filter_link {links : List Link} (hids : (links.map (·.id)).Nodup) {link : Link} (hlink : link ∈ links) :
    links.Perm (link :: links.filter (·.id ≠ link.id)) := by
  have hkey := Search.eraseP_key_eq_filter (k := link.id) hids
  have herase : links.eraseP (fun x => x.id == link.id) = links.filter (·.id ≠ link.id) := by
    rw [hkey]
    exact List.filter_congr fun x _ => by simp [bne, beq_eq_decide]
  rw [← herase]
  obtain ⟨x, pre, post, -, hx, heq, hrest⟩ :=
    List.exists_of_eraseP hlink (p := fun x => x.id == link.id) (beq_self_eq_true _)
  have hxl : x = link := List.inj_on_of_nodup_map hids (by rw [heq]; simp) hlink (by simpa using hx)
  rw [hrest, heq, hxl]
  exact List.perm_middle

theorem ocDeleteLink_eq (hids : (s.links.map (·.id)).Nodup) {link : Link} (hlink : link ∈ s.links) :
    s.ocDeleteLink link.id = { s with
      numLinks := (s.countDown link.resource).numLinks
      links := s.links.filter (·.id ≠ link.id) } := by
  obtain ⟨x, hx⟩ := Option.isSome_iff_exists.1
    (List.find?_isSome.2 ⟨link, hlink, decide_eq_true rfl⟩ : (s.links.find? (·.id = link.id)).isSome)
  have hxl : x = link :=
    List.inj_on_of_nodup_map hids (List.mem_of_find?_eq_some hx) hlink (by simpa using List.find?_some hx)
  unfold Registry.ocDeleteLink
  rw [hx, hxl]
  dsimp only
  rw [countDown_eq]

theorem fields_perm_links {links : List Link} (h : s.links.Perm links) :
    s.fields.Perm ({ s with links := links } : Registry).fields := (h.map _).append_right _

theorem Registry.Exists.append (h : s.Exists a) (r : Resource) :
    ({ s with resources := s.resources ++ [r] } : Registry).Exists a := by
  obtain ⟨x, hx, hid⟩ := h
  exact ⟨x, List.mem_append_left _ hx, hid⟩

theorem exists_free {b : Nat} : (s.free a).Exists b ↔ s.Exists b ∧ b ≠ a := by
  unfold Registry.Exists Registry.free
  constructor
  · rintro ⟨r, hr, rfl⟩
    obtain ⟨hmem, hne⟩ := List.mem_filter.1 hr
    exact ⟨⟨r, hmem, rfl⟩, of_decide_eq_true hne⟩
  · rintro ⟨⟨r, hr, rfl⟩, hne⟩
    exact ⟨r, List.mem_filter.2 ⟨hr, decide_eq_true hne⟩, rfl⟩

theorem Sound.alloc (h : Sound s) {r : Resource} (hlinks : r.linkIds = [])
    (hfree : s.at? r.id = none → some r.id ∉ s.fields) : Sound (s.alloc r) := by
  unfold Registry.alloc
  split
  · exact h
  · rename_i hnew
    have hnone := Option.not_isSome_iff_eq_none.1 hnew
    have hids : r.id ∉ s.resources.map (·.id) := fun hmem => at?_eq_none.1 hnone (List.mem_map.1 hmem)
    refine ⟨⟨fun a ha => (h.observed a ha).append r, fun t ht => (h.timed t ht).append r, fun x hx l hl => ?_, ?_, ?_⟩,
      ?_, h.linkIds, h.deleted⟩
    · rcases List.mem_append.1 hx with hx | hx
      · obtain ⟨link, hlink, hid, hres⟩ := h.linked x hx l hl
        exact ⟨link, hlink, hid, fun a ha => (hres a ha).append r⟩
      · rw [List.mem_singleton.1 hx, hlinks] at hl
        cases hl
    · show (List.flatMap _ (s.resources ++ [r])).Nodup
      rw [List.flatMap_append, List.flatMap_singleton, hlinks, List.append_nil]
      exact h.placed
    · refine accounted_iff.2 ?_
      show Accounted ((s.resources ++ [r]).map (·.id)) _ _
      rw [List.map_append]
      exact h.accounted.zero (hfree hnone)
    · show ((s.resources ++ [r]).map (·.id)).Nodup
      exact Search.nodup_append_new h.ids hids

/-- Nothing that is left when a resource or a collection is deleted refers to it. -/
structure Registry.Unreferenced (s : Registry) (a : Nat) : Prop where
  observed : a ∉ s.observeCallbacks
  timed : ∀ t ∈ s.timedCallbacks, t.data ≠ a
  linked : ∀ r ∈ s.resources, r.id ≠ a → ∀ l ∈ r.linkIds, ∀ link ∈ s.links, link.id = l → link.resource ≠ some a

theorem nodup_flatMap_filter {resources : List Resource} (h : (resources.flatMap Resource.linkIds).Nodup)
    (p : Resource → Bool) : ((resources.filter p).flatMap Resource.linkIds).Nodup :=
  h.sublist (List.filter_sublist.flatMap _)

theorem Sound.free (h : Sound s) (hunref : s.Unreferenced a) : Sound (s.free a) := by
  have hstays : ∀ b, s.Exists b → b ≠ a → (s.free a).Exists b := fun b hb hne => exists_free.2 ⟨hb, hne⟩
  refine ⟨⟨fun b hb => hstays b (h.observed b hb) fun heq => hunref.observed (heq ▸ hb),
    fun t ht => hstays _ (h.timed t ht) (hunref.timed t ht), fun r hr l hl => ?_, nodup_flatMap_filter h.placed _,
    fun r hr => h.numLinks r (List.mem_filter.1 hr).1⟩, ?_, h.linkIds, h.deleted⟩
  · obtain ⟨hmem, hne⟩ := List.mem_filter.1 hr
    obtain ⟨link, hlink, hid, hres⟩ := h.linked r hmem l hl
    refine ⟨link, hlink, hid, fun b hb => hstays b (hres b hb) fun heq => ?_⟩
    exact hunref.linked r hmem (of_decide_eq_true hne) l hl link hlink hid (heq ▸ hb)
  · exact h.ids.sublist (List.filter_sublist.map _)

theorem Sound.newLink (h : Sound s) (hroom : l ∉ s.links.map (·.id) → s.Exists a → s.numLinks a ≠ 255) :
    Sound (s.ocNewLink l a) := by
  unfold Registry.ocNewLink
  split
  · exact h
  · rename_i hnew
    refine ⟨⟨h.observed, h.timed, fun r hr l' hl' => ?_, h.placed, ?_⟩, h.ids, Search.nodup_append_new h.linkIds hnew,
      h.deleted⟩
    · obtain ⟨link, hlink, hid, hres⟩ := h.linked r hr l' hl'
      exact ⟨link, List.mem_append_left _ hlink, hid, hres⟩
    · refine accounted_iff.2 ((h.accounted.up fun ha => hroom hnew (List.mem_map.1 ha)).perm ?_)
      unfold Registry.fields
      dsimp only
      rw [List.map_append, List.map_singleton, List.append_assoc, List.singleton_append]
      exact List.perm_middle.symm

theorem foldl_ocDeleteLink {ids : List Nat} : ∀ (ls : List Nat) {s : Registry}, ls.Nodup → (s.links.map (·.id)).Nodup →
    (∀ l ∈ ls, ∃ link ∈ s.links, link.id = l) → Accounted ids s.numLinks s.fields →
    ∃ numLinks, ls.foldl Registry.ocDeleteLink s =
        { s with numLinks := numLinks, links := s.links.filter (·.id ∉ ls) } ∧
      Accounted ids numLinks ({ s with links := s.links.filter (·.id ∉ ls) } : Registry).fields
  | [], s, _, _, _, h => by
    refine ⟨s.numLinks, ?_, ?_⟩ <;> simp only [List.not_mem_nil, not_false_eq_true, decide_true, List.filter_true]
    · rfl
    · exact h
  | l :: ls, s, hnodup, hids, hexist, h => by
    obtain ⟨hl, hls⟩ := List.nodup_cons.1 hnodup
    obtain ⟨link, hlink, rfl⟩ := hexist l List.mem_cons_self
    have hperm := perm_filter_link hids hlink
    have hdown : Accounted ids (s.countDown link.resource).numLinks
        ({ s with links := s.links.filter (·.id ≠ link.id) } : Registry).fields :=
      accounted_countDown (h.perm (fields_perm_links hperm))
    have hrest : ∀ l' ∈ ls, ∃ link' ∈ s.links.filter (·.id ≠ link.id), link'.id = l' := by
      intro l' hl'
      obtain ⟨link', hlink', rfl⟩ := hexist l' (List.mem_cons_of_mem _ hl')
      refine ⟨link', List.mem_filter.2 ⟨hlink', decide_eq_true fun heq => hl ?_⟩, rfl⟩
      rw [← heq]
      exact hl'
    have hfilter : (s.links.filter (·.id ≠ link.id)).filter (·.id ∉ ls) = s.links.filter (·.id ∉ link.id :: ls) := by
      rw [List.filter_filter]
      refine List.filter_congr fun x _ => ?_
      simp only [List.mem_cons, not_or, Bool.decide_and, Bool.and_comm]
    rw [List.foldl_cons, ocDeleteLink_eq hids hlink, ← hfilter]
    exact foldl_ocDeleteLink ls hls (hids.sublist (List.filter_sublist.map _)) hrest hdown

theorem Registry.NoDangling.placed_once (h : s.NoDangling) {r r' : Resource} (hr : r ∈ s.resources)
    (hr' : r' ∈ s.resources) (hne : r ≠ r') (hl : l ∈ r.linkIds) : l ∉ r'.linkIds := by
  have hsymm : Std.Symm (Function.onFun List.Disjoint Resource.linkIds) := ⟨fun _ _ hd _ hx hy => hd hy hx⟩
  have hdisjoint : List.Disjoint r.linkIds r'.linkIds := (List.nodup_flatMap.1 h.placed).2.forall hr hr' hne
  exact fun hl' => hdisjoint hl hl'

theorem Sound.deleteLink (h : Sound s) (hfree : l ∈ s.links.map (·.id) → ∀ r ∈ s.resources, l ∉ r.linkIds) :
    Sound (s.ocDeleteLink l) := by
  by_cases hmem : l ∈ s.links.map (·.id)
  · obtain ⟨link, hlink, rfl⟩ := List.mem_map.1 hmem
    rw [ocDeleteLink_eq h.linkIds hlink]
    refine ⟨⟨h.observed, h.timed, fun r hr l' hl' => ?_, h.placed, accounted_iff.2 ?_⟩, h.ids,
      h.linkIds.sublist (List.filter_sublist.map _), h.deleted⟩
    · obtain ⟨link', hlink', rfl, hres⟩ := h.linked r hr l' hl'
      refine ⟨link', List.mem_filter.2 ⟨hlink', decide_eq_true fun heq => ?_⟩, rfl, hres⟩
      exact hfree hmem r hr (heq ▸ hl')
    · exact accounted_countDown (h.accounted.perm (fields_perm_links (perm_filter_link h.linkIds hlink)))
  · have hnone : s.links.find? (·.id = l) = none := by
      refine List.find?_eq_none.2 fun x hx hid => hmem (List.mem_map.2 ⟨x, hx, of_decide_eq_true hid⟩)
    unfold Registry.ocDeleteLink
    rw [hnone]
    exact h

/-- What is left behind the links of a collection, and the collection. -/
theorem ocCollectionFree_eq (h : Sound s) {c : Nat} {r : Resource} {ls : List Nat} (hc : s.at? c = some r)
    (hlinks : r.links = some ls) : ∃ numLinks,
      s.ocCollectionFree c =
        ({ s with numLinks := numLinks, links := s.links.filter (·.id ∉ ls) } : Registry).free c ∧
      Accounted (s.resources.map (·.id)) numLinks
        ({ s with links := s.links.filter (·.id ∉ ls) } : Registry).fields := by
  obtain ⟨hr, hid⟩ := at?_some hc
  have hids : r.linkIds = ls := by
    unfold Resource.linkIds
    rw [hlinks]
    rfl
  have hnodup : ls.Nodup := hids ▸ (List.nodup_flatMap.1 h.placed).1 r hr
  obtain ⟨numLinks, heq, haccounted⟩ := foldl_ocDeleteLink ls hnodup h.linkIds
    (fun l hl => (h.linked r hr l (hids.symm ▸ hl)).imp fun link hlink => ⟨hlink.1, hlink.2.1⟩) h.accounted
  refine ⟨numLinks, ?_, haccounted⟩
  obtain ⟨a, device, periodic, links⟩ := r
  cases hlinks
  unfold Registry.ocCollectionFree
  rw [hc]
  dsimp only
  rw [heq]

theorem Sound.deleteCollection (h : Sound s) {c : Nat}
    (hunref : s.Collection c → s.Unreferenced c) : Sound (s.ocCollectionFree c) := by
  cases hc : s.at? c with
  | none =>
    unfold Registry.ocCollectionFree
    rw [hc]
    exact h
  | some r =>
    cases hlinks : r.links with
    | none =>
      obtain ⟨a, device, periodic, links⟩ := r
      cases hlinks
      unfold Registry.ocCollectionFree
      rw [hc]
      exact h
    | some ls =>
      obtain ⟨hr, hid⟩ := at?_some hc
      have hls : r.linkIds = ls := by
        unfold Resource.linkIds
        rw [hlinks]
        rfl
      have hunref := hunref ⟨r, hc, by rw [hlinks]; nofun⟩
      have hstays : ∀ b, s.Exists b → b ≠ c → (s.free c).Exists b := fun b hb hne => exists_free.2 ⟨hb, hne⟩
      obtain ⟨numLinks, heq, haccounted⟩ := ocCollectionFree_eq h hc hlinks
      rw [heq]
      refine ⟨⟨fun b hb => hstays b (h.observed b hb) fun heq => hunref.observed (heq ▸ hb),
        fun t ht => hstays _ (h.timed t ht) (hunref.timed t ht), fun r' hr' l hl => ?_, nodup_flatMap_filter h.placed _,
        fun r' hr' => ?_⟩, ?_, ?_, h.deleted⟩
      · obtain ⟨hmem, hne⟩ := List.mem_filter.1 hr'
        have hne := of_decide_eq_true hne
        obtain ⟨link, hlink, hlid, hres⟩ := h.linked r' hmem l hl
        refine ⟨link, List.mem_filter.2 ⟨hlink, decide_eq_true ?_⟩, hlid,
          fun b hb => hstays b (hres b hb) fun heq => ?_⟩
        · rw [hlid, ← hls]
          exact h.placed_once hmem hr (fun heq => hne (heq ▸ hid)) hl
        · exact hunref.linked r' hmem hne l hl link hlink hlid (heq ▸ hb)
      · exact haccounted _ (List.mem_map.2 ⟨r', (List.mem_filter.1 hr').1, rfl⟩)
      · exact h.ids.sublist (List.filter_sublist.map _)
      · exact h.linkIds.sublist (List.filter_sublist.map _)

theorem Sound.delayed (h : Sound s) (callback : Callback) (ha : s.Exists a) :
    Sound (s.ocSetDelayedCallback callback a) := by
  refine ⟨⟨h.observed, fun t ht => ?_, h.linked, h.placed, h.numLinks⟩, h.ids, h.linkIds, h.deleted⟩
  rcases List.mem_append.1 ht with ht | ht
  · exact h.timed t ht
  · rw [List.mem_singleton.1 ht]
    exact ha

theorem exists_iff_mem : s.Exists a ↔ a ∈ s.resources.map (·.id) := List.mem_map.symm

/-- With one resource at each address, what is changed at an address is one resource. -/
theorem map_at {resources : List Resource} (hids : (resources.map (·.id)).Nodup) {r : Resource} (hr : r ∈ resources)
    (g : Resource → Resource) : ∃ pre post, resources = pre ++ r :: post ∧
      (resources.map fun x => if x.id = r.id then g x else x) = pre ++ g r :: post := by
  obtain ⟨pre, post, rfl⟩ := List.append_of_mem hr
  refine ⟨pre, post, rfl, ?_⟩
  rw [List.map_append, List.map_cons, List.nodup_append] at hids
  have hpre : ∀ x ∈ pre, x.id ≠ r.id := fun x hx => hids.2.2 _ (List.mem_map.2 ⟨x, hx, rfl⟩) _ List.mem_cons_self
  have hpost : ∀ x ∈ post, x.id ≠ r.id := fun x hx heq =>
    (List.nodup_cons.1 hids.2.1).1 (List.mem_map.2 ⟨x, hx, heq⟩)
  have hother : ∀ l : List Resource, (∀ x ∈ l, x.id ≠ r.id) → l.map (fun x => if x.id = r.id then g x else x) = l :=
    fun l hl => (List.map_congr_left fun x hx => if_neg (hl x hx)).trans (List.map_id l)
  rw [List.map_append, List.map_cons, if_pos rfl, hother pre hpre, hother post hpost]

/-- The resources where the links of a collection have been changed. -/
def Registry.withLinks (s : Registry) (c : Nat) (f : List Nat → List Nat) : Registry :=
  { s with resources := s.resources.map fun r => if r.id = c then { r with links := r.links.map f } else r }

theorem changeLinks_eq {c : Nat} (hplain : ¬s.Plain c) (f : List Nat → List Nat) :
    s.changeLinks c f = (s.withLinks c f).ocSetDelayedCallback .linksList c := by
  unfold Registry.changeLinks
  split
  · rename_i hc
    exact absurd ⟨_, hc, rfl⟩ hplain
  · rfl

theorem map_id_withLinks (c : Nat) (f : List Nat → List Nat) :
    (s.withLinks c f).resources.map (·.id) = s.resources.map (·.id) := by
  unfold Registry.withLinks
  dsimp only
  rw [List.map_map]
  refine List.map_congr_left fun x _ => ?_
  rw [Function.comp_apply]
  split <;> rfl

theorem exists_withLinks {c b : Nat} {f : List Nat → List Nat} : (s.withLinks c f).Exists b ↔ s.Exists b := by
  rw [exists_iff_mem, exists_iff_mem, map_id_withLinks]

/-- The list of a collection is changed to one of links that exist and are in no other list. -/
theorem Sound.changeLinks (h : Sound s) {c : Nat} {f : List Nat → List Nat} {r : Resource} {ls : List Nat}
    (hc : s.at? c = some r) (hlinks : r.links = some ls)
    (hgood : ∀ l ∈ f ls, l ∈ ls ∨ ∃ link ∈ s.links, link.id = l ∧ ∀ a ∈ link.resource, s.Exists a)
    (hplaced : ∀ pre post, s.resources.flatMap Resource.linkIds = pre ++ (ls ++ post) → (pre ++ (f ls ++ post)).Nodup) :
    Sound (s.changeLinks c f) := by
  obtain ⟨hr, rfl⟩ := at?_some hc
  have hls : r.linkIds = ls := by
    unfold Resource.linkIds
    rw [hlinks]
    rfl
  have hplain : ¬s.Plain r.id := by
    rintro ⟨x, hx, hnone⟩
    rw [Option.some.inj (hc.symm.trans hx)] at hlinks
    exact nomatch hnone.symm.trans hlinks
  rw [changeLinks_eq hplain]
  refine Sound.delayed ?_ _ (exists_withLinks.2 ⟨r, hr, rfl⟩)
  obtain ⟨pre, post, hsplit, hmapped⟩ := map_at h.ids hr fun x => { x with links := x.links.map f }
  have hnew : Resource.linkIds { r with links := r.links.map f } = f ls := by
    unfold Resource.linkIds
    rw [hlinks]
    rfl
  change (s.withLinks r.id f).resources = _ at hmapped
  refine ⟨⟨fun a ha => exists_withLinks.2 (h.observed a ha), fun t ht => exists_withLinks.2 (h.timed t ht),
    fun x hx l hl => ?_, ?_, accounted_iff.2 ?_⟩, ?_, h.linkIds, h.deleted⟩
  · have hlink : ∃ link ∈ s.links, link.id = l ∧ ∀ a ∈ link.resource, s.Exists a := by
      rw [hmapped] at hx
      rcases List.mem_append.1 hx with hx | hx
      · exact h.linked x (hsplit ▸ List.mem_append_left _ hx) l hl
      · rcases List.mem_cons.1 hx with rfl | hx
        · rw [hnew] at hl
          rcases hgood l hl with hl | hlink
          · exact h.linked r hr l (hls.symm ▸ hl)
          · exact hlink
        · exact h.linked x (hsplit ▸ List.mem_append_right _ (List.mem_cons_of_mem _ hx)) l hl
    obtain ⟨link, hmem, hid, hres⟩ := hlink
    exact ⟨link, hmem, hid, fun a ha => exists_withLinks.2 (hres a ha)⟩
  · rw [hmapped, List.flatMap_append, List.flatMap_cons, hnew]
    refine hplaced _ _ ?_
    rw [hsplit, List.flatMap_append, List.flatMap_cons, hls]
  · rw [map_id_withLinks]
    exact h.accounted
  · rw [map_id_withLinks]
    exact h.ids

theorem changeLinks_plain {c : Nat} {r : Resource} (hc : s.at? c = some r) (hplain : r.links = none)
    (f : List Nat → List Nat) : s.changeLinks c f = s := by
  obtain ⟨a, device, periodic, links⟩ := r
  cases hplain
  unfold Registry.changeLinks
  rw [hc]

end Links

/-! ## Callbacks -/

section Callbacks

variable {s : Registry} {a : Nat}

theorem Sound.addPeriodic (h : Sound s) (ha : s.Exists a) : Sound (s.addPeriodicObserveCallback a) := by
  unfold Registry.addPeriodicObserveCallback
  split
  · exact h
  · refine ⟨⟨fun b hb => ?_, h.timed, h.linked, h.placed, h.numLinks⟩, h.ids, h.linkIds, h.deleted⟩
    rcases List.mem_append.1 hb with hb | hb
    · exact h.observed b hb
    · exact List.mem_singleton.1 hb ▸ ha

theorem Sound.removePeriodic (h : Sound s) (a : Nat) : Sound (s.removePeriodicObserveCallback a) :=
  ⟨⟨fun b hb => h.observed b (List.mem_of_mem_erase hb), h.timed, h.linked, h.placed, h.numLinks⟩, h.ids, h.linkIds,
    h.deleted⟩

theorem addPeriodic_exists {b : Nat} : (s.addPeriodicObserveCallback a).Exists b ↔ s.Exists b := by
  unfold Registry.addPeriodicObserveCallback
  split <;> exact Iff.rfl

theorem Sound.foldl_addPeriodic : ∀ (l : List Nat) {s : Registry}, Sound s → (∀ a ∈ l, s.Exists a) →
    Sound (l.foldl Registry.addPeriodicObserveCallback s)
  | [], _, h, _ => h
  | a :: l, _, h, hl => foldl_addPeriodic l (h.addPeriodic (hl a List.mem_cons_self)) fun b hb =>
      addPeriodic_exists.2 (hl b (List.mem_cons_of_mem _ hb))

theorem Sound.foldl_removePeriodic : ∀ (l : List Nat) {s : Registry}, Sound s →
    Sound (l.foldl Registry.removePeriodicObserveCallback s)
  | [], _, h => h
  | a :: l, _, h => foldl_removePeriodic l (h.removePeriodic a)

theorem periodicLinks_exists {r : Resource} (ha : a ∈ s.periodicLinks r) : s.Exists a := by
  obtain ⟨l, -, hl⟩ := List.mem_filterMap.1 ha
  split at hl
  · split at hl
    · rename_i hperiodic
      cases hl
      rw [← at?_isSome]
      cases hat : s.at? a with
      | none => rw [hat] at hperiodic; cases hperiodic
      | some r => rfl
    · cases hl
  · cases hl

theorem Sound.observe (h : Sound s) (a : Nat) (accepted batch : Bool) : Sound (s.observe a accepted batch) := by
  unfold Registry.observe
  split
  · rename_i r hr
    have ha : s.Exists a := at?_isSome.1 (by rw [hr]; rfl)
    have hown : Sound (if accepted && r.periodic then s.addPeriodicObserveCallback a else s) ∧
        ∀ b, s.Exists b → (if accepted && r.periodic then s.addPeriodicObserveCallback a else s).Exists b := by
      split
      · exact ⟨h.addPeriodic ha, fun b hb => addPeriodic_exists.2 hb⟩
      · exact ⟨h, fun b hb => hb⟩
    dsimp only
    split
    · exact Sound.foldl_addPeriodic _ hown.1 fun b hb => hown.2 b (periodicLinks_exists hb)
    · exact hown.1
  · exact h

theorem Sound.cancelObserve (h : Sound s) (a : Nat) : Sound (s.cancelObserve a) := by
  unfold Registry.cancelObserve
  split
  · refine Sound.foldl_removePeriodic _ ?_
    split
    · exact h.removePeriodic a
    · exact h
  · exact h

theorem Sound.periodicExpired (h : Sound s) (a : Nat) (notified : Bool) : Sound (s.periodicExpired a notified) := by
  unfold Registry.periodicExpired
  split
  · exact h
  · exact h.removePeriodic a

theorem Sound.timedExpired (h : Sound s) (i : Nat) : Sound (s.timedExpired i) := by
  unfold Registry.timedExpired
  split
  · rename_i t ht
    have hset : Sound (if t.callback = .linksList then s.ocSetDelayedCallback .baseline t.data else s) := by
      split
      · exact h.delayed _ (h.timed t (List.mem_of_getElem? ht))
      · exact h
    exact ⟨⟨hset.observed, fun t ht => hset.timed t (List.mem_of_mem_eraseIdx ht), hset.linked, hset.placed,
      hset.numLinks⟩, hset.ids, hset.linkIds, hset.deleted⟩
  · exact h

end Callbacks

/-! ## The cloud -/

section Cloud

variable {s : Registry} {a device : Nat} {ctx : CloudLinks}

theorem Sound.cloud (h : Sound s) {numLinks : Nat → UInt8} {contexts : List CloudLinks}
    (haccounted : Accounted (s.resources.map (·.id)) numLinks ({ s with contexts := contexts } : Registry).fields)
    (hdeleted : ∀ ctx ∈ contexts, ∀ f ∈ ctx.delete, f = none) :
    Sound { s with numLinks := numLinks, contexts := contexts } :=
  ⟨⟨h.observed, h.timed, h.linked, h.placed, accounted_iff.2 haccounted⟩, h.ids, h.linkIds, hdeleted⟩

theorem context_split (hctx : s.context? device = some ctx) (f : CloudLinks → CloudLinks) :
    ctx ∈ s.contexts ∧ ∃ rest, s.fields.Perm (ctx.all ++ rest) ∧
      (s.changeContext device f).fields.Perm ((f ctx).all ++ rest) ∧
      ∀ x ∈ (s.changeContext device f).contexts, x ∈ s.contexts ∨ x = f ctx := by
  obtain ⟨pre, post, hsplit, hmodify, -⟩ := Search.modify_of_find? _ f s.contexts hctx
  have hperm : ∀ (x : CloudLinks) (links : List (Option Nat)), (links ++ (pre ++ x :: post).flatMap (·.all)).Perm
      (x.all ++ (links ++ pre.flatMap (·.all) ++ post.flatMap (·.all))) := by
    intro x links
    rw [List.flatMap_append, List.flatMap_cons, ← List.append_assoc, ← List.append_assoc, ← List.append_assoc]
    exact (List.perm_append_comm.append_right _)
  refine ⟨List.mem_of_find?_eq_some hctx, s.links.map (·.resource) ++ pre.flatMap (·.all) ++ post.flatMap (·.all),
    ?_, ?_, fun x hx => ?_⟩
  · unfold Registry.fields
    rw [hsplit]
    exact hperm ctx _
  · unfold Registry.fields Registry.changeContext
    dsimp only
    rw [hmodify]
    exact hperm (f ctx) _
  · unfold Registry.changeContext at hx
    dsimp only at hx
    rw [hmodify] at hx
    rw [hsplit]
    rcases List.mem_append.1 hx with hx | hx
    · exact .inl (List.mem_append_left _ hx)
    · exact (List.mem_cons.1 hx).symm.imp_left fun hx => List.mem_append_right _ (List.mem_cons_of_mem _ hx)

theorem Sound.moveLinks (h : Sound s) {f : CloudLinks → CloudLinks} (hall : ∀ ctx, (f ctx).all.Perm ctx.all)
    (hdelete : ∀ ctx, (f ctx).delete = ctx.delete) (device : Nat) : Sound (s.changeContext device f) := by
  have hflat : ∀ l : List CloudLinks,
      ((Search.modify (·.device = device) f l).flatMap (·.all)).Perm (l.flatMap (·.all)) := by
    intro l
    induction l with
    | nil => exact .refl _
    | cons x l ih =>
      unfold Search.modify
      split
      · rw [List.flatMap_cons, List.flatMap_cons]
        exact (hall x).append_right _
      · rw [List.flatMap_cons, List.flatMap_cons]
        exact ih.append_left _
  refine h.cloud (h.accounted.perm ((hflat s.contexts).symm.append_left _)) fun x hx g hg => ?_
  obtain ⟨y, hy, rfl | rfl⟩ := Search.mem_modify hx
  · exact h.deleted _ hy g hg
  · exact h.deleted y hy g (hdelete y ▸ hg)

theorem Sound.cloudPublished (h : Sound s) (device i : Nat) : Sound (s.cloudPublished device i) := by
  refine h.moveLinks (fun ctx => ?_) (fun ctx => ?_) device
  · cases hget : ctx.publish[i]? with
    | none => exact .refl _
    | some f =>
      have hperm : (ctx.publish.eraseIdx i ++ (ctx.published ++ [f])).Perm (ctx.publish ++ ctx.published) := by
        obtain ⟨hi, rfl⟩ := List.getElem?_eq_some_iff.1 hget
        have hback : (ctx.publish[i] :: ctx.publish.eraseIdx i).Perm ctx.publish :=
          List.getElem_cons_eraseIdx_perm hi
        rw [← List.append_assoc]
        refine List.perm_append_comm.trans ?_
        exact hback.append_right _
      exact hperm.append_right _
  · split <;> rfl

theorem Sound.cloudRepublish (h : Sound s) (device : Nat) : Sound (s.cloudRepublish device) := by
  unfold Registry.cloudRepublish
  refine h.moveLinks (f := fun ctx => { ctx with publish := ctx.publish ++ ctx.published, published := [] })
    (fun ctx => ?_) (fun _ => rfl) device
  unfold CloudLinks.all
  dsimp only
  rw [List.append_nil]

theorem Sound.deleteLinks (h : Sound s) (hctx : s.context? device = some ctx) {fs : List (Option Nat)}
    {f : CloudLinks → CloudLinks} (hall : ctx.all.Perm (fs ++ (f ctx).all)) (hdelete : (f ctx).delete = []) :
    Sound ((fs.foldl Registry.countDown s).changeContext device f) := by
  obtain ⟨-, rest, hbefore, hbehind, hcontexts⟩ := context_split hctx f
  have hfields : s.fields.Perm (fs ++ (s.changeContext device f).fields) := by
    refine hbefore.trans ((hall.append_right rest).trans ?_)
    rw [List.append_assoc]
    exact hbehind.symm.append_left fs
  obtain ⟨haccounted, heq⟩ := accounted_foldl fs (h.accounted.perm hfields)
  rw [heq]
  refine h.cloud haccounted fun x hx g hg => ?_
  rcases hcontexts x hx with hx | rfl
  · exact h.deleted x hx g hg
  · rw [hdelete] at hg
    cases hg

theorem Sound.cloudDeleted (h : Sound s) (device : Nat) : Sound (s.deleteResourcesHandler device) := by
  unfold Registry.deleteResourcesHandler
  split
  · rename_i ctx hctx
    refine h.deleteLinks hctx ?_ rfl
    unfold CloudLinks.all
    dsimp only
    rw [List.append_nil]
    exact List.perm_append_comm
  · exact h

theorem Sound.cloudDeinit (h : Sound s) (device : Nat) : Sound (s.cloudRdDeinit device) := by
  unfold Registry.cloudRdDeinit
  split
  · rename_i ctx hctx
    refine h.deleteLinks hctx ?_ rfl
    show ctx.all.Perm (ctx.all ++ [])
    rw [List.append_nil]
  · exact h

/-- What `oc_cloud_add_resource` does, where the context has no link of the resource yet. -/
theorem ocCloudAddResource_eq (h : Sound s) {r : Resource} (hr : s.at? a = some r)
    (hctx : s.context? r.device = some ctx) : s.ocCloudAddResource a =
      if some a ∈ ctx.publish ∨ some a ∈ ctx.published then s
      else (s.countUp a).changeContext r.device fun ctx =>
        { ctx with delete := ctx.delete.erase (some a), publish := ctx.publish ++ [some a] } := by
  have hdelete : some a ∉ ctx.delete := fun hmem =>
    nomatch h.deleted ctx (List.mem_of_find?_eq_some hctx) _ hmem
  unfold Registry.ocCloudAddResource Registry.deleteFound
  rw [hr]
  dsimp only
  rw [hctx]
  dsimp only
  rw [if_neg hdelete]

theorem fields_cloudAdd (h : Sound s) (hctx : s.context? device = some ctx) (a : Nat) :
    let s' := s.changeContext device fun ctx =>
      { ctx with delete := ctx.delete.erase (some a), publish := ctx.publish ++ [some a] }
    s'.fields.Perm (some a :: s.fields) ∧ ∀ x ∈ s'.contexts, ∀ g ∈ x.delete, g = none := by
  obtain ⟨hmem, rest, hbefore, hbehind, hcontexts⟩ := context_split hctx fun ctx =>
    { ctx with delete := ctx.delete.erase (some a), publish := ctx.publish ++ [some a] }
  have hdelete : some a ∉ ctx.delete := fun h' => nomatch h.deleted ctx hmem _ h'
  refine ⟨hbehind.trans ?_, fun x hx g hg => ?_⟩
  · refine List.Perm.trans ?_ (hbefore.symm.cons (some a))
    unfold CloudLinks.all
    dsimp only
    rw [List.erase_of_not_mem hdelete]
    simp only [List.append_assoc, List.singleton_append]
    exact List.perm_middle
  · rcases hcontexts x hx with hx | rfl
    · exact h.deleted x hx g hg
    · exact h.deleted ctx hmem g (List.mem_of_mem_erase hg)

theorem Sound.cloudAdd (h : Sound s) (hroom : ∀ r ctx, s.at? a = some r → s.context? r.device = some ctx →
    some a ∉ ctx.publish → some a ∉ ctx.published → s.numLinks a ≠ 255) : Sound (s.ocCloudAddResource a) := by
  cases hr : s.at? a with
  | none =>
    unfold Registry.ocCloudAddResource
    rw [hr]
    exact h
  | some r =>
    cases hctx : s.context? r.device with
    | none =>
      unfold Registry.ocCloudAddResource
      rw [hr]
      dsimp only
      rw [hctx]
      exact h
    | some ctx =>
      rw [ocCloudAddResource_eq h hr hctx]
      split
      · exact h
      · rename_i hnew
        rw [not_or] at hnew
        obtain ⟨hfields, hdeleted⟩ := fields_cloudAdd h hctx a
        exact h.cloud ((h.accounted.up fun _ => hroom r ctx hr hctx hnew.1 hnew.2).perm hfields.symm) hdeleted

/-- What `oc_cloud_delete_resource` leaves: the link that was to be published is gone and counted down, and the one that
has been published has lost its resource. -/
theorem cloudDelete_spec (h : Sound s) {r : Resource} (hr : s.at? a = some r) (hctx : s.context? r.device = some ctx) :
    ∃ numLinks contexts rest, s.ocCloudDeleteResource a = { s with numLinks := numLinks, contexts := contexts } ∧
      (∀ x ∈ contexts, ∀ g ∈ x.delete, g = none) ∧
      (if some a ∈ ctx.published then
        Accounted (s.resources.map (·.id)) numLinks (some a :: rest) ∧
          ({ s with contexts := contexts } : Registry).fields.Perm (none :: rest)
      else Accounted (s.resources.map (·.id)) numLinks rest ∧
        ({ s with contexts := contexts } : Registry).fields.Perm rest) := by
  obtain ⟨hmem, rest, hbefore, hbehind, hcontexts⟩ := context_split hctx fun ctx =>
    { ctx with
      publish := ctx.publish.erase (some a)
      published := ctx.published.erase (some a)
      delete := if some a ∈ ctx.published then ctx.delete ++ [none] else ctx.delete }
  have heq : s.ocCloudDeleteResource a = { s with
      numLinks := (s.deleteFound ctx.publish a).numLinks
      contexts := (s.changeContext r.device fun ctx =>
        { ctx with
          publish := ctx.publish.erase (some a)
          published := ctx.published.erase (some a)
          delete := if some a ∈ ctx.published then ctx.delete ++ [none] else ctx.delete }).contexts } := by
    unfold Registry.ocCloudDeleteResource Registry.deleteFound
    rw [hr]
    dsimp only
    rw [hctx]
    dsimp only
    split <;> rfl
  -- what is counted behind the link that was to be published
  have hpublish : Accounted (s.resources.map (·.id)) (s.deleteFound ctx.publish a).numLinks
      (ctx.publish.erase (some a) ++ (ctx.published ++ (ctx.delete ++ rest))) := by
    have hold := h.accounted.perm hbefore
    unfold CloudLinks.all at hold
    rw [List.append_assoc, List.append_assoc] at hold
    unfold Registry.deleteFound
    split
    · rename_i hfound
      exact accounted_countDown (hold.perm ((List.perm_cons_erase hfound).append_right _))
    · rename_i hfound
      rw [List.erase_of_not_mem hfound]
      exact hold
  refine ⟨_, _, ctx.publish.erase (some a) ++ (ctx.published.erase (some a) ++ (ctx.delete ++ rest)), heq,
    fun x hx g hg => ?_, ?_⟩
  · rcases hcontexts x hx with hx | rfl
    · exact h.deleted x hx g hg
    · dsimp only at hg
      split at hg
      · rcases List.mem_append.1 hg with hg | hg
        · exact h.deleted ctx hmem g hg
        · exact List.mem_singleton.1 hg
      · exact h.deleted ctx hmem g hg
  · unfold CloudLinks.all at hbehind
    dsimp only at hbehind
    split
    · rename_i hfound
      rw [if_pos hfound] at hbehind
      refine ⟨hpublish.perm ?_, hbehind.trans ?_⟩
      · exact (((List.perm_cons_erase hfound).append_right _).append_left _).trans List.perm_middle
      · have hmiddle : (ctx.publish.erase (some a) ++ ctx.published.erase (some a) ++ ctx.delete ++ none :: rest).Perm
            (none :: (ctx.publish.erase (some a) ++ ctx.published.erase (some a) ++ ctx.delete ++ rest)) :=
          List.perm_middle
        simpa only [List.append_assoc, List.singleton_append] using hmiddle
    · rename_i hfound
      rw [if_neg hfound] at hbehind
      rw [List.erase_of_not_mem hfound] at hbehind ⊢
      refine ⟨hpublish, hbehind.trans ?_⟩
      simp only [List.append_assoc]
      exact .refl _

end Cloud

end SmartGarage.References
