/-
Counted objects: each object on a heap counts the references to it in a counter of `w` bits, and is freed when the
counter comes to zero. The counts are right if they are those of the references that there are; an object that is
live and has no reference has been leaked, and an access to one that is not live is a fault.
-/
import Mathlib.Data.List.Count
import Mathlib.Data.List.Nodup
import Mathlib.Data.BitVec

namespace RefCount

variable {α : Type} {w : Nat}

/-! ## The heap -/

/-- An object: its name, which is used for no other one, its counter, and what it holds. -/
structure Obj (w : Nat) (α : Type) where
  id : Nat
  count : BitVec w
  val : α

/-- The live objects, the next name, and the number of accesses to objects that were not live. -/
structure Heap (w : Nat) (α : Type) where
  live : List (Obj w α)
  next : Nat
  faults : Nat

namespace Heap

/-- There is no object. -/
def empty : Heap w α := ⟨[], 0, 0⟩

variable (h : Heap w α) (id : Nat)

/-- The object is live. -/
def Live : Prop := ∃ o ∈ h.live, o.id = id

/-- A live object. -/
def get? : Option (Obj w α) := h.live.find? fun o => o.id = id

/-- A new object, with one reference to it. -/
def alloc (v : α) : Heap w α := { h with live := h.live ++ [⟨h.next, 1#w, v⟩], next := h.next + 1 }

/-- An access to the counter of an object, which changes it, or frees the object. -/
def access (f : BitVec w → Option (BitVec w)) : Heap w α :=
  match h.get? id with
  | some _ => { h with
      live := h.live.filterMap fun o => if o.id = id then (f o.count).map ({ o with count := · }) else some o }
  | none => { h with faults := h.faults + 1 }

/-- One reference more. -/
def retain : Heap w α := h.access id fun n => some (n + 1#w)

/-- One reference less; the object stays. -/
def drop : Heap w α := h.access id fun n => some (n - 1#w)

/-- One reference less; the object is freed when the counter is zero. -/
def release : Heap w α := h.access id fun n => if n - 1#w = 0#w then none else some (n - 1#w)

end Heap

/-! ## Access -/

section Access

variable {h : Heap w α} {id other : Nat} {o : Obj w α} {f : BitVec w → Option (BitVec w)}

theorem Heap.get?_mem (hget : h.get? id = some o) : o ∈ h.live ∧ o.id = id :=
  ⟨List.mem_of_find?_eq_some hget, by simpa using List.find?_some hget⟩

theorem Heap.Live.get? (hlive : h.Live id) : ∃ o, h.get? id = some o := by
  obtain ⟨o, ho, hid⟩ := hlive
  exact Option.isSome_iff_exists.1 (List.find?_isSome.2 ⟨o, ho, decide_eq_true hid⟩)

theorem Heap.access_live (hlive : h.Live id) (f : BitVec w → Option (BitVec w)) :
    h.access id f = { h with
      live := h.live.filterMap fun o => if o.id = id then (f o.count).map ({ o with count := · }) else some o } := by
  obtain ⟨o, hget⟩ := hlive.get?
  unfold Heap.access
  rw [hget]

theorem Heap.mem_access (hlive : h.Live id) : o ∈ (h.access id f).live ↔
    (o ∈ h.live ∧ o.id ≠ id) ∨ ∃ p ∈ h.live, p.id = id ∧ ∃ n, f p.count = some n ∧ o = { p with count := n } := by
  rw [access_live hlive, List.mem_filterMap]
  constructor
  · rintro ⟨p, hp, hsome⟩
    by_cases hid : p.id = id
    · rw [if_pos hid, Option.map_eq_some_iff] at hsome
      obtain ⟨n, hn, rfl⟩ := hsome
      exact .inr ⟨p, hp, hid, n, hn, rfl⟩
    · rw [if_neg hid] at hsome
      cases hsome
      exact .inl ⟨hp, hid⟩
  · rintro (⟨ho, hid⟩ | ⟨p, hp, hid, n, hn, rfl⟩)
    · exact ⟨o, ho, if_neg hid⟩
    · exact ⟨p, hp, by rw [if_pos hid, hn]; rfl⟩

theorem Heap.get?_alloc (hfresh : ∀ o ∈ h.live, o.id < h.next) (v : α) :
    (h.alloc v).get? h.next = some ⟨h.next, 1#w, v⟩ := by
  have hnone : h.live.find? (fun o => o.id = h.next) = none := by
    refine List.find?_eq_none.2 fun o ho => ?_
    rw [decide_eq_true_eq]
    exact Nat.ne_of_lt (hfresh o ho)
  unfold Heap.get? Heap.alloc
  rw [List.find?_append, hnone, Option.none_or]
  exact List.find?_cons_of_pos (decide_eq_true rfl)

theorem Heap.Live.access (hlive : h.Live other) (hne : other ≠ id) : (h.access id f).Live other := by
  by_cases hid : h.Live id
  · obtain ⟨o, ho, rfl⟩ := hlive
    exact ⟨o, (mem_access hid).2 (.inl ⟨ho, hne⟩), rfl⟩
  · have hnone : h.get? id = none := Option.eq_none_iff_forall_ne_some.2 fun o ho => hid ⟨o, get?_mem ho⟩
    unfold Heap.access
    rw [hnone]
    exact hlive

theorem Heap.live_access_self (ho : o ∈ h.live) (hid : o.id = id) (hsome : f o.count ≠ none) :
    (h.access id f).Live id := by
  obtain ⟨n, hn⟩ := Option.ne_none_iff_exists'.1 hsome
  exact ⟨_, (mem_access ⟨o, ho, hid⟩).2 (.inr ⟨o, ho, hid, n, hn, rfl⟩), hid⟩

theorem Heap.Live.drop (hlive : h.Live other) (id : Nat) : (h.drop id).Live other := by
  by_cases heq : other = id
  · obtain ⟨o, ho, hid⟩ := hlive
    subst heq
    exact live_access_self ho hid (Option.some_ne_none _)
  · exact hlive.access heq

theorem Heap.Live.alloc (hlive : h.Live id) (v : α) : (h.alloc v).Live id := by
  obtain ⟨o, ho, hid⟩ := hlive
  exact ⟨o, List.mem_append_left _ ho, hid⟩

theorem Heap.map_val_retain (hlive : h.Live id) : (h.retain id).live.map Obj.val = h.live.map Obj.val := by
  unfold Heap.retain
  rw [access_live hlive]
  dsimp only
  generalize h.live = l
  induction l with
  | nil => rfl
  | cons o l ih =>
    rw [List.map_cons, ← ih, List.filterMap_cons]
    by_cases hid : o.id = id
    · simp only [if_pos hid, Option.map_some, List.map_cons]
    · simp only [if_neg hid, List.map_cons]

theorem Heap.map_id_access (hlive : h.Live id) :
    ((h.access id f).live.map Obj.id).Sublist (h.live.map Obj.id) := by
  rw [access_live hlive]
  dsimp only
  generalize h.live = l
  induction l with
  | nil => exact .refl _
  | cons o l ih =>
    rw [List.filterMap_cons]
    split
    · rw [List.map_cons]
      exact ih.cons _
    · rename_i p hp
      have hid : p.id = o.id := by
        split at hp
        · obtain ⟨n, -, rfl⟩ := Option.map_eq_some_iff.1 hp
          rfl
        · cases hp
          rfl
      rw [List.map_cons, List.map_cons, hid]
      exact ih.cons_cons _

end Access

/-! ## Counts -/

/-- The counts are those of the references: nothing has been accessed that was not live, every reference is to a live
object, and every live object has one. -/
structure Counted (h : Heap w α) (refs : List Nat) : Prop where
  faults : h.faults = 0
  nodup : (h.live.map Obj.id).Nodup
  fresh : ∀ o ∈ h.live, o.id < h.next
  live : ∀ id ∈ refs, h.Live id
  count : ∀ o ∈ h.live, o.count = BitVec.ofNat w (refs.count o.id)
  referred : ∀ o ∈ h.live, o.id ∈ refs

namespace Counted

variable {h : Heap w α} {refs refs' : List Nat} {id : Nat}

theorem empty : Counted (Heap.empty : Heap w α) [] where
  faults := rfl
  nodup := List.nodup_nil
  fresh := nofun
  live := nofun
  count := nofun
  referred := nofun

theorem perm (hc : Counted h refs) (hperm : refs.Perm refs') : Counted h refs' where
  faults := hc.faults
  nodup := hc.nodup
  fresh := hc.fresh
  live id hid := hc.live id (hperm.mem_iff.2 hid)
  count o ho := by rw [← hperm.count_eq]; exact hc.count o ho
  referred o ho := hperm.mem_iff.1 (hc.referred o ho)

theorem live_iff (hc : Counted h refs) : h.Live id ↔ id ∈ refs := by
  constructor
  · rintro ⟨o, ho, rfl⟩
    exact hc.referred o ho
  · exact hc.live id

/-- The counter of a live object is not zero, as long as it does not overflow. -/
theorem count_ne_zero (hc : Counted h refs) {o : Obj w α} (ho : o ∈ h.live) (hbound : refs.count o.id < 2 ^ w) :
    o.count ≠ 0#w := by
  rw [hc.count o ho]
  intro hzero
  have hval : (BitVec.ofNat w (refs.count o.id)).toNat = 0 := (congrArg BitVec.toNat hzero).trans BitVec.toNat_zero
  rw [BitVec.toNat_ofNat, Nat.mod_eq_of_lt hbound] at hval
  exact List.count_eq_zero.1 hval (hc.referred o ho)

theorem lt_next (hc : Counted h refs) (hid : id ∈ refs) : id < h.next := by
  obtain ⟨o, ho, rfl⟩ := hc.live id hid
  exact hc.fresh o ho

theorem alloc (hc : Counted h refs) (v : α) : Counted (h.alloc v) (h.next :: refs) := by
  have hnew : h.next ∉ refs := fun hmem => Nat.lt_irrefl _ (hc.lt_next hmem)
  refine ⟨hc.faults, ?_, fun o ho => ?_, fun id hid => ?_, fun o ho => ?_, fun o ho => ?_⟩
  · simp only [Heap.alloc, List.map_append, List.map_cons, List.map_nil]
    refine List.nodup_append.2 ⟨hc.nodup, List.nodup_singleton _, fun a ha b hb => ?_⟩
    obtain ⟨o, ho, rfl⟩ := List.mem_map.1 ha
    rw [List.mem_singleton.1 hb]
    exact Nat.ne_of_lt (hc.fresh o ho)
  · rcases List.mem_append.1 ho with ho | ho
    · exact Nat.lt_succ_of_lt (hc.fresh o ho)
    · rw [List.mem_singleton.1 ho]
      exact Nat.lt_succ_self _
  · rcases List.mem_cons.1 hid with rfl | hid
    · exact ⟨_, List.mem_append_right _ (List.mem_singleton.2 rfl), rfl⟩
    · exact (hc.live id hid).alloc v
  · rcases List.mem_append.1 ho with ho | ho
    · rw [List.count_cons_of_ne (Nat.ne_of_lt (hc.fresh o ho)).symm]
      exact hc.count o ho
    · rw [List.mem_singleton.1 ho, List.count_cons_self, List.count_eq_zero_of_not_mem hnew]
  · rcases List.mem_append.1 ho with ho | ho
    · exact List.mem_cons_of_mem _ (hc.referred o ho)
    · rw [List.mem_singleton.1 ho]
      exact List.mem_cons_self

/-- An access that leaves one reference list for another: the counter of the object comes out right, and the object is
freed if it is not referred to any more. -/
theorem access (hc : Counted h refs) (hlive : h.Live id) {f : BitVec w → Option (BitVec w)}
    (hother : ∀ other, other ≠ id → refs'.count other = refs.count other)
    (hfreed : f (BitVec.ofNat w (refs.count id)) = none → id ∉ refs')
    (hkept : ∀ n, f (BitVec.ofNat w (refs.count id)) = some n → id ∈ refs' ∧ n = BitVec.ofNat w (refs'.count id)) :
    Counted (h.access id f) refs' := by
  have hmem : ∀ other, other ≠ id → (other ∈ refs' ↔ other ∈ refs) := by
    intro other hne
    rw [← List.count_pos_iff, ← List.count_pos_iff, hother other hne]
  refine ⟨?_, hc.nodup.sublist (Heap.map_id_access hlive), fun o ho => ?_, fun other hid => ?_, fun o ho => ?_,
    fun o ho => ?_⟩
  · rw [Heap.access_live hlive]
    exact hc.faults
  · have hnext : (h.access id f).next = h.next := by rw [Heap.access_live hlive]
    rw [hnext]
    rcases (Heap.mem_access hlive).1 ho with ⟨ho, -⟩ | ⟨p, hp, -, n, -, rfl⟩
    · exact hc.fresh o ho
    · exact hc.fresh p hp
  · by_cases heq : other = id
    · subst heq
      have ⟨o, ho, hoid⟩ := hlive
      refine Heap.live_access_self ho hoid ?_
      rw [hc.count o ho, hoid]
      exact fun hnone => hfreed hnone hid
    · exact (hc.live other ((hmem other heq).1 hid)).access heq
  · rcases (Heap.mem_access hlive).1 ho with ⟨ho, hne⟩ | ⟨p, hp, hid, n, hn, rfl⟩
    · rw [hother o.id hne]
      exact hc.count o ho
    · rw [hc.count p hp, hid] at hn
      dsimp only
      rw [hid]
      exact (hkept n hn).2
  · rcases (Heap.mem_access hlive).1 ho with ⟨ho, hne⟩ | ⟨p, hp, hid, n, hn, rfl⟩
    · exact (hmem o.id hne).2 (hc.referred o ho)
    · rw [hc.count p hp, hid] at hn
      dsimp only
      rw [hid]
      exact (hkept n hn).1

theorem retain (hc : Counted h refs) (hid : id ∈ refs) : Counted (h.retain id) (id :: refs) := by
  refine hc.access (hc.live id hid) (fun other hne => List.count_cons_of_ne hne.symm) nofun fun n hn => ?_
  cases hn
  refine ⟨List.mem_cons_self, ?_⟩
  rw [List.count_cons_self, BitVec.ofNat_add]

/-- Another reference less for an object that has more than that one. -/
theorem drop (hc : Counted h (id :: refs)) (hid : id ∈ refs) : Counted (h.drop id) refs := by
  refine hc.access (hc.live id List.mem_cons_self) (fun other hne => (List.count_cons_of_ne hne.symm).symm) nofun
    fun n hn => ?_
  cases hn
  refine ⟨hid, ?_⟩
  rw [List.count_cons_self, BitVec.ofNat_add, BitVec.add_sub_cancel]

/-- The object is freed with its last reference, as long as the counter does not overflow. -/
theorem release (hc : Counted h (id :: refs)) (hbound : refs.count id < 2 ^ w) : Counted (h.release id) refs := by
  have hdown : BitVec.ofNat w ((id :: refs).count id) - 1#w = BitVec.ofNat w (refs.count id) := by
    rw [List.count_cons_self, BitVec.ofNat_add, BitVec.add_sub_cancel]
  have hzero : BitVec.ofNat w (refs.count id) = 0#w ↔ id ∉ refs := by
    rw [← List.count_eq_zero, ← BitVec.toNat_inj, BitVec.toNat_ofNat, BitVec.toNat_ofNat, Nat.mod_eq_of_lt hbound,
      Nat.zero_mod]
  refine hc.access (hc.live id List.mem_cons_self) (fun other hne => (List.count_cons_of_ne hne.symm).symm)
    (fun hnone => ?_) fun n hn => ?_
  · rw [hdown] at hnone
    split at hnone
    · rename_i h0
      exact hzero.1 h0
    · cases hnone
  · rw [hdown] at hn
    split at hn
    · cases hn
    · rename_i h0
      cases hn
      exact ⟨not_not.1 (mt hzero.2 h0), rfl⟩

theorem get?_of_mem (hc : Counted h refs) {o : Obj w α} (ho : o ∈ h.live) : h.get? o.id = some o := by
  obtain ⟨p, hp⟩ := Heap.Live.get? ⟨o, ho, rfl⟩
  obtain ⟨hmem, hid⟩ := Heap.get?_mem hp
  rw [hp, List.inj_on_of_nodup_map hc.nodup hmem ho hid]

end Counted

/-! ## Leaks -/

/-- Below zero there is no reference to give up: the counter wraps around, and the object stays. -/
theorem Heap.live_release_zero {h : Heap w α} {id : Nat} {o : Obj w α} (ho : h.get? id = some o) (hw : 0 < w)
    (hzero : o.count = 0#w) : (h.release id).Live id := by
  obtain ⟨hmem, hid⟩ := get?_mem ho
  refine live_access_self hmem hid ?_
  have hne : 0#w - 1#w ≠ 0#w := by
    intro h0
    have hone : (1#w).toNat = (0#w).toNat := congrArg BitVec.toNat (sub_eq_zero.1 h0).symm
    rw [BitVec.toNat_ofNat, BitVec.toNat_ofNat, Nat.zero_mod, Nat.mod_eq_of_lt (Nat.one_lt_two_pow hw.ne')] at hone
    exact Nat.one_ne_zero hone
  rw [hzero, if_neg hne]
  exact Option.some_ne_none _

/-- A live object that nothing refers to. -/
structure Leaked (h : Heap w α) (refs : List Nat) (id : Nat) : Prop where
  live : h.Live id
  unreferred : id ∉ refs

end RefCount
