/-
The pool allocator `oc_memb.c` with dynamic allocation: a slot counts whether it is in use and keeps the address of
its block, also behind the freeing of the block. A free looks the address up from the first slot on, and `calloc` may
give an address again that an old entry still has.
-/
import SmartGarage.Lib.Run
import SmartGarage.Lib.Search
import Mathlib.Data.List.Perm.Basic

namespace SmartGarage.Memb

open Runs Search

/-! ## The pool -/

/-- An entry of `count` and `mem`; an address is 0 for `NULL`. -/
structure Slot where
  count : Nat
  ptr : Nat
deriving DecidableEq

/-- `struct oc_memb`: `num` is the number of its slots, and `buffersAvailCb` whether there is a callback. -/
structure OcMemb where
  slots : List Slot
  buffersAvailCb : Bool

namespace OcMemb

variable (m : OcMemb)

/-- `num` -/
def num : Nat := m.slots.length

/-- `oc_memb_init` -/
def ocMembInit : OcMemb := { m with slots := m.slots.map fun _ => ⟨0, 0⟩ }

/-- `_oc_memb_alloc`, where `block` is what `calloc` returns: the first slot that is not in use is in use from then on,
also where there is no block. -/
def ocMembAlloc (block : Nat) : OcMemb × Nat :=
  if m.num > 0 then
    if m.slots.any (·.count == 0) then
      ({ m with slots := modify (·.count == 0) (fun s => ⟨s.count + 1, block⟩) m.slots }, block)
    else (m, 0)
  else (m, block)

/-- `oc_memb_numfree` -/
def ocMembNumfree : Nat := m.slots.countP (·.count == 0)

/-- The slots behind a free: the first entry with the address counts one less. The entry itself stays. -/
def freed (ptr : Nat) : List Slot :=
  modify (·.ptr == ptr) (fun s => if s.count > 0 then { s with count := s.count - 1 } else s) m.slots

/-- `_oc_memb_free`, with what the callback is told. -/
def ocMembFree (ptr : Nat) : OcMemb × Option Nat :=
  let m' := { m with slots := m.freed ptr }
  (m', if m.buffersAvailCb then some m'.ocMembNumfree else none)

end OcMemb

/-! ## Runs -/

/-- A pool with the blocks that have been obtained from it and not been freed. -/
structure PoolUse where
  memb : OcMemb
  live : List Nat

/-- A call of `_oc_memb_alloc` with what `calloc` has to give, or of `_oc_memb_free`. -/
inductive Event
  | alloc (block : Nat)
  | free (ptr : Nat)

namespace PoolUse

variable (s : PoolUse)

/-- One call. -/
def step : Event → PoolUse
  | .alloc block =>
    let called := s.memb.ocMembAlloc block
    ⟨called.1, if called.2 = 0 then s.live else called.2 :: s.live⟩
  | .free ptr => ⟨(s.memb.ocMembFree ptr).1, s.live.erase ptr⟩

/-- `calloc` gives no block that is live, and only live blocks are freed. -/
def Proper : Event → Prop
  | .alloc block => block = 0 ∨ block ∉ s.live
  | .free ptr => ptr ∈ s.live

/-- `calloc` does not fail where there is a slot. -/
def Served : Event → Prop
  | .alloc block => s.memb.ocMembNumfree > 0 → block ≠ 0
  | .free _ => True

instance : ∀ e, Decidable (s.Proper e)
  | .alloc _ => inferInstanceAs (Decidable (_ ∨ _))
  | .free _ => inferInstanceAs (Decidable (_ ∈ _))

instance : ∀ e, Decidable (s.Served e)
  | .alloc _ => inferInstanceAs (Decidable (_ → _))
  | .free _ => inferInstanceAs (Decidable True)

/-- A pool that has been initialised. -/
def start (m : OcMemb) : PoolUse := ⟨m.ocMembInit, []⟩

/-- As many slots are in use as there are live blocks, each of which has a slot, and the free of one releases its slot
and no other. -/
structure Accounted : Prop where
  count : s.memb.slots.countP (·.count == 1) = s.live.length
  recorded : ∀ ptr ∈ s.live, ⟨1, ptr⟩ ∈ s.memb.slots
  released : ∀ ptr ∈ s.live, ∃ before behind, s.memb.slots = before ++ ⟨1, ptr⟩ :: behind ∧
    (⟨1, ptr⟩ : Slot) ∉ before ∧ (⟨1, ptr⟩ : Slot) ∉ behind ∧
    (s.memb.ocMembFree ptr).1.slots = before ++ ⟨0, ptr⟩ :: behind

end PoolUse

/-! ## Slots and live blocks -/

/-- The slot has a live block. -/
def Slot.holds (t : Slot) : Bool := t.count == 1 && t.ptr != 0

theorem Slot.holds_iff {t : Slot} : t.holds = true ↔ t.count = 1 ∧ t.ptr ≠ 0 := by
  simp [Slot.holds]

/-- What every run keeps, also where `calloc` fails: the live blocks are those of the slots in use, and no entry before
the slot of a live block has its address. -/
structure PoolUse.Recorded (s : PoolUse) : Prop where
  counts : ∀ t ∈ s.memb.slots, t.count ≤ 1
  blocks : s.live.Perm ((s.memb.slots.filter Slot.holds).map Slot.ptr)
  distinct : s.live.Nodup
  first : s.memb.slots.Pairwise fun t t' => t'.holds = true → t.ptr ≠ t'.ptr

section Steps

variable {s : PoolUse}

theorem PoolUse.Recorded.mem_live (h : s.Recorded) {ptr : Nat} :
    ptr ∈ s.live ↔ ⟨1, ptr⟩ ∈ s.memb.slots ∧ ptr ≠ 0 := by
  rw [h.blocks.mem_iff, List.mem_map]
  constructor
  · rintro ⟨⟨count, p⟩, ht, rfl⟩
    obtain ⟨hmem, hholds⟩ := List.mem_filter.1 ht
    obtain ⟨hcount, hptr⟩ := Slot.holds_iff.1 hholds
    exact ⟨hcount ▸ hmem, hptr⟩
  · rintro ⟨hmem, hptr⟩
    exact ⟨⟨1, ptr⟩, List.mem_filter.2 ⟨hmem, Slot.holds_iff.2 ⟨rfl, hptr⟩⟩, rfl⟩

theorem PoolUse.Recorded.ptr_live (h : s.Recorded) {t : Slot} (ht : t ∈ s.memb.slots) (hholds : t.holds = true) :
    t.ptr ∈ s.live :=
  h.blocks.mem_iff.2 (List.mem_map_of_mem (List.mem_filter.2 ⟨ht, hholds⟩))

/-- The slots in use are those of the live blocks, and those for which there was no block. -/
theorem PoolUse.Recorded.count_eq (h : s.Recorded) :
    s.memb.slots.countP (·.count == 1) = s.live.length + s.memb.slots.countP (· == ⟨1, 0⟩) := by
  rw [h.blocks.length_eq, List.length_map, ← List.countP_eq_length_filter]
  induction s.memb.slots with
  | nil => rfl
  | cons t l ih =>
    rw [List.countP_cons, List.countP_cons, List.countP_cons, ih]
    obtain ⟨count, ptr⟩ := t
    by_cases hcount : count = 1 <;> by_cases hptr : ptr = 0 <;> simp [Slot.holds, hcount, hptr] <;> omega

theorem PoolUse.Recorded.freed_eq (h : s.Recorded) {ptr : Nat} (hlive : ptr ∈ s.live) :
    ∃ before behind, s.memb.slots = before ++ ⟨1, ptr⟩ :: behind ∧ (⟨1, ptr⟩ : Slot) ∉ before ∧
      (⟨1, ptr⟩ : Slot) ∉ behind ∧ s.memb.freed ptr = before ++ ⟨0, ptr⟩ :: behind := by
  obtain ⟨hmem, hptr⟩ := h.mem_live.1 hlive
  obtain ⟨found, hfound⟩ := Option.isSome_iff_exists.1
    (List.find?_isSome.2 ⟨⟨1, ptr⟩, hmem, beq_self_eq_true ptr⟩ : (s.memb.slots.find? (·.ptr == ptr)).isSome = true)
  obtain ⟨before, behind, hslots, hmodify, hbefore⟩ := modify_of_find? (fun t : Slot => t.ptr == ptr)
    (fun t => if t.count > 0 then { t with count := t.count - 1 } else t) s.memb.slots hfound
  have hfoundPtr : found.ptr = ptr := by simpa using List.find?_some hfound
  have hnotBefore : (⟨1, ptr⟩ : Slot) ∉ before := fun hin => by simpa using hbefore _ hin
  -- a slot of the block behind the entry that is found would have an entry with its address before it
  have hnotBehind : (⟨1, ptr⟩ : Slot) ∉ behind := fun hin => by
    have hpairs := h.first
    rw [hslots] at hpairs
    exact (List.pairwise_cons.1 (List.pairwise_append.1 hpairs).2.1).1 _ hin (Slot.holds_iff.2 ⟨rfl, hptr⟩) hfoundPtr
  have heq : found = ⟨1, ptr⟩ := by
    rw [hslots] at hmem
    rcases List.mem_append.1 hmem with hin | hin
    · exact absurd hin hnotBefore
    · rcases List.mem_cons.1 hin with heq | hin
      · exact heq.symm
      · exact absurd hin hnotBehind
  rw [heq] at hslots hmodify
  exact ⟨before, behind, hslots, hnotBefore, hnotBehind, hmodify⟩

theorem PoolUse.Recorded.free (h : s.Recorded) {ptr : Nat} (hlive : ptr ∈ s.live) : (s.step (.free ptr)).Recorded := by
  obtain ⟨before, behind, hslots, -, -, hfreed⟩ := h.freed_eq hlive
  obtain ⟨-, hptr⟩ := h.mem_live.1 hlive
  have hstep : (s.step (.free ptr)).memb.slots = before ++ ⟨0, ptr⟩ :: behind := hfreed
  have hblocks := h.blocks
  have hcounts := h.counts
  have hfirst := h.first
  rw [hslots] at hblocks hcounts hfirst
  refine ⟨?_, ?_, h.distinct.erase ptr, ?_⟩
  · rw [hstep]
    intro t ht
    rcases List.mem_append.1 ht with ht | ht
    · exact hcounts t (List.mem_append_left _ ht)
    · rcases List.mem_cons.1 ht with rfl | ht
      · exact Nat.zero_le 1
      · exact hcounts t (List.mem_append_right _ (List.mem_cons_of_mem _ ht))
  · rw [hstep, List.filter_append, List.filter_cons_of_neg (by simp [Slot.holds])]
    rw [List.filter_append, List.filter_cons_of_pos (Slot.holds_iff.2 ⟨rfl, hptr⟩), List.map_append, List.map_cons] at hblocks
    have herase := (hblocks.trans List.perm_middle).erase ptr
    rw [List.erase_cons_head, ← List.map_append] at herase
    exact herase
  · rw [hstep]
    rw [List.pairwise_append, List.pairwise_cons] at hfirst ⊢
    obtain ⟨hbefore, ⟨hptrs, hbehind⟩, hcross⟩ := hfirst
    refine ⟨hbefore, ⟨hptrs, hbehind⟩, fun t ht t' ht' => ?_⟩
    rcases List.mem_cons.1 ht' with rfl | ht'
    · exact fun hholds => absurd hholds (by simp [Slot.holds])
    · exact hcross t ht t' (List.mem_cons_of_mem _ ht')

theorem step_alloc_full {block : Nat} (hnum : s.memb.num > 0) (hfull : s.memb.ocMembNumfree = 0) :
    s.step (.alloc block) = s := by
  have hnone : ¬s.memb.slots.any (·.count == 0) = true := by
    rw [List.any_eq_true]
    rintro ⟨t, ht, hzero⟩
    exact absurd hfull (Nat.pos_iff_ne_zero.1 (List.countP_pos_iff.2 ⟨t, ht, hzero⟩))
  have hcalled : s.memb.ocMembAlloc block = (s.memb, 0) := by
    unfold OcMemb.ocMembAlloc
    rw [if_pos hnum, if_neg hnone]
  show (⟨(s.memb.ocMembAlloc block).1, _⟩ : PoolUse) = s
  rw [hcalled]
  rfl

theorem step_alloc_free (block : Nat) (hfree : s.memb.ocMembNumfree > 0) :
    ∃ before t behind, s.memb.slots = before ++ t :: behind ∧ t.count = 0 ∧ (∀ t ∈ before, t.count ≠ 0) ∧
      (s.step (.alloc block)).memb.slots = before ++ ⟨1, block⟩ :: behind ∧
      (s.step (.alloc block)).live = if block = 0 then s.live else block :: s.live := by
  obtain ⟨t, ht, hzero⟩ := List.countP_pos_iff.1 hfree
  obtain ⟨found, hfound⟩ := Option.isSome_iff_exists.1
    (List.find?_isSome.2 ⟨t, ht, hzero⟩ : (s.memb.slots.find? (·.count == 0)).isSome = true)
  obtain ⟨before, behind, hslots, hmodify, hbefore⟩ := modify_of_find? (fun t : Slot => t.count == 0)
    (fun t => ⟨t.count + 1, block⟩) s.memb.slots hfound
  have hcount : found.count = 0 := by simpa using List.find?_some hfound
  rw [hcount] at hmodify
  have hcalled : s.memb.ocMembAlloc block = ({ s.memb with slots := before ++ ⟨1, block⟩ :: behind }, block) := by
    unfold OcMemb.ocMembAlloc
    rw [if_pos (show s.memb.num > 0 from List.length_pos_of_mem ht), if_pos (List.any_eq_true.2 ⟨t, ht, hzero⟩), hmodify]
  refine ⟨before, found, behind, hslots, hcount, fun t ht => by simpa using hbefore t ht, ?_, ?_⟩
  · show (s.memb.ocMembAlloc block).1.slots = _
    rw [hcalled]
  · show (if (s.memb.ocMembAlloc block).2 = 0 then s.live else (s.memb.ocMembAlloc block).2 :: s.live) = _
    rw [hcalled]

theorem PoolUse.Recorded.alloc (h : s.Recorded) (hnum : s.memb.num > 0) {block : Nat} (hnew : block = 0 ∨ block ∉ s.live) :
    (s.step (.alloc block)).Recorded := by
  rcases Nat.eq_zero_or_pos s.memb.ocMembNumfree with hfull | hfree
  · rw [step_alloc_full hnum hfull]
    exact h
  obtain ⟨before, t, behind, hslots, hzero, hused, hstep, hlive⟩ := step_alloc_free block hfree
  have hblocks := h.blocks
  have hcounts := h.counts
  have hfirst := h.first
  -- no slot in use holds the block that calloc gives
  have hother {t' : Slot} (ht' : t' ∈ s.memb.slots) (hholds : t'.holds = true) : t'.ptr ≠ block := by
    rcases hnew with rfl | hnew
    · exact (Slot.holds_iff.1 hholds).2
    · exact fun heq => hnew (heq ▸ h.ptr_live ht' hholds)
  have hmemBefore {t' : Slot} (ht' : t' ∈ before) : t' ∈ s.memb.slots := hslots ▸ List.mem_append_left _ ht'
  have hmemBehind {t' : Slot} (ht' : t' ∈ behind) : t' ∈ s.memb.slots :=
    hslots ▸ List.mem_append_right _ (List.mem_cons_of_mem _ ht')
  rw [hslots] at hblocks hfirst
  rw [List.filter_append, List.filter_cons_of_neg (by simp [Slot.holds, hzero]), List.map_append] at hblocks
  refine ⟨?_, ?_, ?_, ?_⟩
  · rw [hstep]
    intro t' ht'
    rcases List.mem_append.1 ht' with ht' | ht'
    · exact hcounts t' (hmemBefore ht')
    · rcases List.mem_cons.1 ht' with rfl | ht'
      · exact Nat.le_refl 1
      · exact hcounts t' (hmemBehind ht')
  · rw [hstep, hlive, List.filter_append]
    by_cases hblock : block = 0
    · rw [if_pos hblock, List.filter_cons_of_neg (by simp [Slot.holds, hblock]), List.map_append]
      exact hblocks
    · rw [if_neg hblock, List.filter_cons_of_pos (Slot.holds_iff.2 ⟨rfl, hblock⟩), List.map_append, List.map_cons]
      exact (hblocks.cons block).trans List.perm_middle.symm
  · rw [hlive]
    split
    · exact h.distinct
    · rename_i hblock
      exact List.nodup_cons.2 ⟨hnew.resolve_left hblock, h.distinct⟩
  · rw [hstep]
    rw [List.pairwise_append, List.pairwise_cons] at hfirst ⊢
    obtain ⟨hbefore, ⟨-, hbehind⟩, hcross⟩ := hfirst
    refine ⟨hbefore, ⟨fun t' ht' hholds => (hother (hmemBehind ht') hholds).symm, hbehind⟩, fun t₁ ht₁ t' ht' hholds => ?_⟩
    rcases List.mem_cons.1 ht' with rfl | ht'
    · -- the slots before the one that is taken are in use
      have hone : t₁.count = 1 := by
        have := hcounts t₁ (hmemBefore ht₁)
        have := hused t₁ ht₁
        omega
      intro heq
      exact hother (hmemBefore ht₁) (Slot.holds_iff.2 ⟨hone, heq ▸ (Slot.holds_iff.1 hholds).2⟩) heq
    · exact hcross t₁ ht₁ t' (List.mem_cons_of_mem _ ht') hholds

end Steps

/-! ## When the slots are accounted for -/

namespace PoolUse

/-- No slot is in use for which there was no block. -/
def NoneLost (s : PoolUse) : Prop := (⟨1, 0⟩ : Slot) ∉ s.memb.slots

variable {s : PoolUse}

theorem Recorded.accounted_iff (h : s.Recorded) : s.Accounted ↔ s.NoneLost := by
  have hcount := h.count_eq
  constructor
  · intro haccounted hlost
    have hpos : 0 < s.memb.slots.countP (· == ⟨1, 0⟩) := List.countP_pos_iff.2 ⟨_, hlost, beq_self_eq_true _⟩
    have := haccounted.count
    omega
  · intro hnone
    have hzero : s.memb.slots.countP (· == ⟨1, 0⟩) = 0 :=
      List.countP_eq_zero.2 fun t ht heq => hnone (eq_of_beq heq ▸ ht)
    exact ⟨by omega, fun ptr hptr => (h.mem_live.1 hptr).1, fun ptr hptr => h.freed_eq hptr⟩

/-- The number of slots does not change. -/
theorem num_step (s : PoolUse) (e : Event) : (s.step e).memb.num = s.memb.num := by
  cases e with
  | alloc block =>
    rcases Nat.eq_zero_or_pos s.memb.ocMembNumfree with hfull | hfree
    · rcases Nat.eq_zero_or_pos s.memb.num with hnum | hnum
      · show (s.memb.ocMembAlloc block).1.num = s.memb.num
        unfold OcMemb.ocMembAlloc
        rw [if_neg (by omega)]
      · rw [step_alloc_full hnum hfull]
    · obtain ⟨before, t, behind, hslots, -, -, hstep, -⟩ := step_alloc_free block hfree
      unfold OcMemb.num
      rw [hstep, hslots, List.length_append, List.length_append]
      rfl
  | free ptr =>
    show (s.memb.freed ptr).length = s.memb.slots.length
    have hlength := congrArg List.length (map_modify (g := fun _ : Slot => ()) (p := fun t => t.ptr == ptr)
      (f := fun t => if t.count > 0 then { t with count := t.count - 1 } else t) (fun _ => rfl) s.memb.slots)
    rw [List.length_map, List.length_map] at hlength
    exact hlength

/-- What holds in every state of a run. -/
structure Invariant (s : PoolUse) : Prop extends Recorded s where
  num : s.memb.num > 0

theorem Invariant.step (h : s.Invariant) {e : Event} (hproper : s.Proper e) : (s.step e).Invariant := by
  refine ⟨?_, num_step s e ▸ h.num⟩
  cases e with
  | alloc block => exact h.toRecorded.alloc h.num hproper
  | free ptr => exact h.toRecorded.free hproper

theorem invariant_start (m : OcMemb) (hnum : m.num > 0) : (start m).Invariant := by
  have hslots : ∀ t ∈ (start m).memb.slots, t = ⟨0, 0⟩ := by
    intro t ht
    obtain ⟨-, -, rfl⟩ := List.mem_map.1 ht
    rfl
  have hholds : ∀ t ∈ (start m).memb.slots, ¬t.holds = true := fun t ht => by simp [hslots t ht, Slot.holds]
  refine ⟨⟨fun t ht => by simp [hslots t ht], ?_, List.nodup_nil, ?_⟩, ?_⟩
  · rw [List.filter_eq_nil_iff.2 hholds]
    exact List.Perm.nil
  · exact List.pairwise_of_forall_mem_list fun t _ t' ht' hholds' => absurd hholds' (hholds t' ht')
  · unfold OcMemb.num at hnum ⊢
    rw [start, OcMemb.ocMembInit, List.length_map]
    exact hnum

theorem noneLost_step (h : s.Invariant) (hnone : s.NoneLost) {e : Event} (hproper : s.Proper e) :
    (s.step e).NoneLost ↔ s.Served e := by
  cases e with
  | alloc block =>
    rcases Nat.eq_zero_or_pos s.memb.ocMembNumfree with hfull | hfree
    · rw [step_alloc_full h.num hfull]
      exact iff_of_true hnone fun hfree => absurd hfree (by omega)
    · obtain ⟨before, t, behind, hslots, -, -, hstep, -⟩ := step_alloc_free block hfree
      unfold NoneLost at hnone ⊢
      rw [hstep, List.mem_append, List.mem_cons]
      rw [hslots, List.mem_append, List.mem_cons] at hnone
      constructor
      · exact fun hnot _ hblock => hnot (.inr (.inl (hblock ▸ rfl)))
      · rintro hserved (hin | hin | hin)
        · exact hnone (.inl hin)
        · exact hserved hfree (congrArg Slot.ptr hin).symm
        · exact hnone (.inr (.inr hin))
  | free ptr =>
    obtain ⟨before, behind, hslots, -, -, hfreed⟩ := h.toRecorded.freed_eq hproper
    refine iff_of_true ?_ trivial
    show (⟨1, 0⟩ : Slot) ∉ s.memb.freed ptr
    unfold NoneLost at hnone
    rw [hslots, List.mem_append, List.mem_cons] at hnone
    rw [hfreed, List.mem_append, List.mem_cons]
    rintro (hin | hin | hin)
    · exact hnone (.inl hin)
    · exact Nat.one_ne_zero (congrArg Slot.count hin)
    · exact hnone (.inr (.inr hin))

/-- The slots are accounted for in every state of a run if and only if `calloc` does not fail where there is a
slot. -/
theorem accounted_run_iff (m : OcMemb) (hnum : m.num > 0) (l : List Event) (h : Guarded step Proper (start m) l) :
    (∀ l', l' <+: l → (runFrom step (start m) l').Accounted) ↔ Guarded step Served (start m) l := by
  have hstart := invariant_start m hnum
  have hnone : (start m).NoneLost := fun hin => by
    obtain ⟨-, -, heq⟩ := List.mem_map.1 hin
    cases heq
  refine always_iff_guarded_of
    (fun s (hinv : s.Invariant ∧ s.NoneLost) => (hinv.1.toRecorded.accounted_iff).2 hinv.2)
    (fun s e hinv hproper hserved => ⟨hinv.1.step hproper, (noneLost_step hinv.1 hinv.2 hproper).2 hserved⟩)
    (fun s e hinv hproper hserved haccounted => hserved ((noneLost_step hinv.1 hinv.2 hproper).1
      (((hinv.1.step hproper).toRecorded.accounted_iff).1 haccounted)))
    ⟨hstart, hnone⟩ h

/-- A pool of two slots. -/
def twoSlots : OcMemb := ⟨[⟨0, 0⟩, ⟨0, 0⟩], false⟩

/-- Two blocks, the first of which is freed and given again. -/
theorem accounted_run_reused :
    (runFrom step (start twoSlots) [.alloc 8, .alloc 16, .free 8, .alloc 8, .free 16]).Accounted :=
  (accounted_run_iff twoSlots (by decide) [.alloc 8, .alloc 16, .free 8, .alloc 8, .free 16] (by decide)).2 (by decide)
    _ (List.prefix_refl _)

/-- There is no memory for a block: its slot is in use. -/
theorem accounted_run_failed : ¬∀ (m : OcMemb) (l : List Event), m.num > 0 → Guarded step Proper (start m) l →
    ∀ l', l' <+: l → (runFrom step (start m) l').Accounted := fun hall =>
  absurd (hall twoSlots [.alloc 0] (by decide) (by decide) _ (List.prefix_refl _)).count (by decide)

end PoolUse

end SmartGarage.Memb
