/-
`oc_mmem.c` without dynamic allocation: three pools of blocks that stand one behind the other, and are
moved together when a block is freed. A pool counts in elements and its memory is made of bytes; where an
element is wider than a byte, the code that moves the blocks takes the one for the other.
-/
import SmartGarage.Lib.Memory
import SmartGarage.Lib.Run
import Mathlib.Data.List.TakeWhile
import Mathlib.Data.UInt

namespace SmartGarage.Mmem

variable {pre rest : List Block}

open Memory Runs

/-! ## Pools -/

/-- `struct oc_mmem` of a live block: `handle` stands for its address, `ptr` is the offset of the block in the
pool in bytes, and `size` counts elements. -/
structure Block where
  handle : Nat
  ptr : Nat
  size : Nat
deriving DecidableEq

/-- A pool: its memory, its list of blocks, and `avail_bytes`, `avail_ints` or `avail_doubles`. -/
structure Pool where
  memory : List UInt8
  blocks : List Block
  avail : Nat
deriving DecidableEq

/-- `pool` -/
inductive PoolType
  | bytePool | intPool | doublePool
deriving DecidableEq

/-- The size of an element of a pool. -/
def PoolType.width : PoolType → Nat
  | .bytePool => 1
  | .intPool => 8
  | .doublePool => 8

/-- `OC_BYTES_POOL_SIZE`, `OC_INTS_POOL_SIZE` and `OC_DOUBLES_POOL_SIZE` -/
structure PoolSizes where
  bytes : Nat
  ints : Nat
  doubles : Nat

/-- The size of a pool, in elements. -/
def PoolSizes.of (sizes : PoolSizes) : PoolType → Nat
  | .bytePool => sizes.bytes
  | .intPool => sizes.ints
  | .doublePool => sizes.doubles

/-- The bytes of a block. -/
def Pool.contents (p : Pool) (width : Nat) (b : Block) : List UInt8 := read p.memory b.ptr (width * b.size)

section Operations

variable (width capacity : Nat) (p : Pool) (m : Nat)

/-- `_oc_mmem_alloc` in a pool. -/
def Pool.alloc (size : Nat) : Pool :=
  if p.avail < size then p
  else
    { p with
      blocks := p.blocks ++ [⟨m, width * (capacity - p.avail), size⟩]
      avail := p.avail - size }

/-- `n->ptr = (void *)((char *)n->ptr - m->size)` -/
def Block.moveDown (b n : Block) : Block := { n with ptr := n.ptr - b.size }

/-- `memmove(m->ptr, m->next->ptr, &pool[SIZE - avail] - m->next->ptr)`: the difference of two pointers counts
elements, and `memmove` counts bytes. -/
def Pool.moveDown (b n : Block) : List UInt8 :=
  move p.memory b.ptr n.ptr ((width * (capacity - p.avail) - n.ptr) / width)

/-- The memory behind the freeing of a block: what stands behind the block is moved to its place. -/
def Pool.closeGap (b : Block) : List Block → List UInt8
  | [] => p.memory
  | n :: _ => p.moveDown width capacity b n

/-- `_oc_mmem_free` in a pool, for a handle that is in its list. -/
def Pool.free : Pool :=
  match p.blocks.dropWhile (·.handle ≠ m) with
  | [] => p
  | b :: rest =>
    { memory := p.closeGap width capacity b rest
      blocks := p.blocks.takeWhile (·.handle ≠ m) ++ rest.map b.moveDown
      avail := p.avail + b.size }

/-- The owner of a block writes to it. -/
def Pool.store (offset : Nat) (bytes : List UInt8) : Pool :=
  match p.blocks.find? (·.handle = m) with
  | some b =>
    if offset + bytes.length ≤ width * b.size then { p with memory := write p.memory (b.ptr + offset) bytes } else p
  | none => p

end Operations

/-! ## Runs -/

/-- The three pools. -/
abbrev Pools : Type := PoolType → Pool

/-- What happens to the pools. -/
inductive Event
  | alloc (m size : Nat) (type : PoolType)
  | free (m : Nat) (type : PoolType)
  | store (m : Nat) (type : PoolType) (offset : Nat) (bytes : List UInt8)

/-- The pool that an event is about. -/
def Event.type : Event → PoolType
  | .alloc _ _ type => type
  | .free _ type => type
  | .store _ type _ _ => type

/-- The handle that an event is about. -/
def Event.handle : Event → Nat
  | .alloc m _ _ => m
  | .free m _ => m
  | .store m _ _ _ => m

/-- One event in its pool. -/
def Pool.step (sizes : PoolSizes) (p : Pool) : Event → Pool
  | .alloc m size type => p.alloc type.width (sizes.of type) m size
  | .free m type => p.free type.width (sizes.of type) m
  | .store m type offset bytes => p.store type.width m offset bytes

/-- One event. -/
def Pools.step (sizes : PoolSizes) (s : Pools) (e : Event) : Pools :=
  fun type => if type = e.type then (s type).step sizes e else s type

/-- `oc_mmem_init` -/
def Pools.init (sizes : PoolSizes) : Pools := fun type =>
  ⟨List.replicate (type.width * sizes.of type) 0, [], sizes.of type⟩

/-- The handles of the live blocks of a pool. -/
def Pool.handles (p : Pool) : List Nat := p.blocks.map (·.handle)

/-- Handles are used as they are meant: one that is not live is allocated, and one that is live is freed in its
pool. -/
def Proper (s : Pools) : Event → Prop
  | .alloc m _ _ => ∀ type, m ∉ (s type).handles
  | .free m type => m ∈ (s type).handles
  | .store .. => True

/-! ## What the pools are meant to be -/

/-- Blocks that stand one behind the other, from a place on. -/
def Packed (width : Nat) : Nat → List Block → Prop
  | _, [] => True
  | start, b :: rest => b.ptr = start ∧ Packed width (start + width * b.size) rest

/-- The size of some blocks, in elements. -/
def totalSize (l : List Block) : Nat := (l.map (·.size)).sum

/-- Two blocks, the first of which stands before the second one, have no byte in common. -/
def Before (width : Nat) (b b' : Block) : Prop := b.ptr + width * b.size ≤ b'.ptr

/-- The blocks of a pool are contiguous from its start in the order of the list, they are disjoint, and their size
and what is available make up the pool. -/
structure Pool.Valid (width capacity : Nat) (p : Pool) : Prop where
  packed : Packed width 0 p.blocks
  disjoint : p.blocks.Pairwise (Before width)
  total : totalSize p.blocks + p.avail = capacity

/-- An event leaves the contents of the blocks of all other handles as they are. -/
def KeepsOthers (s s' : Pools) (m : Nat) : Prop :=
  ∀ type, ∀ b ∈ (s type).blocks, b.handle ≠ m →
    ∃ b' ∈ (s' type).blocks, b'.handle = b.handle ∧ b'.size = b.size ∧
      (s' type).contents type.width b' = (s type).contents type.width b

/-- A step leaves the pools as they are meant to be. -/
def Sound (sizes : PoolSizes) (s : Pools) (e : Event) : Prop :=
  (∀ type, (s.step sizes e type).Valid type.width (sizes.of type)) ∧ KeepsOthers s (s.step sizes e) e.handle

/-- A block that is freed is one of single bytes, is empty, or is the last one of its pool. -/
def FreesSafely (s : Pools) : Event → Prop
  | .free m type => type.width = 1 ∨ ∀ b ∈ (s type).blocks, b.handle = m →
      b.size = 0 ∨ (s type).blocks.getLast? = some b
  | _ => True

/-! ## Packed blocks -/

section Packed

variable {width start : Nat} {l l' : List Block} {b : Block}

theorem totalSize_append : totalSize (l ++ l') = totalSize l + totalSize l' := by
  unfold totalSize
  rw [List.map_append, List.sum_append]

theorem totalSize_cons : totalSize (b :: l) = b.size + totalSize l := by
  unfold totalSize
  rw [List.map_cons, List.sum_cons]

theorem packed_append :
    Packed width start (l ++ l') ↔ Packed width start l ∧ Packed width (start + width * totalSize l) l' := by
  induction l generalizing start with
  | nil => exact ⟨fun h => ⟨trivial, h⟩, fun h => h.2⟩
  | cons b l ih =>
    have hshift : start + width * totalSize (b :: l) = start + width * b.size + width * totalSize l := by
      rw [totalSize_cons, Nat.mul_add, Nat.add_assoc]
    rw [hshift]
    exact (and_congr_right fun _ => ih).trans and_assoc.symm

theorem Packed.bounds (h : Packed width start l) (hb : b ∈ l) :
    start ≤ b.ptr ∧ b.ptr + width * b.size ≤ start + width * totalSize l := by
  obtain ⟨pre, rest, rfl⟩ := List.append_of_mem hb
  obtain ⟨-, hptr, -⟩ := packed_append.1 h
  rw [totalSize_append, totalSize_cons, Nat.mul_add, Nat.mul_add]
  omega

theorem Packed.disjoint (h : Packed width start l) : l.Pairwise (Before width) := by
  induction l generalizing start with
  | nil => exact .nil
  | cons b l ih =>
    obtain ⟨hptr, hrest⟩ := h
    refine .cons (fun c hc => ?_) (ih hrest)
    have hbounds := hrest.bounds hc
    unfold Before
    omega

theorem Packed.apart (h : Packed width start l) {c : Block} (hb : b ∈ l) (hc : c ∈ l) (hne : b ≠ c) :
    Before width b c ∨ Before width c b := by
  have hdisjoint := h.disjoint
  obtain ⟨pre, rest, rfl⟩ := List.append_of_mem hb
  obtain ⟨-, hcons, hcross⟩ := List.pairwise_append.1 hdisjoint
  rcases List.mem_append.1 hc with hc | hc
  · exact .inr (hcross c hc b List.mem_cons_self)
  · rcases List.mem_cons.1 hc with rfl | hc
    · exact absurd rfl hne
    · exact .inl ((List.pairwise_cons.1 hcons).1 c hc)

theorem Packed.moveDown (h : Packed width start l) (hle : b.size ≤ start) :
    Packed width (start - b.size) (l.map b.moveDown) := by
  induction l generalizing start with
  | nil => trivial
  | cons n l ih =>
    obtain ⟨hptr, hrest⟩ := h
    refine ⟨?_, ?_⟩
    · show n.ptr - b.size = start - b.size
      rw [hptr]
    · have hmoved := ih hrest (by omega)
      have hshift : start + width * n.size - b.size = start - b.size + width * n.size := by omega
      rw [hshift] at hmoved
      exact hmoved

theorem totalSize_moveDown : totalSize (l.map b.moveDown) = totalSize l := by
  unfold totalSize
  rw [List.map_map]
  rfl

theorem handles_moveDown : (l.map b.moveDown).map (·.handle) = l.map (·.handle) := by
  rw [List.map_map]
  rfl

end Packed

/-! ## One pool -/

/-- A valid pool, with the memory that it has and with each handle at most once. -/
structure Pool.Inv (width capacity : Nat) (p : Pool) : Prop where
  packed : Packed width 0 p.blocks
  total : totalSize p.blocks + p.avail = capacity
  memory : p.memory.length = width * capacity
  handles : p.handles.Nodup

section Pool

variable {width capacity : Nat} {p : Pool} {m : Nat}

theorem Pool.Inv.valid (h : p.Inv width capacity) : p.Valid width capacity := ⟨h.packed, h.packed.disjoint, h.total⟩

/-- The blocks of other handles keep their contents. -/
def Pool.Keeps (width : Nat) (p p' : Pool) (m : Nat) : Prop :=
  ∀ b ∈ p.blocks, b.handle ≠ m →
    ∃ b' ∈ p'.blocks, b'.handle = b.handle ∧ b'.size = b.size ∧ p'.contents width b' = p.contents width b

theorem Pool.Keeps.refl (width : Nat) (p : Pool) (m : Nat) : p.Keeps width p m := fun b hb _ => ⟨b, hb, rfl, rfl, rfl⟩

theorem Pool.alloc_sound (h : p.Inv width capacity) (hm : m ∉ p.handles) (size : Nat) :
    (p.alloc width capacity m size).Inv width capacity ∧ p.Keeps width (p.alloc width capacity m size) m := by
  unfold Pool.alloc
  split
  · exact ⟨h, .refl width p m⟩
  · rename_i hfits
    have htotal := h.total
    refine ⟨⟨packed_append.2 ⟨h.packed, ?_, trivial⟩, ?_, h.memory, ?_⟩, fun b hb _ => ?_⟩
    · show width * (capacity - p.avail) = 0 + width * totalSize p.blocks
      rw [Nat.zero_add]
      congr 1
      omega
    · show totalSize (p.blocks ++ [_]) + (p.avail - size) = capacity
      rw [totalSize_append, totalSize_cons]
      have hnil : totalSize [] = 0 := rfl
      dsimp only
      omega
    · unfold Pool.handles
      rw [List.map_append]
      exact List.nodup_append.2 ⟨h.handles, List.nodup_singleton _, by
        rintro a ha b hb rfl
        rw [List.map_singleton, List.mem_singleton] at hb
        rw [hb] at ha
        exact hm ha⟩
    · exact ⟨b, List.mem_append_left _ hb, rfl, rfl, rfl⟩

theorem Pool.split (hm : m ∈ p.handles) :
    ∃ pre b rest, p.blocks = pre ++ b :: rest ∧ b.handle = m ∧ (∀ c ∈ pre, c.handle ≠ m) ∧
      p.blocks.takeWhile (·.handle ≠ m) = pre ∧ p.blocks.dropWhile (·.handle ≠ m) = b :: rest := by
  have hsplit := List.takeWhile_append_dropWhile (p := fun c : Block => decide (c.handle ≠ m)) (l := p.blocks)
  have hpre {c : Block} (hc : c ∈ p.blocks.takeWhile fun c => decide (c.handle ≠ m)) : c.handle ≠ m := by
    simpa using List.mem_takeWhile_imp hc
  cases hdrop : p.blocks.dropWhile fun c => decide (c.handle ≠ m) with
  | nil =>
    rw [hdrop, List.append_nil] at hsplit
    obtain ⟨c, hc, hcm⟩ := List.mem_map.1 hm
    rw [← hsplit] at hc
    exact absurd hcm (hpre hc)
  | cons b rest =>
    have hb : b.handle = m := by
      have hhead := List.head?_dropWhile_not (fun c : Block => decide (c.handle ≠ m)) p.blocks
      rw [hdrop] at hhead
      simpa using hhead
    exact ⟨_, b, rest, by rw [← hdrop]; exact hsplit.symm, hb, fun c hc => hpre hc, rfl, rfl⟩

variable (width capacity) in
theorem Pool.free_eq {b : Block} (htake : p.blocks.takeWhile (·.handle ≠ m) = pre)
    (hdrop : p.blocks.dropWhile (·.handle ≠ m) = b :: rest) :
    (p.free width capacity m).blocks = pre ++ rest.map b.moveDown ∧
      (p.free width capacity m).avail = p.avail + b.size ∧
      (p.free width capacity m).memory = p.closeGap width capacity b rest := by
  unfold Pool.free
  rw [hdrop, htake]
  exact ⟨rfl, rfl, rfl⟩

/-- Where the next block is moved to the place of the one that is freed, every other block is read at its new place. -/
theorem Pool.closeGap_spec (h : p.Inv width capacity) {b : Block}
    (hblocks : p.blocks = pre ++ b :: rest) (hsafe : width = 1 ∨ b.size = 0 ∨ rest = []) :
    (p.closeGap width capacity b rest).length = p.memory.length ∧
      (∀ c ∈ pre, read (p.closeGap width capacity b rest) c.ptr (width * c.size) = read p.memory c.ptr (width * c.size)) ∧
      ∀ c ∈ rest, read (p.closeGap width capacity b rest) (c.ptr - b.size) (width * c.size) =
        read p.memory c.ptr (width * c.size) := by
  cases rest with
  | nil => exact ⟨rfl, fun _ _ => rfl, fun c hc => absurd hc List.not_mem_nil⟩
  | cons n rest =>
    have htotal := h.total
    have hpacked := h.packed
    rw [hblocks, totalSize_append, totalSize_cons] at htotal
    rw [hblocks] at hpacked
    obtain ⟨hpre, hb, hrest⟩ := packed_append.1 hpacked
    rw [Nat.zero_add] at hb hrest
    have hn : n.ptr = width * totalSize pre + width * b.size := hrest.1
    have hend : width * (capacity - p.avail) = n.ptr + width * totalSize (n :: rest) := by
      rw [hn, ← Nat.mul_add, ← Nat.mul_add]
      congr 1
      omega
    have hle : width * (capacity - p.avail) ≤ p.memory.length := by
      rw [h.memory]
      exact Nat.mul_le_mul_left width (Nat.sub_le _ _)
    have hcount : (width * (capacity - p.avail) - n.ptr) / width ≤ width * (capacity - p.avail) - n.ptr :=
      Nat.div_le_self _ _
    have hgap : p.closeGap width capacity b (n :: rest) =
        move p.memory b.ptr n.ptr ((width * (capacity - p.avail) - n.ptr) / width) := rfl
    rw [hgap]
    by_cases hsize : b.size = 0
    · -- an empty block: nothing has to be moved
      have hsame : b.ptr = n.ptr := by
        rw [hb, hn, hsize]
        rfl
      rw [hsame, move_self (by omega), hsize]
      exact ⟨rfl, fun _ _ => rfl, fun _ _ => rfl⟩
    · -- the blocks behind are moved as a whole, by the size of the one that goes
      have hwidth : width = 1 := by
        rcases hsafe with hw | hs | hnil
        · exact hw
        · exact absurd hs hsize
        · cases hnil
      subst hwidth
      simp only [Nat.one_mul, Nat.div_one] at *
      refine ⟨length_move (by omega) (by omega), fun c hc => ?_, fun c hc => ?_⟩
      · have hbounds := hpre.bounds hc
        exact read_move_before (by omega) (by omega)
      · have hbounds := hrest.bounds hc
        have hmoved : read (move p.memory b.ptr n.ptr (capacity - p.avail - n.ptr)) (b.ptr + (c.ptr - n.ptr)) c.size =
            read p.memory (n.ptr + (c.ptr - n.ptr)) c.size := read_move (by omega) (by omega) (by omega)
        rw [show b.ptr + (c.ptr - n.ptr) = c.ptr - b.size by omega, show n.ptr + (c.ptr - n.ptr) = c.ptr by omega] at hmoved
        exact hmoved

theorem Pool.free_sound (h : p.Inv width capacity) {b : Block}
    (hblocks : p.blocks = pre ++ b :: rest) (hb : b.handle = m)
    (htake : p.blocks.takeWhile (·.handle ≠ m) = pre) (hdrop : p.blocks.dropWhile (·.handle ≠ m) = b :: rest)
    (hsafe : width = 1 ∨ b.size = 0 ∨ rest = []) :
    (p.free width capacity m).Inv width capacity ∧ p.Keeps width (p.free width capacity m) m := by
  obtain ⟨hfree, havail, hmemory⟩ := Pool.free_eq width capacity htake hdrop
  obtain ⟨hlength, hbelow, habove⟩ := Pool.closeGap_spec h hblocks hsafe
  have hpacked := h.packed
  rw [hblocks] at hpacked
  obtain ⟨hpre, -, hrest⟩ := packed_append.1 hpacked
  rw [Nat.zero_add] at hrest
  refine ⟨⟨?_, ?_, ?_, ?_⟩, fun c hc hne => ?_⟩
  · rw [hfree]
    refine packed_append.2 ⟨hpre, ?_⟩
    rw [Nat.zero_add]
    rcases hsafe with rfl | hsize | rfl
    · have hmoved := hrest.moveDown (b := b) (by omega)
      rw [Nat.one_mul, Nat.one_mul, Nat.add_sub_cancel] at hmoved
      rw [Nat.one_mul]
      exact hmoved
    · have hmoved := hrest.moveDown (b := b) (by omega)
      rw [hsize, Nat.mul_zero, Nat.add_zero, Nat.sub_zero] at hmoved
      exact hmoved
    · trivial
  · have htotal := h.total
    rw [hblocks, totalSize_append, totalSize_cons] at htotal
    rw [hfree, havail, totalSize_append, totalSize_moveDown]
    omega
  · rw [hmemory, hlength, h.memory]
  · have hhandles := h.handles
    unfold Pool.handles at hhandles ⊢
    rw [hblocks, List.map_append, List.map_cons] at hhandles
    rw [hfree, List.map_append, handles_moveDown]
    exact hhandles.sublist (List.Sublist.append_left (List.sublist_cons_self _ _) _)
  · rw [hblocks] at hc
    unfold Pool.contents
    rw [hfree, hmemory]
    rcases List.mem_append.1 hc with hc | hc
    · exact ⟨c, List.mem_append_left _ hc, rfl, rfl, hbelow c hc⟩
    · rcases List.mem_cons.1 hc with rfl | hc
      · exact absurd hb hne
      · exact ⟨b.moveDown c, List.mem_append_right _ (List.mem_map_of_mem hc), rfl, rfl, habove c hc⟩

/-- Freeing a block of wider elements that is not empty and has a block behind it: that block ends up too high. -/
theorem Pool.free_unsound (h : p.Inv width capacity) (hw : 1 < width) {b : Block}
    (hblocks : p.blocks = pre ++ b :: rest) (htake : p.blocks.takeWhile (·.handle ≠ m) = pre)
    (hdrop : p.blocks.dropWhile (·.handle ≠ m) = b :: rest) (hsize : b.size ≠ 0) (hrest : rest ≠ []) :
    ¬(p.free width capacity m).Valid width capacity := by
  obtain ⟨hfree, -, -⟩ := Pool.free_eq width capacity htake hdrop
  intro hvalid
  have hpacked := h.packed
  have hpacked' := hvalid.packed
  rw [hblocks] at hpacked
  rw [hfree] at hpacked'
  cases rest with
  | nil => exact hrest rfl
  | cons n rest =>
    obtain ⟨-, -, hn, -⟩ := packed_append.1 hpacked
    obtain ⟨-, hn', -⟩ := packed_append.1 hpacked'
    have hmoved : n.ptr - b.size = 0 + width * totalSize pre := hn'
    have hlt : 1 * b.size < width * b.size := Nat.mul_lt_mul_of_pos_right hw (Nat.pos_of_ne_zero hsize)
    omega

/-- The owner of a block writes to nothing but his block. -/
theorem Pool.store_sound (h : p.Inv width capacity) (offset : Nat) (bytes : List UInt8) :
    (p.store width m offset bytes).Inv width capacity ∧ p.Keeps width (p.store width m offset bytes) m := by
  unfold Pool.store
  split
  · rename_i b hfound
    have hb := List.mem_of_find?_eq_some hfound
    have hm : b.handle = m := by simpa using List.find?_some hfound
    split
    · rename_i hfits
      have hbounds := h.packed.bounds hb
      have hle : width * totalSize p.blocks ≤ p.memory.length := by
        rw [h.memory, ← h.total]
        exact Nat.mul_le_mul_left width (Nat.le_add_right _ _)
      refine ⟨⟨h.packed, h.total, ?_, h.handles⟩, fun c hc hne => ⟨c, hc, rfl, rfl, ?_⟩⟩
      · rw [← h.memory]
        exact length_write (by omega)
      · have hne' : b ≠ c := by
          rintro rfl
          exact hne hm
        have hapart := h.packed.apart hb hc hne'
        unfold Before at hapart
        unfold Pool.contents
        rcases hapart with habove | hbelow
        · exact read_write_after (by omega) (by omega)
        · exact read_write_before (by omega) (by omega)
    · exact ⟨h, .refl width p m⟩
  · exact ⟨h, .refl width p m⟩

end Pool

/-! ## Every run -/

section Runs

variable {sizes : PoolSizes} {s : Pools} {e : Event}

/-- All pools are valid. -/
def Pools.Inv (sizes : PoolSizes) (s : Pools) : Prop := ∀ type, (s type).Inv type.width (sizes.of type)

theorem inv_init (sizes : PoolSizes) : (Pools.init sizes).Inv sizes := fun _ =>
  ⟨trivial, Nat.zero_add _, List.length_replicate, List.nodup_nil⟩

theorem PoolType.width_pos (type : PoolType) : 0 < type.width := by cases type <;> decide

theorem sound_of_pool (h : s.Inv sizes)
    (hpool : ((s e.type).step sizes e).Inv e.type.width (sizes.of e.type) ∧
      (s e.type).Keeps e.type.width ((s e.type).step sizes e) e.handle) :
    (s.step sizes e).Inv sizes ∧ Sound sizes s e := by
  have hinv : (s.step sizes e).Inv sizes := by
    intro type
    unfold Pools.step
    split
    · rename_i htype
      rw [htype]
      exact hpool.1
    · exact h type
  refine ⟨hinv, fun type => (hinv type).valid, fun type => ?_⟩
  unfold Pools.step
  split
  · rename_i htype
    rw [htype]
    exact hpool.2
  · exact Pool.Keeps.refl _ _ _

theorem rest_nil {p : Pool} {width capacity : Nat} (h : p.Inv width capacity) {b : Block}
    (hblocks : p.blocks = pre ++ b :: rest) (hlast : p.blocks.getLast? = some b) : rest = [] := by
  rcases List.eq_nil_or_concat rest with rfl | ⟨l, c, rfl⟩
  · rfl
  · have hhandles := h.handles
    unfold Pool.handles at hhandles
    rw [hblocks, List.concat_eq_append, List.map_append, List.map_cons] at hhandles
    rw [hblocks, List.concat_eq_append, ← List.cons_append, ← List.append_assoc, List.getLast?_append] at hlast
    simp only [List.getLast?_singleton, Option.some_or, Option.some.injEq] at hlast
    have hcons := (List.nodup_append.1 hhandles).2.1
    rw [List.nodup_cons, List.map_append, List.map_singleton, hlast] at hcons
    exact absurd (List.mem_append_right _ List.mem_cons_self) hcons.1

theorem free_sound_iff (h : s.Inv sizes) {m : Nat} {type : PoolType} (hm : m ∈ (s type).handles) :
    Sound sizes s (.free m type) ↔ FreesSafely s (.free m type) := by
  obtain ⟨pre, b, rest, hblocks, hb, hpre, htake, hdrop⟩ := Pool.split hm
  have hmem : b ∈ (s type).blocks := hblocks ▸ List.mem_append_right _ List.mem_cons_self
  constructor
  · rintro ⟨hvalid, -⟩
    by_contra hunsafe
    unfold FreesSafely at hunsafe
    push Not at hunsafe
    obtain ⟨hwidth, c, hc, hcm, hsize, hlast⟩ := hunsafe
    have hpos := type.width_pos
    have hcb : c = b := List.inj_on_of_nodup_map (h type).handles hc hmem (hcm.trans hb.symm)
    rw [hcb] at hsize hlast
    refine Pool.free_unsound (h type) (by omega) hblocks htake hdrop hsize ?_ ?_
    · rintro rfl
      rw [hblocks] at hlast
      exact hlast List.getLast?_concat
    · have hstep : s.step sizes (.free m type) type = (s type).free type.width (sizes.of type) m := if_pos rfl
      have hvalid' := hvalid type
      rw [hstep] at hvalid'
      exact hvalid'
  · intro hsafe
    refine (sound_of_pool (e := .free m type) h (Pool.free_sound (h type) hblocks hb htake hdrop ?_)).2
    rcases hsafe with hwidth | hblock
    · exact .inl hwidth
    · rcases hblock b hmem hb with hsize | hlast
      · exact .inr (.inl hsize)
      · exact .inr (.inr (rest_nil (h type) hblocks hlast))

theorem step_sound (h : s.Inv sizes) (hproper : Proper s e) (hsafe : FreesSafely s e) :
    (s.step sizes e).Inv sizes ∧ Sound sizes s e := by
  refine sound_of_pool h ?_
  cases e with
  | alloc m size type => exact Pool.alloc_sound (h type) (hproper type) size
  | free m type =>
    obtain ⟨pre, b, rest, hblocks, hb, -, htake, hdrop⟩ := Pool.split hproper
    have hmem : b ∈ (s type).blocks := hblocks ▸ List.mem_append_right _ List.mem_cons_self
    refine Pool.free_sound (h type) hblocks hb htake hdrop ?_
    rcases hsafe with hwidth | hblock
    · exact .inl hwidth
    · rcases hblock b hmem hb with hsize | hlast
      · exact .inr (.inl hsize)
      · exact .inr (.inr (rest_nil (h type) hblocks hlast))
  | store m type offset bytes => exact Pool.store_sound (h type) offset bytes

theorem step_sound_iff (h : s.Inv sizes) (hproper : Proper s e) : Sound sizes s e ↔ FreesSafely s e := by
  cases e with
  | alloc m size type => exact ⟨fun _ => trivial, fun hsafe => (step_sound h hproper hsafe).2⟩
  | free m type => exact free_sound_iff h hproper
  | store m type offset bytes => exact ⟨fun _ => trivial, fun hsafe => (step_sound h hproper hsafe).2⟩

theorem guarded_sound_iff : ∀ (l : List Event) (s : Pools), s.Inv sizes → Guarded (Pools.step sizes) Proper s l →
    (Guarded (Pools.step sizes) (Sound sizes) s l ↔ Guarded (Pools.step sizes) FreesSafely s l)
  | [], _, _, _ => Iff.rfl
  | e :: l, s, h, ⟨hproper, hrun⟩ => by
    have hiff := step_sound_iff h hproper
    constructor
    · rintro ⟨hsound, hrest⟩
      have hinv := (step_sound h hproper (hiff.1 hsound)).1
      exact ⟨hiff.1 hsound, (guarded_sound_iff l _ hinv hrun).1 hrest⟩
    · rintro ⟨hsafe, hrest⟩
      have hinv := (step_sound h hproper hsafe).1
      exact ⟨hiff.2 hsafe, (guarded_sound_iff l _ hinv hrun).2 hrest⟩

end Runs

/-- Every sequence of allocations, of freeing and of writing to the blocks, on handles that are used as they are
meant: each step leaves the blocks of every pool contiguous and disjoint, with sizes that make up the pool together
with what is available, and leaves the contents of all other blocks as they are, if and only if each block that is
freed is one of single bytes, is empty or is the last one of its pool. -/
theorem mmem_sound_iff (sizes : PoolSizes) (l : List Event)
    (hproper : Guarded (Pools.step sizes) Proper (.init sizes) l) :
    Guarded (Pools.step sizes) (Sound sizes) (.init sizes) l ↔
      Guarded (Pools.step sizes) FreesSafely (.init sizes) l :=
  guarded_sound_iff l _ (inv_init sizes) hproper

/-- Two blocks of one element each, of which the first one is freed. -/
def freeFirst (type : PoolType) : List Event := [.alloc 1 1 type, .alloc 2 1 type, .free 1 type]

theorem proper_freeFirst (type : PoolType) :
    Guarded (Pools.step ⟨2, 2, 2⟩) Proper (.init ⟨2, 2, 2⟩) (freeFirst type) := by
  refine ⟨fun t => List.not_mem_nil, fun t => ?_, ?_, trivial⟩
  · cases type <;> cases t <;> decide
  · show 1 ∈ Pool.handles _
    cases type <;> decide

theorem mmem_sound_iff_bytes : Guarded (Pools.step ⟨2, 2, 2⟩) (Sound ⟨2, 2, 2⟩) (.init ⟨2, 2, 2⟩) (freeFirst .bytePool) :=
  (mmem_sound_iff ⟨2, 2, 2⟩ (freeFirst .bytePool) (proper_freeFirst .bytePool)).2 ⟨trivial, trivial, .inl rfl, trivial⟩

/-- The block behind an integer that is freed is moved down by one byte. -/
theorem mmem_unsound_ints :
    ¬∀ (sizes : PoolSizes) (l : List Event), Guarded (Pools.step sizes) Proper (.init sizes) l →
      Guarded (Pools.step sizes) (Sound sizes) (.init sizes) l := by
  intro h
  obtain ⟨-, -, ⟨hvalid, -⟩, -⟩ := h ⟨2, 2, 2⟩ (freeFirst .intPool) (proper_freeFirst .intPool)
  obtain ⟨hptr, -⟩ := (hvalid .intPool).packed
  exact absurd hptr (by decide)

end SmartGarage.Mmem
