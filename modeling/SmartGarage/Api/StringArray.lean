/-
Arrays of texts and of byte strings (`oc_helpers.c`): a block of slots of one size, where a text ends with its
terminator and a byte string begins with its length. Both are measured by `strlen`.
-/
import SmartGarage.Api.Basic
import SmartGarage.Lib.Memory

namespace SmartGarage.Slots

open Memory

/-! ## Blocks -/

/-- With `OC_DYNAMIC_ALLOCATION`, and without it. -/
inductive Build
  | dynamic | static

/-- `STRING_ARRAY_ITEM_MAX_LEN` -/
def Build.itemMaxLen : Build → Nat
  | .dynamic => 128
  | .static => 32

/-- The two kinds of arrays. -/
inductive Kind
  | text | bytes

/-- A slot of an array: a text ends in it, and a byte string with its length is in it. -/
def ValidSlot : Kind → List UInt8 → Prop
  | .text, cells => 0 ∈ cells
  | .bytes, cells => (cells.headD 0).toNat < cells.length

/-- An `oc_string_array_t` of `n` slots, with the memory that its block is in. -/
structure OcStringArray (build : Build) (kind : Kind) where
  memory : List UInt8
  ptr : Nat
  n : Nat
  inMemory : ptr + n * build.itemMaxLen ≤ memory.length
  valid : ∀ i < n, ValidSlot kind (read memory (ptr + i * build.itemMaxLen) build.itemMaxLen)

section Access

variable (build : Build) (m : List UInt8) (ptr : Nat)

/-- `oc_string_array_get_item_size` and `oc_byte_string_array_get_item_size` -/
def getItemSize (index : Nat) : Kind → Nat
  | .text => (cstr (m.drop (ptr + index * build.itemMaxLen))).length
  | .bytes => ((m.drop (ptr + index * build.itemMaxLen)).headD 0).toNat

/-- What `oc_string_array_get_item` and `oc_byte_string_array_get_item` point at, with the size of the item. -/
def getItem (index : Nat) : Kind → List UInt8
  | .text => cstr (m.drop (ptr + index * build.itemMaxLen))
  | .bytes => read m (ptr + index * build.itemMaxLen + 1) (getItemSize build m ptr index .bytes)

/-! ## Items -/

/-- Bytes that are written. -/
structure Store where
  start : Nat
  cells : List UInt8

/-- What a call returns, and what it writes. -/
structure Outcome where
  accepted : Bool
  stores : List Store

/-- The memory behind a call. -/
def Outcome.memory (out : Outcome) (m : List UInt8) : List UInt8 :=
  out.stores.foldl (fun m s => write m s.start s.cells) m

/-- `_oc_copy_string_to_array`, where `str` is what stands at the pointer. -/
def ocCopyStringToArray (str : List UInt8) (index : Nat) : Outcome :=
  if (cstr str).length ≥ build.itemMaxLen then ⟨false, []⟩
  else
    let pos := index * build.itemMaxLen
    let len := (cstr str).length
    ⟨true, [⟨ptr + pos, str.take len⟩, ⟨ptr + pos + len, [0]⟩]⟩

/-- `_oc_copy_byte_string_to_array`, where `behind` stands behind the bytes of the item. -/
def ocCopyByteStringToArray (str behind : List UInt8) (index : Nat) : Outcome :=
  if (cstr (str ++ behind)).length ≥ build.itemMaxLen then ⟨false, []⟩
  else
    let pos := index * build.itemMaxLen
    ⟨true, [⟨ptr + pos, [UInt8.ofNat str.length]⟩, ⟨ptr + pos + 1, str⟩]⟩

/-- `_oc_string_array_add_item`: the first slot whose item has the size 0 is taken. -/
def ocStringArrayAddItem (n : Nat) (str : List UInt8) : Outcome :=
  match (List.range n).find? fun i => getItemSize build m ptr i .text == 0 with
  | some i => ocCopyStringToArray build ptr str i
  | none => ⟨false, []⟩

/-- `_oc_byte_string_array_add_item` -/
def ocByteStringArrayAddItem (n : Nat) (str behind : List UInt8) : Outcome :=
  match (List.range n).find? fun i => getItemSize build m ptr i .bytes == 0 with
  | some i => ocCopyByteStringToArray build ptr str behind i
  | none => ⟨false, []⟩

end Access

/-- An item as it is given to a function for a kind of arrays: a text in memory, or bytes and what stands behind
them. -/
inductive Given : Kind → Type
  | text (str : List UInt8) : Given .text
  | bytes (str behind : List UInt8) : Given .bytes

/-- The item: a text ends at its terminator. -/
def Given.item : {kind : Kind} → Given kind → List UInt8
  | _, .text str => cstr str
  | _, .bytes str _ => str

/-- `strlen` of the pointer that is given. -/
def Given.strlen : {kind : Kind} → Given kind → Nat
  | _, .text str => (cstr str).length
  | _, .bytes str behind => (cstr (str ++ behind)).length

/-- A call of `set_item` with an index, or of `add_item`. -/
inductive Target
  | set (index : Nat)
  | add

namespace OcStringArray

variable {build : Build} {kind : Kind} (a : OcStringArray build kind)

/-- The first byte of a slot. -/
def slot (i : Nat) : Nat := a.ptr + i * build.itemMaxLen

/-- `get_allocated_size`, of the size of the block in bytes. -/
def allocatedSize : Nat := a.n * build.itemMaxLen / build.itemMaxLen

/-- A call of one of the four functions. -/
def call : {kind : Kind} → OcStringArray build kind → Given kind → Target → Outcome
  | _, a, .text str, .set index => ocCopyStringToArray build a.ptr str index
  | _, a, .text str, .add => ocStringArrayAddItem build a.memory a.ptr a.allocatedSize str
  | _, a, .bytes str behind, .set index => ocCopyByteStringToArray build a.ptr str behind index
  | _, a, .bytes str behind, .add => ocByteStringArrayAddItem build a.memory a.ptr a.allocatedSize str behind

/-- The slot of the item: the one with the index, or one whose item has the size 0. -/
def IsSlot : Target → Nat → Prop
  | .set index, i => i = index
  | .add, i => i < a.n ∧ getItemSize build a.memory a.ptr i kind = 0

/-- The item is in its slot, the other slots have theirs, and the bytes are written within the block. -/
structure Stored (i : Nat) (given : List UInt8) (out : Outcome) : Prop where
  item : getItem build (out.memory a.memory) a.ptr i kind = given
  size : getItemSize build (out.memory a.memory) a.ptr i kind = given.length
  others : ∀ j < a.n, j ≠ i → getItem build (out.memory a.memory) a.ptr j kind = getItem build a.memory a.ptr j kind ∧
    getItemSize build (out.memory a.memory) a.ptr j kind = getItemSize build a.memory a.ptr j kind
  within : ∀ s ∈ out.stores, a.ptr ≤ s.start ∧ s.start + s.cells.length ≤ a.ptr + a.n * build.itemMaxLen

/-- A call that returns true has stored its item, and an item that is too long for a slot is refused. -/
structure Keeps (given : Given kind) (target : Target) : Prop where
  stored : (a.call given target).accepted = true →
    ∃ i, a.IsSlot target i ∧ a.Stored i given.item (a.call given target)
  refused : given.item.length + 1 > build.itemMaxLen →
    (a.call given target).accepted = false ∧ (a.call given target).stores = []

/-- What `strlen` lets through fits into a slot, and the index is one of the array. -/
def Fits (given : Given kind) : Target → Prop
  | .set index => given.strlen < build.itemMaxLen → given.item.length < build.itemMaxLen ∧ index < a.n
  | .add => (∃ i < a.n, getItemSize build a.memory a.ptr i kind = 0) → given.strlen < build.itemMaxLen →
    given.item.length < build.itemMaxLen

end OcStringArray

/-! ## Slots -/

section Slots

/-- The cells of an item in its slot. -/
def cellsOf : Kind → List UInt8 → List UInt8
  | .text, item => item ++ [0]
  | .bytes, item => UInt8.ofNat item.length :: item

/-- The item in a slot. -/
def itemOf : Kind → List UInt8 → List UInt8
  | .text, cells => cstr cells
  | .bytes, cells => (cells.drop 1).take (cells.headD 0).toNat

theorem length_cellsOf (kind : Kind) (item : List UInt8) : (cellsOf kind item).length = item.length + 1 := by
  cases kind <;> simp [cellsOf]

theorem cstr_append_of_mem {s : List UInt8} (h : 0 ∈ s) (t : List UInt8) : cstr (s ++ t) = cstr s := by
  unfold cstr
  rw [List.takeWhile_append, if_neg]
  intro hlen
  have heq : s.takeWhile (· ≠ 0) = s := (List.takeWhile_prefix _).eq_of_length hlen
  exact absurd (cstr_eq_self_iff.1 heq) (by simpa using h)

theorem Build.itemMaxLen_bounds (build : Build) : 0 < build.itemMaxLen ∧ build.itemMaxLen ≤ 128 := by
  cases build <;> decide

variable {build : Build} {kind : Kind}

theorem slot_cellsOf {item rest : List UInt8} (hnul : kind = .text → 0 ∉ item) (hlen : item.length < 256) :
    itemOf kind (cellsOf kind item ++ rest) = item ∧ ValidSlot kind (cellsOf kind item ++ rest) := by
  cases kind with
  | text =>
    have hcells : cellsOf .text item ++ rest = item ++ 0 :: rest := by simp [cellsOf]
    rw [hcells]
    exact ⟨cstr_terminated (hnul rfl) rest, List.mem_append_right _ List.mem_cons_self⟩
  | bytes =>
    have hhead : (UInt8.ofNat item.length).toNat = item.length := by
      rw [UInt8.toNat_ofNat']
      exact Nat.mod_eq_of_lt hlen
    constructor
    · show (item ++ rest).take (UInt8.ofNat item.length).toNat = item
      rw [hhead, List.take_left']
      rfl
    · show (UInt8.ofNat item.length).toNat < (UInt8.ofNat item.length :: item ++ rest).length
      rw [hhead, List.length_append, List.length_cons]
      omega

theorem getItem_eq {m : List UInt8} {ptr i : Nat}
    (hvalid : ValidSlot kind (read m (ptr + i * build.itemMaxLen) build.itemMaxLen)) :
    getItem build m ptr i kind = itemOf kind (read m (ptr + i * build.itemMaxLen) build.itemMaxLen) ∧
      getItemSize build m ptr i kind = (itemOf kind (read m (ptr + i * build.itemMaxLen) build.itemMaxLen)).length := by
  obtain ⟨hpos, -⟩ := build.itemMaxLen_bounds
  cases kind with
  | text =>
    have hitem : cstr (m.drop (ptr + i * build.itemMaxLen)) =
        cstr (read m (ptr + i * build.itemMaxLen) build.itemMaxLen) := by
      conv_lhs => rw [← List.take_append_drop build.itemMaxLen (m.drop (ptr + i * build.itemMaxLen))]
      exact cstr_append_of_mem hvalid _
    exact ⟨hitem, congrArg List.length hitem⟩
  | bytes =>
    have hsize : ((read m (ptr + i * build.itemMaxLen) build.itemMaxLen).headD 0).toNat <
        (read m (ptr + i * build.itemMaxLen) build.itemMaxLen).length := hvalid
    have hhead : (read m (ptr + i * build.itemMaxLen) build.itemMaxLen).headD 0 =
        (m.drop (ptr + i * build.itemMaxLen)).headD 0 := by
      unfold Memory.read
      rw [List.headD_eq_head?_getD, List.headD_eq_head?_getD, List.head?_take, if_neg (by omega)]
    rw [hhead] at hsize
    have hcells : itemOf .bytes (read m (ptr + i * build.itemMaxLen) build.itemMaxLen) =
        read m (ptr + i * build.itemMaxLen + 1) ((m.drop (ptr + i * build.itemMaxLen)).headD 0).toNat := by
      show ((read m _ _).drop 1).take ((read m _ _).headD 0).toNat = _
      rw [hhead]
      unfold Memory.read at hsize ⊢
      rw [List.length_take] at hsize
      rw [List.drop_take, List.drop_drop, List.take_take, Nat.min_eq_left (by omega)]
    refine ⟨hcells.symm, ?_⟩
    rw [hcells]
    show ((m.drop _).headD 0).toNat = _
    unfold Memory.read at hsize ⊢
    rw [List.length_take, List.length_drop] at *
    omega

theorem read_written {m : List UInt8} {start k : Nat} {cells : List UInt8} (hstart : start ≤ m.length)
    (hlen : cells.length ≤ k) : read (write m start cells) start k = cells ++ (read m start k).drop cells.length := by
  unfold Memory.read write
  rw [List.append_assoc, List.drop_left' (by rw [List.length_take]; omega), List.take_append, List.take_of_length_le hlen,
    List.drop_take, List.drop_drop]

theorem write_behind {m : List UInt8} {start : Nat} (cells : List UInt8) {cells' : List UInt8} (hstart : start ≤ m.length) :
    write (write m start cells) (start + cells.length) cells' = write m start (cells ++ cells') := by
  have hfront : (m.take start ++ cells).length = start + cells.length := by
    rw [List.length_append, List.length_take]
    omega
  have hfirst : write m start cells = (m.take start ++ cells) ++ m.drop (start + cells.length) := rfl
  have hwrite := write_append (m.take start ++ cells) (m.drop (start + cells.length)) cells' 0
  rw [← hfirst, hfront, Nat.add_zero] at hwrite
  rw [hwrite]
  unfold write
  rw [List.take_zero, List.nil_append, List.drop_drop, List.length_append]
  simp only [List.append_assoc, Nat.zero_add, Nat.add_assoc]

end Slots

/-! ## Calls -/

namespace OcStringArray

variable {build : Build} {kind : Kind} (a : OcStringArray build kind) (given : Given kind)

theorem allocatedSize_eq : a.allocatedSize = a.n := Nat.mul_div_cancel _ build.itemMaxLen_bounds.1

theorem item_text (h : kind = .text) : 0 ∉ given.item ∧ given.strlen = given.item.length := by
  cases given with
  | text str => exact ⟨cstr_eq_self_iff.1 (cstr_cstr str), rfl⟩
  | bytes => cases h

theorem slot_le {i : Nat} (hi : i < a.n) : a.slot i + build.itemMaxLen ≤ a.ptr + a.n * build.itemMaxLen := by
  have hmul : (i + 1) * build.itemMaxLen ≤ a.n * build.itemMaxLen := Nat.mul_le_mul_right _ hi
  rw [Nat.add_mul, Nat.one_mul] at hmul
  unfold slot
  omega

theorem call_set (index : Nat) (h : given.strlen < build.itemMaxLen) :
    (a.call given (.set index)).accepted = true ∧
      (a.slot index ≤ a.memory.length →
        (a.call given (.set index)).memory a.memory = write a.memory (a.slot index) (cellsOf kind given.item)) ∧
      (∀ s ∈ (a.call given (.set index)).stores, a.slot index ≤ s.start ∧
        s.start + s.cells.length ≤ a.slot index + given.item.length + 1) ∧
      ∃ s ∈ (a.call given (.set index)).stores, s.cells ≠ [] ∧ a.slot index ≤ s.start := by
  cases given with
  | text str =>
    have hcall : a.call (.text str) (.set index) = ⟨true, [⟨a.slot index, str.take (cstr str).length⟩,
        ⟨a.slot index + (cstr str).length, [0]⟩]⟩ := if_neg (Nat.not_le.2 h)
    have htake : str.take (cstr str).length = cstr str := (List.prefix_iff_eq_take.1 (List.takeWhile_prefix _)).symm
    rw [hcall, htake]
    refine ⟨rfl, fun hstart => write_behind _ hstart, ?_, ⟨_, List.mem_cons_of_mem _ List.mem_cons_self, by simp, by simp⟩⟩
    intro s hs
    simp only [List.mem_cons, List.not_mem_nil, or_false] at hs
    rcases hs with rfl | rfl
    · exact ⟨Nat.le_refl _, Nat.le_succ _⟩
    · exact ⟨Nat.le_add_right _ _, Nat.le_refl _⟩
  | bytes str behind =>
    have hcall : a.call (.bytes str behind) (.set index) = ⟨true, [⟨a.slot index, [UInt8.ofNat str.length]⟩,
        ⟨a.slot index + 1, str⟩]⟩ := if_neg (Nat.not_le.2 h)
    rw [hcall]
    refine ⟨rfl, fun hstart => write_behind [UInt8.ofNat str.length] hstart, ?_,
      ⟨_, List.mem_cons_self, by simp, Nat.le_refl _⟩⟩
    intro s hs
    simp only [List.mem_cons, List.not_mem_nil, or_false] at hs
    rcases hs with rfl | rfl
    · exact ⟨Nat.le_refl _, by simp [Given.item]⟩
    · exact ⟨Nat.le_add_right _ _, by simp only [Given.item]; omega⟩

theorem call_set_refused (index : Nat) (h : build.itemMaxLen ≤ given.strlen) :
    a.call given (.set index) = ⟨false, []⟩ := by
  cases given with
  | text => exact if_pos h
  | bytes => exact if_pos h

theorem call_add : a.call given .add =
    match (List.range a.n).find? fun i => getItemSize build a.memory a.ptr i kind == 0 with
    | some i => a.call given (.set i)
    | none => ⟨false, []⟩ := by
  cases given with
  | text str =>
    show ocStringArrayAddItem build a.memory a.ptr a.allocatedSize str = _
    rw [allocatedSize_eq]
    rfl
  | bytes str behind =>
    show ocByteStringArrayAddItem build a.memory a.ptr a.allocatedSize str behind = _
    rw [allocatedSize_eq]
    rfl

variable {a given}

theorem read_set {index : Nat} (hfits : given.item.length < build.itemMaxLen) (hindex : index < a.n)
    (h : given.strlen < build.itemMaxLen) :
    let m := (a.call given (.set index)).memory a.memory
    m.length = a.memory.length ∧
      (itemOf kind (read m (a.slot index) build.itemMaxLen) = given.item ∧
        ValidSlot kind (read m (a.slot index) build.itemMaxLen)) ∧
      ∀ j, j < a.n → j ≠ index → read m (a.slot j) build.itemMaxLen = read a.memory (a.slot j) build.itemMaxLen := by
  obtain ⟨hpos, hmax⟩ := build.itemMaxLen_bounds
  have hmemory := a.inMemory
  have hslot := a.slot_le hindex
  have hcells := length_cellsOf kind given.item
  intro m
  have hm : m = write a.memory (a.slot index) (cellsOf kind given.item) := (a.call_set given index h).2.1 (by omega)
  rw [hm]
  refine ⟨length_write (by omega), ?_, fun j hj hne => ?_⟩
  · rw [read_written (by omega) (by omega)]
    exact slot_cellsOf (fun htext => (item_text given htext).1) (by omega)
  · rcases Nat.lt_or_gt_of_ne hne with hlt | hgt
    · have hmul : (j + 1) * build.itemMaxLen ≤ index * build.itemMaxLen := Nat.mul_le_mul_right _ hlt
      rw [Nat.add_mul, Nat.one_mul] at hmul
      exact read_write_before (by omega) (by unfold slot; omega)
    · have hmul : (index + 1) * build.itemMaxLen ≤ j * build.itemMaxLen := Nat.mul_le_mul_right _ hgt
      rw [Nat.add_mul, Nat.one_mul] at hmul
      exact read_write_after (by omega) (by rw [hcells]; unfold slot; omega)

theorem stored_set {index : Nat} (hfits : given.item.length < build.itemMaxLen) (hindex : index < a.n)
    (h : given.strlen < build.itemMaxLen) : a.Stored index given.item (a.call given (.set index)) := by
  obtain ⟨-, ⟨hitem, hvalid⟩, hothers⟩ := read_set hfits hindex h
  have hgot := getItem_eq hvalid
  refine ⟨hgot.1.trans hitem, hgot.2.trans (congrArg List.length hitem), fun j hj hne => ?_, fun s hs => ?_⟩
  · have hslot := hothers j hj hne
    have hbefore := getItem_eq (a.valid j hj)
    have hbehind := getItem_eq (show ValidSlot kind (read _ (a.slot j) build.itemMaxLen) from hslot ▸ a.valid j hj)
    have hsame := congrArg (itemOf kind) hslot
    exact ⟨hbehind.1.trans (hsame.trans hbefore.1.symm),
      hbehind.2.trans ((congrArg List.length hsame).trans hbefore.2.symm)⟩
  · obtain ⟨hstart, hend⟩ := (a.call_set given index h).2.2.1 s hs
    have hslot := a.slot_le hindex
    unfold slot at *
    omega

/-- The slot that a call is about. -/
def taken (a : OcStringArray build kind) : Target → Option Nat
  | .set index => some index
  | .add => (List.range a.n).find? fun i => getItemSize build a.memory a.ptr i kind == 0

/-- The slot that a call stores its item in. -/
def slotOf (a : OcStringArray build kind) (given : Given kind) (target : Target) : Option Nat :=
  if given.strlen < build.itemMaxLen then a.taken target else none

theorem call_eq (a : OcStringArray build kind) (given : Given kind) (target : Target) : a.call given target =
    match a.slotOf given target with
    | some i => a.call given (.set i)
    | none => ⟨false, []⟩ := by
  have htaken : a.call given target =
      match a.taken target with
      | some i => a.call given (.set i)
      | none => ⟨false, []⟩ := by
    cases target with
    | set index => rfl
    | add => exact a.call_add given
  unfold slotOf
  by_cases h : given.strlen < build.itemMaxLen
  · rw [if_pos h]
    exact htaken
  · rw [if_neg h, htaken]
    split
    · exact a.call_set_refused given _ (Nat.not_lt.1 h)
    · rfl

theorem slotOf_some {target : Target} {i : Nat} (h : a.slotOf given target = some i) :
    given.strlen < build.itemMaxLen ∧ a.IsSlot target i ∧
      (a.Fits given target ↔ given.item.length < build.itemMaxLen ∧ i < a.n) := by
  unfold slotOf at h
  by_cases hlt : given.strlen < build.itemMaxLen
  · rw [if_pos hlt] at h
    cases target with
    | set index =>
      cases h
      exact ⟨hlt, rfl, fun hfits => hfits hlt, fun hfits _ => hfits⟩
    | add =>
      have hi : i < a.n := List.mem_range.1 (List.mem_of_find?_eq_some h)
      have hsize : getItemSize build a.memory a.ptr i kind = 0 := by simpa using List.find?_some h
      exact ⟨hlt, ⟨hi, hsize⟩, fun hfits => ⟨hfits ⟨i, hi, hsize⟩ hlt, hi⟩, fun hfits _ _ => hfits.1⟩
  · rw [if_neg hlt] at h
    cases h

theorem slotOf_none {target : Target} (h : a.slotOf given target = none) : a.Fits given target := by
  unfold slotOf at h
  by_cases hlt : given.strlen < build.itemMaxLen
  · rw [if_pos hlt] at h
    cases target with
    | set index => cases h
    | add =>
      rintro ⟨i, hi, hsize⟩
      exact absurd (List.find?_eq_none.1 h i (List.mem_range.2 hi)) (by simp [hsize])
  · cases target with
    | set index => exact fun h => absurd h hlt
    | add => exact fun _ h => absurd h hlt

/-- A call stores its item in its slot and nowhere else, and refuses one that is too long, if and only if what `strlen`
lets through fits and the index is one of the array. -/
theorem keeps_iff (build : Build) (kind : Kind) (a : OcStringArray build kind) (given : Given kind) (target : Target) :
    a.Keeps given target ↔ a.Fits given target := by
  have hcall := a.call_eq given target
  cases hslot : a.slotOf given target with
  | none =>
    rw [hslot] at hcall
    refine iff_of_true ⟨fun haccepted => ?_, fun _ => by simp [hcall]⟩ (slotOf_none hslot)
    rw [hcall] at haccepted
    cases haccepted
  | some i =>
    rw [hslot] at hcall
    obtain ⟨hlt, his, hfits⟩ := slotOf_some hslot
    obtain ⟨haccepted, -, -, s, hs, hne, hstart⟩ := a.call_set given i hlt
    rw [hfits]
    constructor
    · intro hkeeps
      have hlen : given.item.length < build.itemMaxLen := by
        by_contra hlong
        have hrefused := (hkeeps.refused (by omega)).1
        rw [hcall, haccepted] at hrefused
        cases hrefused
      refine ⟨hlen, ?_⟩
      obtain ⟨i', -, hstored⟩ := hkeeps.stored (by rw [hcall]; exact haccepted)
      rw [hcall] at hstored
      by_contra hindex
      have hwithin := (hstored.within s hs).2
      have hcells := List.length_pos_iff.2 hne
      have hmul : a.n * build.itemMaxLen ≤ i * build.itemMaxLen := Nat.mul_le_mul_right _ (Nat.not_lt.1 hindex)
      unfold slot at hstart
      omega
    · rintro ⟨hlen, hindex⟩
      refine ⟨fun _ => ⟨i, his, ?_⟩, fun hlong => absurd hlong (by omega)⟩
      rw [hcall]
      exact stored_set hlen hindex hlt

/-! ## Runs -/

/-- The items of an array. -/
def items (a : OcStringArray build kind) : List (List UInt8) :=
  (List.range a.n).map fun i => getItem build a.memory a.ptr i kind

/-- The array behind a call that fits. -/
def after (a : OcStringArray build kind) (given : Given kind) (target : Target) (h : a.Fits given target) :
    OcStringArray build kind where
  memory := (a.call given target).memory a.memory
  ptr := a.ptr
  n := a.n
  inMemory := by
    have hcall := a.call_eq given target
    cases hslot : a.slotOf given target with
    | none =>
      rw [hslot] at hcall
      rw [hcall]
      exact a.inMemory
    | some i =>
      rw [hslot] at hcall
      obtain ⟨hlt, -, hfits⟩ := slotOf_some hslot
      rw [hcall, (read_set (hfits.1 h).1 (hfits.1 h).2 hlt).1]
      exact a.inMemory
  valid := by
    have hcall := a.call_eq given target
    cases hslot : a.slotOf given target with
    | none =>
      rw [hslot] at hcall
      rw [hcall]
      exact a.valid
    | some i =>
      rw [hslot] at hcall
      obtain ⟨hlt, -, hfits⟩ := slotOf_some hslot
      obtain ⟨-, ⟨-, hvalid⟩, hothers⟩ := read_set (hfits.1 h).1 (hfits.1 h).2 hlt
      rw [hcall]
      intro j hj
      by_cases heq : j = i
      · exact heq ▸ hvalid
      · exact (hothers j hj heq).symm ▸ a.valid j hj

theorem items_after {target : Target} (h : a.Fits given target) : (a.after given target h).items =
    match a.slotOf given target with
    | some i => a.items.set i given.item
    | none => a.items := by
  have hcall := a.call_eq given target
  cases hslot : a.slotOf given target with
  | none =>
    rw [hslot] at hcall
    unfold items after
    simp only [hcall]
    rfl
  | some i =>
    rw [hslot] at hcall
    obtain ⟨hlt, -, hfits⟩ := slotOf_some hslot
    have hstored := stored_set (hfits.1 h).1 (hfits.1 h).2 hlt
    refine List.ext_getElem (by simp [items, after]) fun j hj _ => ?_
    have hj' : j < a.n := by simpa [items, after] using hj
    rw [List.getElem_set]
    unfold items after
    simp only [List.getElem_map, List.getElem_range, hcall]
    split
    · rename_i heq
      exact heq ▸ hstored.item
    · rename_i hne
      exact (hstored.others j hj' (Ne.symm hne)).1

/-- The place of an item: the index that is given, or the first place whose item is empty. -/
def placeOf (items : List (List UInt8)) : Target → Nat
  | .set index => index
  | .add => items.findIdx List.isEmpty

/-- What a call is for: an item that `strlen` lets through is put in its place. -/
def putItem (build : Build) (items : List (List UInt8)) (call : Given kind × Target) : List (List UInt8) :=
  if call.1.strlen < build.itemMaxLen then items.set (placeOf items call.2) call.1.item else items

theorem placeOf_taken (a : OcStringArray build kind) (target : Target) :
    (∀ i, a.taken target = some i → placeOf a.items target = i) ∧
      (a.taken target = none → a.items.length ≤ placeOf a.items target) := by
  cases target with
  | set index => exact ⟨fun _ h => Option.some.inj h, fun h => (Option.some_ne_none _ h).elim⟩
  | add =>
    have hlength : a.items.length = a.n := by simp [items]
    have hempty : ∀ i (hi : i < a.items.length),
        a.items[i].isEmpty = (getItemSize build a.memory a.ptr i kind == 0) := fun i hi => by
      obtain ⟨hitem, hsize⟩ := getItem_eq (a.valid i (hlength ▸ hi))
      simp only [items, List.getElem_map, List.getElem_range]
      rw [hsize, hitem]
      cases itemOf kind _ <;> rfl
    refine ⟨fun i hfind => ?_, fun hfind => (List.findIdx_eq_length.2 fun x hx => ?_).ge⟩
    · obtain ⟨hi, hmem, hbefore⟩ := List.find?_range_eq_some.1 hfind
      have hlt : i < a.items.length := hlength ▸ List.mem_range.1 hmem
      exact (List.findIdx_eq hlt).2
        ⟨(hempty i hlt).trans hi, fun j hj => (hempty j (hj.trans hlt)).trans (by simpa using hbefore j hj)⟩
    · obtain ⟨i, hi, rfl⟩ := List.getElem_of_mem hx
      rw [hempty i hi]
      simpa using List.find?_range_eq_none.1 hfind i (hlength ▸ hi)

theorem items_put {given : Given kind} {target : Target} (h : a.Fits given target) :
    (a.after given target h).items = putItem build a.items (given, target) := by
  obtain ⟨hsome, hnone⟩ := a.placeOf_taken target
  rw [items_after]
  unfold slotOf putItem
  dsimp only
  split_ifs
  · cases htaken : a.taken target with
    | none => exact (List.set_eq_of_length_le (hnone htaken)).symm
    | some i => rw [hsome i htaken]
  · rfl

/-- An array behind some calls, each of which fits. -/
inductive Follows {build : Build} {kind : Kind} :
    OcStringArray build kind → List (Given kind × Target) → OcStringArray build kind → Prop
  | nil (a : OcStringArray build kind) : Follows a [] a
  | cons {a b : OcStringArray build kind} {given : Given kind} {target : Target} {calls : List (Given kind × Target)}
    (h : a.Fits given target) : Follows (a.after given target h) calls b → Follows a ((given, target) :: calls) b

/-- Every run of calls that fit: the items are those of the list that each item is put into. -/
theorem items_follows {b : OcStringArray build kind} {calls : List (Given kind × Target)} (h : Follows a calls b) :
    b.items = calls.foldl (putItem build) a.items := by
  induction h with
  | nil a => rfl
  | cons h _ ih =>
    rw [ih, items_put h]
    rfl

end OcStringArray

/-- The loop of `_oc_alloc_string_array` behind `k` of its rounds. -/
def clearSlots (build : Build) (m : List UInt8) (ptr : Nat) : Nat → List UInt8
  | 0 => m
  | k + 1 => write (clearSlots build m ptr k) (ptr + k * build.itemMaxLen) [0]

theorem clearSlots_spec (build : Build) {m : List UInt8} {ptr : Nat} : ∀ k : Nat, ptr + k * build.itemMaxLen ≤ m.length →
    (clearSlots build m ptr k).length = m.length ∧
      ∀ i < k, ∃ rest, read (clearSlots build m ptr k) (ptr + i * build.itemMaxLen) build.itemMaxLen = 0 :: rest
  | 0, _ => ⟨rfl, fun _ hi => absurd hi (Nat.not_lt_zero _)⟩
  | k + 1, h => by
    obtain ⟨hpos, -⟩ := build.itemMaxLen_bounds
    rw [Nat.add_mul, Nat.one_mul] at h
    obtain ⟨hlength, hslots⟩ := clearSlots_spec build k (Nat.le_trans (Nat.add_le_add_left (Nat.le_add_right _ _) ptr) h)
    refine ⟨(length_write (by rw [hlength, List.length_singleton]; omega)).trans hlength, fun i hi => ?_⟩
    rcases Nat.lt_succ_iff_lt_or_eq.1 hi with hlt | rfl
    · obtain ⟨rest, hrest⟩ := hslots i hlt
      have hmul : (i + 1) * build.itemMaxLen ≤ k * build.itemMaxLen := Nat.mul_le_mul_right _ hlt
      rw [Nat.add_mul, Nat.one_mul] at hmul
      have hbefore : read (write (clearSlots build m ptr k) (ptr + k * build.itemMaxLen) [0])
          (ptr + i * build.itemMaxLen) build.itemMaxLen =
          read (clearSlots build m ptr k) (ptr + i * build.itemMaxLen) build.itemMaxLen :=
        read_write_before (by omega) (by omega)
      exact ⟨rest, hbefore.trans hrest⟩
    · exact ⟨_, read_written (by omega) hpos⟩

/-- `_oc_alloc_string_array`: an array without items. -/
def ocAllocStringArray (build : Build) (kind : Kind) (memory : List UInt8) (ptr n : Nat)
    (h : ptr + n * build.itemMaxLen ≤ memory.length) : OcStringArray build kind where
  memory := clearSlots build memory ptr n
  ptr := ptr
  n := n
  inMemory := by
    rw [(clearSlots_spec build n h).1]
    exact h
  valid i hi := by
    obtain ⟨rest, hrest⟩ := (clearSlots_spec build n h).2 i hi
    rw [hrest]
    cases kind with
    | text => exact List.mem_cons_self
    | bytes => exact Nat.succ_pos _

/-- An array with two slots. -/
def twoSlots : OcStringArray .static .text :=
  ocAllocStringArray .static .text (List.replicate 64 1) 0 2 (by rw [List.length_replicate]; decide)

/-- A text is set in the second slot, one is added in the first, and for a third one there is no place. -/
theorem items_follows_added :
    let calls : List (Given .text × Target) := [(.text [98, 0], .set 1), (.text [97, 0], .add), (.text [99, 0], .add)]
    ∃ b, OcStringArray.Follows twoSlots calls b ∧
      b.items = calls.foldl (OcStringArray.putItem .static) twoSlots.items := by
  intro calls
  have hcalls : OcStringArray.Follows twoSlots calls _ :=
    .cons (fun _ => ⟨by decide, by decide⟩) (.cons (fun _ h => h) (.cons (fun _ h => h) (.nil _)))
  exact ⟨_, hcalls, OcStringArray.items_follows hcalls⟩

/-- A byte string as long as a slot that begins with a zero byte is accepted. -/
theorem keeps_embedded_zero : ¬∀ (build : Build) (kind : Kind) (a : OcStringArray build kind) (given : Given kind)
    (target : Target), a.Keeps given target := by
  intro hall
  have hkeeps := hall .dynamic .bytes (ocAllocStringArray .dynamic .bytes (List.replicate 256 0) 0 2
    (by rw [List.length_replicate]; decide)) (.bytes (List.replicate 128 0) [0]) (.set 0)
  have hlong : (List.replicate 128 (0 : UInt8)).length + 1 > 128 := by
    rw [List.length_replicate]
    decide
  have hrefused : true = false := (hkeeps.refused hlong).1
  cases hrefused

end SmartGarage.Slots
