/-
Memory as a list of cells: reading and writing a range, and moving one range onto another one, whether they
overlap or not.
-/
import Mathlib.Data.List.Basic
import Mathlib.Tactic.Common

namespace Memory

variable {α : Type} (m : List α)

/-- The cells of a range. -/
def read (start n : Nat) : List α := (m.drop start).take n

/-- The memory with some cells written from a place on. -/
def write (start : Nat) (cells : List α) : List α := m.take start ++ cells ++ m.drop (start + cells.length)

/-- The memory behind a move of `n` cells. -/
def move (dst src n : Nat) : List α := write m dst (read m src n)

variable {m} {start dst src n : Nat} {cells : List α}

/-! ## Cells -/

theorem getElem?_read (i : Nat) : (read m start n)[i]? = if i < n then m[start + i]? else none := by
  unfold read
  rw [List.getElem?_take]
  split
  · rw [List.getElem?_drop]
  · rfl

theorem length_read (h : start + n ≤ m.length) : (read m start n).length = n := by
  unfold read
  rw [List.length_take, List.length_drop]
  omega

theorem length_write (h : start + cells.length ≤ m.length) : (write m start cells).length = m.length := by
  unfold write
  rw [List.length_append, List.length_append, List.length_take, List.length_drop]
  omega

theorem getElem?_write (h : start ≤ m.length) (i : Nat) :
    (write m start cells)[i]? =
      if i < start then m[i]? else if i < start + cells.length then cells[i - start]? else m[i]? := by
  unfold write
  have hlen : (m.take start).length = start := by
    rw [List.length_take]
    omega
  rw [List.append_assoc, List.getElem?_append, hlen]
  by_cases hbefore : i < start
  · rw [if_pos hbefore, if_pos hbefore, List.getElem?_take, if_pos hbefore]
  · rw [if_neg hbefore, if_neg hbefore, List.getElem?_append]
    by_cases hwithin : i < start + cells.length
    · rw [if_pos hwithin, if_pos (by omega)]
    · rw [if_neg hwithin, if_neg (by omega), List.getElem?_drop]
      congr 1
      omega

theorem write_append (front rest cells : List α) (k : Nat) :
    write (front ++ rest) (front.length + k) cells = front ++ write rest k cells := by
  unfold write
  rw [List.take_length_add_append, Nat.add_assoc, List.drop_length_add_append]
  simp only [List.append_assoc]

/-! ## Ranges -/

theorem read_write_before {a k : Nat} (hs : start ≤ m.length) (h : a + k ≤ start) :
    read (write m start cells) a k = read m a k := by
  refine List.ext_getElem? fun i => ?_
  rw [getElem?_read, getElem?_read, getElem?_write hs]
  split
  · rw [if_pos (by omega)]
  · rfl

theorem read_write_after {a k : Nat} (hs : start ≤ m.length) (h : start + cells.length ≤ a) :
    read (write m start cells) a k = read m a k := by
  refine List.ext_getElem? fun i => ?_
  rw [getElem?_read, getElem?_read, getElem?_write hs]
  split
  · rw [if_neg (by omega), if_neg (by omega)]
  · rfl

theorem read_move {a k : Nat} (hd : dst ≤ m.length) (hs : src + n ≤ m.length) (h : a + k ≤ n) :
    read (move m dst src n) (dst + a) k = read m (src + a) k := by
  refine List.ext_getElem? fun i => ?_
  unfold move
  rw [getElem?_read, getElem?_read, getElem?_write hd, length_read hs]
  split
  · rw [if_neg (by omega), if_pos (by omega), getElem?_read, if_pos (by omega)]
    congr 1
    omega
  · rfl

theorem read_move_before {a k : Nat} (hd : dst ≤ m.length) (h : a + k ≤ dst) :
    read (move m dst src n) a k = read m a k := read_write_before hd h

theorem length_move (hs : src + n ≤ m.length) (hd : dst + n ≤ m.length) : (move m dst src n).length = m.length := by
  refine length_write ?_
  rw [length_read hs]
  exact hd

theorem move_self (hs : src + n ≤ m.length) : move m src src n = m := by
  refine List.ext_getElem? fun i => ?_
  unfold move
  rw [getElem?_write (by omega), length_read hs]
  split
  · rfl
  · split
    · rw [getElem?_read, if_pos (by omega)]
      congr 1
      omega
    · rfl

end Memory
