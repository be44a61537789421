/-
A list that is put together from chunks of it: a chunk goes to its place when the place is known, and what is there
is a prefix of the list throughout.
-/
import Mathlib.Data.List.Basic
import Mathlib.Tactic.Common
import SmartGarage.Lib.Memory

namespace Chunks

variable {α : Type} {whole store chunk : List α} {offset : Nat}

/-- The chunk stands in the list from the offset on. -/
def StandsAt (whole : List α) (offset : Nat) (chunk : List α) : Prop := chunk <+: whole.drop offset

/-- The store with a chunk at its place; a chunk that begins behind the end is left out. -/
def put (store : List α) (offset : Nat) (chunk : List α) : List α :=
  if offset ≤ store.length then Memory.write store offset chunk else store

theorem StandsAt.take (h : StandsAt whole offset chunk) (n : Nat) : StandsAt whole offset (chunk.take n) :=
  (List.take_prefix n chunk).trans h

theorem StandsAt.getElem? (h : StandsAt whole offset chunk) {i : Nat} (hi : i < chunk.length) :
    chunk[i]? = whole[offset + i]? := by
  obtain ⟨rest, hrest⟩ := h
  rw [← List.getElem?_drop, ← hrest, List.getElem?_append_left hi]

theorem StandsAt.length_le (h : StandsAt whole offset chunk) (hoffset : offset ≤ whole.length) :
    offset + chunk.length ≤ whole.length := by
  have hle := List.IsPrefix.length_le h
  rw [List.length_drop] at hle
  omega

theorem length_put (h : offset ≤ store.length) : (put store offset chunk).length = max store.length (offset + chunk.length) := by
  unfold put Memory.write
  rw [if_pos h, List.length_append, List.length_append, List.length_take, List.length_drop]
  omega

theorem put_isPrefix (hstore : store <+: whole) (hchunk : StandsAt whole offset chunk) : put store offset chunk <+: whole := by
  by_cases hplace : offset ≤ store.length
  · have hle := List.IsPrefix.length_le hstore
    have hend := hchunk.length_le (Nat.le_trans hplace hle)
    have hlength : (put store offset chunk).length ≤ whole.length := by
      rw [length_put hplace]
      omega
    rw [List.prefix_iff_eq_take]
    refine List.ext_getElem? fun i => ?_
    rw [List.getElem?_take]
    by_cases hi : i < (put store offset chunk).length
    · have hstored {j : Nat} (hj : j < store.length) : store[j]? = whole[j]? := by
        obtain ⟨rest, hrest⟩ := hstore
        rw [← hrest, List.getElem?_append_left hj]
      rw [length_put hplace] at hi
      rw [if_pos (by rwa [length_put hplace])]
      unfold put
      rw [if_pos hplace, Memory.getElem?_write hplace]
      by_cases hbefore : i < offset
      · rw [if_pos hbefore]
        exact hstored (by omega)
      · rw [if_neg hbefore]
        by_cases hwithin : i < offset + chunk.length
        · rw [if_pos hwithin, hchunk.getElem? (by omega)]
          congr 1
          omega
        · rw [if_neg hwithin]
          exact hstored (by omega)
    · rw [if_neg hi]
      exact List.getElem?_eq_none (by omega)
  · unfold put
    rwa [if_neg hplace]

theorem put_last (hstore : store <+: whole) (hchunk : StandsAt whole offset chunk) (hplace : offset ≤ store.length)
    (hend : offset + chunk.length = whole.length) : put store offset chunk = whole := by
  refine (put_isPrefix hstore hchunk).eq_of_length ?_
  have hle := List.IsPrefix.length_le hstore
  rw [length_put hplace]
  omega

end Chunks
