/-
A queue in a ring of cells: the items stand one behind another from the head on, around the end of the ring. The ring
may be moved to a longer one by taking the items from the head up to the end of the ring to the new end.
-/
import SmartGarage.Lib.Ring

namespace RingQueue

variable {α : Type} {cells cells' : List α} {head head' count : Nat} {items : List α} {x : α}

/-- The ring holds the items: the first at the head, and the others behind it. -/
structure Holds (cells : List α) (head count : Nat) (items : List α) : Prop where
  pos : 0 < cells.length
  count : count = items.length
  fits : items.length ≤ cells.length
  item : ∀ k, k < items.length → cells[(head + k) % cells.length]? = items[k]?

theorem Holds.empty (h : 0 < cells.length) : Holds cells 0 0 [] where
  pos := h
  count := rfl
  fits := Nat.zero_le _
  item k hk := absurd hk (Nat.not_lt_zero k)

theorem Holds.push (h : Holds cells head count items) (hroom : count < cells.length) (x : α) :
    Holds (cells.set ((head + count) % cells.length) x) head (count + 1) (items ++ [x]) where
  pos := by
    rw [List.length_set]
    exact h.pos
  count := by rw [h.count, List.length_append, List.length_singleton]
  fits := by
    rw [List.length_append, List.length_singleton, List.length_set, ← h.count]
    exact hroom
  item k hk := by
    rw [List.length_append, List.length_singleton] at hk
    rw [List.length_set]
    rcases Nat.lt_or_eq_of_le (Nat.le_of_lt_succ hk) with hold | rfl
    · rw [List.getElem?_set_ne, h.item k hold, List.getElem?_append_left hold]
      rw [h.count] at hroom ⊢
      exact (Ring.mod_ne (by omega) (by omega)).symm
    · rw [h.count, List.getElem?_set_self (Nat.mod_lt _ h.pos), List.getElem?_append_right (Nat.le_refl _), Nat.sub_self]
      rfl

theorem Holds.pop (h : Holds cells head count (x :: items)) :
    cells[head % cells.length]? = some x ∧
      Holds cells ((head + 1) % cells.length) (count - 1) items := by
  have hcount := h.count
  have hfits := h.fits
  rw [List.length_cons] at hcount hfits
  refine ⟨h.item 0 (Nat.zero_lt_succ _), h.pos, by omega, by omega, fun k hk => ?_⟩
  have hitem := h.item (k + 1) (by rw [List.length_cons]; omega)
  rw [List.getElem?_cons_succ] at hitem
  rw [← hitem, Nat.mod_add_mod, Nat.add_assoc, Nat.add_comm 1 k]

/-- The items of a full ring in a longer one: what stood in front of the head stays, and what stood from the head on
now ends with the ring. -/
theorem Holds.grow (h : Holds cells head count items) (hhead : head < cells.length) (hfull : count = cells.length)
    (hlonger : cells.length ≤ cells'.length) (hhead' : head' = cells'.length - (cells.length - head))
    (hfront : ∀ i < head, cells'[i]? = cells[i]?)
    (hback : ∀ j < cells.length - head, cells'[head' + j]? = cells[head + j]?) : Holds cells' head' count items where
  pos := Nat.lt_of_lt_of_le h.pos hlonger
  count := h.count
  fits := Nat.le_trans h.fits hlonger
  item k hk := by
    have hlen : items.length = cells.length := h.count.symm.trans hfull
    rw [← h.item k hk]
    by_cases hback' : k < cells.length - head
    · rw [Nat.mod_eq_of_lt (by omega), Nat.mod_eq_of_lt (by omega)]
      exact hback k hback'
    · have hold : (head + k) % cells.length = head + k - cells.length := by
        rw [Nat.mod_eq_sub_mod (by omega), Nat.mod_eq_of_lt (by omega)]
      have hnew : (head' + k) % cells'.length = head + k - cells.length := by
        rw [Nat.mod_eq_sub_mod (by omega), Nat.mod_eq_of_lt (by omega)]
        omega
      rw [hold, hnew]
      exact hfront _ (by omega)

end RingQueue
