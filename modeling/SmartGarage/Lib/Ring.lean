/-
A ring of a fixed number of cells that all start with one value: after any number of writes the cells
hold the last values written, and the starting value as long as the ring has not been filled.
-/
import Mathlib.Data.Nat.ModEq
import Mathlib.Tactic.Common

namespace Ring

variable {α : Type} {d x y : α} {n idx : Nat} {cells tr : List α}

/-- A ring of `n` cells that started with `d` and to which the values `tr` have been written, in this order;
`idx` is the next cell. -/
structure Holds (d : α) (n : Nat) (cells : List α) (idx : Nat) (tr : List α) : Prop where
  pos : 0 < n
  length : cells.length = n
  idx : idx = tr.length % n
  start : ∀ i < n, tr.length ≤ i → cells[i]? = some d
  written : ∀ j, j < tr.length → tr.length ≤ j + n → cells[j % n]? = tr[j]?

theorem Holds.init (hn : 0 < n) : Holds d n (List.replicate n d) 0 [] where
  pos := hn
  length := List.length_replicate
  idx := (Nat.zero_mod n).symm
  start := fun i hi _ => by simp [hi]
  written := fun j hj => absurd hj (Nat.not_lt_zero j)

/-- Two places that are less than a turn apart are in different cells. -/
theorem mod_ne {a b : Nat} (hab : a < b) (hlt : b < a + n) : a % n ≠ b % n := by
  intro h
  have hdvd : n ∣ b - a := (Nat.modEq_iff_dvd' (Nat.le_of_lt hab)).1 h
  have hle := Nat.le_of_dvd (by omega) hdvd
  omega

theorem Holds.push (h : Holds d n cells idx tr) (x : α) :
    Holds d n (cells.set idx x) ((idx + 1) % n) (tr ++ [x]) where
  pos := h.pos
  length := by rw [List.length_set, h.length]
  idx := by
    rw [h.idx, List.length_append, List.length_singleton]
    exact Nat.mod_add_mod _ _ _
  start := by
    intro i hi hle
    rw [List.length_append, List.length_singleton] at hle
    have hne : idx ≠ i := by
      rw [h.idx, Nat.mod_eq_of_lt (by omega)]
      omega
    rw [List.getElem?_set_ne hne]
    exact h.start i hi (by omega)
  written := by
    intro j hj hle
    rw [List.length_append, List.length_singleton] at hj hle
    have hlt : tr.length % n < cells.length := by
      rw [h.length]
      exact Nat.mod_lt _ h.pos
    rcases Nat.lt_or_eq_of_le (Nat.le_of_lt_succ hj) with hold | rfl
    · have hne : idx ≠ j % n := by
        rw [h.idx]
        exact (mod_ne hold (by omega)).symm
      rw [List.getElem?_set_ne hne, List.getElem?_append_left hold]
      exact h.written j hold (by omega)
    · rw [h.idx, List.getElem?_set_self hlt, List.getElem?_append_right (Nat.le_refl _), Nat.sub_self]
      rfl

theorem Holds.mem_iff (h : Holds d n cells idx tr) :
    y ∈ cells ↔ (y = d ∧ tr.length < n) ∨ y ∈ tr.drop (tr.length - n) := by
  have hdrop : y ∈ tr.drop (tr.length - n) ↔ ∃ j, j < tr.length ∧ tr.length ≤ j + n ∧ tr[j]? = some y := by
    rw [List.mem_iff_getElem?]
    constructor
    · rintro ⟨i, hi⟩
      rw [List.getElem?_drop] at hi
      have hlt : tr.length - n + i < tr.length := (List.getElem?_eq_some_iff.1 hi).1
      exact ⟨_, hlt, by omega, hi⟩
    · rintro ⟨j, hj, hle, hy⟩
      refine ⟨j - (tr.length - n), ?_⟩
      rw [List.getElem?_drop, Nat.add_sub_cancel' (by omega)]
      exact hy
  rw [hdrop]
  constructor
  · intro hy
    obtain ⟨i, hi, rfl⟩ := List.mem_iff_getElem.1 hy
    have hin : i < n := h.length ▸ hi
    have hcell : cells[i]? = some cells[i] := List.getElem?_eq_getElem hi
    by_cases hlen : tr.length ≤ i
    · rw [h.start i hin hlen] at hcell
      exact .inl ⟨(Option.some.inj hcell).symm, by omega⟩
    · -- the last place below the write position that falls into cell `i`
      refine .inr ?_
      have hmod := Nat.mod_lt (tr.length - 1 - i) h.pos
      have hdiv := Nat.div_add_mod (tr.length - 1 - i) n
      refine ⟨i + n * ((tr.length - 1 - i) / n), by omega, by omega, ?_⟩
      rw [← h.written _ (by omega) (by omega), Nat.add_mul_mod_self_left, Nat.mod_eq_of_lt hin]
      exact hcell
  · rintro (⟨rfl, hlen⟩ | ⟨j, hj, hle, hy⟩)
    · exact List.mem_of_getElem? (h.start tr.length hlen (Nat.le_refl _))
    · rw [← h.written j hj hle] at hy
      exact List.mem_of_getElem? hy

end Ring
