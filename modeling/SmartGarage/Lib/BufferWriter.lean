/-
A writer that puts items one behind another into a buffer of a fixed capacity. A write that goes beyond the
capacity is a failure, and a failure sticks; what is written and taken back leaves nothing but its failure.
-/
import Mathlib.Algebra.BigOperators.Group.List.Basic
import Mathlib.Algebra.GroupWithZero.Nat

/-- The items that have been written, and whether a write has failed. -/
structure BufferWriter (α : Type) where
  items : List α
  failed : Bool

namespace BufferWriter

variable {α : Type}

/-- `put a` writes an item, `withdrawn n` writes `n` cells behind the items and takes them back. -/
inductive Op (α : Type)
  | put (a : α)
  | withdrawn (n : Nat)

/-- A writer that has not been used. -/
def empty : BufferWriter α := ⟨[], false⟩

section Capacity

variable (capacity : Nat) (size : α → Nat)

/-- The number of cells that the items take. -/
def used (w : BufferWriter α) : Nat := (w.items.map size).sum

/-- One operation. -/
def apply (w : BufferWriter α) : Op α → BufferWriter α
  | .put a => ⟨w.items ++ [a], w.failed || decide (capacity < w.used size + size a)⟩
  | .withdrawn n => ⟨w.items, w.failed || decide (capacity < w.used size + n)⟩

/-- Some operations. -/
def run (w : BufferWriter α) (ops : List (Op α)) : BufferWriter α := ops.foldl (apply capacity size) w

/-- The furthest place that some operations write to, from a place on. -/
def reach : Nat → List (Op α) → Nat
  | start, [] => start
  | start, .put a :: ops => reach (start + size a) ops
  | start, .withdrawn n :: ops => max (start + n) (reach start ops)

/-- What has not failed is within the capacity. -/
def Within (w : BufferWriter α) : Prop := w.failed = false → w.used size ≤ capacity

/-! ## Runs -/

variable {capacity size}

theorem within_empty : Within capacity size (empty : BufferWriter α) := fun _ => Nat.zero_le _

theorem used_put (w : BufferWriter α) (a : α) : (w.apply capacity size (.put a)).used size = w.used size + size a := by
  simp [used, apply]

theorem within_apply {w : BufferWriter α} (h : Within capacity size w) (op : Op α) :
    Within capacity size (w.apply capacity size op) := by
  intro hok
  cases op with
  | put a =>
    rw [used_put]
    simp only [apply, Bool.or_eq_false_iff, decide_eq_false_iff_not] at hok
    exact Nat.le_of_not_lt hok.2
  | withdrawn n =>
    simp only [apply, Bool.or_eq_false_iff] at hok
    exact h hok.1

theorem within_run : ∀ (ops : List (Op α)) {w : BufferWriter α}, Within capacity size w → Within capacity size (w.run capacity size ops)
  | [], _, h => h
  | op :: ops, _, h => within_run ops (within_apply h op)

theorem le_reach : ∀ (ops : List (Op α)) (start : Nat), start ≤ reach size start ops
  | [], _ => Nat.le_refl _
  | .put _ :: ops, _ => Nat.le_trans (Nat.le_add_right _ _) (le_reach ops _)
  | .withdrawn _ :: ops, start => Nat.le_trans (le_reach ops start) (Nat.le_max_right _ _)

/-- A run does not fail exactly if it starts without a failure and no write goes beyond the capacity. -/
theorem run_failed : ∀ (ops : List (Op α)) {w : BufferWriter α}, Within capacity size w →
    ((w.run capacity size ops).failed = false ↔ w.failed = false ∧ reach size (w.used size) ops ≤ capacity)
  | [], w, h => by
    show w.failed = false ↔ w.failed = false ∧ w.used size ≤ capacity
    exact ⟨fun hok => ⟨hok, h hok⟩, And.left⟩
  | .put a :: ops, w, h => by
    have hrest := run_failed ops (within_apply h (.put a))
    rw [used_put] at hrest
    have hle : w.used size + size a ≤ reach size (w.used size + size a) ops := le_reach ops _
    show ((w.apply capacity size (.put a)).run capacity size ops).failed = false ↔ _
    rw [hrest]
    simp only [apply, reach, Bool.or_eq_false_iff, decide_eq_false_iff_not]
    constructor
    · exact fun ⟨⟨hok, _⟩, hreach⟩ => ⟨hok, hreach⟩
    · exact fun ⟨hok, hreach⟩ => ⟨⟨hok, by omega⟩, hreach⟩
  | .withdrawn n :: ops, w, h => by
    have hrest := run_failed ops (within_apply h (.withdrawn n))
    have hused : (w.apply capacity size (.withdrawn n)).used size = w.used size := rfl
    rw [hused] at hrest
    show ((w.apply capacity size (.withdrawn n)).run capacity size ops).failed = false ↔ _
    rw [hrest]
    simp only [apply, reach, Bool.or_eq_false_iff, decide_eq_false_iff_not, Nat.not_lt, Nat.max_le]
    exact and_assoc

/-- The items that some operations leave. -/
def puts : List (Op α) → List α
  | [] => []
  | .put a :: ops => a :: puts ops
  | .withdrawn _ :: ops => puts ops

theorem run_items : ∀ (ops : List (Op α)) (w : BufferWriter α), (w.run capacity size ops).items = w.items ++ puts ops
  | [], w => (List.append_nil _).symm
  | .put a :: ops, w => by
    show ((w.apply capacity size (.put a)).run capacity size ops).items = _
    rw [run_items ops]
    simp [apply, puts]
  | .withdrawn n :: ops, w => run_items ops (w.apply capacity size (.withdrawn n))

end Capacity

end BufferWriter
