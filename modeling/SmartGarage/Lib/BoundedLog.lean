/-
Logs of bounded size: the log keeps the newest items whose sizes add up to the bound at most, and what it drops for a
new item are the oldest ones.
-/
import Mathlib.Algebra.BigOperators.Group.List.Basic
import Mathlib.Algebra.GroupWithZero.Nat
import Mathlib.Algebra.Order.Group.Nat

namespace BoundedLog

variable {α : Type} (size : α → Nat)

/-- The size of some items. -/
def total (l : List α) : Nat := (l.map size).sum

@[simp] theorem total_nil : total size [] = 0 := rfl

@[simp] theorem total_cons (a : α) (l : List α) : total size (a :: l) = size a + total size l := rfl

@[simp] theorem total_append (l l' : List α) : total size (l ++ l') = total size l + total size l' := by
  unfold total
  rw [List.map_append, List.sum_append]

/-- `kept` is the longest part of the end of `items` within the bound. -/
structure Retains (max : Nat) (items kept : List α) : Prop where
  suffix : kept <:+ items
  fits : total size kept ≤ max
  maximal : ∀ longer, longer <:+ items → kept.length < longer.length → max < total size longer

variable {size} {max : Nat} {items kept : List α}

theorem retains_nil : Retains size max [] [] :=
  ⟨List.suffix_rfl, Nat.zero_le _, fun longer hlonger hlength => by
    rw [List.suffix_nil.1 hlonger] at hlength
    exact absurd hlength (Nat.lt_irrefl 0)⟩

/-- Only what would exceed the bound together with all newer items has been dropped. -/
theorem Retains.dropped (h : Retains size max items kept) {older newer : List α} {item : α}
    (hitems : items = older ++ item :: newer) (hdropped : kept.length ≤ newer.length) :
    max < total size (item :: newer) :=
  h.maximal _ ⟨older, hitems.symm⟩ (Nat.lt_succ_of_le hdropped)

/-- The oldest items are dropped until there is room for `a`. -/
def evict (size : α → Nat) (max : Nat) (a : α) : List α → List α
  | [] => []
  | item :: rest => if size a + total size (item :: rest) > max then evict size max a rest else item :: rest

theorem evict_of_room {a : α} {l : List α} (h : size a + total size l ≤ max) : evict size max a l = l := by
  cases l with
  | nil => rfl
  | cons item rest => exact if_neg (Nat.not_lt_of_le h)

theorem evict_suffix (a : α) : ∀ l : List α, evict size max a l <:+ l
  | [] => List.suffix_rfl
  | item :: rest => by
    rw [evict]
    split
    · exact (evict_suffix a rest).trans (List.suffix_cons item rest)
    · exact List.suffix_rfl

theorem evict_fits {a : α} (ha : size a ≤ max) : ∀ l : List α, size a + total size (evict size max a l) ≤ max
  | [] => ha
  | item :: rest => by
    rw [evict]
    split
    · exact evict_fits ha rest
    · rename_i hroom
      exact Nat.le_of_not_lt hroom

theorem evict_maximal (a : α) : ∀ {l longer : List α}, longer <:+ l → (evict size max a l).length < longer.length →
    max < size a + total size longer
  | [], longer, hlonger, hlength => by
    rw [List.suffix_nil.1 hlonger] at hlength
    exact absurd hlength (Nat.not_lt_zero _)
  | item :: rest, longer, hlonger, hlength => by
    rw [evict] at hlength
    split at hlength
    · rename_i hfull
      rcases List.suffix_cons_iff.1 hlonger with rfl | hrest
      · exact hfull
      · exact evict_maximal a hrest hlength
    · exact absurd hlength (Nat.not_lt_of_le hlonger.length_le)

theorem Retains.push (h : Retains size max items kept) {a : α} (ha : size a ≤ max) :
    Retains size max (items ++ [a]) (evict size max a kept ++ [a]) where
  suffix := by
    obtain ⟨front, hfront⟩ := (evict_suffix a kept).trans h.suffix
    exact ⟨front, by rw [← hfront, List.append_assoc]⟩
  fits := by
    have hfits := evict_fits ha kept
    rw [total_append, total_cons, total_nil]
    omega
  maximal := by
    intro longer hlonger hlength
    rcases List.suffix_concat_iff.1 hlonger with rfl | ⟨front, rfl, hfront⟩
    · exact absurd hlength (Nat.not_lt_zero _)
    · rw [List.length_append, List.length_append] at hlength
      have hshorter : (evict size max a kept).length < front.length := Nat.lt_of_add_lt_add_right hlength
      rw [total_append, total_cons, total_nil]
      by_cases hkept : kept.length < front.length
      · have hmax := h.maximal front hfront hkept
        omega
      · -- the part of the items is one of what has been kept
        have hsuffix : front <:+ kept :=
          List.suffix_of_suffix_length_le hfront h.suffix (Nat.le_of_not_lt hkept)
        have hmax := evict_maximal a hsuffix hshorter
        omega

end BoundedLog
