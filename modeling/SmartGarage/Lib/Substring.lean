/-
The first place at which a pattern occurs in a list: how it is told by the occurrences, and what appending to the list
does to it.
-/
import Mathlib.Data.List.Basic

namespace Substring

/-! ## Occurrences -/

section Occurrences

variable {α : Type} {pattern s t : List α} {o : Nat}

/-- The pattern occurs at a place. -/
def OccursAt (pattern s : List α) (o : Nat) : Prop := pattern <+: s.drop o

theorem occursAt_nil : OccursAt pattern [] o ↔ pattern = [] := by
  unfold OccursAt
  rw [List.drop_nil, List.prefix_nil]

theorem OccursAt.le (h : OccursAt pattern s o) (hne : pattern ≠ []) : o + pattern.length ≤ s.length := by
  have hlen := h.length_le
  have hpos := List.length_pos_iff.2 hne
  rw [List.length_drop] at hlen
  omega

theorem occursAt_append (h : o + pattern.length ≤ s.length) : OccursAt pattern (s ++ t) o ↔ OccursAt pattern s o := by
  have hdrop : (s ++ t).drop o = s.drop o ++ t := List.drop_append_of_le_length (by omega)
  have hroom : pattern.length ≤ (s.drop o).length := by
    rw [List.length_drop]
    omega
  unfold OccursAt
  rw [hdrop]
  constructor
  · intro hp
    exact List.prefix_of_prefix_length_le hp (List.prefix_append _ _) hroom
  · intro hp
    exact hp.trans (List.prefix_append _ _)

theorem OccursAt.append (h : OccursAt pattern s o) : OccursAt pattern (s ++ t) o := by
  by_cases hne : pattern = []
  · subst hne
    exact List.nil_prefix
  · exact (occursAt_append (h.le hne)).2 h

end Occurrences

/-! ## The first occurrence -/

section FirstAt

variable {α : Type} [DecidableEq α] {pattern s t : List α} {o : Nat}

/-- The first place at which the pattern occurs, as `strstr` finds it. -/
def firstAt (pattern : List α) : List α → Option Nat
  | [] => if pattern = [] then some 0 else none
  | a :: s => if pattern.isPrefixOf (a :: s) then some 0 else (firstAt pattern s).map (· + 1)

theorem firstAt_eq_none_iff : firstAt pattern s = none ↔ ∀ o, ¬OccursAt pattern s o := by
  induction s with
  | nil => simp [firstAt, occursAt_nil]
  | cons a s ih =>
    rw [firstAt]
    constructor
    · intro h o
      split at h
      · cases h
      · next hhere =>
        cases o with
        | zero => exact fun hocc => hhere (List.isPrefixOf_iff_prefix.2 hocc)
        | succ o => exact ih.1 (Option.map_eq_none_iff.1 h) o
    · intro h
      have hhere : ¬pattern.isPrefixOf (a :: s) = true := fun hp => h 0 (List.isPrefixOf_iff_prefix.1 hp)
      rw [if_neg hhere, Option.map_eq_none_iff]
      exact ih.2 fun o => h (o + 1)

theorem firstAt_eq_some_iff : firstAt pattern s = some o ↔ OccursAt pattern s o ∧ ∀ i < o, ¬OccursAt pattern s i := by
  induction s generalizing o with
  | nil =>
    simp only [firstAt, occursAt_nil]
    split
    · next hnil =>
      simp only [Option.some.injEq, hnil, not_true, imp_false, true_and]
      constructor
      · rintro rfl i
        exact Nat.not_lt_zero i
      · intro h
        exact (Nat.eq_zero_of_not_pos (h 0)).symm
    · next hnil => simp [hnil]
  | cons a s ih =>
    rw [firstAt]
    split
    · next hhere =>
      have hzero : OccursAt pattern (a :: s) 0 := List.isPrefixOf_iff_prefix.1 hhere
      constructor
      · intro h
        cases h
        exact ⟨hzero, fun i hi => absurd hi (Nat.not_lt_zero i)⟩
      · rintro ⟨-, hfirst⟩
        cases o with
        | zero => rfl
        | succ o => exact absurd hzero (hfirst 0 (Nat.succ_pos o))
    · next hhere =>
      have hzero : ¬OccursAt pattern (a :: s) 0 := fun h => hhere (List.isPrefixOf_iff_prefix.2 h)
      cases o with
      | zero => simp [hzero]
      | succ o =>
        simp only [Option.map_eq_some_iff, Nat.add_right_cancel_iff, exists_eq_right, ih]
        constructor
        · rintro ⟨hocc, hfirst⟩
          refine ⟨hocc, fun i hi => ?_⟩
          cases i with
          | zero => exact hzero
          | succ i => exact hfirst i (Nat.lt_of_succ_lt_succ hi)
        · rintro ⟨hocc, hfirst⟩
          exact ⟨hocc, fun i hi => hfirst (i + 1) (Nat.succ_lt_succ hi)⟩

theorem firstAt_append (h : firstAt pattern s = some o) : firstAt pattern (s ++ t) = some o := by
  obtain ⟨hocc, hfirst⟩ := firstAt_eq_some_iff.1 h
  refine firstAt_eq_some_iff.2 ⟨hocc.append, fun i hi hi' => hfirst i hi ?_⟩
  by_cases hne : pattern = []
  · subst hne
    exact List.nil_prefix
  · have hle := hocc.le hne
    exact (occursAt_append (by omega)).1 hi'

theorem firstAt_take (h : firstAt pattern s = some o) : firstAt pattern (s.take (o + pattern.length)) = some o := by
  obtain ⟨hocc, hfirst⟩ := firstAt_eq_some_iff.1 h
  have hsplit := List.take_append_drop (o + pattern.length) s
  refine firstAt_eq_some_iff.2 ⟨?_, fun i hi hi' => hfirst i hi ?_⟩
  · unfold OccursAt at hocc ⊢
    rw [List.drop_take, Nat.add_sub_cancel_left]
    obtain ⟨rest, hrest⟩ := hocc
    have htake : (pattern ++ rest).take pattern.length = pattern := List.take_left
    exact ⟨[], by rw [← hrest, htake, List.append_nil]⟩
  · rw [← hsplit]
    exact hi'.append

/-- A pattern of which no end is a beginning of its own is found behind a list without it, right at the end. -/
theorem firstAt_behind (h : firstAt pattern s = none)
    (hborder : ∀ k < pattern.length, 0 < k → ¬pattern.drop k <+: pattern) :
    firstAt pattern (s ++ (pattern ++ t)) = some s.length := by
  refine firstAt_eq_some_iff.2 ⟨?_, fun i hi hocc => ?_⟩
  · unfold OccursAt
    rw [List.drop_left]
    exact List.prefix_append _ _
  · by_cases hin : i + pattern.length ≤ s.length
    · exact firstAt_eq_none_iff.1 h i ((occursAt_append hin).1 hocc)
    · -- the end of the occurrence is at the beginning of the pattern behind the list
      refine hborder (s.length - i) (by omega) (by omega) ?_
      have hdrop : (s ++ (pattern ++ t)).drop i = s.drop i ++ (pattern ++ t) :=
        List.drop_append_of_le_length (by omega)
      unfold OccursAt at hocc
      rw [hdrop] at hocc
      obtain ⟨rest, hrest⟩ := hocc
      have hbehind := congrArg (List.drop (s.length - i)) hrest
      rw [List.drop_append_of_le_length (by omega), List.drop_left' (by rw [List.length_drop])] at hbehind
      have hprefix : pattern.drop (s.length - i) <+: pattern ++ t := ⟨rest, hbehind⟩
      refine List.prefix_of_prefix_length_le hprefix (List.prefix_append _ _) ?_
      rw [List.length_drop]
      omega

end FirstAt

end Substring
