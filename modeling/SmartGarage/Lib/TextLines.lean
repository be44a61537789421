/-
Text in lines: lines with an ending behind each of them, which can be told apart again, and a writer that puts an ending
behind as many characters as a line has room for.
-/
import Mathlib.Data.List.Induction
import Mathlib.Tactic.Common

namespace TextLines

variable {α : Type}

/-! ## Lines -/

/-- The lines with the ending behind each of them. -/
def joined (ending : List α) (lines : List (List α)) : List α := lines.flatMap (· ++ ending)

section Joined

variable {ending : List α} {line : List α} {lines lines' : List (List α)}

@[simp] theorem joined_nil : joined ending [] = [] := rfl

@[simp] theorem joined_cons : joined ending (line :: lines) = line ++ ending ++ joined ending lines := rfl

@[simp] theorem joined_append : joined ending (lines ++ lines') = joined ending lines ++ joined ending lines' :=
  List.flatMap_append

theorem mem_joined {x : α} (h : x ∈ joined ending lines) : x ∈ ending ∨ ∃ line ∈ lines, x ∈ line := by
  obtain ⟨line, hline, hx⟩ := List.mem_flatMap.1 h
  rcases List.mem_append.1 hx with hx | hx
  · exact .inr ⟨line, hline, hx⟩
  · exact .inl hx

theorem length_joined {width : Nat} (h : ∀ line ∈ lines, line.length = width) :
    (joined ending lines).length = lines.length * (width + ending.length) := by
  induction lines with
  | nil => simp
  | cons line lines ih =>
    have hrest := ih fun l hl => h l (List.mem_cons_of_mem _ hl)
    rw [joined_cons, List.length_append, List.length_append, hrest, h line List.mem_cons_self, List.length_cons,
      Nat.succ_mul]
    omega

/-- Two texts that go on behind a character that is in neither of them. -/
theorem append_cons_inj {a : α} {s s' t t' : List α} (hs : a ∉ s) (hs' : a ∉ s') (h : s ++ a :: t = s' ++ a :: t') :
    s = s' ∧ t = t' := by
  induction s generalizing s' with
  | nil =>
    cases s' with
    | nil => exact ⟨rfl, (List.cons.inj h).2⟩
    | cons b s' => exact absurd (List.cons.inj h).1 fun heq => hs' (heq ▸ List.mem_cons_self)
  | cons b s ih =>
    cases s' with
    | nil => exact absurd (List.cons.inj h).1 fun heq => hs (heq ▸ List.mem_cons_self)
    | cons b' s' =>
      obtain ⟨hb, hrest⟩ := List.cons.inj h
      obtain ⟨hs, ht⟩ := ih (fun hmem => hs (List.mem_cons_of_mem _ hmem)) (fun hmem => hs' (List.mem_cons_of_mem _ hmem))
        hrest
      exact ⟨by rw [hb, hs], ht⟩

/-- The lines of a text are known if the first character of the ending is in none of them. -/
theorem joined_injective {a : α} (hlines : ∀ line ∈ lines, a ∉ line) (hlines' : ∀ line ∈ lines', a ∉ line)
    (h : joined (a :: ending) lines = joined (a :: ending) lines') : lines = lines' := by
  induction lines generalizing lines' with
  | nil =>
    cases lines' with
    | nil => rfl
    | cons line' lines' => simp at h
  | cons line lines ih =>
    cases lines' with
    | nil => simp at h
    | cons line' lines' =>
      simp only [joined_cons, List.append_assoc, List.cons_append] at h
      obtain ⟨hline, hrest⟩ := append_cons_inj (hlines line List.mem_cons_self) (hlines' line' List.mem_cons_self) h
      rw [hline, ih (fun l hl => hlines l (List.mem_cons_of_mem _ hl)) (fun l hl => hlines' l (List.mem_cons_of_mem _ hl))
        (List.append_cancel_left hrest)]

end Joined

/-! ## A writer -/

/-- The text so far, and the number of characters that have been put to it. -/
structure Writer (α : Type) where
  output : List α
  count : Nat

/-- Puts a character to the text, and an ending behind it if the line is full. -/
def Writer.put (width : Nat) (ending : List α) (s : Writer α) (x : α) : Writer α :=
  { output := if (s.count + 1) % width = 0 then s.output ++ [x] ++ ending else s.output ++ [x], count := s.count + 1 }

/-- A writer that has put some characters behind what was there in front of them: full lines, and a part of one. -/
structure Wraps (width : Nat) (ending front chars : List α) (full : List (List α)) (part : List α) (s : Writer α) : Prop where
  output : s.output = front ++ joined ending full ++ part
  count : s.count = chars.length
  chars : full.flatten ++ part = chars
  full : ∀ line ∈ full, line.length = width
  part : part.length < width

section Wraps

variable {width : Nat} {ending front chars part : List α} {full : List (List α)} {s : Writer α}

theorem Wraps.start (hwidth : 0 < width) (hs : s.count = 0) : Wraps width ending s.output [] [] [] s where
  output := by simp
  count := hs
  chars := rfl
  full := by simp
  part := hwidth

theorem Wraps.length_chars (h : Wraps width ending front chars full part s) :
    chars.length = width * full.length + part.length := by
  have hfull : full.flatten.length = full.length * width := by
    have hjoined : (joined [] full).length = _ := length_joined h.full
    have hflatten : joined [] full = full.flatten := by simp only [joined, List.append_nil, List.flatMap_id']
    rw [← hflatten, hjoined, List.length_nil, Nat.add_zero]
  rw [← h.chars, List.length_append, hfull, Nat.mul_comm]

theorem Wraps.put (h : Wraps width ending front chars full part s) (x : α) :
    ∃ full part, Wraps width ending front (chars ++ [x]) full part (s.put width ending x) := by
  have hpart := h.part
  have hmod : (s.count + 1) % width = (part.length + 1) % width := by
    rw [h.count, h.length_chars, Nat.add_assoc, Nat.mul_add_mod]
  by_cases hfull : part.length + 1 = width
  · rw [hfull, Nat.mod_self] at hmod
    refine ⟨full ++ [part ++ [x]], [], ?_, ?_, ?_, ?_, ?_⟩
    · simp only [Writer.put, hmod, if_true, h.output, joined_append, joined_cons, joined_nil, List.append_nil,
        List.append_assoc]
    · simp [Writer.put, h.count]
    · rw [← h.chars]
      simp
    · intro line hline
      rcases List.mem_append.1 hline with hline | hline
      · exact h.full line hline
      · rw [List.mem_singleton.1 hline, List.length_append, List.length_singleton, hfull]
    · rw [List.length_nil]
      omega
  · have hne : (s.count + 1) % width ≠ 0 := by
      rw [hmod, Nat.mod_eq_of_lt (show part.length + 1 < width by omega)]
      omega
    refine ⟨full, part ++ [x], ?_, ?_, ?_, h.full, ?_⟩
    · simp [Writer.put, hne, h.output]
    · simp [Writer.put, h.count]
    · rw [← h.chars, List.append_assoc]
    · rw [List.length_append, List.length_singleton]
      omega

theorem exists_wraps (hwidth : 0 < width) (chars : List α) (hs : s.count = 0) :
    ∃ full part, Wraps width ending s.output chars full part (chars.foldl (Writer.put width ending) s) := by
  induction chars using List.reverseRecOn with
  | nil => exact ⟨[], [], Wraps.start hwidth hs⟩
  | append_singleton chars x ih =>
    obtain ⟨full, part, h⟩ := ih
    rw [List.foldl_append]
    exact h.put x

theorem Wraps.length_full (h : Wraps width ending front chars full part s) : full.length = chars.length / width := by
  have hpart := h.part
  rw [h.length_chars, Nat.mul_add_div (by omega), Nat.div_eq_of_lt hpart, Nat.add_zero]

theorem Wraps.length_output (h : Wraps width ending front chars full part s) :
    s.output.length = front.length + chars.length + chars.length / width * ending.length := by
  rw [h.output, List.length_append, List.length_append, length_joined h.full, ← h.length_full, h.length_chars, Nat.mul_add,
    Nat.mul_comm width]
  omega

end Wraps

end TextLines
