/-
Programs that print text into a buffer the way `snprintf` does, piece by piece: each one moves on by the length of its
text, gives up the buffer when the text has reached its end, and counts on. What a program leaves in a buffer of any size
is then told by its text alone.
-/
import Mathlib.Data.List.GetD

namespace TextBuffer

/-! ## States -/

/-- The memory, the place that is written to next, the number of cells left from there, and the characters so far. -/
structure State where
  mem : Nat → UInt8
  pos : Nat
  size : Nat
  total : Nat

namespace State

variable (s : State)

/-- Moves on by the length of a text, or to the end of the buffer, which is then given up. -/
def advance (n : Nat) : State :=
  if n < s.size then { s with total := s.total + n, pos := s.pos + n, size := s.size - n }
  else { s with total := s.total + n, pos := s.pos + s.size, size := 0 }

/-- Writes some characters one behind another. -/
def store (text : List UInt8) : State :=
  { s with mem := fun i => if s.pos ≤ i ∧ i < s.pos + text.length then text.getD (i - s.pos) 0 else s.mem i }

/-- `snprintf`: as much of the text as there is room for in front of a zero. -/
def snprintf (text : List UInt8) : State :=
  if s.size = 0 then s else s.store (text.take (s.size - 1) ++ [0])

/-- `snprintf`, and on. -/
def print (text : List UInt8) : State := (s.snprintf text).advance text.length

/-- Copies a text without a zero if there is room for it, one more character and a zero, and gives up the buffer if not. -/
def copy (text : List UInt8) : State :=
  if text.length + 1 < s.size then (s.store text).advance text.length
  else { s with total := s.total + text.length, pos := s.pos + s.size, size := 0 }

end State

/-! ## Programs -/

/-- `print` prints a text, `framed` copies one between two characters, `call` has a count of its own, and `undefined` has
no meaning. -/
inductive Program
  | skip
  | print (text : List UInt8)
  | framed (front : UInt8) (text : List UInt8) (behind : UInt8)
  | call (body : Program)
  | seq (first second : Program)
  | undefined

namespace Program

/-- What a program does. -/
def run : Program → State → Option State
  | skip, s => some s
  | print text, s => some (s.print text)
  | framed front text behind, s => some (((s.print [front]).copy text).print [behind])
  | call body, s => do
    let s' ← body.run { s with total := 0 }
    some ({ s with mem := s'.mem }.advance s'.total)
  | seq first second, s => do
    let s ← first.run s
    second.run s
  | undefined, _ => none

/-- What a program prints. -/
def text : Program → Option (List UInt8)
  | skip => some []
  | print text => some text
  | framed front text behind => some (front :: text ++ [behind])
  | call body => body.text
  | seq first second => do
    let a ← first.text
    let b ← second.text
    some (a ++ b)
  | undefined => none

/-- Some programs one behind another. -/
def all (programs : List Program) : Program := programs.foldr seq skip

/-- A program run on a buffer of `n` cells at the beginning of the memory: what is left there, and the count. -/
def fill (p : Program) (mem : Nat → UInt8) (n : Nat) : Option ((Nat → UInt8) × Nat) :=
  (p.run ⟨mem, 0, n, 0⟩).map fun s => (s.mem, s.total)

end Program

/-- A function that prints into a buffer behaves like `snprintf` with a text: it returns the length of the text, writes
nothing behind the buffer, and leaves a beginning of the text with a zero in it, which is the whole text if that fits. -/
def LikeSnprintf (f : (Nat → UInt8) → Nat → Option ((Nat → UInt8) × Nat)) (text : List UInt8) : Prop :=
  ∀ mem n, ∃ mem', f mem n = some (mem', text.length) ∧ (∀ i, n ≤ i → mem' i = mem i) ∧
    (0 < n → ∃ k < n, k ≤ text.length ∧ (text.length < n → k = text.length) ∧ mem' k = 0 ∧
      ∀ j < k, mem' j = text.getD j 0)

/-! ## What is left behind a text -/

/-- A text has been printed: the place and the count have moved on, nothing has been written outside of the buffer, and
in it there is the text, or a beginning of it with a zero behind. -/
structure Wrote (s : State) (text : List UInt8) (s' : State) : Prop where
  advanced : s' = { s.advance text.length with mem := s'.mem }
  outside : ∀ i, i < s.pos ∨ s.pos + s.size ≤ i → s'.mem i = s.mem i
  fits : text.length < s.size → ∀ j < text.length, s'.mem (s.pos + j) = text.getD j 0
  cut : 0 < s.size → s.size ≤ text.length → ∃ k < s.size, s'.mem (s.pos + k) = 0 ∧
    ∀ j < k, s'.mem (s.pos + j) = text.getD j 0

/-- There is a zero at the place that is written to next. -/
def State.Terminated (s : State) : Prop := 0 < s.size → s.mem s.pos = 0

variable {s s' s₁ s₂ : State} {t t₁ t₂ : List UInt8}

theorem advance_lt {n : Nat} (h : n < s.size) :
    (s.advance n).pos = s.pos + n ∧ (s.advance n).size = s.size - n ∧ (s.advance n).total = s.total + n := by
  unfold State.advance
  rw [if_pos h]
  exact ⟨rfl, rfl, rfl⟩

theorem advance_ge {n : Nat} (h : s.size ≤ n) :
    (s.advance n).pos = s.pos + s.size ∧ (s.advance n).size = 0 ∧ (s.advance n).total = s.total + n := by
  unfold State.advance
  rw [if_neg (Nat.not_lt.2 h)]
  exact ⟨rfl, rfl, rfl⟩

theorem advance_mem (n : Nat) : (s.advance n).mem = s.mem := by
  unfold State.advance
  split <;> rfl

theorem advance_total (n : Nat) : (s.advance n).total = s.total + n := by
  unfold State.advance
  split <;> rfl

theorem advance_advance (m n : Nat) (mem₁ mem₂ : Nat → UInt8) :
    { ({ s.advance m with mem := mem₁ } : State).advance n with mem := mem₂ } = { s.advance (m + n) with mem := mem₂ } := by
  unfold State.advance
  by_cases hm : m < s.size
  · by_cases hn : n < s.size - m
    · rw [if_pos hm, if_pos hn, if_pos (show m + n < s.size by omega)]
      simp only [State.mk.injEq, true_and]
      omega
    · rw [if_pos hm, if_neg hn, if_neg (show ¬m + n < s.size by omega)]
      simp only [State.mk.injEq, true_and]
      omega
  · rw [if_neg hm, if_neg (Nat.not_lt_zero n), if_neg (show ¬m + n < s.size by omega)]
    simp only [State.mk.injEq, true_and]
    omega

theorem Wrote.nil (s : State) : Wrote s [] s := by
  refine ⟨?_, fun i _ => rfl, fun _ j hj => absurd hj (Nat.not_lt_zero j), fun hsize hle => ?_⟩
  · unfold State.advance
    split
    · rfl
    · rename_i hsize
      have hzero : s.size = 0 := by simpa using hsize
      cases s
      cases hzero
      rfl
  · exact absurd hle (Nat.not_le.2 hsize)

/-- Where the place is, and that the end of the buffer stays where it is. -/
theorem Wrote.place (h : Wrote s t s₁) : s.pos ≤ s₁.pos ∧ s₁.pos + s₁.size = s.pos + s.size ∧
    (t.length < s.size → s₁.pos = s.pos + t.length) ∧ (s.size ≤ t.length → s₁.size = 0) := by
  have hpos := congrArg State.pos h.advanced
  have hsize := congrArg State.size h.advanced
  dsimp only at hpos hsize
  by_cases hlt : t.length < s.size
  · obtain ⟨hp, hs, -⟩ := advance_lt hlt
    omega
  · obtain ⟨hp, hs, -⟩ := advance_ge (Nat.not_lt.1 hlt)
    omega

theorem Wrote.append (h₁ : Wrote s t₁ s₁) (h₂ : Wrote s₁ t₂ s₂) : Wrote s (t₁ ++ t₂) s₂ := by
  obtain ⟨hle, hend, hfits, hfull⟩ := h₁.place
  have hfront : ∀ j < t₁.length, (t₁ ++ t₂).getD j 0 = t₁.getD j 0 := fun j hj => List.getD_append _ _ _ _ hj
  have hbehind : ∀ j, (t₁ ++ t₂).getD (t₁.length + j) 0 = t₂.getD j 0 := fun j => by
    rw [List.getD_append_right _ _ _ _ (Nat.le_add_right _ _), Nat.add_sub_cancel_left]
  constructor
  · rw [List.length_append, ← advance_advance _ _ s₁.mem s₂.mem, ← h₁.advanced]
    exact h₂.advanced
  · rintro i hi
    rw [h₂.outside i (by omega), h₁.outside i hi]
  · rintro hlt j hj
    rw [List.length_append] at hlt hj
    have hpos := hfits (by omega)
    by_cases hjm : j < t₁.length
    · rw [h₂.outside _ (by omega), h₁.fits (by omega) j hjm, hfront j hjm]
    · have hread := h₂.fits (by omega) (j - t₁.length) (by omega)
      rw [← hbehind, hpos, show s.pos + t₁.length + (j - t₁.length) = s.pos + j by omega,
        Nat.add_sub_cancel' (by omega)] at hread
      exact hread
  · rintro hsize hlen
    rw [List.length_append] at hlen
    by_cases hm : s.size ≤ t₁.length
    · obtain ⟨k, hk, hzero, hchars⟩ := h₁.cut hsize hm
      have hgone := hfull hm
      refine ⟨k, hk, ?_, fun j hj => ?_⟩
      · rw [h₂.outside _ (by omega), hzero]
      · rw [h₂.outside _ (by omega), hchars j hj, hfront j (by omega)]
    · have hpos := hfits (by omega)
      obtain ⟨k, hk, hzero, hchars⟩ := h₂.cut (by omega) (by omega)
      rw [hpos, Nat.add_assoc] at hzero
      refine ⟨t₁.length + k, by omega, hzero, fun j hj => ?_⟩
      by_cases hjm : j < t₁.length
      · rw [h₂.outside _ (by omega), h₁.fits (by omega) j hjm, hfront j hjm]
      · have hread := hchars (j - t₁.length) (by omega)
        rw [← hbehind, hpos, show s.pos + t₁.length + (j - t₁.length) = s.pos + j by omega,
          Nat.add_sub_cancel' (by omega)] at hread
        exact hread

/-! ## One text -/

theorem store_mem (i : Nat) : (s.store t).mem i =
    if s.pos ≤ i ∧ i < s.pos + t.length then t.getD (i - s.pos) 0 else s.mem i := rfl

theorem snprintf_mem (h : 0 < s.size) :
    (∀ i, i < s.pos ∨ s.pos + s.size ≤ i → (s.snprintf t).mem i = s.mem i) ∧
      (∀ j < min t.length (s.size - 1), (s.snprintf t).mem (s.pos + j) = t.getD j 0) ∧
        (s.snprintf t).mem (s.pos + min t.length (s.size - 1)) = 0 := by
  have hstored : s.snprintf t = s.store (t.take (s.size - 1) ++ [0]) := if_neg (by omega)
  have hlen : (t.take (s.size - 1) ++ [0]).length = min t.length (s.size - 1) + 1 := by
    rw [List.length_append, List.length_take, List.length_singleton, Nat.min_comm]
  rw [hstored]
  refine ⟨fun i hi => ?_, fun j hj => ?_, ?_⟩
  · rw [store_mem, hlen, if_neg (by omega)]
  · rw [store_mem, hlen, if_pos (by omega), Nat.add_sub_cancel_left, List.getD_append _ _ _ _ (by
      rw [List.length_take]
      omega)]
    simp only [List.getD_eq_getElem?_getD, List.getElem?_take]
    rw [if_pos (by omega)]
  · rw [store_mem, hlen, if_pos (by omega), Nat.add_sub_cancel_left, List.getD_append_right _ _ _ _ (by
      rw [List.length_take]
      omega), List.length_take]
    simp [Nat.min_comm]

theorem snprintf_place : (s.snprintf t).pos = s.pos ∧ (s.snprintf t).size = s.size ∧ (s.snprintf t).total = s.total := by
  unfold State.snprintf
  split <;> exact ⟨rfl, rfl, rfl⟩

theorem print_mem : (s.print t).mem = (s.snprintf t).mem := advance_mem _

theorem wrote_print (s : State) (t : List UInt8) : Wrote s t (s.print t) ∧ (s.print t).Terminated := by
  obtain ⟨hpos, hsize, htotal⟩ := snprintf_place (s := s) (t := t)
  have hadvanced : s.print t = { s.advance t.length with mem := (s.print t).mem } := by
    rw [print_mem]
    unfold State.print State.advance
    rw [hpos, hsize, htotal]
    split <;> rfl
  by_cases hzero : s.size = 0
  · have hsame : s.snprintf t = s := if_pos hzero
    obtain ⟨-, hfull, -⟩ := advance_ge (s := s) (n := t.length) (by omega)
    refine ⟨⟨hadvanced, fun i _ => by rw [print_mem, hsame], fun hlt => absurd hlt (by omega),
      fun hpositive => absurd hpositive (by omega)⟩, fun hpositive => ?_⟩
    unfold State.print at hpositive
    rw [hsame, hfull] at hpositive
    exact absurd hpositive (Nat.lt_irrefl 0)
  · obtain ⟨houtside, hchars, hend⟩ := snprintf_mem (t := t) (Nat.pos_of_ne_zero hzero)
    rw [← print_mem] at houtside hchars hend
    refine ⟨⟨hadvanced, houtside, fun hlt j hj => hchars j (by omega), fun _ hle => ?_⟩, fun hpositive => ?_⟩
    · exact ⟨min t.length (s.size - 1), by omega, hend, hchars⟩
    · by_cases hlt : t.length < s.size
      · have hplace := congrArg State.pos hadvanced
        dsimp only at hplace
        rw [(advance_lt hlt).1] at hplace
        rw [hplace, ← hend]
        congr 2
        omega
      · have hfull := congrArg State.size hadvanced
        dsimp only at hfull
        rw [(advance_ge (Nat.not_lt.1 hlt)).2.1] at hfull
        omega

theorem wrote_copy (h : t.length + 1 < s.size) : Wrote s t (s.copy t) := by
  have hcopy : s.copy t = (s.store t).advance t.length := if_pos h
  have hmem : (s.copy t).mem = (s.store t).mem := by rw [hcopy, advance_mem]
  refine ⟨?_, fun i hi => ?_, fun _ j hj => ?_, fun _ hle => absurd hle (by omega)⟩
  · rw [hmem, hcopy]
    unfold State.advance State.store
    dsimp only
    split <;> rfl
  · rw [hmem, store_mem, if_neg (by omega)]
  · rw [hmem, store_mem, if_pos (by omega), Nat.add_sub_cancel_left]

theorem wrote_framed (s : State) (front : UInt8) (t : List UInt8) (behind : UInt8) :
    Wrote s (front :: t ++ [behind]) (((s.print [front]).copy t).print [behind]) := by
  obtain ⟨hfront, hterminated⟩ := wrote_print s [front]
  generalize s.print [front] = s₁ at hfront hterminated ⊢
  obtain ⟨-, hend, hplace, hfull⟩ := hfront.place
  rw [List.length_singleton] at hplace hfull
  by_cases hroom : t.length + 1 < s₁.size
  · exact (hfront.append (wrote_copy hroom)).append (wrote_print _ _).1
  · have hcopy : s₁.copy t = { s₁ with total := s₁.total + t.length, pos := s₁.pos + s₁.size, size := 0 } := if_neg hroom
    have hmem : (((s₁.copy t).print [behind])).mem = s₁.mem := by
      rw [print_mem, hcopy]
      rfl
    have hlen : (front :: t ++ [behind]).length = t.length + 2 := by simp
    refine ⟨?_, fun i hi => ?_, fun hlt => absurd hlt (by omega), fun hsize _ => ?_⟩
    · have htotal := congrArg State.total hfront.advanced
      have hadvance := advance_total (s := s) 1
      obtain ⟨hpos', hsize', htotal'⟩ := advance_ge (s := s) (n := t.length + 2) (by omega)
      dsimp only [List.length_singleton] at htotal
      rw [hmem, hlen]
      unfold State.print State.snprintf
      rw [hcopy, if_pos rfl]
      simp only [State.advance, List.length_singleton, Nat.not_lt_zero, if_false, State.mk.injEq, true_and]
      rw [if_neg (by omega)]
      dsimp only
      omega
    · rw [hmem, hfront.outside i hi]
    · rw [hmem]
      by_cases hone : 1 < s.size
      · have hzero := hterminated (by omega)
        rw [hplace hone] at hzero
        refine ⟨1, hone, hzero, fun j hj => ?_⟩
        obtain rfl : j = 0 := by omega
        exact hfront.fits hone 0 Nat.zero_lt_one
      · obtain ⟨k, hk, hzero, -⟩ := hfront.cut hsize (by rw [List.length_singleton]; omega)
        exact ⟨k, hk, hzero, fun j hj => by omega⟩

/-! ## Programs -/

namespace Program

variable {p : Program}

@[simp]
theorem isSome_skip : skip.text.isSome = true := rfl

@[simp]
theorem isSome_print (t : List UInt8) : (print t).text.isSome = true := rfl

@[simp]
theorem isSome_framed (front : UInt8) (t : List UInt8) (behind : UInt8) : (framed front t behind).text.isSome = true := rfl

@[simp]
theorem isSome_call (body : Program) : (call body).text.isSome = body.text.isSome := rfl

@[simp]
theorem isSome_undefined : undefined.text.isSome = false := rfl

theorem seq_text {first second : Program} {t : List UInt8} :
    (seq first second).text = some t ↔ ∃ a b, first.text = some a ∧ second.text = some b ∧ t = a ++ b := by
  rw [text, Option.bind_eq_bind, Option.bind_eq_some_iff]
  constructor
  · rintro ⟨a, hfirst, h⟩
    obtain ⟨b, hsecond, h⟩ := Option.bind_eq_some_iff.1 h
    exact ⟨a, b, hfirst, hsecond, (Option.some.inj h).symm⟩
  · rintro ⟨a, b, hfirst, hsecond, rfl⟩
    exact ⟨a, hfirst, by rw [hsecond]; rfl⟩

@[simp]
theorem isSome_seq (first second : Program) :
    (seq first second).text.isSome = (first.text.isSome && second.text.isSome) := by
  rw [text]
  cases first.text with
  | none => rfl
  | some a => cases second.text <;> rfl

@[simp]
theorem all_nil : all [] = skip := rfl

@[simp]
theorem all_cons (p : Program) (ps : List Program) : all (p :: ps) = seq p (all ps) := rfl

theorem run_text : ∀ {p : Program} {t : List UInt8}, p.text = some t → ∀ s, ∃ s', p.run s = some s' ∧ Wrote s t s' ∧
    (s.Terminated → s'.Terminated)
  | skip, t, h, s => by
    cases h
    exact ⟨s, rfl, Wrote.nil s, id⟩
  | print text, t, h, s => by
    cases h
    obtain ⟨hwrote, hterminated⟩ := wrote_print s text
    exact ⟨_, rfl, hwrote, fun _ => hterminated⟩
  | framed front text behind, t, h, s => by
    cases h
    exact ⟨_, rfl, wrote_framed s front text behind, fun _ => (wrote_print _ _).2⟩
  | call body, t, h, s => by
    obtain ⟨s', hrun, hwrote, hterminated⟩ := run_text (p := body) h { s with total := 0 }
    have htotal := congrArg State.total hwrote.advanced
    dsimp only at htotal
    rw [advance_total, Nat.zero_add] at htotal
    have hcalled : ({ s with mem := s'.mem } : State).advance t.length = { s.advance t.length with mem := s'.mem } := by
      unfold State.advance
      split <;> rfl
    have hplace : { s' with total := s.total + t.length } = { s.advance t.length with mem := s'.mem } := by
      rw [hwrote.advanced]
      unfold State.advance
      split <;> rfl
    refine ⟨{ s.advance t.length with mem := s'.mem }, ?_, ⟨rfl, hwrote.outside, hwrote.fits, hwrote.cut⟩, ?_⟩
    · rw [run, hrun]
      show some (({ s with mem := s'.mem } : State).advance s'.total) = _
      rw [htotal, hcalled]
    · rw [← hplace]
      exact hterminated
  | seq first second, t, h, s => by
    obtain ⟨a, hfirst, h⟩ := Option.bind_eq_some_iff.1 h
    obtain ⟨b, hsecond, h⟩ := Option.bind_eq_some_iff.1 h
    cases h
    obtain ⟨s₁, hrun₁, hwrote₁, hterminated₁⟩ := run_text hfirst s
    obtain ⟨s₂, hrun₂, hwrote₂, hterminated₂⟩ := run_text hsecond s₁
    refine ⟨s₂, ?_, hwrote₁.append hwrote₂, hterminated₂ ∘ hterminated₁⟩
    rw [run, hrun₁]
    exact hrun₂

theorem run_none : ∀ {p : Program}, p.text = none → ∀ s, p.run s = none
  | call body, h, s => by
    rw [run, run_none (p := body) h]
    rfl
  | seq first second, h, s => by
    rw [run]
    cases hfirst : first.text with
    | none =>
      rw [run_none hfirst]
      rfl
    | some a =>
      obtain ⟨s₁, hrun, -, -⟩ := run_text hfirst s
      have hsecond : second.text = none := by
        cases hcases : second.text with
        | none => rfl
        | some b => simp [text, hfirst, hcases] at h
      rw [hrun]
      exact run_none hsecond s₁
  | undefined, _, s => rfl

theorem fill_none (h : p.text = none) (mem : Nat → UInt8) (n : Nat) : p.fill mem n = none := by
  unfold fill
  rw [run_none h]
  rfl

/-- A program with a text that ends with a `snprintf` behaves like one. -/
theorem fill_likeSnprintf {last t : List UInt8} (h : (seq p (print last)).text = some t) :
    LikeSnprintf (seq p (print last)).fill t := by
  rintro mem n
  obtain ⟨s', hrun, hwrote, -⟩ := run_text h ⟨mem, 0, n, 0⟩
  have hterminated : s'.Terminated := by
    obtain ⟨s₁, -, heq⟩ := Option.bind_eq_some_iff.1 hrun
    cases heq
    exact (wrote_print s₁ last).2
  have htotal := congrArg State.total hwrote.advanced
  dsimp only at htotal
  rw [advance_total, Nat.zero_add] at htotal
  obtain ⟨-, hend, hfits, -⟩ := hwrote.place
  dsimp only at hend hfits
  refine ⟨s'.mem, ?_, fun i hi => hwrote.outside i (.inr (by simpa using hi)), fun hpos => ?_⟩
  · unfold fill
    rw [hrun, ← htotal]
    rfl
  · by_cases hlt : t.length < n
    · have hplace := hfits hlt
      refine ⟨t.length, hlt, Nat.le_refl _, fun _ => rfl, ?_, fun j hj => ?_⟩
      · have hzero := hterminated (by omega)
        rwa [hplace, Nat.zero_add] at hzero
      · have hchar := hwrote.fits hlt j hj
        dsimp only at hchar
        rwa [Nat.zero_add] at hchar
    · obtain ⟨k, hk, hzero, hchars⟩ := hwrote.cut hpos (Nat.not_lt.1 hlt)
      dsimp only at hk hzero hchars
      rw [Nat.zero_add] at hzero
      refine ⟨k, hk, by omega, fun hshort => absurd hshort hlt, hzero, fun j hj => ?_⟩
      have hchar := hchars j hj
      rwa [Nat.zero_add] at hchar

end Program

end TextBuffer
