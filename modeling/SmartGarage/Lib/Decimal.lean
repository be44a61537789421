/-
Decimal numbers in C strings: what `%u` prints and what `strtoul` reads, and that the second reads the first.
-/
import Mathlib.Algebra.GroupWithZero.Nat
import Mathlib.Data.Nat.Basic
import Mathlib.Data.List.Basic

namespace Decimal

/-! ## Printing -/

/-- An ASCII digit. -/
def isDigit (b : UInt8) : Bool := 48 ≤ b.toNat ∧ b.toNat ≤ 57

/-- `%u` -/
def print (n : Nat) : List UInt8 := (Nat.toDigits 10 n).map fun c => UInt8.ofNat c.toNat

/-- The number that digits stand for. -/
def value (digits : List UInt8) : Nat := digits.foldl (fun v d => v * 10 + (d.toNat - 48)) 0

theorem print_of_lt {n : Nat} (h : n < 10) : print n = [UInt8.ofNat (48 + n)] := by
  unfold print
  rw [Nat.toDigits_of_lt_base h, List.map_singleton, Nat.toNat_digitChar_of_lt_ten h]

theorem print_of_le {n : Nat} (h : 10 ≤ n) : print n = print (n / 10) ++ [UInt8.ofNat (48 + n % 10)] := by
  unfold print
  rw [Nat.toDigits_of_base_le (by decide) h, List.map_append, List.map_singleton,
    Nat.toNat_digitChar_of_lt_ten (Nat.mod_lt n (by decide))]

theorem digit_toNat {d : Nat} (h : d < 10) : (UInt8.ofNat (48 + d)).toNat = 48 + d := by
  rw [UInt8.toNat_ofNat', Nat.mod_eq_of_lt (by omega)]

theorem print_induction {motive : Nat → Prop} (single : ∀ d, d < 10 → motive d)
    (digit : ∀ n, 10 ≤ n → motive (n / 10) → motive n) (n : Nat) : motive n := by
  induction n using Nat.strong_induction_on with
  | _ n ih =>
    by_cases h : n < 10
    · exact single n h
    · exact digit n (by omega) (ih (n / 10) (by omega))

theorem isDigit_print (n : Nat) : ∀ b ∈ print n, isDigit b = true := by
  have hdigit : ∀ d, d < 10 → isDigit (UInt8.ofNat (48 + d)) = true := fun d hd => by
    unfold isDigit
    rw [digit_toNat hd]
    exact decide_eq_true ⟨by omega, by omega⟩
  induction n using print_induction with
  | single d hd =>
    rw [print_of_lt hd]
    intro b hb
    cases List.mem_singleton.1 hb
    exact hdigit d hd
  | digit n hn ih =>
    rw [print_of_le hn]
    intro b hb
    obtain hb | hb := List.mem_append.1 hb
    · exact ih b hb
    · cases List.mem_singleton.1 hb
      exact hdigit _ (Nat.mod_lt n (by decide))

theorem print_ne_nil (n : Nat) : print n ≠ [] := by
  unfold print
  exact fun h => Nat.toDigits_ne_nil (List.map_eq_nil_iff.1 h)

theorem value_append (ds : List UInt8) (d : UInt8) : value (ds ++ [d]) = value ds * 10 + (d.toNat - 48) := by
  unfold value
  rw [List.foldl_append, List.foldl_cons, List.foldl_nil]

theorem value_print (n : Nat) : value (print n) = n := by
  induction n using print_induction with
  | single d hd =>
    rw [print_of_lt hd]
    show 0 * 10 + ((UInt8.ofNat (48 + d)).toNat - 48) = d
    rw [digit_toNat hd]
    omega
  | digit n hn ih =>
    rw [print_of_le hn, value_append, ih, digit_toNat (Nat.mod_lt n (by decide))]
    omega

/-! ## Reading -/

/-- `isspace` -/
def isSpace (b : UInt8) : Bool := b.toNat = 32 ∨ (9 ≤ b.toNat ∧ b.toNat ≤ 13)

/-- `strtoul(s, &end, 10)` for 64 bits: the value and what is left of the string. A number that is too large is
`ULONG_MAX`, and one with a minus sign is negated. -/
def strtoul (s : List UInt8) : Nat × List UInt8 :=
  let t := s.dropWhile isSpace
  let body := match t with
    | b :: rest => if b.toNat = 43 ∨ b.toNat = 45 then rest else t
    | [] => t
  let digits := body.takeWhile isDigit
  let magnitude := value digits
  if digits = [] then (0, s)
  else
    (if magnitude ≥ 2 ^ 64 then 2 ^ 64 - 1
      else if t.head? = some 45 then (2 ^ 64 - magnitude) % 2 ^ 64
      else magnitude,
     body.dropWhile isDigit)

theorem strtoul_digits {digits : List UInt8} (rest : List UInt8) (hne : digits ≠ [])
    (hall : ∀ b ∈ digits, isDigit b = true) (h : value digits < 2 ^ 64) (hrest : ∀ b ∈ rest.head?, isDigit b = false) :
    strtoul (digits ++ rest) = (value digits, rest) := by
  obtain ⟨d, ds, hd⟩ := List.exists_cons_of_ne_nil hne
  have hfirst : isDigit d = true := hall d (by rw [hd]; exact List.mem_cons_self)
  have hbounds : 48 ≤ d.toNat ∧ d.toNat ≤ 57 := of_decide_eq_true hfirst
  have hspace : isSpace d = false := decide_eq_false (by omega)
  have hsign : ¬(d.toNat = 43 ∨ d.toNat = 45) := by omega
  have hminus : d ≠ 45 := fun heq => by
    rw [heq] at hbounds
    exact absurd hbounds.1 (by decide)
  have htake : (digits ++ rest).takeWhile isDigit = digits := by
    rw [List.takeWhile_append_of_pos hall]
    cases rest with
    | nil => simp
    | cons b rest => rw [List.takeWhile_cons_of_neg (by rw [hrest b rfl]; exact Bool.false_ne_true), List.append_nil]
  have hdrop : (digits ++ rest).dropWhile isDigit = rest := by
    rw [List.dropWhile_append_of_pos hall]
    cases rest with
    | nil => rfl
    | cons b rest => rw [List.dropWhile_cons_of_neg (by rw [hrest b rfl]; exact Bool.false_ne_true)]
  have hskip : (digits ++ rest).dropWhile isSpace = digits ++ rest := by
    rw [hd, List.cons_append, List.dropWhile_cons_of_neg (by rw [hspace]; exact Bool.false_ne_true)]
  have hbody : (match digits ++ rest with
      | b :: t => if b.toNat = 43 ∨ b.toNat = 45 then t else digits ++ rest
      | [] => digits ++ rest) = digits ++ rest := by
    rw [hd, List.cons_append]
    exact if_neg hsign
  have hhead : (digits ++ rest).head? ≠ some 45 := by
    rw [hd, List.cons_append, List.head?_cons]
    exact fun heq => hminus (Option.some.inj heq)
  unfold strtoul
  simp only [hskip, hbody, htake, hdrop]
  rw [if_neg hne, if_neg (by omega), if_neg hhead]

/-- What has been printed is read, up to the next character that is no digit. -/
theorem strtoul_print {n : Nat} (rest : List UInt8) (h : n < 2 ^ 64) (hrest : ∀ b ∈ rest.head?, isDigit b = false) :
    strtoul (print n ++ rest) = (n, rest) := by
  have hread := strtoul_digits rest (print_ne_nil n) (isDigit_print n) (by rwa [value_print]) hrest
  rwa [value_print] at hread

end Decimal
