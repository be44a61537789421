/-
Big-endian numbers as lists of bytes: reading a list, writing a number with a given number of
bytes, and the round trip.
-/
import Mathlib.Data.Nat.Bitwise
import Mathlib.Data.List.Induction

namespace Bytes

/-- The number that a list of bytes stands for, the first byte being the most significant. -/
def toNat (l : List UInt8) : Nat := l.foldl (fun n b => n * 256 + b.toNat) 0

/-- The last `k` bytes of a number. -/
def ofNat : Nat → Nat → List UInt8
  | 0, _ => []
  | k + 1, n => ofNat k (n / 256) ++ [UInt8.ofNat n]

@[simp] theorem toNat_nil : toNat [] = 0 := rfl

@[simp] theorem toNat_concat (l : List UInt8) (b : UInt8) : toNat (l ++ [b]) = toNat l * 256 + b.toNat := by
  simp [toNat, List.foldl_append]

@[simp] theorem length_ofNat : ∀ k n : Nat, (ofNat k n).length = k
  | 0, _ => rfl
  | k + 1, n => by simp [ofNat, length_ofNat k]

theorem toNat_ofNat : ∀ k n : Nat, toNat (ofNat k n) = n % 256 ^ k
  | 0, n => by simp [ofNat, Nat.mod_one]
  | k + 1, n => by
    rw [ofNat, toNat_concat, toNat_ofNat k, UInt8.toNat_ofNat']
    have hpow : 256 ^ (k + 1) = 256 * 256 ^ k := by rw [Nat.pow_succ, Nat.mul_comm]
    have hmod : n % 256 ^ (k + 1) = n % 256 + 256 * (n / 256 % 256 ^ k) := by rw [hpow, Nat.mod_mul]
    omega

theorem toNat_ofNat_of_lt {k n : Nat} (h : n < 256 ^ k) : toNat (ofNat k n) = n := by
  rw [toNat_ofNat, Nat.mod_eq_of_lt h]

theorem shift_or_toNat (v : UInt32) (b : UInt8) :
    ((v <<< 8) ||| b.toUInt32).toNat = (v.toNat * 256 + b.toNat) % 2 ^ 32 := by
  have hb : b.toNat < 2 ^ 8 := b.toNat_lt
  have hshift : (v <<< 8).toNat = (v.toNat % 2 ^ 24) <<< 8 := by
    rw [UInt32.toNat_shiftLeft, Nat.shiftLeft_eq, Nat.shiftLeft_eq]
    have : (8 : UInt32).toNat % 32 = 8 := rfl
    rw [this]
    omega
  rw [UInt32.toNat_or, UInt8.toNat_toUInt32, hshift, ← Nat.shiftLeft_add_eq_or_of_lt hb, Nat.shiftLeft_eq]
  omega

theorem foldl_shift_toNat (l : List UInt8) :
    (l.foldl (fun (v : UInt32) b => (v <<< 8) ||| b.toUInt32) 0).toNat = toNat l % 2 ^ 32 := by
  induction l using List.reverseRecOn with
  | nil => rfl
  | append_singleton l b ih =>
    rw [List.foldl_append, List.foldl_cons, List.foldl_nil, shift_or_toNat, ih, toNat_concat]
    omega

theorem or_eq_add {k a b : Nat} (ha : 2 ^ k ∣ a) (hb : b < 2 ^ k) : a ||| b = a + b := by
  obtain ⟨c, rfl⟩ := ha
  rw [Nat.two_pow_add_eq_or_of_lt hb]

/-! ## Masks -/

theorem testBit_highMask {w k : Nat} (hk : k ≤ w) (i : Nat) :
    (2 ^ w - 2 ^ k).testBit i = (decide (i < w) && !decide (i < k)) := by
  have hpos : 0 < 2 ^ k := Nat.two_pow_pos k
  have hle : 2 ^ k ≤ 2 ^ w := Nat.pow_le_pow_right (by decide) hk
  have h := Nat.testBit_two_pow_sub_succ (x := 2 ^ k - 1) (n := w) (by omega) i
  rw [Nat.sub_add_cancel hpos, Nat.testBit_two_pow_sub_one] at h
  exact h

theorem highMask_and {w k v : Nat} (hk : k ≤ w) (hv : v < 2 ^ w) : (2 ^ w - 2 ^ k) &&& v = v / 2 ^ k * 2 ^ k := by
  apply Nat.eq_of_testBit_eq
  intro i
  rw [Nat.testBit_and, testBit_highMask hk, Nat.testBit_mul_two_pow, Nat.testBit_div_two_pow]
  by_cases hi : i < k
  · have hki : ¬k ≤ i := by omega
    simp [hi, hki]
  · have hki : k ≤ i := by omega
    have hadd : k + (i - k) = i := by omega
    by_cases hw : i < w
    · simp [hi, hki, hw, Nat.add_comm]
    · have hbit : v.testBit i = false :=
        Nat.testBit_lt_two_pow (Nat.lt_of_lt_of_le hv (Nat.pow_le_pow_right (by decide) (by omega)))
      simp [hi, hki, hw, hbit]

/-- The bits from `k` on are all zero in the numbers below `2 ^ k`. -/
theorem highMask_and_eq_zero {w k v : Nat} (hk : k ≤ w) (hv : v < 2 ^ w) : (2 ^ w - 2 ^ k) &&& v = 0 ↔ v < 2 ^ k := by
  have hpos : 0 < 2 ^ k := Nat.two_pow_pos k
  rw [highMask_and hk hv, Nat.mul_eq_zero, Nat.div_eq_zero_iff]
  omega

end Bytes
