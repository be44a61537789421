/-
The options of a message as a list of numbers and values: what the writer appends for a list, and
what the parser makes of it. The two agree for every list whose numbers do not decrease.
-/
import SmartGarage.Messaging.CoapParse

namespace SmartGarage

/-! ## Integers -/

theorem intOptionBytes_eq (v : UInt32) : ∃ k, k ≤ 4 ∧ intOptionBytes v = Bytes.ofNat k v.toNat ∧ v.toNat < 256 ^ k := by
  have hv := v.toNat_lt
  have hmask (k : Nat) (hk : k ≤ 32) (m : UInt32) (hm : m.toNat = 2 ^ 32 - 2 ^ k) : m &&& v ≠ 0 ↔ ¬v.toNat < 2 ^ k := by
    rw [← Bytes.highMask_and_eq_zero hk hv, ← hm, ← UInt32.toNat_and, ne_eq, ← UInt32.toNat_inj]
    rfl
  have hbyte (k : Nat) (s : UInt32) (hs : s.toNat = k) (hk : k < 32) : (v >>> s).toUInt8 = UInt8.ofNat (v.toNat / 2 ^ k) := by
    rw [← UInt8.toNat_inj, UInt32.toNat_toUInt8, UInt32.toNat_shiftRight, hs, Nat.mod_eq_of_lt hk, Nat.shiftRight_eq_div_pow]
    simp
  have hbyte0 : v.toUInt8 = UInt8.ofNat v.toNat := by
    rw [← UInt8.toNat_inj, UInt32.toNat_toUInt8]
    simp
  have hbytes : intOptionBytes v =
      (if ¬v.toNat < 16777216 then [UInt8.ofNat (v.toNat / 16777216)] else []) ++
      (if ¬v.toNat < 65536 then [UInt8.ofNat (v.toNat / 65536)] else []) ++
      (if ¬v.toNat < 256 then [UInt8.ofNat (v.toNat / 256)] else []) ++
      (if ¬v.toNat < 1 then [UInt8.ofNat v.toNat] else []) := by
    unfold intOptionBytes
    simp only [hmask 24 (by decide) 0xFF000000 rfl, hmask 16 (by decide) 0xFFFF0000 rfl,
      hmask 8 (by decide) 0xFFFFFF00 rfl, hmask 0 (by decide) 0xFFFFFFFF rfl, hbyte 24 24 rfl (by decide),
      hbyte 16 16 rfl (by decide), hbyte 8 8 rfl (by decide), hbyte0, Nat.reducePow]
  rw [hbytes]
  generalize v.toNat = n at hv
  by_cases h0 : n < 1
  · exact ⟨0, by decide, by simp [show n = 0 by omega, Bytes.ofNat], by omega⟩
  · by_cases h8 : n < 256
    · have h16 : n < 65536 := by omega
      have h24 : n < 16777216 := by omega
      exact ⟨1, by decide, by simp only [h24, h16, h8, h0, not_true_eq_false, not_false_eq_true, reduceIte]; rfl, by omega⟩
    · by_cases h16 : n < 65536
      · have h24 : n < 16777216 := by omega
        exact ⟨2, by decide, by simp only [h24, h16, h8, h0, not_true_eq_false, not_false_eq_true, reduceIte]; rfl, by omega⟩
      · by_cases h24 : n < 16777216
        · refine ⟨3, by decide, ?_, by omega⟩
          simp only [h24, h16, h8, h0, not_true_eq_false, not_false_eq_true, reduceIte, Bytes.ofNat, Nat.div_div_eq_div_mul]
        · refine ⟨4, by decide, ?_, by omega⟩
          simp only [h24, h16, h8, h0, not_false_eq_true, reduceIte, Bytes.ofNat, Nat.div_div_eq_div_mul]
          rfl

theorem intOptionBytes_length (v : UInt32) : (intOptionBytes v).length ≤ 4 := by
  obtain ⟨k, hk, heq, -⟩ := intOptionBytes_eq v
  rwa [heq, Bytes.length_ofNat]

@[simp] theorem coapParseIntOption_bytes (v : UInt32) : coapParseIntOption (intOptionBytes v) = v := by
  obtain ⟨k, hk, heq, hlt⟩ := intOptionBytes_eq v
  rw [← UInt32.toNat_inj, coapParseIntOption, Bytes.foldl_shift_toNat, heq, Bytes.toNat_ofNat_of_lt hlt]
  exact Nat.mod_eq_of_lt v.toNat_lt

/-! ## Option headers -/

theorem coapOptionNibble_le (v : Nat) : (coapOptionNibble v).toNat ≤ 14 := by
  unfold coapOptionNibble
  split
  · rw [UInt8.toNat_ofNat']
    omega
  · split <;> decide

theorem nibbles {a b : UInt8} (ha : a.toNat ≤ 14) (hb : b.toNat ≤ 14) :
    ((a <<< 4) ||| b) >>> 4 = a ∧ ((a <<< 4) ||| b) &&& 0x0F = b ∧ ((a <<< 4) ||| b) &&& 0xF0 ≠ 0xF0 := by
  have hall : ∀ x y : Fin 15, (((UInt8.ofNat x) <<< 4) ||| UInt8.ofNat y) >>> 4 = UInt8.ofNat x ∧
      (((UInt8.ofNat x) <<< 4) ||| UInt8.ofNat y) &&& 0x0F = UInt8.ofNat y ∧
      (((UInt8.ofNat x) <<< 4) ||| UInt8.ofNat y) &&& 0xF0 ≠ 0xF0 := by decide
  have h := hall ⟨a.toNat, by omega⟩ ⟨b.toNat, by omega⟩
  simpa only [UInt8.ofNat_toNat] using h

theorem readExtended_bytes {v : Nat} (hv : v < 65536 + 269) (rest : OcString) :
    readExtended (coapOptionNibble v) (extendedBytes v ++ rest) = (v, (extendedBytes v).length) := by
  unfold coapOptionNibble extendedBytes readExtended
  by_cases h13 : v < 13
  · have h268 : ¬v > 268 := by omega
    have h12 : ¬v > 12 := by omega
    have hne13 : UInt8.ofNat v ≠ 13 := by
      intro h
      have := congrArg UInt8.toNat h
      rw [UInt8.toNat_ofNat', Nat.mod_eq_of_lt (by omega)] at this
      exact absurd this (by simpa using Nat.ne_of_lt h13)
    have hne14 : UInt8.ofNat v ≠ 14 := by
      intro h
      have := congrArg UInt8.toNat h
      rw [UInt8.toNat_ofNat', Nat.mod_eq_of_lt (by omega)] at this
      have h14 : (14 : UInt8).toNat = 14 := rfl
      omega
    simp only [h13, h268, h12, reduceIte, hne13, hne14, List.length_nil, UInt8.toNat_ofNat', Nat.reducePow]
    rw [Nat.mod_eq_of_lt (by omega)]
  · by_cases h268 : v > 268
    · have h255 : ¬v ≤ 0xFF + 13 := by omega
      simp only [h13, h268, h255, reduceIte, List.cons_append, List.getD_cons_zero, List.getD_cons_succ,
        UInt8.toNat_ofNat', List.length_cons, List.length_nil]
      rw [if_neg (by decide)]
      simp only [Prod.mk.injEq, and_true]
      omega
    · have h255 : v ≤ 0xFF + 13 := by omega
      have h12 : v > 12 := by omega
      simp only [h13, h268, h255, h12, reduceIte, List.cons_append, List.getD_cons_zero, UInt8.toNat_ofNat',
        List.length_cons, List.length_nil, Prod.mk.injEq, and_true]
      omega

/-! ## Lists of options -/

/-- The bytes of a list of options behind the option `current`. -/
def encodeOptions : Nat → List (Nat × OcString) → OcString
  | _, [] => []
  | current, (number, value) :: l => coapSetOptionHeader (number - current) value.length ++ value ++ encodeOptions number l

/-- The number of the last option. -/
def lastNumber : Nat → List (Nat × OcString) → Nat
  | current, [] => current
  | _, (number, _) :: l => lastNumber number l

/-- The writer behind a list of options. -/
def OptionWriter.putAll (w : OptionWriter) (l : List (Nat × OcString)) : OptionWriter :=
  l.foldl (fun w o => w.put o.1 o.2) w

theorem OptionWriter.putAll_eq : ∀ (l : List (Nat × OcString)) (w : OptionWriter),
    w.putAll l = ⟨w.bytes ++ encodeOptions w.currentNumber l, lastNumber w.currentNumber l⟩
  | [], w => by simp [putAll, encodeOptions, lastNumber]
  | o :: l, w => by
    have hcons : w.putAll (o :: l) = (w.put o.1 o.2).putAll l := rfl
    rw [hcons, putAll_eq l]
    simp [put, encodeOptions, lastNumber]

theorem OptionWriter.putAll_append (w : OptionWriter) (l l' : List (Nat × OcString)) :
    w.putAll (l ++ l') = (w.putAll l).putAll l' := List.foldl_append

/-- The numbers do not decrease from `current` on, and fit the header with the lengths. -/
def Encodable : Nat → List (Nat × OcString) → Prop
  | _, [] => True
  | current, (number, value) :: l =>
    current ≤ number ∧ number < 65536 + 269 ∧ value.length < 65536 + 269 ∧ Encodable number l

/-- The parser over a list of options. -/
def parseAll (p : CoapPacket) (l : List (Nat × OcString)) : Except UInt8 CoapPacket :=
  l.foldlM (fun p o => parseOption p o.1 o.2) p

theorem parseOptions_option (B : BufferSettings) (rounds : Nat) (p p' : CoapPacket) {current number : Nat}
    {value : OcString} (rest : OcString) (hle : current ≤ number) (hn : number < 65536 + 269)
    (hl : value.length < 65536 + 269) (hp : parseOption p number value = .ok p') :
    parseOptions B (rounds + 1) p current (coapSetOptionHeader (number - current) value.length ++ value ++ rest) =
      parseOptions B rounds p' number rest := by
  obtain ⟨hhigh, hlow, hmark⟩ := nibbles (coapOptionNibble_le (number - current)) (coapOptionNibble_le value.length)
  have hdelta := readExtended_bytes (v := number - current) (by omega) (extendedBytes value.length ++ value ++ rest)
  have hlength := readExtended_bytes hl (value ++ rest)
  have hsum : (current + (number - current)) % 2 ^ 32 = number := by omega
  unfold coapSetOptionHeader
  simp only [List.cons_append, List.append_assoc] at hdelta ⊢
  rw [parseOptions, if_neg hmark]
  simp only [hhigh, hlow, hdelta, List.drop_left, hlength, hsum]
  have hfit : ¬((extendedBytes (number - current)).length + (extendedBytes value.length).length + value.length >
      (extendedBytes (number - current) ++ (extendedBytes value.length ++ (value ++ rest))).length) := by
    simp only [List.length_append]
    omega
  have hdrop : (extendedBytes (number - current) ++ (extendedBytes value.length ++ (value ++ rest))).drop
      ((extendedBytes (number - current)).length + (extendedBytes value.length).length) = value ++ rest := by
    rw [← List.drop_drop, List.drop_left, List.drop_left]
  rw [if_neg hfit, ← List.drop_drop (i := value.length), hdrop, List.take_left, List.drop_left, hp]

theorem parseOptions_all (B : BufferSettings) (rounds : Nat) (rest : OcString) :
    ∀ (l : List (Nat × OcString)) (p p' : CoapPacket) (current : Nat), Encodable current l → parseAll p l = .ok p' →
    parseOptions B (l.length + rounds) p current (encodeOptions current l ++ rest) =
      parseOptions B rounds p' (lastNumber current l) rest
  | [], p, p', current, _, hp => by
    cases hp
    simp [encodeOptions, lastNumber]
  | (number, value) :: l, p, p', current, henc, hp => by
    obtain ⟨hle, hn, hl, henc⟩ := henc
    unfold parseAll at hp
    rw [List.foldlM_cons] at hp
    cases hone : parseOption p number value with
    | error code =>
      rw [hone] at hp
      cases hp
    | ok q =>
      rw [hone] at hp
      have hrounds : ((number, value) :: l).length + rounds = l.length + rounds + 1 := by
        simp only [List.length_cons]
        omega
      rw [hrounds, encodeOptions, List.append_assoc, parseOptions_option B _ p q _ hle hn hl hone]
      exact parseOptions_all B rounds rest l q p' number henc hp

end SmartGarage
