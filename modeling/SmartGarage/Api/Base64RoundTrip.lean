/-
`oc_base64.c`: the encoder, and the decoder on the buffer that it reads and writes. What is encoded is decoded again,
and exactly the texts of the Base64 alphabet with their padding are decoded at all.
-/
import SmartGarage.Api.Base64
import SmartGarage.Api.Uuid
import SmartGarage.Lib.Memory
import Mathlib.Tactic.IntervalCases

namespace SmartGarage

/-! ## The encoder -/

/-- `alphabet` of `oc_base64_encode`, without the padding. -/
def base64Alphabet : OcString := ascii "ABCDEFGHIJKLMNOPQRSTUVWXYZabcdefghijklmnopqrstuvwxyz0123456789+/"

/-- `alphabet[val]` -/
def base64Char (val : UInt8) : UInt8 := (base64Alphabet ++ [61]).getD val.toNat 0

/-- The loop of `oc_base64_encode` at the index `i`, with `val` and the characters so far. -/
def base64EncodeLoop : Nat → UInt8 → OcString → OcString → UInt8 × OcString
  | _, val, out, [] => (val, out)
  | i, val, out, b :: rest =>
    if i % 3 = 0 then base64EncodeLoop (i + 1) ((b <<< 4) &&& 0x30) (out ++ [base64Char (b >>> 2)]) rest
    else if i % 3 = 1 then base64EncodeLoop (i + 1) ((b <<< 2) &&& 0x3D) (out ++ [base64Char (val ||| (b >>> 4))]) rest
    else base64EncodeLoop (i + 1) (b &&& 0x3F) (out ++ [base64Char (val ||| (b >>> 6)), base64Char (b &&& 0x3F)]) rest

/-- `output_len` -/
def base64Length (inputLen : Nat) : Nat := inputLen / 3 * 4 + if inputLen % 3 ≠ 0 then 4 else 0

/-- The characters that are written. -/
def base64Text (input : OcString) : OcString :=
  let (val, out) := base64EncodeLoop 0 0 [] input
  let out := if input.length % 3 ≠ 0 then out ++ [base64Char val] else out
  out ++ List.replicate (base64Length input.length - out.length) 61

/-- `oc_base64_encode`: the number of characters and the output buffer, or `none` where it returns -1. For an empty input
the first byte of the buffer is set to zero, and where it has none the byte behind it. -/
def ocBase64Encode (input outputBuffer : OcString) : Option (Nat × OcString) :=
  if outputBuffer.length < base64Length input.length then none
  else
    let outputBuffer := if input.length = 0 then outputBuffer.set 0 0 else outputBuffer
    some ((base64Text input).length, Memory.write outputBuffer 0 (base64Text input))

/-! ## The decoder -/

/-- The loop of `oc_base64_decode` at the index `i` with `left` characters to go: the buffer, and the number of bytes that
have been written to it. -/
def base64DecodeLoop (len : Nat) :
    (left i : Nat) → (str : OcString) → (j : Nat) → (valC : UInt8) → Option (Nat × OcString)
  | 0, _, str, j, _ => some (j, str)
  | left + 1, i, str, j, valC =>
    let ch := str.getD i 0
    if ch = 61 then
      if i + 2 < len then none
      else if i + 2 = len ∧ str.getD (i + 1) 0 ≠ 61 then none
      else some (j, str)
    else
      match base64Value ch with
      | none => none
      | some valS =>
        if i % 4 = 0 then base64DecodeLoop len left (i + 1) str j ((valS <<< 2) &&& 0xFD)
        else if i % 4 = 1 then
          base64DecodeLoop len left (i + 1) (str.set j (valC ||| (valS >>> 4))) (j + 1) ((valS <<< 4) &&& 0xF0)
        else if i % 4 = 2 then
          base64DecodeLoop len left (i + 1) (str.set j (valC ||| (valS >>> 2))) (j + 1) ((valS <<< 6) &&& 0xD0)
        else base64DecodeLoop len left (i + 1) (str.set j (valC ||| valS)) (j + 1) (valC ||| valS)

/-- `oc_base64_decode` on its buffer: the number of bytes and the buffer, or `none` where it returns -1. -/
def ocBase64DecodeInPlace (str : OcString) : Option (Nat × OcString) :=
  if str.length % 4 ≠ 0 then none
  else (base64DecodeLoop str.length str.length 0 str 0 0).map fun (j, buffer) =>
    (j, buffer.take j ++ List.replicate (str.length - j) 0)

/-! ## The decoder and what it collects -/

/-- A byte is written behind those that have been written, at the latest where the next character is read. -/
theorem set_written {str out rest : OcString} {ch : UInt8} {i : Nat} (hout : str.take out.length = out)
    (hrest : str.drop i = ch :: rest) (hle : out.length ≤ i) (b : UInt8) :
    (str.set out.length b).take (out ++ [b]).length = out ++ [b] ∧ (str.set out.length b).drop (i + 1) = rest := by
  have hlt : i < str.length := by
    have hlen := congrArg List.length hrest
    rw [List.length_drop, List.length_cons] at hlen
    omega
  constructor
  · rw [List.length_append, List.length_singleton, List.take_add_one, List.take_set_of_le (Nat.le_refl _), hout,
      List.getElem?_set_self (by omega)]
    rfl
  · rw [List.drop_set_of_lt (by omega), ← List.drop_drop, hrest]
    rfl

/-- The characters that the decoder has still to read are as they were: the buffer holds what the loop over the text
collects. -/
theorem base64DecodeLoop_eq (len : Nat) : ∀ {rest : OcString} {i : Nat} {str out : OcString} (valC : UInt8),
    str.take out.length = out → str.drop i = rest → out.length ≤ i →
      (base64DecodeLoop len rest.length i str out.length valC).map (fun r => (r.1, r.2.take r.1)) =
        (base64Loop len i valC out rest).map fun out => (out.length, out)
  | [], i, str, out, valC, hout, _, _ => by
    show some (out.length, str.take out.length) = some (out.length, out)
    rw [hout]
  | ch :: rest, i, str, out, valC, hout, hrest, hle => by
    have hch : str.getD i 0 = ch := by
      rw [List.getD_eq_getElem?_getD, ← Nat.add_zero i, ← List.getElem?_drop, hrest]
      rfl
    have hnext : str.getD (i + 1) 0 ≠ 61 ↔ rest.head? ≠ some 61 := by
      rw [List.getD_eq_getElem?_getD, ← List.getElem?_drop, hrest]
      cases rest with
      | nil => simp
      | cons c rest => simp
    have hkept : str.drop (i + 1) = rest := by
      rw [← List.drop_drop, hrest]
      rfl
    -- a byte is written behind the last one, never ahead of the reading
    have hwrite (b v : UInt8) : (base64DecodeLoop len rest.length (i + 1) (str.set out.length b) (out.length + 1) v).map
        (fun r => (r.1, r.2.take r.1)) = (base64Loop len (i + 1) v (out ++ [b]) rest).map fun out => (out.length, out) := by
      obtain ⟨htake, hdrop⟩ := set_written hout hrest hle b
      have ih := base64DecodeLoop_eq len v htake hdrop (by
        rw [List.length_append, List.length_singleton]
        exact Nat.succ_le_succ hle)
      rw [List.length_append, List.length_singleton] at ih
      exact ih
    rw [List.length_cons]
    unfold base64DecodeLoop base64Loop
    simp only [hch, hnext]
    by_cases hpad : ch = 61
    · rw [if_pos hpad, if_pos hpad]
      split
      · rfl
      · split
        · rfl
        · show some (out.length, str.take out.length) = some (out.length, out)
          rw [hout]
    · rw [if_neg hpad, if_neg hpad]
      cases base64Value ch with
      | none => rfl
      | some valS =>
        dsimp only
        split
        · exact base64DecodeLoop_eq len _ hout hkept (Nat.le_succ_of_le hle)
        · split
          · exact hwrite _ _
          · split
            · exact hwrite _ _
            · exact hwrite _ _

theorem ocBase64DecodeInPlace_eq (str : OcString) : ocBase64DecodeInPlace str =
    (ocBase64Decode str).map fun out => (out.length, out ++ List.replicate (str.length - out.length) 0) := by
  have hloop : (base64DecodeLoop str.length str.length 0 str 0 0).map (fun r => (r.1, r.2.take r.1)) =
      (base64Loop str.length 0 0 [] str).map fun out => (out.length, out) :=
    @base64DecodeLoop_eq str.length str 0 str [] 0 rfl rfl (Nat.le_refl 0)
  unfold ocBase64DecodeInPlace ocBase64Decode
  split
  · rfl
  · cases hcollected : base64Loop str.length 0 0 [] str with
    | none =>
      rw [hcollected, Option.map_none, Option.map_eq_none_iff] at hloop
      rw [hloop]
      rfl
    | some out =>
      rw [hcollected, Option.map_some] at hloop
      obtain ⟨⟨j, buffer⟩, hr, heq⟩ := Option.map_eq_some_iff.1 hloop
      obtain ⟨hj, htake⟩ := Prod.mk.inj heq
      dsimp only at hj htake
      rw [hr, Option.map_some, Option.map_some]
      dsimp only
      rw [htake, hj]

/-! ## The alphabet -/

theorem base64Alphabet_eq : base64Alphabet =
    [65, 66, 67, 68, 69, 70, 71, 72, 73, 74, 75, 76, 77, 78, 79, 80, 81, 82, 83, 84, 85, 86, 87, 88, 89, 90, 97, 98, 99,
    100, 101, 102, 103, 104, 105, 106, 107, 108, 109, 110, 111, 112, 113, 114, 115, 116, 117, 118, 119, 120, 121, 122,
    48, 49, 50, 51, 52, 53, 54, 55, 56, 57, 43, 47] := by
  decide

theorem base64Value_char : ∀ v : UInt8, v < 64 → base64Value (base64Char v) = some v ∧ base64Char v ≠ 61 := by
  unfold base64Char
  rw [base64Alphabet_eq]
  exact forall_byte (by decide +kernel)

theorem base64Char_value : ∀ c : UInt8, ∀ v ∈ base64Value c, v < 64 ∧ base64Char v = c := by
  unfold base64Char
  rw [base64Alphabet_eq]
  exact forall_byte (by decide +kernel)

theorem base64Char_mem {v : UInt8} (h : v < 64) : base64Char v ∈ base64Alphabet := by
  have hlt : v.toNat < base64Alphabet.length := UInt8.lt_iff_toNat_lt.1 h
  rw [base64Char, List.getD_eq_getElem?_getD, List.getElem?_append_left hlt, List.getElem?_eq_getElem hlt]
  exact List.getElem_mem hlt

theorem base64Value_isSome (c : UInt8) : (base64Value c).isSome = true ↔ c ∈ base64Alphabet := by
  constructor
  · intro h
    obtain ⟨v, hv⟩ := Option.isSome_iff_exists.1 h
    obtain ⟨hlt, rfl⟩ := base64Char_value c v hv
    exact base64Char_mem hlt
  · have hall : (base64Alphabet.all fun c => (base64Value c).isSome) = true := by decide
    exact List.all_eq_true.1 hall c

theorem pad_notMem_alphabet : 61 ∉ base64Alphabet := by decide

theorem or_lt {a b : UInt8} (ha : a < 64) (hb : b < 64) : a ||| b < 64 := by
  rw [UInt8.lt_iff_toNat_lt] at *
  rw [UInt8.toNat_or]
  exact Nat.or_lt_two_pow (n := 6) ha hb

theorem and_lt {b m : UInt8} (hm : m < 64) : b &&& m < 64 := by
  rw [UInt8.lt_iff_toNat_lt] at *
  rw [UInt8.toNat_and]
  exact Nat.lt_of_le_of_lt Nat.and_le_right hm

theorem shift_lt {b : UInt8} : b >>> 2 < 64 ∧ b >>> 4 < 64 ∧ b >>> 6 < 64 := by
  have hlt := b.toNat_lt
  simp only [UInt8.lt_iff_toNat_lt, UInt8.toNat_shiftRight]
  show b.toNat >>> 2 < 64 ∧ b.toNat >>> 4 < 64 ∧ b.toNat >>> 6 < 64
  simp only [Nat.shiftRight_eq_div_pow]
  omega

theorem high_six (b : UInt8) : b >>> 2 < 64 := shift_lt.1

theorem low_two (b : UInt8) : (b <<< 4) &&& (0x30 : UInt8) < 64 := and_lt (by decide)

theorem high_four (b : UInt8) : b >>> 4 < 64 := shift_lt.2.1

theorem low_four (b : UInt8) : (b <<< 2) &&& (0x3D : UInt8) < 64 := and_lt (by decide)

theorem high_two (b : UInt8) : b >>> 6 < 64 := shift_lt.2.2

theorem low_six (b : UInt8) : b &&& (0x3F : UInt8) < 64 := and_lt (by decide)

/-! ## Bits -/

theorem first_byte (a b : UInt8) :
    ((a >>> 2) <<< 2) &&& (0xFD : UInt8) ||| (((a <<< 4) &&& (0x30 : UInt8)) ||| (b >>> 4)) >>> 4 = a := by
  apply UInt8.toBitVec_inj.1
  apply BitVec.eq_of_getLsbD_eq
  intro i hi
  interval_cases i <;> simp

theorem second_byte (a b c : UInt8) : ((((a <<< 4) &&& (0x30 : UInt8)) ||| (b >>> 4)) <<< 4) &&& (0xF0 : UInt8) |||
    (((b <<< 2) &&& (0x3D : UInt8)) ||| (c >>> 6)) >>> 2 = b := by
  apply UInt8.toBitVec_inj.1
  apply BitVec.eq_of_getLsbD_eq
  intro i hi
  interval_cases i <;> simp

theorem third_byte (b c : UInt8) :
    ((((b <<< 2) &&& (0x3D : UInt8)) ||| (c >>> 6)) <<< 6) &&& (0xD0 : UInt8) ||| (c &&& (0x3F : UInt8)) = c := by
  apply UInt8.toBitVec_inj.1
  apply BitVec.eq_of_getLsbD_eq
  intro i hi
  interval_cases i <;> simp

/-! ## Groups -/

/-- The four characters of three bytes. -/
def base64Group (a b c : UInt8) : OcString :=
  [base64Char (a >>> 2), base64Char (((a <<< 4) &&& (0x30 : UInt8)) ||| (b >>> 4)),
    base64Char (((b <<< 2) &&& (0x3D : UInt8)) ||| (c >>> 6)), base64Char (c &&& 0x3F)]

/-- The text of some bytes, group by group. -/
def base64Groups : OcString → OcString
  | a :: b :: c :: rest => base64Group a b c ++ base64Groups rest
  | [a, b] =>
    [base64Char (a >>> 2), base64Char (((a <<< 4) &&& (0x30 : UInt8)) ||| (b >>> 4)), base64Char ((b <<< 2) &&& 0x3D), 61]
  | [a] => [base64Char (a >>> 2), base64Char ((a <<< 4) &&& 0x30), 61, 61]
  | [] => []

theorem base64EncodeLoop_group (k : Nat) (val : UInt8) (out : OcString) (a b c : UInt8) (rest : OcString) :
    base64EncodeLoop (3 * k) val out (a :: b :: c :: rest) =
      base64EncodeLoop (3 * (k + 1)) (c &&& 0x3F) (out ++ base64Group a b c) rest := by
  rw [base64EncodeLoop, if_pos (by omega), base64EncodeLoop, if_neg (by omega), if_pos (by omega), base64EncodeLoop,
    if_neg (by omega), if_neg (by omega)]
  simp [base64Group, Nat.mul_add]

theorem base64EncodeLoop_groups : ∀ (input : OcString) (k : Nat) (val : UInt8) (out : OcString),
    let r := base64EncodeLoop (3 * k) val out input
    (if input.length % 3 ≠ 0 then r.2 ++ [base64Char r.1] else r.2) ++
        List.replicate ((if input.length % 3 ≠ 0 then 3 - input.length % 3 else 0)) 61 =
      out ++ base64Groups input
  | [], k, val, out => by simp [base64EncodeLoop, base64Groups]
  | [a], k, val, out => by
    simp [base64EncodeLoop, base64Groups]
  | [a, b], k, val, out => by
    have hmod : (3 * k + 1) % 3 = 1 := by omega
    simp [base64EncodeLoop, base64Groups, hmod]
  | a :: b :: c :: rest, k, val, out => by
    have ih := base64EncodeLoop_groups rest (k + 1) (c &&& 0x3F) (out ++ base64Group a b c)
    have hmod : (a :: b :: c :: rest).length % 3 = rest.length % 3 := by
      simp only [List.length_cons]
      omega
    simp only [base64EncodeLoop_group, hmod]
    simp only at ih
    rw [ih, base64Groups, List.append_assoc]

theorem base64Length_add (n : Nat) : base64Length (n + 3) = base64Length n + 4 := by
  unfold base64Length
  split <;> split <;> omega

theorem base64Groups_length : ∀ input : OcString, (base64Groups input).length = base64Length input.length
  | [] => rfl
  | [_] => by simp [base64Groups, base64Length]
  | [_, _] => by simp [base64Groups, base64Length]
  | a :: b :: c :: rest => by
    have ih := base64Groups_length rest
    have hgroup : (base64Group a b c).length = 4 := rfl
    have hlen : (a :: b :: c :: rest).length = rest.length + 3 := rfl
    rw [base64Groups, List.length_append, ih, hgroup, hlen, base64Length_add, Nat.add_comm]

theorem base64Text_eq (input : OcString) : base64Text input = base64Groups input := by
  have hloop := base64EncodeLoop_groups input 0 0 []
  simp only [Nat.mul_zero, List.nil_append] at hloop
  have hlen := base64Groups_length input
  unfold base64Text
  simp only
  generalize base64EncodeLoop 0 0 [] input = r at hloop
  obtain ⟨val, out⟩ := r
  simp only at hloop ⊢
  generalize (if input.length % 3 ≠ 0 then out ++ [base64Char val] else out) = text at *
  rw [← hloop, ← hlen, ← hloop, List.length_append, List.length_replicate, Nat.add_sub_cancel_left]

theorem base64Loop_char (len i : Nat) (valC : UInt8) (out : OcString) {v : UInt8} (hv : v < 64) (rest : OcString) :
    base64Loop len i valC out (base64Char v :: rest) =
      if i % 4 = 0 then base64Loop len (i + 1) ((v <<< 2) &&& 0xFD) out rest
      else if i % 4 = 1 then base64Loop len (i + 1) ((v <<< 4) &&& 0xF0) (out ++ [valC ||| (v >>> 4)]) rest
      else if i % 4 = 2 then base64Loop len (i + 1) ((v <<< 6) &&& 0xD0) (out ++ [valC ||| (v >>> 2)]) rest
      else base64Loop len (i + 1) (valC ||| v) (out ++ [valC ||| v]) rest := by
  obtain ⟨hvalue, hpad⟩ := base64Value_char v hv
  rw [base64Loop, if_neg hpad, hvalue]

theorem base64Loop_first (len k : Nat) (valC : UInt8) (out : OcString) (a b : UInt8) (rest : OcString) :
    base64Loop len (4 * k) valC out
        (base64Char (a >>> 2) :: base64Char (((a <<< 4) &&& (0x30 : UInt8)) ||| (b >>> 4)) :: rest) =
      base64Loop len (4 * k + 2) (((((a <<< 4) &&& (0x30 : UInt8)) ||| (b >>> 4)) <<< 4) &&& 0xF0) (out ++ [a]) rest := by
  rw [base64Loop_char _ _ _ _ (high_six a), if_pos (by omega), base64Loop_char _ _ _ _ (or_lt (low_two a) (high_four b)),
    if_neg (by omega), if_pos (by omega), first_byte]

theorem base64Loop_second (len k : Nat) (out : OcString) (a b c : UInt8) (rest : OcString) :
    base64Loop len (4 * k + 2) (((((a <<< 4) &&& (0x30 : UInt8)) ||| (b >>> 4)) <<< 4) &&& 0xF0) out
        (base64Char (((b <<< 2) &&& (0x3D : UInt8)) ||| (c >>> 6)) :: rest) =
      base64Loop len (4 * k + 3) (((((b <<< 2) &&& (0x3D : UInt8)) ||| (c >>> 6)) <<< 6) &&& 0xD0) (out ++ [b]) rest := by
  rw [base64Loop_char _ _ _ _ (or_lt (low_four b) (high_two c)), if_neg (by omega), if_neg (by omega), if_pos (by omega),
    second_byte]

theorem base64Loop_groups (len : Nat) : ∀ (input : OcString) (k : Nat) (valC : UInt8) (out : OcString),
    len = 4 * k + (base64Groups input).length → base64Loop len (4 * k) valC out (base64Groups input) = some (out ++ input)
  | [], k, valC, out, _ => by simp [base64Groups, base64Loop]
  | [a], k, valC, out, hlen => by
    have hfirst := base64Loop_first len k valC out a 0 [61, 61]
    have hzero : ((a <<< 4) &&& (0x30 : UInt8)) ||| ((0 : UInt8) >>> 4) = (a <<< 4) &&& 0x30 := by simp
    simp only [base64Groups, List.length_cons, List.length_nil] at hlen
    rw [hzero] at hfirst
    rw [base64Groups, hfirst, base64Loop, if_pos rfl, if_neg (by omega), if_neg (by simp)]
  | [a, b], k, valC, out, hlen => by
    have hsecond := base64Loop_second len k (out ++ [a]) a b 0 [61]
    have hzero : ((b <<< 2) &&& (0x3D : UInt8)) ||| ((0 : UInt8) >>> 6) = (b <<< 2) &&& 0x3D := by simp
    simp only [base64Groups, List.length_cons, List.length_nil] at hlen
    rw [hzero] at hsecond
    rw [base64Groups, base64Loop_first, hsecond, base64Loop, if_pos rfl, if_neg (by omega), if_neg (by omega),
      List.append_assoc]
    rfl
  | a :: b :: c :: rest, k, valC, out, hlen => by
    have ih := base64Loop_groups len rest (k + 1)
      (((((b <<< 2) &&& (0x3D : UInt8)) ||| (c >>> 6)) <<< 6) &&& 0xD0 ||| (c &&& 0x3F))
      (out ++ [a] ++ [b] ++ [c]) (by
        simp only [base64Groups, base64Group, List.length_append, List.length_cons, List.length_nil] at hlen
        omega)
    rw [base64Groups, base64Group, List.cons_append, List.cons_append, base64Loop_first, List.cons_append, base64Loop_second,
      List.cons_append, List.nil_append, base64Loop_char _ _ _ _ (low_six c), if_neg (by omega), if_neg (by omega),
      if_neg (by omega), third_byte]
    rw [third_byte, Nat.mul_add] at ih
    rw [show 4 * k + 3 + 1 = 4 * k + 4 * 1 by omega, ih]
    simp

theorem ocBase64Decode_groups (input : OcString) : ocBase64Decode (base64Groups input) = some input := by
  have hlen := base64Groups_length input
  have hmod : (base64Groups input).length % 4 = 0 := by
    rw [hlen]
    unfold base64Length
    split <;> omega
  unfold ocBase64Decode
  rw [if_neg (by simp [hmod])]
  exact base64Loop_groups _ input 0 0 [] (Nat.zero_add _).symm

/-! ## What is decoded -/

/-- Characters of the alphabet, and up to two `=` behind them. -/
structure Padded (text body pad : OcString) : Prop where
  text : text = body ++ pad
  alphabet : ∀ c ∈ body, c ∈ base64Alphabet
  pad : pad = [] ∨ pad = [61] ∨ pad = [61, 61]

theorem padded_nil : Padded [] [] [] := ⟨rfl, fun _ h => absurd h List.not_mem_nil, .inl rfl⟩

theorem Padded.cons {c : UInt8} {rest body pad : OcString} (hc : c ∈ base64Alphabet) (h : Padded rest body pad) :
    Padded (c :: rest) (c :: body) pad := by
  refine ⟨by rw [h.text, List.cons_append], fun x hx => ?_, h.pad⟩
  rcases List.mem_cons.1 hx with rfl | hx
  · exact hc
  · exact h.alphabet x hx

theorem Padded.of_cons {c : UInt8} {rest body pad : OcString} (hc : c ≠ 61) (h : Padded (c :: rest) body pad) :
    c ∈ base64Alphabet ∧ ∃ behind, body = c :: behind ∧ Padded rest behind pad := by
  obtain ⟨htext, halphabet, hpad⟩ := h
  cases body with
  | nil =>
    rw [List.nil_append] at htext
    rcases hpad with rfl | rfl | rfl
    · cases htext
    · cases htext
      exact absurd rfl hc
    · cases htext
      exact absurd rfl hc
  | cons x body =>
    cases htext
    exact ⟨halphabet _ List.mem_cons_self, body, rfl, rfl, fun y hy => halphabet y (List.mem_cons_of_mem _ hy), hpad⟩

/-- The loop ends with bytes if what is left are characters of the alphabet and padding, and then it has one byte for four
thirds of a character. -/
theorem base64Loop_padded (len : Nat) : ∀ {rest : OcString} {i : Nat} (valC : UInt8) {out : OcString},
    i + rest.length = len → out.length = 3 * i / 4 →
      ((base64Loop len i valC out rest).isSome = true ↔ ∃ body pad, Padded rest body pad) ∧
        ∀ {found body pad}, base64Loop len i valC out rest = some found → Padded rest body pad →
          found.length = 3 * (i + body.length) / 4
  | [], i, valC, out, _, hout => by
    refine ⟨iff_of_true rfl ⟨[], [], padded_nil⟩, fun {found body pad} hfound hpadded => ?_⟩
    cases hfound
    rw [List.append_eq_nil_iff.1 hpadded.text.symm |>.1]
    exact hout
  | c :: rest, i, valC, out, hlen, hout => by
    rw [List.length_cons] at hlen
    by_cases hc : c = 61
    · -- padding: what is behind it decides
      subst hc
      have hbody {body pad : OcString} (h : Padded (61 :: rest) body pad) : body = [] := by
        cases body with
        | nil => rfl
        | cons x body =>
          have hx := h.text
          rw [List.cons_append] at hx
          cases hx
          exact absurd (h.alphabet 61 List.mem_cons_self) pad_notMem_alphabet
      have hpad : (∃ body pad, Padded (61 :: rest) body pad) ↔ rest = [] ∨ rest = [61] := by
        constructor
        · rintro ⟨body, pad, h⟩
          have htext := h.text
          rw [hbody h, List.nil_append] at htext
          rcases h.pad with rfl | rfl | rfl
          · cases htext
          · cases htext
            exact .inl rfl
          · cases htext
            exact .inr rfl
        · rintro (rfl | rfl)
          · exact ⟨[], [61], rfl, fun _ h => absurd h List.not_mem_nil, .inr (.inl rfl)⟩
          · exact ⟨[], [61, 61], rfl, fun _ h => absurd h List.not_mem_nil, .inr (.inr rfl)⟩
      have hloop : base64Loop len i valC out (61 :: rest) = if rest = [] ∨ rest = [61] then some out else none := by
        rw [base64Loop, if_pos rfl]
        cases rest with
        | nil =>
          rw [List.length_nil] at hlen
          rw [if_neg (by omega), if_neg (by omega), if_pos (.inl rfl)]
        | cons d rest =>
          rw [List.length_cons] at hlen
          cases rest with
          | nil =>
            rw [List.length_nil] at hlen
            rw [if_neg (by omega), List.head?_cons]
            by_cases hd : d = 61
            · rw [hd, if_neg (by simp), if_pos (.inr rfl)]
            · rw [if_pos ⟨by omega, by simpa using hd⟩, if_neg (by simpa using hd)]
          | cons e rest =>
            rw [List.length_cons] at hlen
            rw [if_pos (by omega), if_neg (by simp)]
      rw [hpad, hloop]
      refine ⟨by split <;> simp_all, fun {found body pad} hfound hpadded => ?_⟩
      split at hfound
      · cases hfound
        rw [hbody hpadded]
        exact hout
      · cases hfound
    · cases hvalue : base64Value c with
      | none =>
        have hnot : c ∉ base64Alphabet := fun h => by
          have hsome := (base64Value_isSome c).2 h
          rw [hvalue] at hsome
          exact Bool.false_ne_true hsome
        have hloop : base64Loop len i valC out (c :: rest) = none := by rw [base64Loop, if_neg hc, hvalue]
        rw [hloop]
        refine ⟨iff_of_false (by simp) ?_, fun {found body pad} hfound => by cases hfound⟩
        rintro ⟨body, pad, h⟩
        exact hnot (h.of_cons hc).1
      | some v =>
        -- a sextet, which completes a byte unless it is the first of four
        have hmem : c ∈ base64Alphabet := (base64Value_isSome c).1 (by rw [hvalue]; rfl)
        obtain ⟨w, out', hloop, hout'⟩ : ∃ w out', base64Loop len i valC out (c :: rest) =
            base64Loop len (i + 1) w out' rest ∧ out'.length = 3 * (i + 1) / 4 := by
          rw [base64Loop, if_neg hc, hvalue]
          dsimp only
          split
          · exact ⟨_, _, rfl, by omega⟩
          · split
            · exact ⟨_, _, rfl, by rw [List.length_append, List.length_singleton]; omega⟩
            · split
              · exact ⟨_, _, rfl, by rw [List.length_append, List.length_singleton]; omega⟩
              · exact ⟨_, _, rfl, by rw [List.length_append, List.length_singleton]; omega⟩
        obtain ⟨hiff, hlength⟩ := base64Loop_padded len w (show i + 1 + rest.length = len by omega) hout'
        rw [hloop]
        refine ⟨hiff.trans ⟨?_, ?_⟩, fun {found body pad} hfound hpadded => ?_⟩
        · rintro ⟨body, pad, h⟩
          exact ⟨c :: body, pad, h.cons hmem⟩
        · rintro ⟨body, pad, h⟩
          obtain ⟨-, behind, -, h'⟩ := h.of_cons hc
          exact ⟨behind, pad, h'⟩
        · obtain ⟨-, behind, rfl, h'⟩ := hpadded.of_cons hc
          rw [hlength hfound h', List.length_cons]
          congr 2
          omega

/-- A text of the Base64 alphabet: its length is a multiple of four, and it ends with up to two `=`. -/
def IsBase64 (s : OcString) : Prop := s.length % 4 = 0 ∧ ∃ body pad, Padded s body pad

theorem Padded.length {text body pad : OcString} (h : Padded text body pad) (hmod : text.length % 4 = 0) :
    3 * body.length / 4 = 3 * text.length / 4 - text.count 61 := by
  obtain ⟨htext, halphabet, hpad⟩ := h
  have hbody : body.count 61 = 0 := List.count_eq_zero.2 fun hmem => pad_notMem_alphabet (halphabet 61 hmem)
  rw [htext] at hmod ⊢
  rw [List.count_append, hbody]
  rcases hpad with rfl | rfl | rfl
  · simp
  · simp only [List.length_append, List.length_cons, List.length_nil] at hmod ⊢
    rw [show List.count (61 : UInt8) [61] = 1 from rfl]
    omega
  · simp only [List.length_append, List.length_cons, List.length_nil] at hmod ⊢
    rw [show List.count (61 : UInt8) [61, 61] = 2 from rfl]
    omega

theorem ocBase64Decode_iff (s : OcString) : (ocBase64Decode s).isSome = true ↔ IsBase64 s := by
  unfold ocBase64Decode IsBase64
  by_cases hmod : s.length % 4 = 0
  · rw [if_neg (by simp [hmod]), (base64Loop_padded s.length 0 (Nat.zero_add _) rfl).1]
    exact ⟨fun h => ⟨hmod, h⟩, fun h => h.2⟩
  · rw [if_pos hmod]
    exact iff_of_false (by simp) fun h => hmod h.1

theorem base64Groups_alphabet (input : OcString) : ∀ ch ∈ base64Groups input, ch ∈ base64Alphabet ∨ ch = 61 := by
  intro ch hch
  have hdecoded : (ocBase64Decode (base64Groups input)).isSome = true := by rw [ocBase64Decode_groups, Option.isSome_some]
  obtain ⟨-, body, pad, hpadded⟩ := (ocBase64Decode_iff _).1 hdecoded
  rw [hpadded.text] at hch
  rcases List.mem_append.1 hch with hbody | hpad
  · exact .inl (hpadded.alphabet ch hbody)
  · rcases hpadded.pad with h | h | h <;> rw [h] at hpad
    · cases hpad
    · exact .inr (List.mem_singleton.1 hpad)
    · exact .inr (by simpa using hpad)

theorem ocBase64Decode_length {s out : OcString} (h : ocBase64Decode s = some out) :
    out.length = 3 * s.length / 4 - s.count 61 := by
  obtain ⟨hmod, body, pad, hpadded⟩ := (ocBase64Decode_iff s).1 (by rw [h]; rfl)
  unfold ocBase64Decode at h
  rw [if_neg (by simp [hmod])] at h
  rw [(base64Loop_padded s.length 0 (Nat.zero_add _) rfl).2 h hpadded, Nat.zero_add, hpadded.length hmod]

/-! ## The buffer -/

/-- What the encoder leaves at the start of an output buffer that is large enough. -/
theorem ocBase64Encode_text {x outputBuffer : OcString} (hsize : base64Length x.length ≤ outputBuffer.length) :
    ∃ n buffer, ocBase64Encode x outputBuffer = some (n, buffer) ∧ buffer.length = outputBuffer.length ∧
      buffer.take n = base64Groups x := by
  have htext : (base64Text x).length = base64Length x.length := by rw [base64Text_eq, base64Groups_length]
  unfold ocBase64Encode
  rw [if_neg (Nat.not_lt.2 hsize)]
  dsimp only
  generalize hgiven : (if x.length = 0 then outputBuffer.set 0 0 else outputBuffer) = given
  have hlength : given.length = outputBuffer.length := by
    rw [← hgiven]
    split
    · exact List.length_set
    · rfl
  refine ⟨_, _, rfl, ?_, ?_⟩
  · rw [Memory.length_write (by omega), hlength]
  · unfold Memory.write
    rw [List.take_zero, List.nil_append, List.take_left, base64Text_eq]

/-- What is encoded is decoded again in place, with its length. A text is decoded if and only if it is one of the Base64
alphabet, to three quarters of its length less its `=`. -/
theorem base64_inverse (x outputBuffer s : OcString) (hsize : base64Length x.length ≤ outputBuffer.length) :
    (∃ n buffer zeros, ocBase64Encode x outputBuffer = some (n, buffer) ∧
        ocBase64DecodeInPlace (buffer.take n) = some (x.length, x ++ zeros)) ∧
      ((ocBase64DecodeInPlace s).isSome = true ↔ IsBase64 s) ∧
      ∀ n buffer, ocBase64DecodeInPlace s = some (n, buffer) → n = 3 * s.length / 4 - s.count 61 := by
  refine ⟨?_, ?_, fun n buffer h => ?_⟩
  · obtain ⟨n, buffer, hencode, -, htext⟩ := ocBase64Encode_text hsize
    refine ⟨n, buffer, List.replicate ((base64Groups x).length - x.length) 0, hencode, ?_⟩
    rw [htext, ocBase64DecodeInPlace_eq, ocBase64Decode_groups, Option.map_some]
  · rw [ocBase64DecodeInPlace_eq, Option.isSome_map]
    exact ocBase64Decode_iff s
  · rw [ocBase64DecodeInPlace_eq] at h
    obtain ⟨out, hout, heq⟩ := Option.map_eq_some_iff.1 h
    rw [← (Prod.mk.inj heq).1]
    exact ocBase64Decode_length hout

/-- Two bytes in a buffer of four, and a text with a character that is not of the alphabet. -/
theorem base64_inverse_two :
    (∃ n buffer zeros, ocBase64Encode [1, 2] [0, 0, 0, 0] = some (n, buffer) ∧
        ocBase64DecodeInPlace (buffer.take n) = some (2, [1, 2] ++ zeros)) ∧
      ocBase64DecodeInPlace (ascii "AQ-=") = none := by
  obtain ⟨hround, -, -⟩ := base64_inverse [1, 2] [0, 0, 0, 0] (ascii "AQ-=") (by decide)
  exact ⟨hround, by decide⟩

end SmartGarage
