/-
`oc_uuid.c`: the text that `oc_uuid_to_str` writes for a UUID is read back by `oc_str_to_uuid`, for
every UUID and whatever the destination held before.
-/
import SmartGarage.Api.Basic

namespace SmartGarage

/-! ## The two digits of a byte -/

theorem forall_byte {p : UInt8 → Prop} (h : ∀ n : Fin 256, p (UInt8.ofNat n)) (b : UInt8) : p b := by
  have hb := h ⟨b.toNat, b.toNat_lt⟩
  rwa [UInt8.ofNat_toNat] at hb

theorem forall_nibble {p : UInt8 → Prop} (h : ∀ n : Fin 16, p (UInt8.ofNat n)) (b : UInt8) (hb : b ≤ 15) : p b := by
  have hlt : b.toNat < 16 := Nat.lt_succ_of_le (UInt8.le_iff_toNat_le.1 hb)
  have hb := h ⟨b.toNat, hlt⟩
  rwa [UInt8.ofNat_toNat] at hb

theorem high_le (b : UInt8) : b >>> 4 ≤ 15 := by
  have hlt := b.toNat_lt
  rw [UInt8.le_iff_toNat_le, UInt8.toNat_shiftRight]
  show b.toNat >>> 4 ≤ 15
  rw [Nat.shiftRight_eq_div_pow]
  omega

theorem low_le (b : UInt8) : b &&& 15 ≤ 15 := by
  rw [UInt8.le_iff_toNat_le, UInt8.toNat_and]
  exact Nat.and_le_right

theorem hexNibble_hexDigit : ∀ b : UInt8, b ≤ 15 → hexNibble (hexDigit b) = b := forall_nibble (by decide)

theorem hexNibble_high (b : UInt8) : hexNibble (hexDigit (b >>> 4)) = b >>> 4 := hexNibble_hexDigit _ (high_le b)

theorem hexNibble_low (b : UInt8) : hexNibble (hexDigit (b &&& 15)) = b &&& 15 := hexNibble_hexDigit _ (low_le b)

theorem hexDigit_ne : ∀ b : UInt8, b ≤ 15 →
    hexDigit b ≠ 45 ∧ hexDigit b ≠ 42 ∧ hexDigit b ≠ 0 ∧ hexDigit b ≠ 93 ∧ hexDigit b ≠ 38 := forall_nibble (by decide)

theorem hexDigit_high_ne (b : UInt8) : hexDigit (b >>> 4) ≠ 45 ∧ hexDigit (b >>> 4) ≠ 42 ∧ hexDigit (b >>> 4) ≠ 0 :=
  have h := hexDigit_ne _ (high_le b)
  ⟨h.1, h.2.1, h.2.2.1⟩

theorem hexDigit_low_ne (b : UInt8) : hexDigit (b &&& 15) ≠ 45 := (hexDigit_ne _ (low_le b)).1

theorem join_nibbles : ∀ b : UInt8, (b >>> 4) <<< 4 ||| (b &&& 15) = b := forall_byte (by decide +kernel)

/-! ## Reading one byte -/

theorem round_dash (s : UuidScan) : s.round 45 = s := rfl

theorem round_high (u : OcUuid) (j : Nat) (b : UInt8) :
    (⟨u, j, 2 * j + 1, 0⟩ : UuidScan).round (hexDigit (b >>> 4)) = ⟨u, j, 2 * j + 2, (b >>> 4) <<< 4⟩ := by
  have hfirst : ¬((j + 1) * 2 = 2 * j + 1) := by omega
  simp only [UuidScan.round, (hexDigit_high_ne b).1, reduceIte, hexNibble_high, hfirst, UInt8.zero_or]

theorem round_low (u : OcUuid) (j : Nat) (b : UInt8) :
    (⟨u, j, 2 * j + 2, (b >>> 4) <<< 4⟩ : UuidScan).round (hexDigit (b &&& 15)) =
      ⟨⟨u.id.setIfInBounds j b⟩, j + 1, 2 * (j + 1) + 1, 0⟩ := by
  have hsecond : (j + 1) * 2 = 2 * j + 2 := by omega
  simp only [UuidScan.round, hexDigit_low_ne b, reduceIte, hexNibble_low, hsecond, join_nibbles, UuidScan.mk.injEq,
    true_and]
  trivial

/-- The text of the byte `b` at the index `i`. -/
def byteText (i : Nat) (b : UInt8) : OcString :=
  (if i = 4 ∨ i = 6 ∨ i = 8 ∨ i = 10 then [(45 : UInt8)] else []) ++ [hexDigit (b >>> 4), hexDigit (b &&& 15)]

theorem foldl_byteText (u : OcUuid) (j : Nat) (b : UInt8) :
    (byteText j b).foldl UuidScan.round ⟨u, j, 2 * j + 1, 0⟩ = ⟨⟨u.id.setIfInBounds j b⟩, j + 1, 2 * (j + 1) + 1, 0⟩ := by
  unfold byteText
  split
  · simp only [List.cons_append, List.nil_append, List.foldl_cons, List.foldl_nil, round_dash, round_high, round_low]
  · simp only [List.nil_append, List.foldl_cons, List.foldl_nil, round_high, round_low]

/-! ## Reading a UUID -/

/-- The first `n` bytes of `u`, then those of `v`. -/
def mixed (u v : OcUuid) (n : Nat) : OcUuid := ⟨Vector.ofFn fun i : Fin 16 => if i.1 < n then u.id[i] else v.id[i]⟩

theorem mixed_succ (u v : OcUuid) (n : Nat) :
    (⟨(mixed u v n).id.setIfInBounds n (u.id.toList.getD n 0)⟩ : OcUuid) = mixed u v (n + 1) := by
  unfold mixed
  rw [OcUuid.mk.injEq]
  ext i hi
  simp only [Vector.getElem_setIfInBounds, Vector.getElem_ofFn]
  by_cases hn : n = i
  · subst hn
    simp [hi]
  · have hlt : i < n + 1 ↔ i < n := by omega
    simp [hn, hlt]

theorem mixed_zero (u v : OcUuid) : mixed u v 0 = v := by
  cases v
  unfold mixed
  rw [OcUuid.mk.injEq]
  ext i hi
  simp

theorem mixed_all (u v : OcUuid) : mixed u v 16 = u := by
  cases u
  unfold mixed
  rw [OcUuid.mk.injEq]
  ext i hi
  simp

theorem foldl_text (u v : OcUuid) : ∀ n : Nat,
    ((List.range n).flatMap fun i => byteText i (u.id.toList.getD i 0)).foldl UuidScan.round ⟨v, 0, 1, 0⟩ =
      ⟨mixed u v n, n, 2 * n + 1, 0⟩
  | 0 => by rw [mixed_zero]; rfl
  | n + 1 => by
    rw [List.range_succ, List.flatMap_append, List.foldl_append, foldl_text u v n, List.flatMap_singleton,
      foldl_byteText, mixed_succ]

theorem foldl_range_getD {σ α : Type} (f : σ → α → σ) (d : α) (l : List α) (s : σ) :
    (List.range l.length).foldl (fun s i => f s (l.getD i d)) s = l.foldl f s := by
  have hmap : (List.range l.length).map (fun i => l.getD i d) = l := by
    apply List.ext_getElem
    · simp
    · intro i h1 h2
      simp [h2]
  calc (List.range l.length).foldl (fun s i => f s (l.getD i d)) s
      = ((List.range l.length).map fun i => l.getD i d).foldl f s := List.foldl_map.symm
    _ = l.foldl f s := by rw [hmap]

theorem digits_length (u : OcUuid) : ((List.range 16).flatMap fun i => byteText i (u.id.toList.getD i 0)).length = 36 := by
  simp [List.range, List.range.loop, byteText]

theorem digits_head (u : OcUuid) :
    ∃ b l, ((List.range 16).flatMap fun i => byteText i (u.id.toList.getD i 0)) = b :: l ∧ b ≠ 42 ∧ b ≠ 0 :=
  ⟨hexDigit (u.id.toList.getD 0 0 >>> 4), _, rfl, (hexDigit_high_ne _).2.1, (hexDigit_high_ne _).2.2⟩

theorem ocStrToUuid_digits (u v : OcUuid) :
    ocStrToUuid ((List.range 16).flatMap fun i => byteText i (u.id.toList.getD i 0)) v = u := by
  obtain ⟨b, l, heq, hb, hz⟩ := digits_head u
  have hcstr : cstr ((List.range 16).flatMap fun i => byteText i (u.id.toList.getD i 0)) ≠ [42] := by
    rw [heq]
    simp [cstr, hz, hb]
  unfold ocStrToUuid
  rw [if_neg hcstr]
  have hfold := foldl_range_getD UuidScan.round 0
    ((List.range 16).flatMap fun i => byteText i (u.id.toList.getD i 0)) ⟨v, 0, 1, 0⟩
  rw [digits_length] at hfold
  rw [hfold, foldl_text, mixed_all]

theorem ocUuidToStr_of_ne {u : OcUuid} (h : u ≠ OcUuid.wildcard) :
    ocUuidToStr u = (List.range 16).flatMap fun i => byteText i (u.id.toList.getD i 0) := by
  unfold ocUuidToStr
  rw [if_neg h]
  rfl

theorem ocUuidToStr_length {u : OcUuid} (h : u ≠ OcUuid.wildcard) : (ocUuidToStr u).length = 36 := by
  rw [ocUuidToStr_of_ne h, digits_length]

theorem ocUuidToStr_head {u : OcUuid} (h : u ≠ OcUuid.wildcard) :
    ∃ b l, ocUuidToStr u = b :: l ∧ b ≠ 42 ∧ b ≠ 0 := by
  rw [ocUuidToStr_of_ne h]
  exact digits_head u

theorem ocStrToUuid_ocUuidToStr (u v : OcUuid) : ocStrToUuid (ocUuidToStr u) v = u := by
  by_cases h : u = OcUuid.wildcard
  · subst h
    rfl
  · rw [ocUuidToStr_of_ne h, ocStrToUuid_digits]

/-! ## Texts that fit -/

theorem foldl_round_inside : ∀ (l : OcString) (s : UuidScan), 2 * s.j < s.k →
    2 * (l.foldl UuidScan.round s).j < (l.foldl UuidScan.round s).k ∧
      (l.foldl UuidScan.round s).k + l.count 45 = s.k + l.length
  | [], _, h => ⟨h, rfl⟩
  | ch :: l, s, h => by
    have hround : 2 * (s.round ch).j < (s.round ch).k ∧
        (s.round ch).k + (if ch = 45 then 1 else 0) = s.k + 1 := by
      unfold UuidScan.round
      split
      · exact ⟨h, rfl⟩
      · dsimp only
        split <;> simp only [Nat.add_zero, and_true] <;> omega
    obtain ⟨hj, hk⟩ := foldl_round_inside l (s.round ch) hround.1
    rw [List.foldl_cons, List.count_cons, List.length_cons]
    refine ⟨hj, ?_⟩
    simp only [beq_iff_eq]
    omega

/-- A text that fits fills no more than the 16 bytes of a UUID. -/
theorem uuidFits_inside {str : OcString} (h : uuidFits str) (hstar : cstr str ≠ [42]) (uuid : OcUuid) :
    ((List.range 36).foldl (fun (s : UuidScan) i => s.round (str.getD i 0)) ⟨uuid, 0, 1, 0⟩).j ≤ 16 := by
  unfold uuidFits at h
  rw [Bool.or_eq_true, decide_eq_true_eq, or_iff_right hstar, Bool.and_eq_true, decide_eq_true_eq, decide_eq_true_eq] at h
  have hlength : (str.take 36).length = 36 := by rw [List.length_take, Nat.min_eq_left h.1]
  have hread : ∀ i ∈ List.range 36, str.getD i 0 = (str.take 36).getD i 0 := fun i hi => by
    simp only [List.getD_eq_getElem?_getD]
    rw [List.getElem?_take_of_lt (List.mem_range.1 hi)]
  have hfold := foldl_range_getD UuidScan.round 0 (str.take 36) ⟨uuid, 0, 1, 0⟩
  rw [hlength] at hfold
  rw [List.foldl_ext _ (fun s i => s.round ((str.take 36).getD i 0)) _ fun s i hi => by rw [hread i hi], hfold]
  obtain ⟨hj, hk⟩ := foldl_round_inside (str.take 36) ⟨uuid, 0, 1, 0⟩ (by simp)
  dsimp only at hk
  omega

end SmartGarage
