/-
The blocks of an upload: the size in the option of a block is its size cut to a power of two, and where the bytes
of a block begin on a multiple of that size, the block stands where the option says.
-/
import SmartGarage.Messaging.Upload

namespace SmartGarage

/-! ## The option -/

theorem coapLog2_floor {size : UInt16} (hlow : 16 ≤ size.toNat) (hhigh : size.toNat ≤ 2048) :
    ∃ k, k ≤ 7 ∧ coapLog2 (size / 16) = coapLog2 (UInt16.ofNat (16 * 2 ^ k) / 16) ∧ 16 * 2 ^ k ≤ size.toNat ∧
      size.toNat < 2 * (16 * 2 ^ k) := by
  have hdiv : (size / 16).toNat = size.toNat / 16 := by
    rw [UInt16.toNat_div]
    rfl
  have hne : size.toNat / 16 ≠ 0 := by omega
  have hle := Nat.log2_self_le hne
  have hlt := @Nat.lt_log2_self (size.toNat / 16)
  have hk : Nat.log2 (size.toNat / 16) ≤ 7 := by
    by_contra hgt
    have hpow : 2 ^ 8 ≤ 2 ^ Nat.log2 (size.toNat / 16) := Nat.pow_le_pow_right (by omega) (by omega)
    omega
  have hpow : 2 ^ (Nat.log2 (size.toNat / 16) + 1) = 2 * 2 ^ Nat.log2 (size.toNat / 16) := by
    rw [Nat.pow_succ]
    omega
  refine ⟨Nat.log2 (size.toNat / 16), hk, ?_, by omega, by omega⟩
  have hall : ∀ k : Fin 8, coapLog2 (UInt16.ofNat (16 * 2 ^ k.1) / 16) = UInt16.ofNat k.1 := by decide
  rw [hall ⟨_, by omega⟩]
  unfold coapLog2
  rw [hdiv]

theorem encoded_pow {size k j : Nat} (hle : 16 * 2 ^ k ≤ size) (hlt : size < 2 * (16 * 2 ^ k)) (hsize : size = 16 * 2 ^ j) :
    size = 16 * 2 ^ k := by
  have hkj : k ≤ j := by
    by_contra hgt
    have hpow : 2 ^ (j + 1) ≤ 2 ^ k := Nat.pow_le_pow_right (by omega) (by omega)
    rw [Nat.pow_succ] at hpow
    omega
  have hjk : j ≤ k := by
    by_contra hgt
    have hpow : 2 ^ (k + 1) ≤ 2 ^ j := Nat.pow_le_pow_right (by omega) (by omega)
    rw [Nat.pow_succ] at hpow
    omega
  rw [hsize, Nat.le_antisymm hkj hjk]

theorem parseBlock_floor {b : CoapBlock} (hnum : b.num.toNat < 2 ^ 20) (hlow : 16 ≤ b.size.toNat)
    (hhigh : b.size.toNat ≤ 2048) :
    ∃ size : UInt16, parseBlock (intOptionBytes (blockOptionValue b)) =
        ⟨b.num, if b.more ≠ 0 then 1 else 0, size, UInt32.ofNat (b.num.toNat * size.toNat)⟩ ∧
      size ≤ b.size ∧ 16 ≤ size.toNat ∧ ∀ j, b.size.toNat = 16 * 2 ^ j → size = b.size := by
  obtain ⟨k, hk, hlog, hle, hlt⟩ := coapLog2_floor hlow hhigh
  have hpow : 2 ^ k ≤ 2 ^ 7 := Nat.pow_le_pow_right (by omega) hk
  have hpos : 0 < 2 ^ k := Nat.two_pow_pos k
  have hsize : (UInt16.ofNat (16 * 2 ^ k)).toNat = 16 * 2 ^ k := by
    rw [UInt16.toNat_ofNat']
    omega
  have hvalue : blockOptionValue b = blockOptionValue { b with size := UInt16.ofNat (16 * 2 ^ k) } := by
    unfold blockOptionValue
    rw [hlog]
  have hok : BlockOk { b with size := UInt16.ofNat (16 * 2 ^ k) } := ⟨hnum, k, hk, hsize⟩
  refine ⟨UInt16.ofNat (16 * 2 ^ k), ?_, ?_, by omega, fun j hj => ?_⟩
  · rw [hvalue, parseBlock_value hok]
  · rw [UInt16.le_iff_toNat_le, hsize]
    exact hle
  · rw [← UInt16.toNat_inj, hsize]
    exact (encoded_pow hle hlt hj).symm

/-! ## Blocks -/

/-- A packet with bytes of the payload behind an offset that is a multiple of the size in its option. -/
theorem isBlock_of {payload : OcString} {p : CoapPacket} (offset : Nat) (hnum : p.block1.num.toNat < 2 ^ 20)
    (hlow : 16 ≤ p.block1.size.toNat) (hhigh : p.block1.size.toNat ≤ 2048) (hoption : p.isOption coapOptionBlock1 = true)
    (hpayload : p.payload = (payload.drop offset).take p.block1.size.toNat)
    (hplace : p.block1.num = 0 ∧ offset = 0 ∧ p.block1.size.toNat < payload.length ∨
      (∃ j, p.block1.size.toNat = 16 * 2 ^ j) ∧ offset = p.block1.num.toNat * p.block1.size.toNat)
    (hinside : offset < payload.length)
    (hmore : p.block1.more = 0 ↔ payload.length ≤ offset + p.block1.size.toNat) :
    IsBlock payload p ∧ (readBlock1 p).offset.toNat = offset := by
  obtain ⟨size, hread, hle, -, hpow⟩ := parseBlock_floor hnum hlow hhigh
  rw [UInt16.le_iff_toNat_le] at hle
  have hbound : p.block1.num.toNat * size.toNat < 2 ^ 32 := by
    have hmul : p.block1.num.toNat * size.toNat ≤ 2 ^ 20 * 2048 := Nat.mul_le_mul (by omega) (by omega)
    omega
  have hoffset : (readBlock1 p).offset.toNat = p.block1.num.toNat * size.toNat := by
    unfold readBlock1
    rw [hread, UInt32.toNat_ofNat']
    exact Nat.mod_eq_of_lt hbound
  have hsame : p.block1.num.toNat * size.toNat = offset := by
    rcases hplace with ⟨hzero, hstart, -⟩ | ⟨⟨j, hj⟩, hstart⟩
    · rw [hzero, hstart]
      exact Nat.zero_mul _
    · rw [hpow j hj, hstart]
  have hlength : p.payload.length = min p.block1.size.toNat (payload.length - offset) := by
    rw [hpayload, List.length_take, List.length_drop]
  have hflag : (readBlock1 p).more = 0 ↔ p.block1.more = 0 := by
    unfold readBlock1
    rw [hread]
    by_cases h : p.block1.more = 0 <;> simp [h]
  have hsize : (readBlock1 p).size = size := by
    unfold readBlock1
    rw [hread]
  have hnumber : (readBlock1 p).num = p.block1.num := by
    unfold readBlock1
    rw [hread]
  refine ⟨⟨hoption, by rw [hoffset, hnumber, hsize], ?_, fun h => ?_, fun h => ?_⟩, hoffset.trans hsame⟩
  · rw [hoffset, hsame, hpayload]
    exact List.take_prefix _ _
  · rw [hsize, hlength]
    have hmid : ¬payload.length ≤ offset + p.block1.size.toNat := fun hend => h (hflag.2 (hmore.2 hend))
    omega
  · rw [hsize, hoffset, hsame, hlength]
    have hend := hmore.1 (hflag.1 h)
    rcases hplace with ⟨-, hstart, hlonger⟩ | ⟨⟨j, hj⟩, -⟩
    · omega
    · rw [hpow j hj]
      omega

theorem serverStore_isPrefix {payload store : OcString} {p : CoapPacket} (again : Bool) (hstore : store <+: payload)
    (hp : IsBlock payload p) : serverStore again store p <+: payload := by
  unfold serverStore
  rw [if_pos hp.option]
  refine Chunks.put_isPrefix ?_ (hp.place.take _)
  split
  · exact List.nil_prefix
  · exact hstore

/-- A last block that begins within what the server has, or right behind it, completes the payload. -/
theorem serverStore_last {payload store : OcString} {p : CoapPacket} (again : Bool) (hstore : store <+: payload)
    (hp : IsBlock payload p) (hplace : (readBlock1 p).offset.toNat ≤ store.length) (hlast : (readBlock1 p).more = 0) :
    serverStore again store p = payload := by
  obtain ⟨hle, hend⟩ := hp.last hlast
  have hwhole : p.payload.take (readBlock1 p).size.toNat = p.payload := List.take_of_length_le hle
  unfold serverStore
  rw [if_pos hp.option]
  dsimp only
  rw [hwhole]
  split
  · rename_i hagain
    have hzero : (readBlock1 p).offset.toNat = 0 := by
      rw [hp.offset, hagain.2]
      exact Nat.zero_mul _
    exact Chunks.put_last List.nil_prefix hp.place (by omega) hend
  · exact Chunks.put_last hstore hp.place hplace hend

end SmartGarage
