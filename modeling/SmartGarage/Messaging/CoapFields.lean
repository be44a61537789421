/-
The fields of a packet, read back: Uri-Path and Uri-Query behind their split and merge, block options
behind their packed value, and the list of the options that a request or response is written as.
-/
import SmartGarage.Messaging.CoapOptions

namespace SmartGarage

/-! ## Strings of several options -/

/-- The string neither begins nor ends with the separator. -/
def SepOk (sep : UInt8) (s : OcString) : Prop := s.head? ≠ some sep ∧ s.getLast? ≠ some sep

theorem merge_merge {sep : UInt8} (dst part s : OcString) (hp : part ≠ []) :
    coapMergeMultiOption (coapMergeMultiOption dst part sep) s sep = coapMergeMultiOption dst (part ++ sep :: s) sep := by
  have hpart : part.length > 0 := List.length_pos_iff.2 hp
  unfold coapMergeMultiOption
  by_cases hd : dst.length > 0
  · simp [hd]
  · simp [hd, hpart]

theorem merge_splitParts {sep : UInt8} : ∀ (rest part dst : OcString), part ≠ [] →
    (part ++ rest).getLast? ≠ some sep →
    (splitParts sep part rest).foldl (fun d o => coapMergeMultiOption d o sep) dst =
      coapMergeMultiOption dst (part ++ rest) sep := by
  intro rest part
  induction part, rest using splitParts.induct sep with
  | case1 part => simp [splitParts]
  | case2 part =>
    intro dst _ hlast
    simp at hlast
  | case3 part b hb =>
    intro dst _ _
    simp [splitParts, hb]
  | case4 part c rest ih =>
    intro dst hp hlast
    have hlast' : ([c] ++ rest).getLast? ≠ some sep := by
      simpa [List.getLast?_append] using hlast
    rw [splitParts, if_pos rfl, List.foldl_cons, ih _ (by simp) hlast', List.cons_append, List.nil_append,
      merge_merge _ _ _ hp]
  | case5 part b c rest hb ih =>
    intro dst _ hlast
    rw [splitParts, if_neg hb, ih dst (by simp) (by simpa using hlast), List.append_assoc]
    rfl

/-- A string that neither begins nor ends with the separator survives. -/
theorem merge_split {sep : UInt8} {s : OcString} (h : SepOk sep s) :
    (splitParts sep [] s).foldl (fun d o => coapMergeMultiOption d o sep) [] = s := by
  obtain ⟨hhead, hlast⟩ := h
  match s with
  | [] => rfl
  | [b] =>
    have hb : ¬b = sep := by simpa using hhead
    simp [splitParts, hb, coapMergeMultiOption]
  | b :: c :: rest =>
    have hb : ¬b = sep := by simpa using hhead
    rw [splitParts, if_neg hb, merge_splitParts _ _ _ (by simp) (by simpa using hlast)]
    rfl

theorem splitParts_ne_nil (sep : UInt8) (part rest : OcString) : splitParts sep part rest ≠ [] := by
  induction part, rest using splitParts.induct sep with
  | case1 part => simp [splitParts]
  | case2 part => simp [splitParts]
  | case3 part b hb => simp [splitParts, hb]
  | case4 part c rest ih => simp [splitParts]
  | case5 part b c rest hb ih => simpa [splitParts, hb] using ih

/-! ## Block options -/

/-- The arguments with which a block option is set: a size that is a power of two, and a number of 20
bits. -/
def BlockOk (b : CoapBlock) : Prop := b.num.toNat < 2 ^ 20 ∧ ∃ k, k ≤ 7 ∧ b.size.toNat = 16 * 2 ^ k

theorem coapLog2_size {size : UInt16} {k : Nat} (hk : k ≤ 7) (hs : size.toNat = 16 * 2 ^ k) :
    ((0xF &&& coapLog2 (size / 16)).toUInt32).toNat = k := by
  have hsize : size = UInt16.ofNat (16 * 2 ^ k) := by rw [← hs, UInt16.ofNat_toNat]
  subst hsize
  clear hs
  have hall : ∀ k : Fin 8, ((0xF &&& coapLog2 (UInt16.ofNat (16 * 2 ^ k.1) / 16)).toUInt32).toNat = k := by
    decide
  exact hall ⟨k, by omega⟩

theorem blockOptionValue_toNat {b : CoapBlock} {k : Nat} (hn : b.num.toNat < 2 ^ 20) (hk : k ≤ 7)
    (hs : b.size.toNat = 16 * 2 ^ k) :
    (blockOptionValue b).toNat = b.num.toNat * 16 + ((if b.more ≠ 0 then 8 else 0) + k) := by
  have hlow : ∀ (m : Bool) (k : Fin 8), ((if m then 8 else 0) ||| k.1 : Nat) = (if m then 8 else 0) + k.1 := by
    decide
  have hshift : (b.num <<< 4).toNat = b.num.toNat <<< 4 := by
    rw [UInt32.toNat_shiftLeft]
    have h4 : (4 : UInt32).toNat % 32 = 4 := rfl
    rw [h4, Nat.shiftLeft_eq, Nat.mod_eq_of_lt (by omega)]
  unfold blockOptionValue
  rw [UInt32.toNat_or, UInt32.toNat_or, coapLog2_size hk hs, hshift, Nat.or_assoc]
  have hm : (if b.more ≠ 0 then 0x8 else 0 : UInt32).toNat = if decide (b.more ≠ 0) then 8 else 0 := by
    by_cases h : b.more = 0 <;> simp [h]
  rw [hm, hlow (decide (b.more ≠ 0)) ⟨k, by omega⟩, ← Nat.shiftLeft_add_eq_or_of_lt ?_, Nat.shiftLeft_eq]
  · by_cases h : b.more = 0 <;> simp [h]
  · by_cases h : b.more = 0 <;> simp [h] <;> omega

/-- The fields that are read from the value of a block option, as numbers. -/
theorem parseBlock_nat (value : OcString) :
    let v := (coapParseIntOption value).toNat
    (parseBlock value).num.toNat = v / 16 ∧ (parseBlock value).size.toNat = 16 * 2 ^ (v % 8) ∧
      (parseBlock value).offset.toNat = v / 16 * (16 * 2 ^ (v % 8)) % 2 ^ 32 := by
  unfold parseBlock
  generalize coapParseIntOption value = v
  have hj : (v &&& 0x07).toNat = v.toNat % 8 := by
    rw [UInt32.toNat_and]
    have h7 : (0x07 : UInt32).toNat = 2 ^ 3 - 1 := rfl
    rw [h7, Nat.and_two_pow_sub_one_eq_mod]
  have hall : ∀ j : Fin 8, (UInt16.ofNat (16 <<< j.1)).toNat = 16 * 2 ^ j.1 := by decide
  have hsize := hall ⟨v.toNat % 8, by omega⟩
  have hv : (v >>> 4).toNat = v.toNat / 16 := by
    rw [UInt32.toNat_shiftRight]
    have h4 : (4 : UInt32).toNat % 32 = 4 := rfl
    rw [h4, Nat.shiftRight_eq_div_pow]
  have hhigh : (v &&& ~~~0x0000000F).toNat = v.toNat / 16 * 16 := by
    have hm : (~~~0x0000000F : UInt32).toNat = 2 ^ 32 - 2 ^ 4 := by decide
    rw [UInt32.toNat_and, hm, Nat.and_comm, Bytes.highMask_and (by decide) v.toNat_lt]
    rfl
  have hshift : (v &&& 0x07).toNat % 32 = v.toNat % 8 := by omega
  refine ⟨hv, by simp only [hj]; exact hsize, ?_⟩
  simp only
  rw [UInt32.toNat_shiftLeft, hhigh, hshift, Nat.shiftLeft_eq, Nat.mul_assoc]

theorem parseBlock_more (value : OcString) :
    (parseBlock value).more = if (coapParseIntOption value).toNat / 8 % 2 = 1 then 1 else 0 := by
  unfold parseBlock
  generalize coapParseIntOption value = v
  have hbit : (v &&& 0x08) >>> 3 = if v.toNat / 8 % 2 = 1 then 1 else 0 := by
    rw [← UInt32.toNat_inj, UInt32.toNat_shiftRight, UInt32.toNat_and]
    have h3 : (3 : UInt32).toNat % 32 = 3 := rfl
    have h8 : (0x08 : UInt32).toNat = 2 ^ 3 := rfl
    rw [h3, h8, Nat.and_two_pow, Nat.testBit_eq_decide_div_mod_eq, Nat.shiftRight_eq_div_pow]
    by_cases h : v.toNat / 8 % 2 = 1 <;> simp [h]
  dsimp only
  rw [hbit]
  split <;> rfl

theorem parseBlock_value {b : CoapBlock} (h : BlockOk b) :
    parseBlock (intOptionBytes (blockOptionValue b)) =
      ⟨b.num, if b.more ≠ 0 then 1 else 0, b.size, UInt32.ofNat (b.num.toNat * b.size.toNat)⟩ := by
  obtain ⟨hn, k, hk, hs⟩ := h
  have hv := blockOptionValue_toNat hn hk hs
  obtain ⟨hnum, hsize, hoffset⟩ := parseBlock_nat (intOptionBytes (blockOptionValue b))
  have hmore := parseBlock_more (intOptionBytes (blockOptionValue b))
  rw [coapParseIntOption_bytes, hv] at hnum hsize hoffset hmore
  -- the low bits are the exponent of the size, behind the flag
  have hflag : (if b.more ≠ 0 then 8 else 0) + k < 16 := by split <;> omega
  have hdiv : (b.num.toNat * 16 + ((if b.more ≠ 0 then 8 else 0) + k)) / 16 = b.num.toNat := by omega
  have hszx : (b.num.toNat * 16 + ((if b.more ≠ 0 then 8 else 0) + k)) % 8 = k := by split <;> omega
  have hbit : (b.num.toNat * 16 + ((if b.more ≠ 0 then 8 else 0) + k)) / 8 % 2 = 1 ↔ b.more ≠ 0 := by
    split <;> rename_i hm
    · exact iff_of_true (by omega) hm
    · exact iff_of_false (by omega) hm
  rw [hdiv] at hnum hoffset
  rw [hszx] at hsize hoffset
  simp only [hbit] at hmore
  generalize parseBlock (intOptionBytes (blockOptionValue b)) = p at *
  obtain ⟨num, more, size, offset⟩ := p
  rw [CoapBlock.mk.injEq]
  refine ⟨UInt32.toNat_inj.1 hnum, hmore, UInt16.toNat_inj.1 (hsize.trans hs.symm), UInt32.toNat_inj.1 ?_⟩
  rw [UInt32.toNat_ofNat', hs]
  exact hoffset

/-! ## The list of options -/

/-- An integer option, if it is set. -/
def intPiece (p : CoapPacket) (number : Nat) (value : UInt32) : List (Nat × OcString) :=
  if p.isOption number then [(number, intOptionBytes value)] else []

/-- An array option, if it is set. -/
def arrayPiece (p : CoapPacket) (number : Nat) (array : OcString) (splitChar : UInt8) : List (Nat × OcString) :=
  if p.isOption number then
    if splitChar ≠ 0 then (splitParts splitChar [] array).map (Prod.mk number) else [(number, array)]
  else []

/-- The version behind a content format, if that is set. -/
def versionPiece (p : CoapPacket) (option number : Nat) : List (Nat × OcString) :=
  if p.isOption option then [(number, intOptionBytes ocfVer100)] else []

/-- The options of a request or response in their order. -/
def requestOptions (p : CoapPacket) : List (Nat × OcString) :=
  arrayPiece p coapOptionEtag p.etag 0 ++ (intPiece p coapOptionObserve p.observe ++
  (intPiece p coapOptionUriPort p.uriPort.toUInt32 ++ (arrayPiece p coapOptionUriPath p.uriPath 47 ++
  (intPiece p coapOptionContentFormat p.contentFormat.toUInt32 ++ (arrayPiece p coapOptionUriQuery p.uriQuery 38 ++
  (intPiece p coapOptionAccept p.accept.toUInt32 ++ (intPiece p coapOptionBlock2 (blockOptionValue p.block2) ++
  (intPiece p coapOptionBlock1 (blockOptionValue p.block1) ++ (intPiece p coapOptionSize2 p.size2 ++
  (intPiece p coapOptionSize1 p.size1 ++ (versionPiece p coapOptionAccept ocfOptionAcceptContentFormatVer ++
  versionPiece p coapOptionContentFormat ocfOptionContentFormatVer)))))))))))

section BufferWriter

variable (p : CoapPacket) (w : OptionWriter)

theorem serializeInt_eq (number : Nat) (value : UInt32) :
    serializeInt p number value w = w.putAll (intPiece p number value) := by
  unfold serializeInt intPiece
  split <;> rfl

theorem serializeBlock_eq (number : Nat) (b : CoapBlock) :
    serializeBlock p number b w = w.putAll (intPiece p number (blockOptionValue b)) := by
  unfold serializeBlock intPiece
  split <;> rfl

theorem serializeArray_eq (number : Nat) (array : OcString) (splitChar : UInt8) :
    serializeArray p number array splitChar w = w.putAll (arrayPiece p number array splitChar) := by
  unfold serializeArray arrayPiece coapSerializeArrayOption
  split
  · split
    · unfold OptionWriter.putAll
      rw [List.foldl_map]
    · rfl
  · rfl

theorem serializeVersion_eq {option : Nat} {format : UInt16} (number : Nat)
    (h : p.isOption option = true → format = applicationVndOcfCbor) :
    serializeVersion p option format number w = w.putAll (versionPiece p option number) := by
  unfold serializeVersion versionPiece
  split
  · rename_i hset
    rw [if_pos (h hset)]
    rfl
  · rfl

end BufferWriter

theorem serializeRequestOptions_eq {p : CoapPacket}
    (hf : p.isOption coapOptionContentFormat = true → p.contentFormat = applicationVndOcfCbor)
    (ha : p.isOption coapOptionAccept = true → p.accept = applicationVndOcfCbor) :
    (serializeRequestOptions p).bytes = encodeOptions 0 (requestOptions p) := by
  have hall : serializeRequestOptions p = OptionWriter.empty.putAll (requestOptions p) := by
    unfold serializeRequestOptions requestOptions
    simp only [serializeInt_eq, serializeBlock_eq, serializeArray_eq, serializeVersion_eq _ _ _ hf,
      serializeVersion_eq _ _ _ ha, OptionWriter.putAll_append]
  rw [hall, OptionWriter.putAll_eq]
  rfl

/-! ## The order of the options -/

/-- The numbers do not decrease from `current` on. -/
def Ascending : Nat → List (Nat × OcString) → Prop
  | _, [] => True
  | current, (number, _) :: l => current ≤ number ∧ number < 65536 + 269 ∧ Ascending number l

theorem Ascending.mono {a b : Nat} {l : List (Nat × OcString)} (h : Ascending b l) (hab : a ≤ b) : Ascending a l := by
  cases l with
  | nil => trivial
  | cons o l => exact ⟨hab.trans h.1, h.2⟩

theorem Ascending.piece {current n : Nat} {rest : List (Nat × OcString)} (h : Ascending n rest)
    (hle : current ≤ n) (hn : n < 65536 + 269) :
    ∀ {l : List (Nat × OcString)}, (∀ o ∈ l, o.1 = n) → Ascending current (l ++ rest)
  | [], _ => h.mono hle
  | o :: l, hl => by
    have ho : o.1 = n := hl o List.mem_cons_self
    refine ⟨ho ▸ hle, ho ▸ hn, ?_⟩
    rw [ho]
    exact h.piece (Nat.le_refl _) hn fun o ho => hl o (List.mem_cons_of_mem _ ho)

theorem encodable_of_ascending : ∀ {l : List (Nat × OcString)} {current : Nat}, Ascending current l →
    (encodeOptions current l).length < 65536 + 269 → Encodable current l
  | [], _, _, _ => trivial
  | o :: l, current, h, hlen => by
    rw [encodeOptions, List.length_append, List.length_append] at hlen
    exact ⟨h.1, h.2.1, by omega, encodable_of_ascending h.2.2 (by omega)⟩

theorem length_le_encodeOptions : ∀ (l : List (Nat × OcString)) (current : Nat),
    l.length ≤ (encodeOptions current l).length
  | [], _ => Nat.le_refl _
  | o :: l, current => by
    have hl := length_le_encodeOptions l o.1
    rw [encodeOptions, List.length_append, List.length_append, coapSetOptionHeader, List.length_cons, List.length_cons]
    omega

theorem intPiece_number {p : CoapPacket} {number : Nat} {value : UInt32} : ∀ o ∈ intPiece p number value, o.1 = number := by
  unfold intPiece
  split <;> simp

theorem versionPiece_number {p : CoapPacket} {option number : Nat} : ∀ o ∈ versionPiece p option number, o.1 = number := by
  unfold versionPiece
  split <;> simp

theorem arrayPiece_number {p : CoapPacket} {number : Nat} {array : OcString} {splitChar : UInt8} :
    ∀ o ∈ arrayPiece p number array splitChar, o.1 = number := by
  unfold arrayPiece
  split
  · split <;> simp
  · simp

theorem requestOptions_ascending (p : CoapPacket) : Ascending 0 (requestOptions p) := by
  have hlast : Ascending ocfOptionContentFormatVer
      (versionPiece p coapOptionContentFormat ocfOptionContentFormatVer) := by
    have hend : Ascending ocfOptionContentFormatVer [] := trivial
    simpa using hend.piece (Nat.le_refl _) (by decide) versionPiece_number
  unfold requestOptions
  refine Ascending.piece ?_ (by decide) (by decide) (arrayPiece_number (p := p))
  refine Ascending.piece ?_ (by decide) (by decide) (intPiece_number (p := p))
  refine Ascending.piece ?_ (by decide) (by decide) (intPiece_number (p := p))
  refine Ascending.piece ?_ (by decide) (by decide) (arrayPiece_number (p := p))
  refine Ascending.piece ?_ (by decide) (by decide) (intPiece_number (p := p))
  refine Ascending.piece ?_ (by decide) (by decide) (arrayPiece_number (p := p))
  refine Ascending.piece ?_ (by decide) (by decide) (intPiece_number (p := p))
  refine Ascending.piece ?_ (by decide) (by decide) (intPiece_number (p := p))
  refine Ascending.piece ?_ (by decide) (by decide) (intPiece_number (p := p))
  refine Ascending.piece ?_ (by decide) (by decide) (intPiece_number (p := p))
  refine Ascending.piece ?_ (by decide) (by decide) (intPiece_number (p := p))
  refine Ascending.piece ?_ (by decide) (by decide) (versionPiece_number (p := p))
  exact hlast.mono (by decide)

end SmartGarage
