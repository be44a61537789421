/-
The options of a request or response, parsed: the parser makes of the list that the writer appends
the fields of the packet and its bitmap.
-/
import SmartGarage.Messaging.CoapBuild

namespace SmartGarage

/-! ## The bitmap -/

/-- The packet with the bit of an option as another packet has it. -/
def CoapPacket.copyBit (p q : CoapPacket) (opt : Nat) : CoapPacket :=
  { q with options := q.options ||| (p.options &&& optionBit opt) }

theorem and_optionBit (o : BitVec 64) (opt : Nat) :
    o &&& optionBit opt = if o.getLsbD opt then optionBit opt else 0#64 := by
  apply BitVec.eq_of_getLsbD_eq
  intro i hi
  rw [BitVec.getLsbD_and, optionBit_getLsbD hi]
  by_cases h : opt = i
  · subst h
    cases hb : o.getLsbD opt <;> simp [optionBit_getLsbD hi]
  · cases hb : o.getLsbD opt <;> simp [optionBit_getLsbD hi, h]

theorem setOption_eq_copyBit {p q : CoapPacket} {opt : Nat} (h : p.isOption opt = true) :
    q.setOption opt = p.copyBit q opt := by
  unfold CoapPacket.copyBit CoapPacket.setOption
  rw [and_optionBit, show p.options.getLsbD opt = true from h]
  rfl

theorem copyBit_unset {p q : CoapPacket} {opt : Nat} (h : p.isOption opt = false) : p.copyBit q opt = q := by
  unfold CoapPacket.copyBit
  rw [and_optionBit, show p.options.getLsbD opt = false from h]
  simp

theorem copied_bits {o : BitVec 64} (h : o &&& requestBits = o) :
    CoapPacket.zero.options ||| (o &&& optionBit coapOptionEtag) ||| (o &&& optionBit coapOptionObserve) |||
      (o &&& optionBit coapOptionUriPath) ||| (o &&& optionBit coapOptionContentFormat) |||
      (o &&& optionBit coapOptionUriQuery) ||| (o &&& optionBit coapOptionAccept) |||
      (o &&& optionBit coapOptionBlock2) ||| (o &&& optionBit coapOptionBlock1) |||
      (o &&& optionBit coapOptionSize2) ||| (o &&& optionBit coapOptionSize1) = o := by
  have hzero : CoapPacket.zero.options = 0#64 := rfl
  simp only [← BitVec.and_or_distrib_left, hzero, BitVec.zero_or]
  exact h

theorem not_uriPort {p : CoapPacket} (h : p.options &&& requestBits = p.options) :
    p.isOption coapOptionUriPort = false := by
  have hbit : requestBits.getLsbD coapOptionUriPort = false := by decide
  rw [CoapPacket.isOption, ← h, BitVec.getLsbD_and, hbit, Bool.and_false]

/-! ## One kind of option -/

theorem parseAll_append {p p' : CoapPacket} {l l' : List (Nat × OcString)} (h : parseAll p l = .ok p') :
    parseAll p (l ++ l') = parseAll p' l' := by
  unfold parseAll at h ⊢
  rw [List.foldlM_append, h]
  rfl

theorem parseAll_one {q : CoapPacket} {n : Nat} (value : OcString) (hq : coapCheckSignalMessage q = false)
    (hn : n ≤ coapOptionSize1) : parseAll q [(n, value)] = parseRequestOption (q.setOption n) n value := by
  have hone : parseAll q [(n, value)] = parseOption q n value >>= pure := rfl
  have hsig : coapCheckSignalMessage (q.setOption n) = false := hq
  rw [hone, bind_pure, parseOption, if_pos hn]
  simp only [hsig, Bool.false_eq_true, reduceIte]

theorem parseAll_piece {p q : CoapPacket} {n : Nat} {l : List (Nat × OcString)} (g : CoapPacket → CoapPacket)
    (hset : p.isOption n = true → parseAll q l = .ok (g (q.setOption n))) (hunset : p.isOption n = false → g q = q) :
    parseAll q (if p.isOption n then l else []) = .ok (g (p.copyBit q n)) := by
  cases hopt : p.isOption n with
  | true => rw [if_pos rfl, hset hopt, setOption_eq_copyBit hopt]
  | false =>
    rw [if_neg (by decide), copyBit_unset hopt, hunset hopt]
    rfl

theorem parseAll_parts {n : Nat} (sep : UInt8) (get : CoapPacket → OcString) (set : CoapPacket → OcString → CoapPacket)
    (hparse : ∀ q part, parseRequestOption q n part = .ok (set q (coapMergeMultiOption (get q) part sep)))
    (hget : ∀ q s, get (set q s) = s) (hset : ∀ q s s', set (set q s) s' = set q s')
    (hopt : ∀ q s, (set q s).setOption n = set (q.setOption n) s) (hgetOpt : ∀ q : CoapPacket, get (q.setOption n) = get q)
    (hcode : ∀ q s, coapCheckSignalMessage (set q s) = coapCheckSignalMessage q) (hn : n ≤ coapOptionSize1) :
    ∀ (parts : List OcString) (q : CoapPacket), parts ≠ [] → coapCheckSignalMessage q = false →
      parseAll q (parts.map (Prod.mk n)) =
        .ok (set (q.setOption n) (parts.foldl (fun d o => coapMergeMultiOption d o sep) (get q)))
  | [], _, hne, _ => absurd rfl hne
  | [part], q, _, hq => by
    rw [List.map_singleton, parseAll_one part hq hn, hparse, hgetOpt]
    rfl
  | part :: part' :: parts, q, _, hq => by
    have hone := parseAll_one part hq hn
    rw [hparse, hgetOpt] at hone
    have hrest := parseAll_parts sep get set hparse hget hset hopt hgetOpt hcode hn (part' :: parts)
      (set (q.setOption n) (coapMergeMultiOption (get q) part sep)) (by simp) ((hcode _ _).trans hq)
    have htwice : (q.setOption n).setOption n = q.setOption n := by
      unfold CoapPacket.setOption
      simp only [BitVec.or_assoc, BitVec.or_self]
    rw [List.map_cons, ← List.singleton_append, parseAll_append hone, hrest, hget, hopt, hset, htwice]
    rfl

/-! ## All options -/

/-- A block option as the other side has it. -/
def CoapBlock.received (b : CoapBlock) : CoapBlock :=
  { b with more := if b.more ≠ 0 then 1 else 0, offset := UInt32.ofNat (b.num.toNat * b.size.toNat) }

section Pieces

variable {p q : CoapPacket} (h : RequestOk p) (hq : coapCheckSignalMessage q = false)

theorem parse_intPiece {n : Nat} {v : UInt32} (g : CoapPacket → CoapPacket) (hq : coapCheckSignalMessage q = false)
    (hn : n ≤ coapOptionSize1)
    (hset : p.isOption n = true → parseRequestOption (q.setOption n) n (intOptionBytes v) = .ok (g (q.setOption n)))
    (hunset : p.isOption n = false → g q = q) : parseAll q (intPiece p n v) = .ok (g (p.copyBit q n)) := by
  refine parseAll_piece g (fun h => ?_) hunset
  rw [parseAll_one _ hq hn, hset h]

/-- An option with a number, which is zero where the option is not set. -/
theorem parse_numberPiece {n : Nat} {v : UInt32} (set : CoapPacket → UInt32 → CoapPacket)
    (hq : coapCheckSignalMessage q = false) (hn : n ≤ coapOptionSize1)
    (hparse : ∀ value, parseRequestOption (q.setOption n) n value = .ok (set (q.setOption n) (coapParseIntOption value)))
    (hv : OptionOk p n (fun _ => True) v 0) (h0 : set q 0 = q) :
    parseAll q (intPiece p n v) = .ok (set (p.copyBit q n) v) := by
  refine parse_intPiece (set · v) hq hn (fun _ => ?_) fun h => ?_
  · rw [hparse, coapParseIntOption_bytes]
  · rw [hv.2 h]
    exact h0

/-- A block option, whose block is zero where it is not set. -/
theorem parse_blockPiece {n : Nat} {b : CoapBlock} (set : CoapPacket → CoapBlock → CoapPacket)
    (hq : coapCheckSignalMessage q = false) (hn : n ≤ coapOptionSize1)
    (hparse : ∀ value, parseRequestOption (q.setOption n) n value = .ok (set (q.setOption n) (parseBlock value)))
    (hb : OptionOk p n BlockOk b CoapBlock.zero) (h0 : set q CoapBlock.zero = q) :
    parseAll q (intPiece p n (blockOptionValue b)) = .ok (set (p.copyBit q n) b.received) := by
  refine parse_intPiece (set · b.received) hq hn (fun h => ?_) fun h => ?_
  · rw [hparse, parseBlock_value (hb.1 h)]
    rfl
  · rw [hb.2 h]
    exact h0

include h hq

theorem parse_etag (h0 : q.etag = []) :
    parseAll q (arrayPiece p coapOptionEtag p.etag 0) = .ok { p.copyBit q coapOptionEtag with etag := p.etag } := by
  refine parseAll_piece (fun q => { q with etag := p.etag }) (fun hset => ?_) fun hunset => ?_
  · have hparse : parseRequestOption (q.setOption coapOptionEtag) coapOptionEtag p.etag =
        .ok { q.setOption coapOptionEtag with etag := p.etag.take coapEtagLen } := rfl
    rw [if_neg (by decide), parseAll_one _ hq (by decide), hparse, List.take_of_length_le (h.etag.1 hset)]
  · simp only [h.etag.2 hunset, ← h0]

theorem parse_observe (h0 : q.observe = 0) :
    parseAll q (intPiece p coapOptionObserve p.observe) =
      .ok { p.copyBit q coapOptionObserve with observe := p.observe } :=
  parse_numberPiece (fun q v => { q with observe := v }) hq (by decide) (fun _ => rfl) h.observe (by simp only [← h0])

theorem parse_uriPath (h0 : q.uriPath = []) :
    parseAll q (arrayPiece p coapOptionUriPath p.uriPath 47) =
      .ok { p.copyBit q coapOptionUriPath with uriPath := p.uriPath } := by
  refine parseAll_piece (fun q => { q with uriPath := p.uriPath }) (fun hset => ?_) fun hunset => ?_
  · have hparts := parseAll_parts (n := coapOptionUriPath) 47 CoapPacket.uriPath (fun q s => { q with uriPath := s })
      (fun _ _ => rfl) (fun _ _ => rfl) (fun _ _ _ => rfl) (fun _ _ => rfl) (fun _ => rfl) (fun _ _ => rfl) (by decide)
      (splitParts 47 [] p.uriPath) q (splitParts_ne_nil _ _ _) hq
    rw [if_pos (by decide), hparts, h0, merge_split (h.uriPath.1 hset)]
  · simp only [h.uriPath.2 hunset, ← h0]

theorem parse_contentFormat (h0 : q.contentFormat = 0) :
    parseAll q (intPiece p coapOptionContentFormat p.contentFormat.toUInt32) =
      .ok { p.copyBit q coapOptionContentFormat with contentFormat := p.contentFormat } := by
  refine parse_intPiece (fun q => { q with contentFormat := p.contentFormat }) hq (by decide) (fun hset => ?_)
    fun hunset => ?_
  · rw [parseRequestOption, if_pos rfl, coapParseIntOption_bytes, h.contentFormat.1 hset]
    rfl
  · simp only [h.contentFormat.2 hunset, ← h0]

theorem parse_uriQuery (h0 : q.uriQuery = []) :
    parseAll q (arrayPiece p coapOptionUriQuery p.uriQuery 38) =
      .ok { p.copyBit q coapOptionUriQuery with uriQuery := p.uriQuery } := by
  refine parseAll_piece (fun q => { q with uriQuery := p.uriQuery }) (fun hset => ?_) fun hunset => ?_
  · have hparts := parseAll_parts (n := coapOptionUriQuery) 38 CoapPacket.uriQuery (fun q s => { q with uriQuery := s })
      (fun _ _ => rfl) (fun _ _ => rfl) (fun _ _ _ => rfl) (fun _ _ => rfl) (fun _ => rfl) (fun _ _ => rfl) (by decide)
      (splitParts 38 [] p.uriQuery) q (splitParts_ne_nil _ _ _) hq
    rw [if_pos (by decide), hparts, h0, merge_split (h.uriQuery.1 hset)]
  · simp only [h.uriQuery.2 hunset, ← h0]

theorem parse_accept (h0 : q.accept = 0) :
    parseAll q (intPiece p coapOptionAccept p.accept.toUInt32) =
      .ok { p.copyBit q coapOptionAccept with accept := p.accept } := by
  refine parse_intPiece (fun q => { q with accept := p.accept }) hq (by decide) (fun hset => ?_) fun hunset => ?_
  · have hparse (v : OcString) : parseRequestOption (q.setOption coapOptionAccept) coapOptionAccept v =
        if (coapParseIntOption v).toUInt16 ≠ applicationVndOcfCbor then .error notAcceptable406
        else .ok { q.setOption coapOptionAccept with accept := (coapParseIntOption v).toUInt16 } := rfl
    rw [hparse, coapParseIntOption_bytes, h.accept.1 hset]
    rfl
  · simp only [h.accept.2 hunset, ← h0]

theorem parse_block2 (h0 : q.block2 = CoapBlock.zero) :
    parseAll q (intPiece p coapOptionBlock2 (blockOptionValue p.block2)) =
      .ok { p.copyBit q coapOptionBlock2 with block2 := p.block2.received } :=
  parse_blockPiece (fun q b => { q with block2 := b }) hq (by decide) (fun _ => rfl) h.block2 (by simp only [← h0])

theorem parse_block1 (h0 : q.block1 = CoapBlock.zero) :
    parseAll q (intPiece p coapOptionBlock1 (blockOptionValue p.block1)) =
      .ok { p.copyBit q coapOptionBlock1 with block1 := p.block1.received } :=
  parse_blockPiece (fun q b => { q with block1 := b }) hq (by decide) (fun _ => rfl) h.block1 (by simp only [← h0])

theorem parse_size2 (h0 : q.size2 = 0) :
    parseAll q (intPiece p coapOptionSize2 p.size2) = .ok { p.copyBit q coapOptionSize2 with size2 := p.size2 } :=
  parse_numberPiece (fun q v => { q with size2 := v }) hq (by decide) (fun _ => rfl) h.size2 (by simp only [← h0])

theorem parse_size1 (h0 : q.size1 = 0) :
    parseAll q (intPiece p coapOptionSize1 p.size1) = .ok { p.copyBit q coapOptionSize1 with size1 := p.size1 } :=
  parse_numberPiece (fun q v => { q with size1 := v }) hq (by decide) (fun _ => rfl) h.size1 (by simp only [← h0])

omit h in
theorem parse_version {option n : Nat} (hn : n = ocfOptionAcceptContentFormatVer ∨ n = ocfOptionContentFormatVer) :
    parseAll q (versionPiece p option n) = .ok q := by
  unfold versionPiece
  split
  · have hone (v : OcString) : parseAll q [(n, v)] = parseOption q n v >>= pure := rfl
    rw [hone, bind_pure, parseOption]
    obtain rfl | rfl := hn
    · simp only [show ¬ocfOptionAcceptContentFormatVer ≤ coapOptionSize1 by decide, reduceIte, hq, Bool.false_eq_true]
      rfl
    · simp only [show ¬ocfOptionContentFormatVer ≤ coapOptionSize1 by decide, reduceIte, hq, Bool.false_eq_true]
      rfl
  · rfl

end Pieces

/-- The packet behind the header, as the options of `p` complete it. -/
def CoapPacket.withOptions (q p : CoapPacket) : CoapPacket :=
  { q with
    options := p.options
    etag := p.etag
    observe := p.observe
    uriPath := p.uriPath
    contentFormat := p.contentFormat
    uriQuery := p.uriQuery
    accept := p.accept
    block2 := p.block2.received
    block1 := p.block1.received
    size2 := p.size2
    size1 := p.size1 }

/-- A packet of which only the header and the token have been read. -/
def HeaderOnly (q : CoapPacket) : Prop :=
  q = { CoapPacket.zero with
    transportType := q.transportType
    version := q.version
    type := q.type
    code := q.code
    mid := q.mid
    token := q.token }

/-- The options of a request or response are read back as they were set. -/
theorem parseAll_requestOptions {p q : CoapPacket} (h : RequestOk p) (hq : coapCheckSignalMessage q = false)
    (h0 : HeaderOnly q) : parseAll q (requestOptions p) = .ok (q.withOptions p) := by
  have hport : intPiece p coapOptionUriPort p.uriPort.toUInt32 = [] := by
    rw [intPiece, not_uriPort h.bits]
    rfl
  rw [HeaderOnly] at h0
  rw [h0] at hq ⊢
  unfold requestOptions
  rw [hport, List.nil_append]
  refine Eq.trans (parseAll_append (parse_etag h hq rfl)) ?_
  dsimp only [CoapPacket.copyBit]
  refine Eq.trans (parseAll_append (parse_observe h hq rfl)) ?_
  dsimp only [CoapPacket.copyBit]
  refine Eq.trans (parseAll_append (parse_uriPath h hq rfl)) ?_
  dsimp only [CoapPacket.copyBit]
  refine Eq.trans (parseAll_append (parse_contentFormat h hq rfl)) ?_
  dsimp only [CoapPacket.copyBit]
  refine Eq.trans (parseAll_append (parse_uriQuery h hq rfl)) ?_
  dsimp only [CoapPacket.copyBit]
  refine Eq.trans (parseAll_append (parse_accept h hq rfl)) ?_
  dsimp only [CoapPacket.copyBit]
  refine Eq.trans (parseAll_append (parse_block2 h hq rfl)) ?_
  dsimp only [CoapPacket.copyBit]
  refine Eq.trans (parseAll_append (parse_block1 h hq rfl)) ?_
  dsimp only [CoapPacket.copyBit]
  refine Eq.trans (parseAll_append (parse_size2 h hq rfl)) ?_
  dsimp only [CoapPacket.copyBit]
  refine Eq.trans (parseAll_append (parse_size1 h hq rfl)) ?_
  dsimp only [CoapPacket.copyBit]
  refine Eq.trans (parseAll_append (parse_version (by exact hq) (.inl rfl))) ?_
  refine Eq.trans (parse_version (by exact hq) (.inr rfl)) ?_
  -- the bits of the single options make up the bitmap
  rw [copied_bits h.bits]
  rfl

end SmartGarage
