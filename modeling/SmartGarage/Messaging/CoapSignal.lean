/-
Signalling messages: the options that their code gives a meaning to, and what the parser makes of
them. An option of a signalling message is never refused.
-/
import SmartGarage.Messaging.CoapRequest

namespace SmartGarage

variable {p q : CoapPacket} {codes : List UInt8}

/-! ## The list of options -/

/-- The options of a signalling message in their order; a flag is written with the value 0. -/
def signalOptions (p : CoapPacket) : List (Nat × OcString) :=
  if p.code = csm701 then
    intPiece p coapSignalOptionMaxMsgSize p.maxMsgSize ++
      if p.blockwiseTransfer ≠ 0 then intPiece p coapSignalOptionBlockwiseTransfer 0 else []
  else if p.code = ping702 ∨ p.code = pong703 then
    if p.custody ≠ 0 then intPiece p coapSignalOptionCustody 0 else []
  else if p.code = release704 then
    arrayPiece p coapSignalOptionAltAddr p.altAddr 0 ++ intPiece p coapSignalOptionHoldOff p.holdOff
  else if p.code = abort705 then intPiece p coapSignalOptionBadCsm p.badCsmOpt.toUInt32
  else []

theorem coapSerializeSignalOptions_eq (p : CoapPacket) :
    (coapSerializeSignalOptions p).bytes = encodeOptions 0 (signalOptions p) := by
  have hall : coapSerializeSignalOptions p = OptionWriter.empty.putAll (signalOptions p) := by
    unfold coapSerializeSignalOptions signalOptions
    simp only [serializeInt_eq, serializeArray_eq]
    split
    · split <;> rw [OptionWriter.putAll_append]
      rfl
    · split
      · split <;> rfl
      · split
        · rw [OptionWriter.putAll_append]
        · split <;> rfl
  rw [hall, OptionWriter.putAll_eq]
  rfl

theorem Ascending.intPiece {p : CoapPacket} {n : Nat} {v : UInt32} (hn : n < 65536 + 269) :
    Ascending n (intPiece p n v) := by
  have hend : Ascending n [] := trivial
  simpa using hend.piece (Nat.le_refl _) hn intPiece_number

theorem signalOptions_ascending (p : CoapPacket) : Ascending 0 (signalOptions p) := by
  unfold signalOptions
  split
  · refine Ascending.piece (n := coapSignalOptionMaxMsgSize) ?_ (by decide) (by decide) intPiece_number
    split
    · exact (Ascending.intPiece (by decide)).mono (by decide)
    · trivial
  · split
    · split
      · exact (Ascending.intPiece (by decide)).mono (by decide)
      · trivial
    · split
      · refine Ascending.piece (n := coapSignalOptionAltAddr) ?_ (by decide) (by decide) arrayPiece_number
        exact (Ascending.intPiece (by decide)).mono (by decide)
      · split
        · exact (Ascending.intPiece (by decide)).mono (by decide)
        · trivial

/-! ## The parser -/

/-- The fields that the options of a signalling message leave alone. -/
structure SameHeader (q r : CoapPacket) : Prop where
  transportType : r.transportType = q.transportType
  version : r.version = q.version
  type : r.type = q.type
  code : r.code = q.code
  mid : r.mid = q.mid
  token : r.token = q.token
  payload : r.payload = q.payload

theorem sameHeader_signal (q : CoapPacket) (number : Nat) (value : OcString) :
    SameHeader q (coapParseSignalOptions q number value) := by
  unfold coapParseSignalOptions
  repeat' split
  all_goals exact ⟨rfl, rfl, rfl, rfl, rfl, rfl, rfl⟩

theorem parseAll_signal : ∀ (l : List (Nat × OcString)) (q : CoapPacket), coapCheckSignalMessage q = true →
    ∃ r, parseAll q l = .ok r ∧ SameHeader q r
  | [], q, _ => ⟨q, rfl, rfl, rfl, rfl, rfl, rfl, rfl, rfl⟩
  | o :: l, q, hq => by
    have hone : ∃ r, parseOption q o.1 o.2 = .ok r ∧ SameHeader q r := by
      unfold parseOption
      split
      · have hset := sameHeader_signal (q.setOption o.1) o.1 o.2
        exact ⟨_, if_pos hq, hset.1, hset.2, hset.3, hset.4, hset.5, hset.6, hset.7⟩
      · exact ⟨_, if_pos hq, sameHeader_signal q o.1 o.2⟩
    obtain ⟨r, hr, hsame⟩ := hone
    have hcode : coapCheckSignalMessage r = true := by
      rw [← hq, coapCheckSignalMessage, coapCheckSignalMessage, hsame.code]
    obtain ⟨r', hr', hsame'⟩ := parseAll_signal l r hcode
    refine ⟨r', ?_, ?_⟩
    · unfold parseAll at hr' ⊢
      rw [List.foldlM_cons, hr]
      exact hr'
    · exact ⟨hsame'.1.trans hsame.1, hsame'.2.trans hsame.2, hsame'.3.trans hsame.3, hsame'.4.trans hsame.4,
        hsame'.5.trans hsame.5, hsame'.6.trans hsame.6, hsame'.7.trans hsame.7⟩

/-! ## The setters -/

/-- A call of one of the setters of `coap_signal.c`. -/
inductive SignalSetter
  | maxMsgSize (size : UInt32)
  | blockwiseTransfer (value : UInt8)
  | custody (value : UInt8)
  | altAddr (addr : OcString)
  | holdOff (seconds : UInt32)
  | badCsm (opt : UInt16)

/-- The packet behind a call. -/
def SignalSetter.apply (p : CoapPacket) : SignalSetter → CoapPacket
  | maxMsgSize size => p.signalSetMaxMsgSize size
  | blockwiseTransfer value => p.signalSetBlockwiseTransfer value
  | custody value => p.signalSetCustody value
  | altAddr addr => p.signalSetAltAddr addr
  | holdOff seconds => p.signalSetHoldOff seconds
  | badCsm opt => p.signalSetBadCsm opt

/-- A field that differs from its initial value belongs to the code of the message, and its option is set. -/
def Carried {α : Type} (p : CoapPacket) (codes : List UInt8) (opt : Nat) (value initial : α) : Prop :=
  value ≠ initial → p.code ∈ codes ∧ p.isOption opt = true

/-- The fields of a packet to which only the setters of a signalling message have been applied. -/
structure SignalOk (p : CoapPacket) : Prop where
  frame : p = { CoapPacket.zero with
    transportType := p.transportType
    type := p.type
    code := p.code
    token := p.token
    options := p.options
    maxMsgSize := p.maxMsgSize
    blockwiseTransfer := p.blockwiseTransfer
    custody := p.custody
    altAddr := p.altAddr
    holdOff := p.holdOff
    badCsmOpt := p.badCsmOpt
    payload := p.payload }
  maxMsgSize : Carried p [csm701] coapSignalOptionMaxMsgSize p.maxMsgSize 0
  blockwiseTransfer : Carried p [csm701] coapSignalOptionBlockwiseTransfer p.blockwiseTransfer 0
  custody : Carried p [ping702, pong703] coapSignalOptionCustody p.custody 0
  altAddr : Carried p [release704] coapSignalOptionAltAddr p.altAddr []
  holdOff : Carried p [release704] coapSignalOptionHoldOff p.holdOff 0
  badCsmOpt : Carried p [abort705] coapSignalOptionBadCsm p.badCsmOpt 0
  flags : (p.blockwiseTransfer = 0 ∨ p.blockwiseTransfer = 1) ∧ (p.custody = 0 ∨ p.custody = 1)

theorem Carried.step {α : Type} {opt n : Nat} {value value' initial : α}
    (h : Carried p codes n value initial) (hn : n < 64) (hcode : q.code = p.code)
    (ho : q.options = p.options ||| optionBit opt) (hv : opt = n ∧ p.code ∈ codes ∨ value' = value) :
    Carried q codes n value' initial := by
  have hq : q.isOption n = (p.isOption n || decide (opt = n)) := by
    rw [CoapPacket.isOption, ho, BitVec.getLsbD_or, optionBit_getLsbD hn, CoapPacket.isOption]
  intro hne
  rw [hcode, hq]
  obtain ⟨rfl, hmem⟩ | rfl := hv
  · exact ⟨hmem, by simp⟩
  · obtain ⟨hmem, hset⟩ := h hne
    exact ⟨hmem, by simp [hset]⟩

theorem SignalOk.step (h : SignalOk p) (opt : Nat) (ho : q.options = p.options ||| optionBit opt)
    (hq : q = { p with
      options := q.options, maxMsgSize := q.maxMsgSize, blockwiseTransfer := q.blockwiseTransfer,
      custody := q.custody, altAddr := q.altAddr, holdOff := q.holdOff, badCsmOpt := q.badCsmOpt })
    (hsize : opt = coapSignalOptionMaxMsgSize ∧ p.code ∈ [csm701] ∨ q.maxMsgSize = p.maxMsgSize)
    (hbert : opt = coapSignalOptionBlockwiseTransfer ∧ p.code ∈ [csm701] ∨ q.blockwiseTransfer = p.blockwiseTransfer)
    (hcust : opt = coapSignalOptionCustody ∧ p.code ∈ [ping702, pong703] ∨ q.custody = p.custody)
    (haddr : opt = coapSignalOptionAltAddr ∧ p.code ∈ [release704] ∨ q.altAddr = p.altAddr)
    (hhold : opt = coapSignalOptionHoldOff ∧ p.code ∈ [release704] ∨ q.holdOff = p.holdOff)
    (hbad : opt = coapSignalOptionBadCsm ∧ p.code ∈ [abort705] ∨ q.badCsmOpt = p.badCsmOpt)
    (hflags : (q.blockwiseTransfer = 0 ∨ q.blockwiseTransfer = 1) ∧ (q.custody = 0 ∨ q.custody = 1)) : SignalOk q := by
  have hcode : q.code = p.code := by rw [hq]
  refine ⟨?_, h.maxMsgSize.step (by decide) hcode ho hsize, h.blockwiseTransfer.step (by decide) hcode ho hbert,
    h.custody.step (by decide) hcode ho hcust, h.altAddr.step (by decide) hcode ho haddr,
    h.holdOff.step (by decide) hcode ho hhold, h.badCsmOpt.step (by decide) hcode ho hbad, hflags⟩
  have hframe := h.frame
  rw [hq, hframe]

/-- Every setter of a signalling message keeps the packet in order. -/
theorem SignalOk.apply (h : SignalOk p) (c : SignalSetter) : SignalOk (c.apply p) := by
  cases c with
  | maxMsgSize size =>
    simp only [SignalSetter.apply, CoapPacket.signalSetMaxMsgSize]
    split
    · exact h
    · rename_i hcode
      exact h.step coapSignalOptionMaxMsgSize rfl rfl (.inl ⟨rfl, by simpa using hcode⟩) (.inr rfl) (.inr rfl) (.inr rfl)
        (.inr rfl) (.inr rfl) h.flags
  | blockwiseTransfer value =>
    simp only [SignalSetter.apply, CoapPacket.signalSetBlockwiseTransfer]
    split
    · exact h
    · rename_i hcode
      push Not at hcode
      exact h.step coapSignalOptionBlockwiseTransfer rfl rfl (.inr rfl) (.inl ⟨rfl, by simpa using hcode.1⟩) (.inr rfl)
        (.inr rfl) (.inr rfl) (.inr rfl) ⟨(or_iff_not_imp_left.2 hcode.2), h.flags.2⟩
  | custody value =>
    simp only [SignalSetter.apply, CoapPacket.signalSetCustody]
    split
    · exact h
    · rename_i hcode
      push Not at hcode
      exact h.step coapSignalOptionCustody rfl rfl (.inr rfl) (.inr rfl)
        (.inl ⟨rfl, by simpa using or_iff_not_imp_left.2 hcode.1⟩) (.inr rfl) (.inr rfl) (.inr rfl)
        ⟨h.flags.1, or_iff_not_imp_left.2 hcode.2⟩
  | altAddr addr =>
    simp only [SignalSetter.apply, CoapPacket.signalSetAltAddr]
    split
    · exact h
    · rename_i hcode
      push Not at hcode
      exact h.step coapSignalOptionAltAddr rfl rfl (.inr rfl) (.inr rfl) (.inr rfl) (.inl ⟨rfl, by simpa using hcode.1⟩)
        (.inr rfl) (.inr rfl) h.flags
  | holdOff seconds =>
    simp only [SignalSetter.apply, CoapPacket.signalSetHoldOff]
    split
    · exact h
    · rename_i hcode
      exact h.step coapSignalOptionHoldOff rfl rfl (.inr rfl) (.inr rfl) (.inr rfl) (.inr rfl)
        (.inl ⟨rfl, by simpa using hcode⟩) (.inr rfl) h.flags
  | badCsm opt =>
    simp only [SignalSetter.apply, CoapPacket.signalSetBadCsm]
    split
    · exact h
    · rename_i hcode
      exact h.step coapSignalOptionBadCsm rfl rfl (.inr rfl) (.inr rfl) (.inr rfl) (.inr rfl) (.inr rfl)
        (.inl ⟨rfl, by simpa using hcode⟩) h.flags

/-! ## The fields read back -/

theorem parse_signalPiece {α : Type} {n : Nat} {v : OcString} {value initial : α}
    (g : CoapPacket → CoapPacket) (hq : coapCheckSignalMessage q = true) (hn : n ≤ coapOptionSize1)
    (hc : Carried p codes n value initial) (hset : coapParseSignalOptions (q.setOption n) n v = g (q.setOption n))
    (hunset : value = initial → g q = q) :
    ∃ o, parseAll q (if p.isOption n then [(n, v)] else []) = .ok (g { q with options := o }) := by
  cases hopt : p.isOption n with
  | true =>
    refine ⟨q.options ||| optionBit n, ?_⟩
    have hone : parseAll q [(n, v)] = parseOption q n v >>= pure := rfl
    have hsig : coapCheckSignalMessage (q.setOption n) = true := hq
    rw [if_pos rfl, hone, bind_pure, parseOption, if_pos hn]
    simp only [hsig, reduceIte, hset]
    rfl
  | false =>
    have hval : value = initial := by
      by_contra hne
      rw [(hc hne).2] at hopt
      cases hopt
    exact ⟨q.options, congrArg Except.ok (hunset hval).symm⟩

/-- The packet behind the header, as the options of a signalling message complete it. -/
def CoapPacket.withSignal (q p : CoapPacket) (options : BitVec 64) : CoapPacket :=
  { q with
    options := options
    maxMsgSize := p.maxMsgSize
    blockwiseTransfer := p.blockwiseTransfer
    custody := p.custody
    altAddr := p.altAddr
    holdOff := p.holdOff
    badCsmOpt := p.badCsmOpt }

theorem Carried.eq_initial {α : Type} {opt : Nat} {value initial : α}
    (h : Carried p codes opt value initial) (hcode : p.code ∉ codes) : value = initial := by
  by_contra hne
  exact hcode (h hne).1

/-- What does not belong to the code of the message has its initial value. -/
theorem SignalOk.initial (h : SignalOk p) :
    (p.code ≠ csm701 → p.maxMsgSize = 0 ∧ p.blockwiseTransfer = 0) ∧
    (¬(p.code = ping702 ∨ p.code = pong703) → p.custody = 0) ∧
    (p.code ≠ release704 → p.altAddr = [] ∧ p.holdOff = 0) ∧ (p.code ≠ abort705 → p.badCsmOpt = 0) :=
  ⟨fun hc => ⟨h.maxMsgSize.eq_initial (by simpa using hc), h.blockwiseTransfer.eq_initial (by simpa using hc)⟩,
    fun hc => h.custody.eq_initial (by simpa using hc),
    fun hc => ⟨h.altAddr.eq_initial (by simpa using hc), h.holdOff.eq_initial (by simpa using hc)⟩,
    fun hc => h.badCsmOpt.eq_initial (by simpa using hc)⟩

theorem parse_blockwiseTransfer (h : SignalOk p) (hq : q.code = csm701)
    (h0 : q.blockwiseTransfer = 0) :
    ∃ o, parseAll q (if p.blockwiseTransfer ≠ 0 then intPiece p coapSignalOptionBlockwiseTransfer 0 else []) =
      .ok { q with options := o, blockwiseTransfer := p.blockwiseTransfer } := by
  have hsig : coapCheckSignalMessage q = true := by simp [coapCheckSignalMessage, hq]
  obtain hzero | hone := h.flags.1
  · refine ⟨q.options, ?_⟩
    simp only [hzero, ne_eq, not_true_eq_false, reduceIte, ← h0]
    rfl
  · rw [if_pos (by rw [hone]; decide)]
    refine parse_signalPiece (fun q => { q with blockwiseTransfer := p.blockwiseTransfer }) hsig (by decide)
      h.blockwiseTransfer ?_ fun hzero => ?_
    · have hcode : (q.setOption coapSignalOptionBlockwiseTransfer).code = csm701 := hq
      rw [coapParseSignalOptions, if_pos hcode, if_neg (by decide), if_pos rfl, hone]
    · rw [hone] at hzero
      exact absurd hzero (by decide)

theorem parse_custody (h : SignalOk p) (hq : q.code = ping702 ∨ q.code = pong703)
    (h0 : q.custody = 0) :
    ∃ o, parseAll q (if p.custody ≠ 0 then intPiece p coapSignalOptionCustody 0 else []) =
      .ok { q with options := o, custody := p.custody } := by
  have hsig : coapCheckSignalMessage q = true := by
    obtain hc | hc := hq <;> simp [coapCheckSignalMessage, hc]
  obtain hzero | hone := h.flags.2
  · refine ⟨q.options, ?_⟩
    simp only [hzero, ne_eq, not_true_eq_false, reduceIte, ← h0]
    rfl
  · rw [if_pos (by rw [hone]; decide)]
    refine parse_signalPiece (fun q => { q with custody := p.custody }) hsig (by decide) h.custody ?_ fun hzero => ?_
    · have hcode : (q.setOption coapSignalOptionCustody).code = ping702 ∨
        (q.setOption coapSignalOptionCustody).code = pong703 := hq
      have hcsm : ¬(q.setOption coapSignalOptionCustody).code = csm701 := by
        obtain hc | hc := hcode <;> rw [hc] <;> decide
      rw [coapParseSignalOptions, if_neg hcsm, if_pos hcode, if_pos rfl, hone]
    · rw [hone] at hzero
      exact absurd hzero (by decide)

theorem signal_altAddr {q : CoapPacket} (hq : q.code = release704) (v : OcString) :
    coapParseSignalOptions q coapSignalOptionAltAddr v = { q with altAddr := v } := by
  rw [coapParseSignalOptions, if_neg (by rw [hq]; decide), if_neg (by rw [hq]; decide), if_pos hq, if_pos rfl]

theorem signal_holdOff {q : CoapPacket} (hq : q.code = release704) (v : OcString) :
    coapParseSignalOptions q coapSignalOptionHoldOff v = { q with holdOff := coapParseIntOption v } := by
  rw [coapParseSignalOptions, if_neg (by rw [hq]; decide), if_neg (by rw [hq]; decide), if_pos hq, if_neg (by decide),
    if_pos rfl]

theorem signal_badCsm {q : CoapPacket} (hq : q.code = abort705) (v : OcString) :
    coapParseSignalOptions q coapSignalOptionBadCsm v = { q with badCsmOpt := (coapParseIntOption v).toUInt16 } := by
  rw [coapParseSignalOptions, if_neg (by rw [hq]; decide), if_neg (by rw [hq]; decide), if_neg (by rw [hq]; decide),
    if_pos hq, if_pos rfl]

section Codes

variable (h : SignalOk p) (hcode : q.code = p.code) (h0 : HeaderOnly q)
include h hcode h0

theorem parse_csm (hc : p.code = csm701) : ∃ o, parseAll q (signalOptions p) = .ok (q.withSignal p o) := by
  have hq : q.code = csm701 := hcode.trans hc
  have hsig : coapCheckSignalMessage q = true := by simp [coapCheckSignalMessage, hq]
  rw [HeaderOnly] at h0
  have hparse : coapParseSignalOptions (q.setOption coapSignalOptionMaxMsgSize) coapSignalOptionMaxMsgSize
      (intOptionBytes p.maxMsgSize) = { q.setOption coapSignalOptionMaxMsgSize with maxMsgSize := p.maxMsgSize } := by
    have hc : (q.setOption coapSignalOptionMaxMsgSize).code = csm701 := hq
    rw [coapParseSignalOptions, if_pos hc, if_pos rfl, coapParseIntOption_bytes]
  obtain ⟨o, hsize⟩ := parse_signalPiece (fun q => { q with maxMsgSize := p.maxMsgSize }) hsig (by decide) h.maxMsgSize
    hparse fun hzero => by
      have hq0 : q.maxMsgSize = 0 := by rw [h0]; rfl
      simp only [hzero, ← hq0]
  obtain ⟨o', hbert⟩ := parse_blockwiseTransfer (q := { q with options := o, maxMsgSize := p.maxMsgSize }) h hq
    (by rw [h0]; rfl)
  obtain ⟨-, hcust, haddr, hbad⟩ := h.initial
  rw [hc] at hcust haddr hbad
  refine ⟨o', ?_⟩
  rw [signalOptions, if_pos hc, intPiece, parseAll_append hsize, hbert]
  simp only [CoapPacket.withSignal, hcust (by decide), haddr (by decide), hbad (by decide)]
  rw [h0]
  rfl

theorem parse_ping (hc : p.code = ping702 ∨ p.code = pong703) :
    ∃ o, parseAll q (signalOptions p) = .ok (q.withSignal p o) := by
  rw [HeaderOnly] at h0
  have hother {code : UInt8} (h₁ : ping702 ≠ code) (h₂ : pong703 ≠ code) : p.code ≠ code := by
    obtain hc | hc := hc <;> rwa [hc]
  obtain ⟨o, hcust⟩ := parse_custody (q := q) h (hcode ▸ hc) (by rw [h0]; rfl)
  obtain ⟨hcsm, -, haddr, hbad⟩ := h.initial
  have hne : p.code ≠ csm701 := hother (by decide) (by decide)
  refine ⟨o, ?_⟩
  rw [signalOptions, if_neg hne, if_pos hc, hcust]
  simp only [CoapPacket.withSignal, hcsm hne, haddr (hother (by decide) (by decide)), hbad (hother (by decide) (by decide))]
  rw [h0]
  rfl

theorem parse_release (hc : p.code = release704) : ∃ o, parseAll q (signalOptions p) = .ok (q.withSignal p o) := by
  have hq : q.code = release704 := hcode.trans hc
  have hsig : coapCheckSignalMessage q = true := by simp [coapCheckSignalMessage, hq]
  rw [HeaderOnly] at h0
  have hparse : coapParseSignalOptions (q.setOption coapSignalOptionAltAddr) coapSignalOptionAltAddr p.altAddr =
      { q.setOption coapSignalOptionAltAddr with altAddr := p.altAddr } := by
    exact signal_altAddr (q := q.setOption coapSignalOptionAltAddr) hq p.altAddr
  obtain ⟨o, haddr⟩ := parse_signalPiece (fun q => { q with altAddr := p.altAddr }) hsig (by decide) h.altAddr hparse
    fun hzero => by
      have hq0 : q.altAddr = [] := by rw [h0]; rfl
      simp only [hzero, ← hq0]
  have hparse' : coapParseSignalOptions
      ({ q with options := o, altAddr := p.altAddr }.setOption coapSignalOptionHoldOff) coapSignalOptionHoldOff
      (intOptionBytes p.holdOff) =
      { { q with options := o, altAddr := p.altAddr }.setOption coapSignalOptionHoldOff with holdOff := p.holdOff } := by
    rw [signal_holdOff (by exact hq), coapParseIntOption_bytes]
  obtain ⟨o', hhold⟩ := parse_signalPiece (q := { q with options := o, altAddr := p.altAddr })
    (fun q => { q with holdOff := p.holdOff }) hsig (by decide) h.holdOff hparse' fun hzero => by
      have hq0 : q.holdOff = 0 := by rw [h0]; rfl
      simp only [hzero, ← hq0]
  obtain ⟨hcsm, hcust, -, hbad⟩ := h.initial
  rw [hc] at hcsm hcust hbad
  refine ⟨o', ?_⟩
  have hlist : signalOptions p = (if p.isOption coapSignalOptionAltAddr then [(coapSignalOptionAltAddr, p.altAddr)] else []) ++
      if p.isOption coapSignalOptionHoldOff then [(coapSignalOptionHoldOff, intOptionBytes p.holdOff)] else [] := by
    rw [signalOptions, hc, if_neg (by decide), if_neg (by decide), if_pos rfl]
    rfl
  rw [hlist, parseAll_append haddr, hhold]
  simp only [CoapPacket.withSignal, hcsm (by decide), hcust (by decide), hbad (by decide)]
  rw [h0]
  rfl

theorem parse_abort (hc : p.code = abort705) : ∃ o, parseAll q (signalOptions p) = .ok (q.withSignal p o) := by
  have hq : q.code = abort705 := hcode.trans hc
  have hsig : coapCheckSignalMessage q = true := by simp [coapCheckSignalMessage, hq]
  rw [HeaderOnly] at h0
  have hparse : coapParseSignalOptions (q.setOption coapSignalOptionBadCsm) coapSignalOptionBadCsm
      (intOptionBytes p.badCsmOpt.toUInt32) = { q.setOption coapSignalOptionBadCsm with badCsmOpt := p.badCsmOpt } := by
    rw [signal_badCsm (by exact hq), coapParseIntOption_bytes, UInt16.toUInt16_toUInt32]
  obtain ⟨o, hbad⟩ := parse_signalPiece (fun q => { q with badCsmOpt := p.badCsmOpt }) hsig (by decide) h.badCsmOpt hparse
    fun hzero => by
      have hq0 : q.badCsmOpt = 0 := by rw [h0]; rfl
      simp only [hzero, ← hq0]
  obtain ⟨hcsm, hcust, haddr, -⟩ := h.initial
  rw [hc] at hcsm hcust haddr
  refine ⟨o, ?_⟩
  rw [signalOptions, hc, if_neg (by decide), if_neg (by decide), if_neg (by decide), if_pos rfl, intPiece, hbad]
  simp only [CoapPacket.withSignal, hcsm (by decide), hcust (by decide), haddr (by decide)]
  rw [h0]
  rfl

/-- The options of a signalling message are read back with their values. -/
theorem parseAll_signalOptions (hp : coapCheckSignalMessage p = true) :
    ∃ o, parseAll q (signalOptions p) = .ok (q.withSignal p o) := by
  have hcodes : p.code = csm701 ∨ (p.code = ping702 ∨ p.code = pong703) ∨ p.code = release704 ∨ p.code = abort705 := by
    simpa [coapCheckSignalMessage, or_assoc] using hp
  obtain hc | hc | hc | hc := hcodes
  · exact parse_csm h hcode h0 hc
  · exact parse_ping h hcode h0 hc
  · exact parse_release h hcode h0 hc
  · exact parse_abort h hcode h0 hc

end Codes

end SmartGarage
