/-
The packets that the setters build: an inductive type of setter calls, and what holds of a packet
behind every sequence of them.
-/
import SmartGarage.Messaging.CoapFields

namespace SmartGarage

/-! ## Sequences of setters -/

/-- A call of one of the setters of a request or response. -/
inductive CoapSetter
  | token (token : OcString)
  | contentFormat (format : UInt32)
  | accept (accept : UInt32)
  | etag (etag : OcString)
  | uriPath (path : OcString)
  | uriQuery (query : OcString)
  | observe (observe : UInt32)
  | block2 (num : UInt32) (more : UInt8) (size : UInt16)
  | block1 (num : UInt32) (more : UInt8) (size : UInt16)
  | size2 (size : UInt32)
  | size1 (size : UInt32)
  | payload (payload : OcString)

namespace CoapSetter

/-- The packet behind a call. -/
def apply (B : BufferSettings) (p : CoapPacket) : CoapSetter → CoapPacket
  | token t => p.setToken t
  | contentFormat f => p.setHeaderContentFormat f
  | accept a => p.setHeaderAccept a
  | etag e => p.setHeaderEtag e
  | uriPath s => p.setHeaderUriPath s
  | uriQuery s => p.setHeaderUriQuery s
  | observe v => p.setHeaderObserve v
  | block2 num more size => p.setHeaderBlock2 num more size
  | block1 num more size => p.setHeaderBlock1 num more size
  | size2 v => p.setHeaderSize2 v
  | size1 v => p.setHeaderSize1 v
  | payload b => p.setPayload B b

/-- The arguments that the other side is to read back: the one content format of OCF, a path and a query
that neither begin nor end with their separator, a block size that is a power of two. -/
def Ok : CoapSetter → Prop
  | contentFormat f => f = 10000
  | accept a => a = 10000
  | uriPath s => SepOk 47 (s.dropWhile (· = 47))
  | uriQuery s => SepOk 38 ((cstr s).dropWhile (· = 63))
  | block2 num _ size => num.toNat < 2 ^ 20 ∧ ∃ k, k ≤ 7 ∧ size.toNat = 16 * 2 ^ k
  | block1 num _ size => num.toNat < 2 ^ 20 ∧ ∃ k, k ≤ 7 ∧ size.toNat = 16 * 2 ^ k
  | _ => True

/-- The packet behind a sequence of calls. -/
def applyAll (B : BufferSettings) (p : CoapPacket) (ss : List CoapSetter) : CoapPacket := ss.foldl (apply B) p

end CoapSetter

/-! ## What the setters keep -/

/-- The options that the setters of a request or response set. -/
def requestBits : BitVec 64 :=
  optionBit coapOptionEtag ||| optionBit coapOptionObserve ||| optionBit coapOptionUriPath |||
  optionBit coapOptionContentFormat ||| optionBit coapOptionUriQuery ||| optionBit coapOptionAccept |||
  optionBit coapOptionBlock2 ||| optionBit coapOptionBlock1 ||| optionBit coapOptionSize2 ||| optionBit coapOptionSize1

/-- A field has its initial value as long as its option is not set, and meets `P` when it is. -/
def OptionOk {α : Type} (p : CoapPacket) (opt : Nat) (P : α → Prop) (value initial : α) : Prop :=
  (p.isOption opt = true → P value) ∧ (p.isOption opt = false → value = initial)

/-- The fields of a packet that a request or response carries. -/
structure RequestOk (p : CoapPacket) : Prop where
  token : p.token.length ≤ coapTokenLen
  bits : p.options &&& requestBits = p.options
  etag : OptionOk p coapOptionEtag (·.length ≤ coapEtagLen) p.etag []
  observe : OptionOk p coapOptionObserve (fun _ => True) p.observe 0
  uriPath : OptionOk p coapOptionUriPath (SepOk 47) p.uriPath []
  contentFormat : OptionOk p coapOptionContentFormat (· = applicationVndOcfCbor) p.contentFormat 0
  uriQuery : OptionOk p coapOptionUriQuery (SepOk 38) p.uriQuery []
  accept : OptionOk p coapOptionAccept (· = applicationVndOcfCbor) p.accept 0
  block2 : OptionOk p coapOptionBlock2 BlockOk p.block2 CoapBlock.zero
  block1 : OptionOk p coapOptionBlock1 BlockOk p.block1 CoapBlock.zero
  size2 : OptionOk p coapOptionSize2 (fun _ => True) p.size2 0
  size1 : OptionOk p coapOptionSize1 (fun _ => True) p.size1 0

theorem OptionOk.step {α : Type} {p q : CoapPacket} {opt n : Nat} {P : α → Prop} {value value' initial : α}
    (h : OptionOk p n P value initial) (hn : n < 64) (ho : q.options = p.options ||| optionBit opt)
    (hv : opt = n ∧ P value' ∨ opt ≠ n ∧ value' = value) : OptionOk q n P value' initial := by
  have hq : q.isOption n = (p.isOption n || decide (opt = n)) := by
    rw [CoapPacket.isOption, ho, BitVec.getLsbD_or, optionBit_getLsbD hn, CoapPacket.isOption]
  unfold OptionOk at h ⊢
  rw [hq]
  obtain ⟨rfl, hP⟩ | ⟨hne, rfl⟩ := hv
  · simp [hP]
  · simpa only [hne, decide_false, Bool.or_false] using h

theorem RequestOk.step {p q : CoapPacket} (h : RequestOk p) (opt : Nat) (ho : q.options = p.options ||| optionBit opt)
    (hbit : optionBit opt &&& requestBits = optionBit opt) (ht : q.token = p.token)
    (hetag : opt = coapOptionEtag ∧ q.etag.length ≤ coapEtagLen ∨ opt ≠ coapOptionEtag ∧ q.etag = p.etag)
    (hobserve : opt = coapOptionObserve ∧ True ∨ opt ≠ coapOptionObserve ∧ q.observe = p.observe)
    (hpath : opt = coapOptionUriPath ∧ SepOk 47 q.uriPath ∨ opt ≠ coapOptionUriPath ∧ q.uriPath = p.uriPath)
    (hformat : opt = coapOptionContentFormat ∧ q.contentFormat = applicationVndOcfCbor ∨
      opt ≠ coapOptionContentFormat ∧ q.contentFormat = p.contentFormat)
    (hquery : opt = coapOptionUriQuery ∧ SepOk 38 q.uriQuery ∨ opt ≠ coapOptionUriQuery ∧ q.uriQuery = p.uriQuery)
    (haccept : opt = coapOptionAccept ∧ q.accept = applicationVndOcfCbor ∨ opt ≠ coapOptionAccept ∧ q.accept = p.accept)
    (hblock2 : opt = coapOptionBlock2 ∧ BlockOk q.block2 ∨ opt ≠ coapOptionBlock2 ∧ q.block2 = p.block2)
    (hblock1 : opt = coapOptionBlock1 ∧ BlockOk q.block1 ∨ opt ≠ coapOptionBlock1 ∧ q.block1 = p.block1)
    (hsize2 : opt = coapOptionSize2 ∧ True ∨ opt ≠ coapOptionSize2 ∧ q.size2 = p.size2)
    (hsize1 : opt = coapOptionSize1 ∧ True ∨ opt ≠ coapOptionSize1 ∧ q.size1 = p.size1) : RequestOk q where
  token := ht ▸ h.token
  bits := by
    rw [ho, BitVec.and_comm, BitVec.and_or_distrib_left, BitVec.and_comm, h.bits, BitVec.and_comm, hbit]
  etag := h.etag.step (by decide) ho hetag
  observe := h.observe.step (by decide) ho hobserve
  uriPath := h.uriPath.step (by decide) ho hpath
  contentFormat := h.contentFormat.step (by decide) ho hformat
  uriQuery := h.uriQuery.step (by decide) ho hquery
  accept := h.accept.step (by decide) ho haccept
  block2 := h.block2.step (by decide) ho hblock2
  block1 := h.block1.step (by decide) ho hblock1
  size2 := h.size2.step (by decide) ho hsize2
  size1 := h.size1.step (by decide) ho hsize1

theorem requestOk_init (t : CoapTransportType) (type : CoapMessageType) (code : UInt8) (mid : UInt16) :
    RequestOk { CoapPacket.zero with transportType := t, type := type, code := code, mid := mid } := by
  have hok {α : Type} (n : Nat) (P : α → Prop) (v : α) :
      OptionOk { CoapPacket.zero with transportType := t, type := type, code := code, mid := mid } n P v v := by
    refine ⟨fun hset => ?_, fun _ => rfl⟩
    simp [CoapPacket.isOption, CoapPacket.zero] at hset
  exact ⟨Nat.zero_le _, BitVec.zero_and, hok _ _ _, hok _ _ _, hok _ _ _, hok _ _ _, hok _ _ _, hok _ _ _, hok _ _ _,
    hok _ _ _, hok _ _ _, hok _ _ _⟩

/-- The fields that no setter of a request or response writes. -/
structure SameFrame (p q : CoapPacket) : Prop where
  transportType : q.transportType = p.transportType
  version : q.version = p.version
  type : q.type = p.type
  code : q.code = p.code
  mid : q.mid = p.mid
  maxAge : q.maxAge = p.maxAge
  uriPort : q.uriPort = p.uriPort
  maxMsgSize : q.maxMsgSize = p.maxMsgSize
  blockwiseTransfer : q.blockwiseTransfer = p.blockwiseTransfer
  custody : q.custody = p.custody
  altAddr : q.altAddr = p.altAddr
  holdOff : q.holdOff = p.holdOff
  badCsmOpt : q.badCsmOpt = p.badCsmOpt

section Setters

variable {p : CoapPacket} (h : RequestOk p)
include h

theorem RequestOk.setToken (t : OcString) : RequestOk (p.setToken t) :=
  ⟨List.length_take_le _ _, h.bits, h.etag, h.observe, h.uriPath, h.contentFormat, h.uriQuery, h.accept, h.block2,
    h.block1, h.size2, h.size1⟩

theorem RequestOk.setPayload (B : BufferSettings) (b : OcString) : RequestOk (p.setPayload B b) := by
  unfold CoapPacket.setPayload
  split <;>
    exact ⟨h.token, h.bits, h.etag, h.observe, h.uriPath, h.contentFormat, h.uriQuery, h.accept, h.block2, h.block1,
      h.size2, h.size1⟩

theorem RequestOk.apply (B : BufferSettings) {c : CoapSetter} (hc : c.Ok) : RequestOk (c.apply B p) := by
  cases c with
  | token t => exact h.setToken t
  | contentFormat f =>
    obtain rfl : f = 10000 := hc
    apply h.step coapOptionContentFormat <;>
      first | rfl | decide | exact .inr ⟨by decide, rfl⟩ | exact .inl ⟨rfl, rfl⟩
  | accept a =>
    obtain rfl : a = 10000 := hc
    apply h.step coapOptionAccept <;>
      first | rfl | decide | exact .inr ⟨by decide, rfl⟩ | exact .inl ⟨rfl, rfl⟩
  | etag e =>
    apply h.step coapOptionEtag <;>
      first | rfl | decide | exact .inr ⟨by decide, rfl⟩ | exact .inl ⟨rfl, List.length_take_le _ _⟩
  | uriPath s =>
    apply h.step coapOptionUriPath <;>
      first | rfl | decide | exact .inr ⟨by decide, rfl⟩ | exact .inl ⟨rfl, hc⟩
  | uriQuery s =>
    apply h.step coapOptionUriQuery <;>
      first | rfl | decide | exact .inr ⟨by decide, rfl⟩ | exact .inl ⟨rfl, hc⟩
  | observe v =>
    apply h.step coapOptionObserve <;>
      first | rfl | decide | exact .inr ⟨by decide, rfl⟩ | exact .inl ⟨rfl, trivial⟩
  | block2 num more size =>
    simp only [CoapSetter.apply, CoapPacket.setHeaderBlock2]
    split
    · apply h.step coapOptionBlock2 <;>
        first | rfl | decide | exact .inr ⟨by decide, rfl⟩ | exact .inl ⟨rfl, hc⟩
    · exact h
  | block1 num more size =>
    simp only [CoapSetter.apply, CoapPacket.setHeaderBlock1]
    split
    · apply h.step coapOptionBlock1 <;>
        first | rfl | decide | exact .inr ⟨by decide, rfl⟩ | exact .inl ⟨rfl, hc⟩
    · exact h
  | size2 v =>
    apply h.step coapOptionSize2 <;>
      first | rfl | decide | exact .inr ⟨by decide, rfl⟩ | exact .inl ⟨rfl, trivial⟩
  | size1 v =>
    apply h.step coapOptionSize1 <;>
      first | rfl | decide | exact .inr ⟨by decide, rfl⟩ | exact .inl ⟨rfl, trivial⟩
  | payload b => exact h.setPayload B b

theorem RequestOk.applyAll (B : BufferSettings) {cs : List CoapSetter} (hcs : ∀ c ∈ cs, c.Ok) :
    RequestOk (CoapSetter.applyAll B p cs) := by
  induction cs generalizing p with
  | nil => exact h
  | cons c cs ih =>
    exact ih (h.apply B (hcs c List.mem_cons_self)) fun c hc => hcs c (List.mem_cons_of_mem _ hc)

end Setters

/-! ## What the setters do not write -/

theorem SameFrame.refl (p : CoapPacket) : SameFrame p p := ⟨rfl, rfl, rfl, rfl, rfl, rfl, rfl, rfl, rfl, rfl, rfl, rfl, rfl⟩

theorem SameFrame.trans {p q r : CoapPacket} (h : SameFrame p q) (h' : SameFrame q r) : SameFrame p r :=
  ⟨h'.1.trans h.1, h'.2.trans h.2, h'.3.trans h.3, h'.4.trans h.4, h'.5.trans h.5, h'.6.trans h.6, h'.7.trans h.7,
    h'.8.trans h.8, h'.9.trans h.9, h'.10.trans h.10, h'.11.trans h.11, h'.12.trans h.12, h'.13.trans h.13⟩

theorem sameFrame_apply (B : BufferSettings) (p : CoapPacket) (c : CoapSetter) : SameFrame p (c.apply B p) := by
  cases c with
  | block2 num more size =>
    simp only [CoapSetter.apply, CoapPacket.setHeaderBlock2]
    split <;> exact ⟨rfl, rfl, rfl, rfl, rfl, rfl, rfl, rfl, rfl, rfl, rfl, rfl, rfl⟩
  | block1 num more size =>
    simp only [CoapSetter.apply, CoapPacket.setHeaderBlock1]
    split <;> exact ⟨rfl, rfl, rfl, rfl, rfl, rfl, rfl, rfl, rfl, rfl, rfl, rfl, rfl⟩
  | payload b =>
    simp only [CoapSetter.apply, CoapPacket.setPayload]
    split <;> exact ⟨rfl, rfl, rfl, rfl, rfl, rfl, rfl, rfl, rfl, rfl, rfl, rfl, rfl⟩
  | _ => exact ⟨rfl, rfl, rfl, rfl, rfl, rfl, rfl, rfl, rfl, rfl, rfl, rfl, rfl⟩

theorem sameFrame_applyAll (B : BufferSettings) (p : CoapPacket) (cs : List CoapSetter) :
    SameFrame p (CoapSetter.applyAll B p cs) := by
  induction cs generalizing p with
  | nil => exact .refl p
  | cons c cs ih => exact (sameFrame_apply B p c).trans (ih _)

/-- Over UDP the payload is never longer than a block. -/
theorem payload_apply_le (B : BufferSettings) {p : CoapPacket} (ht : p.transportType = .udp)
    (hp : p.payload.length ≤ B.blockSize) (c : CoapSetter) : (c.apply B p).payload.length ≤ B.blockSize := by
  cases c with
  | payload b =>
    simp only [CoapSetter.apply, CoapPacket.setPayload, ht, List.length_take]
    have := Nat.mod_le (min B.blockSize b.length) (2 ^ 16)
    omega
  | block2 num more size =>
    simp only [CoapSetter.apply, CoapPacket.setHeaderBlock2]
    split <;> exact hp
  | block1 num more size =>
    simp only [CoapSetter.apply, CoapPacket.setHeaderBlock1]
    split <;> exact hp
  | _ => exact hp

theorem payload_applyAll_le (B : BufferSettings) {p : CoapPacket} (ht : p.transportType = .udp)
    (hp : p.payload.length ≤ B.blockSize) (cs : List CoapSetter) :
    (CoapSetter.applyAll B p cs).payload.length ≤ B.blockSize := by
  induction cs generalizing p with
  | nil => exact hp
  | cons c cs ih =>
    exact ih ((sameFrame_apply B p c).transportType.trans ht) (payload_apply_le B ht hp c)

end SmartGarage
