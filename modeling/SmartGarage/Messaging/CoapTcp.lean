/-
Messages over TCP: the length field of the header gives the length of the message, and what is
serialised is parsed back.
-/
import SmartGarage.Messaging.CoapUdp

namespace SmartGarage

/-! ## The header -/

theorem tcpHeader_first {l : UInt8} {n : Nat} (hlen : l.toNat < 16) (hn : n ≤ coapTokenLen) :
    ∃ b : UInt8, ((0xF0 : UInt8) &&& (l <<< 4)) ||| ((0x0F : UInt8) &&& UInt8.ofNat n) = b ∧
      (0xF0 &&& b) >>> 4 = l ∧ (0x0F &&& b).toNat = n := by
  have hall : ∀ (l : Fin 16) (n : Fin 9),
      ((0xF0 : UInt8) &&& (((0xF0 : UInt8) &&& (UInt8.ofNat l <<< 4)) ||| ((0x0F : UInt8) &&& UInt8.ofNat n))) >>> 4 =
        UInt8.ofNat l ∧
      ((0x0F : UInt8) &&& (((0xF0 : UInt8) &&& (UInt8.ofNat l <<< 4)) ||| ((0x0F : UInt8) &&& UInt8.ofNat n))).toNat = n := by
    decide
  have h := hall ⟨l.toNat, hlen⟩ ⟨n, by unfold coapTokenLen at hn; omega⟩
  simp only [UInt8.ofNat_toNat] at h
  exact ⟨_, rfl, h⟩

theorem shiftedByte (x k : Nat) (hk : k ≤ 24) (s : UInt32) (hs : s.toNat = k) :
    ((UInt8.ofNat x).toUInt32 <<< s).toNat = x % 256 * 2 ^ k := by
  have hpow : 2 ^ k ≤ 2 ^ 24 := Nat.pow_le_pow_right (by decide) hk
  have hlt : x % 256 * 2 ^ k < 2 ^ 32 :=
    calc x % 256 * 2 ^ k ≤ 255 * 2 ^ 24 := Nat.mul_le_mul (by omega) hpow
      _ < 2 ^ 32 := by decide
  rw [UInt32.toNat_shiftLeft, hs, UInt8.toNat_toUInt32, UInt8.toNat_ofNat', Nat.mod_eq_of_lt (by omega : k < 32),
    Nat.shiftLeft_eq]
  exact Nat.mod_eq_of_lt hlt

/-- The bytes of the extended length. -/
def extendedLength (n x : Nat) : OcString := (List.range n).map fun i => UInt8.ofNat (x >>> (8 * (n - (i + 1))))

theorem extendedLength_four (x : Nat) : extendedLength 4 x =
    [UInt8.ofNat (x / 2 ^ 24), UInt8.ofNat (x / 2 ^ 16), UInt8.ofNat (x / 2 ^ 8), UInt8.ofNat x] := by
  have hrange : List.range 4 = [0, 1, 2, 3] := rfl
  simp only [extendedLength, hrange, List.map_cons, List.map_nil, Nat.reduceAdd, Nat.reduceSub, Nat.reduceMul,
    Nat.shiftRight_eq_div_pow, Nat.pow_zero, Nat.div_one]

theorem extendedLength_two (x : Nat) : extendedLength 2 x = [UInt8.ofNat (x / 2 ^ 8), UInt8.ofNat x] := by
  have hrange : List.range 2 = [0, 1] := rfl
  simp only [extendedLength, hrange, List.map_cons, List.map_nil, Nat.reduceAdd, Nat.reduceSub, Nat.reduceMul,
    Nat.shiftRight_eq_div_pow, Nat.pow_zero, Nat.div_one]

theorem readExtendedLength {n x : Nat} (hn : n = 1 ∨ n = 2 ∨ n = 4) (hx : x < 256 ^ n) (b : UInt8) (rest : OcString) :
    (List.range n).foldl (fun l i => l ||| (((b :: (extendedLength n x ++ rest)).getD (i + 1) 0).toUInt32 <<<
      UInt32.ofNat (8 * (n - (i + 1)))).toNat) 0 = x := by
  have h0 (y : Nat) := shiftedByte y 0 (by decide) (UInt32.ofNat 0) rfl
  have h8 (y : Nat) := shiftedByte y 8 (by decide) (UInt32.ofNat 8) rfl
  have h16 (y : Nat) := shiftedByte y 16 (by decide) (UInt32.ofNat 16) rfl
  have h24 (y : Nat) := shiftedByte y 24 (by decide) (UInt32.ofNat 24) rfl
  obtain rfl | rfl | rfl := hn
  · have hone : extendedLength 1 x = [UInt8.ofNat x] := rfl
    have hrange : List.range 1 = [0] := rfl
    rw [hone, hrange]
    simp only [List.foldl_cons, List.foldl_nil, List.cons_append, List.getD_cons_succ, List.getD_cons_zero, Nat.zero_or,
      Nat.reduceAdd, Nat.reduceSub, Nat.reduceMul]
    rw [h0]
    omega
  · have hrange : List.range 2 = [0, 1] := rfl
    rw [extendedLength_two, hrange]
    simp only [List.foldl_cons, List.foldl_nil, List.cons_append, List.getD_cons_succ, List.getD_cons_zero, Nat.zero_or,
      Nat.reduceAdd, Nat.reduceSub, Nat.reduceMul]
    rw [h0, h8, Bytes.or_eq_add (k := 8) (by omega) (by omega)]
    omega
  · have hrange : List.range 4 = [0, 1, 2, 3] := rfl
    rw [extendedLength_four, hrange]
    simp only [List.foldl_cons, List.foldl_nil, List.cons_append, List.getD_cons_succ, List.getD_cons_zero, Nat.zero_or,
      Nat.reduceAdd, Nat.reduceSub, Nat.reduceMul]
    rw [h24, h16, h8, h0]
    -- the bytes are put together from the highest one on
    have hthree : x / 2 ^ 24 % 256 * 2 ^ 24 ||| x / 2 ^ 16 % 256 * 2 ^ 16 = x / 65536 * 65536 := by
      rw [Bytes.or_eq_add (k := 24) (by omega) (by omega)]
      omega
    have htwo : x / 65536 * 65536 ||| x / 2 ^ 8 % 256 * 2 ^ 8 = x / 256 * 256 := by
      rw [Bytes.or_eq_add (k := 16) (by omega) (by omega)]
      omega
    rw [hthree, htwo, Bytes.or_eq_add (k := 8) (by omega) (by omega)]
    omega

theorem parseExtendedHeader {b len : UInt8} {n x : Nat} (hlen : (0xF0 &&& b) >>> 4 = len) (hge : ¬len < 13)
    (hnum : 1 <<< (len - 13).toNat = n) (hn : n = 1 ∨ n = 2 ∨ n = 4) (hx : x < 256 ^ n) (rest : OcString) :
    coapTcpParseMessageLength (b :: (extendedLength n x ++ rest)) =
      (x + if len = 13 then 13 else if len = 14 then 269 else 65805, n) := by
  have hread := readExtendedLength hn hx b rest
  unfold coapTcpParseMessageLength
  simp only [List.getD_cons_zero, hlen, hge, reduceIte, hnum]
  rw [hread]

/-- The length of options and payload, and the number of bytes of the extended length, as the reader
finds them. -/
theorem coapTcpParseMessageLength_header {p : CoapPacket} (hn : p.token.length ≤ coapTokenLen) {n total : Nat}
    (htotal : total = n + if p.payload.length > 0 then 1 + p.payload.length else 0) (hlt : total < 2 ^ 32 + 65805)
    (rest : OcString) :
    let l := coapTcpComputeMessageLength p n
    coapTcpParseMessageLength (coapTcpSetHeaderFields p l ++ rest) = (total, l.numExtendedLengthBytes) ∧
      (0x0F &&& (coapTcpSetHeaderFields p l ++ rest).getD 0 0).toNat = p.token.length := by
  -- one case for each width of the extended length
  unfold coapTcpComputeMessageLength
  simp only [← htotal]
  split
  · obtain ⟨b, hb, hlen, htok⟩ := tcpHeader_first (l := UInt8.ofNat total) (by rw [UInt8.toNat_ofNat']; omega) hn
    have hlt13 : UInt8.ofNat total < 13 := by
      rw [UInt8.lt_iff_toNat_lt, UInt8.toNat_ofNat']
      have h13 : (13 : UInt8).toNat = 13 := rfl
      omega
    unfold coapTcpSetHeaderFields coapTcpParseMessageLength
    simp only [hb, List.cons_append, List.getD_cons_zero, hlen, hlt13, reduceIte, htok, and_true, UInt8.toNat_ofNat']
    rw [Nat.mod_eq_of_lt (by omega)]
  · unfold coapTcpSetHeaderFields
    split
    · obtain ⟨b, hb, hlen, htok⟩ := tcpHeader_first (l := 13) (by decide) hn
      have hread := parseExtendedHeader (n := 1) (x := total - 13) hlen (by decide) (by decide) (.inl rfl) (by omega) (p.code :: rest)
      simp only [hb]
      refine ⟨?_, htok⟩
      rw [List.cons_append, List.append_assoc]
      refine hread.trans ?_
      rw [if_pos rfl, Nat.sub_add_cancel (by omega)]
    · split
      · obtain ⟨b, hb, hlen, htok⟩ := tcpHeader_first (l := 14) (by decide) hn
        have hread := parseExtendedHeader (n := 2) (x := total - 269) hlen (by decide) (by decide) (.inr (.inl rfl)) (by omega)
          (p.code :: rest)
        simp only [hb]
        refine ⟨?_, htok⟩
        rw [List.cons_append, List.append_assoc]
        refine hread.trans ?_
        rw [if_neg (by decide), if_pos rfl, Nat.sub_add_cancel (by omega)]
      · obtain ⟨b, hb, hlen, htok⟩ := tcpHeader_first (l := 15) (by decide) hn
        have hread := parseExtendedHeader (n := 4) (x := total - 65805) hlen (by decide) (by decide) (.inr (.inr rfl)) (by omega)
          (p.code :: rest)
        simp only [hb]
        refine ⟨?_, htok⟩
        rw [List.cons_append, List.append_assoc]
        refine hread.trans ?_
        rw [if_neg (by decide), if_neg (by decide), Nat.sub_add_cancel (by omega)]

theorem length_tcpHeader (p : CoapPacket) (l : TcpLength) :
    (coapTcpSetHeaderFields p l).length = coapTcpDefaultHeaderLen + l.numExtendedLengthBytes := by
  unfold coapTcpSetHeaderFields coapTcpDefaultHeaderLen
  simp only [List.length_cons, List.length_append, List.length_map, List.length_range, List.length_nil]
  omega

theorem tcpHeader_code (p : CoapPacket) (l : TcpLength) (rest : OcString) :
    (coapTcpSetHeaderFields p l ++ rest).getD (1 + l.numExtendedLengthBytes) 0 = p.code := by
  unfold coapTcpSetHeaderFields
  rw [Nat.add_comm, List.cons_append, List.getD_cons_succ, List.append_assoc]
  simp

theorem length_markedPayload (payload : OcString) :
    (markedPayload payload).length = if payload.length > 0 then 1 + payload.length else 0 := by
  unfold markedPayload
  split
  · simp [Nat.add_comm]
  · simp only [List.nil_append]
    omega

/-! ## Framing -/

/-- What the header relies on, for a packet of any content. -/
structure Framed (p : CoapPacket) : Prop where
  transportType : p.transportType = .tcp
  type : p.type = .non
  mid : p.mid = 0
  token : p.token.length ≤ coapTokenLen
  payload : p.payload.length < 2 ^ 32

/-- The size that the reader takes from the header is the length of the message. -/
theorem coapTcpGetPacketSize_eq {p : CoapPacket} (h : Framed p) (hcode : p.code ≠ 0)
    (hne : coapSerializeMessage p ≠ []) :
    coapTcpGetPacketSize (coapSerializeMessage p) = (coapSerializeMessage p).length := by
  obtain ⟨hbytes, hfit⟩ := coapSerializeMessage_eq hcode hne
  have hheader : coapHeaderFields p =
      coapTcpSetHeaderFields p (coapTcpComputeMessageLength p (coapSerializeOptions p).length) := by
    rw [coapHeaderFields, h.transportType]
  have hmax : coapMaxHeaderSize = 181 := rfl
  have hpay := h.payload
  obtain ⟨hlength, htok⟩ := coapTcpParseMessageLength_header h.token
    (n := (coapSerializeOptions p).length) rfl (by split <;> omega)
    (p.token ++ (coapSerializeOptions p ++ markedPayload p.payload))
  rw [hbytes, hheader, coapTcpGetPacketSize, hlength, htok]
  simp only [List.length_append, length_tcpHeader, length_markedPayload]
  omega

/-! ## Packets that the setters build -/

/-- A call of a setter of any kind. -/
inductive CoapCall
  | request (c : CoapSetter)
  | signal (c : SignalSetter)

namespace CoapCall

/-- The packet behind a call. -/
def apply (B : BufferSettings) (p : CoapPacket) : CoapCall → CoapPacket
  | request c => c.apply B p
  | signal c => c.apply p

/-- The packet behind a sequence of calls. -/
def applyAll (B : BufferSettings) (p : CoapPacket) (cs : List CoapCall) : CoapPacket := cs.foldl (apply B) p

/-- The calls whose arguments a message carries: a signalling message has no options but its own. -/
def Ok (p : CoapPacket) : CoapCall → Prop
  | request (.token _) => True
  | request (.payload _) => True
  | request c => coapCheckSignalMessage p = false ∧ c.Ok
  | signal _ => True

end CoapCall

theorem signal_apply_framed {p : CoapPacket} (c : SignalSetter) :
    (c.apply p).transportType = p.transportType ∧ (c.apply p).type = p.type ∧ (c.apply p).mid = p.mid ∧
      (c.apply p).code = p.code ∧ (c.apply p).token = p.token ∧ (c.apply p).payload = p.payload := by
  cases c <;>
    simp only [SignalSetter.apply, CoapPacket.signalSetMaxMsgSize, CoapPacket.signalSetBlockwiseTransfer,
      CoapPacket.signalSetCustody, CoapPacket.signalSetAltAddr, CoapPacket.signalSetHoldOff, CoapPacket.signalSetBadCsm] <;>
    split <;> exact ⟨rfl, rfl, rfl, rfl, rfl, rfl⟩

section

variable (B : BufferSettings)

variable {p : CoapPacket}

theorem request_apply_framed (h : Framed p) (c : CoapSetter) :
    Framed (c.apply B p) := by
  have ht : (c.apply B p).transportType = .tcp := (sameFrame_apply B p c).transportType.trans h.transportType
  have hty : (c.apply B p).type = .non := (sameFrame_apply B p c).type.trans h.type
  have hm : (c.apply B p).mid = 0 := (sameFrame_apply B p c).mid.trans h.mid
  cases c with
  | token t => exact ⟨ht, hty, hm, List.length_take_le _ _, h.payload⟩
  | payload b =>
    have hset : (CoapSetter.payload b).apply B p = { p with payload := b.take (b.length % 2 ^ 32) } := by
      simp only [CoapSetter.apply, CoapPacket.setPayload, h.transportType]
    refine ⟨ht, hty, hm, by rw [hset]; exact h.token, ?_⟩
    rw [hset]
    have hle : (b.take (b.length % 2 ^ 32)).length ≤ b.length % 2 ^ 32 := List.length_take_le _ _
    have hlt : b.length % 2 ^ 32 < 2 ^ 32 := Nat.mod_lt _ (by decide)
    exact Nat.lt_of_le_of_lt hle hlt
  | block2 num more size =>
    refine ⟨ht, hty, hm, ?_, ?_⟩
    all_goals
      simp only [CoapSetter.apply, CoapPacket.setHeaderBlock2]
      split
      · first | exact h.token | exact h.payload
      · first | exact h.token | exact h.payload
  | block1 num more size =>
    refine ⟨ht, hty, hm, ?_, ?_⟩
    all_goals
      simp only [CoapSetter.apply, CoapPacket.setHeaderBlock1]
      split
      · first | exact h.token | exact h.payload
      · first | exact h.token | exact h.payload
  | _ => exact ⟨ht, hty, hm, h.token, h.payload⟩

theorem Framed.apply (B : BufferSettings) {p : CoapPacket} (h : Framed p) (c : CoapCall) :
    Framed (c.apply B p) ∧ (c.apply B p).code = p.code := by
  cases c with
  | request c => exact ⟨request_apply_framed B h c, (sameFrame_apply B p c).code⟩
  | signal c =>
    obtain ⟨ht, hty, hm, hcode, htoken, hpay⟩ := signal_apply_framed (p := p) c
    exact ⟨⟨ht.trans h.transportType, hty.trans h.type, hm.trans h.mid, by rw [CoapCall.apply, htoken]; exact h.token,
      by rw [CoapCall.apply, hpay]; exact h.payload⟩, hcode⟩

theorem Framed.applyAll (h : Framed p) (cs : List CoapCall) :
    Framed (CoapCall.applyAll B p cs) ∧ (CoapCall.applyAll B p cs).code = p.code := by
  induction cs generalizing p with
  | nil => exact ⟨h, rfl⟩
  | cons c cs ih =>
    obtain ⟨hc, hcode⟩ := h.apply B c
    obtain ⟨hcs, hcode'⟩ := ih hc
    exact ⟨hcs, hcode'.trans hcode⟩

theorem framed_tcpInit (code : UInt8) : Framed (coapTcpInitMessage code) := ⟨rfl, rfl, rfl, Nat.zero_le _, Nat.two_pow_pos 32⟩

/-! ## The round trip -/

/-- The setters of `coap_signal.c` check the code. -/
theorem signal_apply_request (h : coapCheckSignalMessage p = false) (c : SignalSetter) :
    c.apply p = p := by
  simp only [coapCheckSignalMessage, Bool.or_eq_false_iff, beq_eq_false_iff_ne] at h
  obtain ⟨⟨⟨⟨hcsm, hping⟩, hpong⟩, hrelease⟩, habort⟩ := h
  cases c with
  | maxMsgSize size => exact if_pos hcsm
  | blockwiseTransfer value => exact if_pos (.inl hcsm)
  | custody value => exact if_pos (.inl ⟨hping, hpong⟩)
  | altAddr addr => exact if_pos (.inl hrelease)
  | holdOff seconds => exact if_pos hrelease
  | badCsm opt => exact if_pos habort

theorem requestOk_calls {p₀ : CoapPacket} (hsig : coapCheckSignalMessage p₀ = false)
    {cs : List CoapCall} (hcs : ∀ c ∈ cs, c.Ok p₀) : ∀ {p : CoapPacket}, RequestOk p → SameFrame p₀ p →
    RequestOk (CoapCall.applyAll B p cs) ∧ SameFrame p₀ (CoapCall.applyAll B p cs) := by
  induction cs with
  | nil => exact fun h hf => ⟨h, hf⟩
  | cons c cs ih =>
    intro p h hf
    refine ih (fun c hc => hcs c (List.mem_cons_of_mem _ hc)) ?_ ?_
    · have hc := hcs c List.mem_cons_self
      cases c with
      | request c =>
        refine h.apply B ?_
        cases c with
        | token t => trivial
        | payload b => trivial
        | _ => exact hc.2
      | signal c =>
        have hp : coapCheckSignalMessage p = false := by
          rw [← hsig, coapCheckSignalMessage, coapCheckSignalMessage, hf.code]
        have hsame : CoapCall.apply B p (.signal c) = p := signal_apply_request hp c
        rwa [hsame]
    · cases c with
      | request c => exact hf.trans (sameFrame_apply B p c)
      | signal c =>
        have hp : coapCheckSignalMessage p = false := by
          rw [← hsig, coapCheckSignalMessage, coapCheckSignalMessage, hf.code]
        have hsame : CoapCall.apply B p (.signal c) = p := signal_apply_request hp c
        rwa [hsame]

theorem signalOk_tcpInit (code : UInt8) : SignalOk (coapTcpInitMessage code) :=
  ⟨rfl, fun h => absurd rfl h, fun h => absurd rfl h, fun h => absurd rfl h, fun h => absurd rfl h,
    fun h => absurd rfl h, fun h => absurd rfl h, .inl rfl, .inl rfl⟩

theorem SignalOk.setToken (h : SignalOk p) (t : OcString) : SignalOk (p.setToken t) := by
  refine ⟨?_, h.maxMsgSize, h.blockwiseTransfer, h.custody, h.altAddr, h.holdOff, h.badCsmOpt, h.flags⟩
  rw [h.frame]
  rfl

theorem SignalOk.setPayload (h : SignalOk p) (B : BufferSettings) (b : OcString) :
    SignalOk (p.setPayload B b) := by
  unfold CoapPacket.setPayload
  split
  all_goals
    refine ⟨?_, h.maxMsgSize, h.blockwiseTransfer, h.custody, h.altAddr, h.holdOff, h.badCsmOpt, h.flags⟩
    rw [h.frame]

theorem signalOk_calls {p₀ : CoapPacket} (hsig : coapCheckSignalMessage p₀ = true)
    {cs : List CoapCall} (hcs : ∀ c ∈ cs, c.Ok p₀) : ∀ {p : CoapPacket}, SignalOk p →
    SignalOk (CoapCall.applyAll B p cs) := by
  induction cs with
  | nil => exact fun h => h
  | cons c cs ih =>
    intro p h
    refine ih (fun c hc => hcs c (List.mem_cons_of_mem _ hc)) ?_
    have hc := hcs c List.mem_cons_self
    cases c with
    | signal c => exact h.apply c
    | request c =>
      cases c with
      | token t => exact h.setToken t
      | payload b => exact h.setPayload B b
      | _ => exact absurd (hsig.symm.trans hc.1) (by decide)

theorem coapTcpParseMessage_eq {p q : CoapPacket} {l : List (Nat × OcString)} (h : Framed p)
    (hoptions : coapSerializeOptions p = encodeOptions 0 l)
    (henc : Encodable 0 l) (hfit : (encodeOptions 0 l).length ≤ coapMaxHeaderSize)
    (hall : parseAll (p.headerOf 0) l = .ok q) (h0 : q.payload = []) (hq : q.transportType = .tcp) :
    coapTcpParseMessage B (coapTcpSetHeaderFields p (coapTcpComputeMessageLength p (coapSerializeOptions p).length) ++
      (p.token ++ (encodeOptions 0 l ++ markedPayload p.payload))) = (coapNoError, { q with payload := p.payload }) := by
  have hmax : coapMaxHeaderSize = 181 := rfl
  have hpay := h.payload
  obtain ⟨hlength, htok⟩ := coapTcpParseMessageLength_header h.token (n := (coapSerializeOptions p).length) rfl
    (by rw [hoptions]; split <;> omega) (p.token ++ (encodeOptions 0 l ++ markedPayload p.payload))
  unfold coapTcpParseMessage
  rw [hlength]
  simp only [htok, tcpHeader_code]
  rw [if_neg (Nat.not_lt.2 h.token), List.drop_append_of_le_length (by rw [length_tcpHeader]),
    List.drop_eq_nil_of_le (by rw [length_tcpHeader]), List.nil_append]
  refine coapParseTokenOption_body B henc ?_ h0 fun hudp => by rw [hq] at hudp; cases hudp
  rw [← hall, CoapPacket.headerOf, h.transportType, h.type, h.mid]
  rfl

end

/-- The header of every message that `coap_tcp_init_message` and the setters build gives its length, and
what the message carries is parsed as it was set. -/
theorem coapTcpParseMessage_serialize (B : BufferSettings) (code : UInt8) (hcode : code ≠ 0) (cs : List CoapCall)
    (p : CoapPacket) (hp : p = CoapCall.applyAll B (coapTcpInitMessage code) cs) (hne : coapSerializeMessage p ≠ []) :
    coapTcpGetPacketSize (coapSerializeMessage p) = (coapSerializeMessage p).length ∧
      ((∀ c ∈ cs, c.Ok (coapTcpInitMessage code)) → (coapSerializeMessage p).length < 2 ^ 32 →
        ∃ o, coapTcpParseMessage B (coapSerializeMessage p) = (coapNoError, { p.received with options := o }) ∧
          (coapCheckSignalMessage p = false → o = p.options)) := by
  obtain ⟨hframed, hpcode⟩ : Framed p ∧ p.code = code := hp ▸ (framed_tcpInit code).applyAll B cs
  have hpne : p.code ≠ 0 := hpcode ▸ hcode
  refine ⟨coapTcpGetPacketSize_eq hframed hpne hne, fun hcs _ => ?_⟩
  obtain ⟨hbytes, hfit⟩ := coapSerializeMessage_eq hpne hne
  have hheader : coapHeaderFields p =
      coapTcpSetHeaderFields p (coapTcpComputeMessageLength p (coapSerializeOptions p).length) := by
    rw [coapHeaderFields, hframed.transportType]
  have hcheck : coapCheckSignalMessage p = coapCheckSignalMessage (coapTcpInitMessage code) := by
    rw [coapCheckSignalMessage, coapCheckSignalMessage, hpcode]
    rfl
  rw [hbytes, hheader]
  cases hsig : coapCheckSignalMessage p with
  | false =>
    obtain ⟨hok, hframe⟩ : RequestOk p ∧ SameFrame (coapTcpInitMessage code) p :=
      hp ▸ requestOk_calls B (hcheck ▸ hsig) hcs (requestOk_init .tcp .non code 0) (.refl _)
    have hopts := coapSerializeOptions_request hok hsig
    rw [hopts] at hfit
    have hall := parseAll_requestOptions (q := p.headerOf 0) hok hsig rfl
    have hparse := coapTcpParseMessage_eq B hframed hopts
      (encodable_of_fits (requestOptions_ascending p) hfit) hfit hall rfl hframed.transportType
    refine ⟨p.options, ?_, fun _ => rfl⟩
    rw [hopts] at hparse ⊢
    rw [hparse]
    obtain ⟨ht, hv, hty, hc, hm, hage, hport, hmsg, hbw, hcust, haddr, hhold, hbad⟩ := hframe
    simp only [CoapPacket.withOptions, CoapPacket.headerOf, CoapPacket.received, hv, hage, hport, hmsg, hbw, hcust, haddr,
      hhold, hbad]
    rfl
  | true =>
    have hok : SignalOk p := hp ▸ signalOk_calls B (hcheck ▸ hsig) hcs (signalOk_tcpInit code)
    have hopts := coapSerializeOptions_signal hsig
    rw [hopts] at hfit
    obtain ⟨o, hall⟩ := parseAll_signalOptions (q := p.headerOf 0) hok rfl rfl hsig
    have hparse := coapTcpParseMessage_eq B hframed hopts (encodable_of_fits (signalOptions_ascending p) hfit) hfit hall
      rfl hframed.transportType
    refine ⟨o, ?_, fun h => absurd h (by decide)⟩
    rw [hopts] at hparse ⊢
    rw [hparse]
    have hframe := hok.frame
    simp only [CoapPacket.withSignal, CoapPacket.headerOf, CoapPacket.received]
    rw [hframe]
    rfl

/-- A CSM with both of its options. -/
def csmCalls : List CoapCall :=
  [.request (.token [1]), .signal (.maxMsgSize 1152), .signal (.blockwiseTransfer 1)]

theorem coapTcpParseMessage_csm :
    let p := CoapCall.applyAll defaultSettings (coapTcpInitMessage csm701) csmCalls
    coapSerializeMessage p ≠ [] ∧ (∀ c ∈ csmCalls, c.Ok (coapTcpInitMessage csm701)) ∧
      (coapSerializeMessage p).length < 2 ^ 32 ∧
      coapTcpGetPacketSize (coapSerializeMessage p) = (coapSerializeMessage p).length ∧
      ((∀ c ∈ csmCalls, c.Ok (coapTcpInitMessage csm701)) → (coapSerializeMessage p).length < 2 ^ 32 →
        ∃ o, coapTcpParseMessage defaultSettings (coapSerializeMessage p) =
            (coapNoError, { p.received with options := o }) ∧
          (coapCheckSignalMessage p = false → o = p.options)) := by
  have hok : ∀ c ∈ csmCalls, c.Ok (coapTcpInitMessage csm701) := by
    intro c hc
    simp only [csmCalls, List.mem_cons, List.not_mem_nil, or_false] at hc
    obtain rfl | rfl | rfl := hc <;> trivial
  have hne : coapSerializeMessage (CoapCall.applyAll defaultSettings (coapTcpInitMessage csm701) csmCalls) ≠ [] := by
    decide
  refine ⟨hne, hok, by decide, ?_⟩
  exact coapTcpParseMessage_serialize defaultSettings csm701 (by decide) csmCalls _ rfl hne

/-- A response with the content format of plain text is refused. -/
theorem coapTcpParseMessage_textPlain :
    let p := CoapCall.applyAll defaultSettings (coapTcpInitMessage content205) [.request (.contentFormat 0)]
    coapSerializeMessage p ≠ [] ∧
      (coapTcpParseMessage defaultSettings (coapSerializeMessage p)).1 = unsupportedMediaType415 := by
  decide

end SmartGarage
