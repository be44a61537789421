/-
Messages over UDP: what is serialised is parsed back. The part behind the header is shared with TCP.
-/
import SmartGarage.Messaging.CoapSignal

namespace SmartGarage

variable {l : List (Nat × OcString)} {payload : OcString}

/-! ## Behind the header -/

/-- The payload with its marker. -/
def markedPayload (payload : OcString) : OcString := (if payload.length > 0 then [0xFF] else []) ++ payload

theorem parseOptions_payload (B : BufferSettings) {q : CoapPacket} (n : Nat)
    (h0 : q.payload = []) (hpay : q.transportType = .udp → payload.length ≤ B.blockSize) {rounds : Nat}
    (hr : (markedPayload payload).length ≤ rounds) :
    parseOptions B rounds q n (markedPayload payload) = (coapNoError, { q with payload := payload }) := by
  cases payload with
  | nil =>
    have hq : { q with payload := [] } = q := by rw [← h0]
    rw [hq]
    cases rounds <;> rfl
  | cons b payload =>
    obtain ⟨r, rfl⟩ : ∃ r, rounds = r + 1 := ⟨rounds - 1, by simp [markedPayload] at hr; omega⟩
    have hmarked : markedPayload (b :: payload) = 0xFF :: b :: payload := rfl
    rw [hmarked, parseOptions, if_pos (by decide), parsePayload]
    split
    · rename_i hudp
      rw [List.take_of_length_le (hpay hudp)]
    · rfl

theorem parseOptions_body (B : BufferSettings) {q q' : CoapPacket}
    (henc : Encodable 0 l) (hall : parseAll q l = .ok q') (h0 : q'.payload = [])
    (hpay : q'.transportType = .udp → payload.length ≤ B.blockSize) {rounds : Nat}
    (hr : (encodeOptions 0 l ++ markedPayload payload).length ≤ rounds) :
    parseOptions B rounds q 0 (encodeOptions 0 l ++ markedPayload payload) =
      (coapNoError, { q' with payload := payload }) := by
  have hlen := length_le_encodeOptions l 0
  rw [List.length_append] at hr
  obtain ⟨r, rfl⟩ : ∃ r, rounds = l.length + r := ⟨rounds - l.length, by omega⟩
  rw [parseOptions_all B r (markedPayload payload) l q q' 0 henc hall]
  exact parseOptions_payload B _ h0 hpay (by omega)

theorem coapParseTokenOption_body (B : BufferSettings) {q q' : CoapPacket} {token : OcString} (henc : Encodable 0 l)
    (hall : parseAll { q with token := token } l = .ok q') (h0 : q'.payload = [])
    (hpay : q'.transportType = .udp → payload.length ≤ B.blockSize) :
    coapParseTokenOption B q token.length (token ++ (encodeOptions 0 l ++ markedPayload payload)) =
      (coapNoError, { q' with payload := payload }) := by
  have htoken (rest : OcString) : (List.range token.length).map ((token ++ rest).getD · 0) = token := by
    apply List.ext_getElem
    · simp
    · intro i hi hi'
      simp [List.getElem?_append_left hi', List.getElem?_eq_getElem hi']
  unfold coapParseTokenOption
  rw [htoken, List.drop_left]
  exact parseOptions_body B henc hall h0 hpay (by simp)

/-! ## The whole message -/

theorem coapSerializeMessage_eq {p : CoapPacket} (hcode : p.code ≠ 0) (hne : coapSerializeMessage p ≠ []) :
    coapSerializeMessage p =
      coapHeaderFields p ++ (p.token ++ (coapSerializeOptions p ++ markedPayload p.payload)) ∧
    (coapSerializeOptions p).length ≤ coapMaxHeaderSize := by
  unfold coapSerializeMessage markedPayload at *
  simp only [hcode, reduceIte] at hne ⊢
  generalize (if p.payload.length > 0 then [0xFF] else [] : OcString) = marker at hne ⊢
  split at hne
  · exact absurd rfl hne
  · rename_i hfit
    split at hne
    · exact absurd rfl hne
    · rename_i hfit'
      rw [if_neg hfit, if_neg hfit']
      exact ⟨by simp, by omega⟩

/-! ## The header -/

theorem udpHeader_first (type : CoapMessageType) {len : Nat} (hlen : len ≤ coapTokenLen) :
    ∃ b : UInt8, ((0xC0 : UInt8) &&& ((1 : UInt8) <<< 6)) ||| ((0x30 : UInt8) &&& (type.code <<< 4)) |||
        ((0x0F : UInt8) &&& UInt8.ofNat len) = b ∧
      (0xC0 &&& b) >>> 6 = 1 ∧ CoapMessageType.ofCode ((0x30 &&& b) >>> 4) = type ∧ (0x0F &&& b).toNat = len := by
  have hall : ∀ n : Fin 9, ∃ b : UInt8, ((0xC0 : UInt8) &&& ((1 : UInt8) <<< 6)) |||
      ((0x30 : UInt8) &&& (type.code <<< 4)) ||| ((0x0F : UInt8) &&& UInt8.ofNat n) = b ∧
      (0xC0 &&& b) >>> 6 = 1 ∧ CoapMessageType.ofCode ((0x30 &&& b) >>> 4) = type ∧ (0x0F &&& b).toNat = n := by
    intro n
    refine ⟨_, rfl, ?_⟩
    revert n
    cases type <;> decide
  exact hall ⟨len, by unfold coapTokenLen at hlen; omega⟩

theorem mid_bytes (mid : UInt16) : ((mid >>> 8).toUInt8.toUInt16 <<< 8) ||| mid.toUInt8.toUInt16 = mid := by
  have h8 : (8 : UInt16).toNat % 16 = 8 := rfl
  have hlt := mid.toNat_lt
  rw [← UInt16.toNat_inj, UInt16.toNat_or, UInt16.toNat_shiftLeft, h8, UInt8.toNat_toUInt16, UInt8.toNat_toUInt16,
    UInt16.toNat_toUInt8, UInt16.toNat_toUInt8, UInt16.toNat_shiftRight, h8, Nat.shiftLeft_eq, Nat.shiftRight_eq_div_pow,
    Bytes.or_eq_add (k := 8) (by omega) (by omega)]
  omega

/-! ## The round trip -/

/-- The packet as the other side has it. -/
def CoapPacket.received (p : CoapPacket) : CoapPacket :=
  { p with block2 := p.block2.received, block1 := p.block1.received }

/-- What the parser starts the options with. -/
def CoapPacket.headerOf (p : CoapPacket) (version : UInt8) : CoapPacket :=
  { CoapPacket.zero with
    transportType := p.transportType
    version := version
    type := p.type
    code := p.code
    mid := p.mid
    token := p.token }

theorem coapUdpParseMessage_eq (B : BufferSettings) {p q : CoapPacket}
    (hudp : p.transportType = .udp) (htoken : p.token.length ≤ coapTokenLen) (henc : Encodable 0 l)
    (hall : parseAll (p.headerOf 1) l = .ok q) (h0 : q.payload = []) (hpay : p.payload.length ≤ B.blockSize) :
    coapUdpParseMessage B (coapUdpSetHeaderFields p ++ (p.token ++ (encodeOptions 0 l ++ markedPayload p.payload))) =
      (coapNoError, { q with payload := p.payload }) := by
  obtain ⟨b, hb, hversion, htype, hlen⟩ := udpHeader_first p.type htoken
  unfold coapUdpSetHeaderFields coapUdpParseMessage
  rw [hb]
  simp only [List.cons_append, List.nil_append, List.getD_cons_zero, List.getD_cons_succ, hversion, htype, hlen, mid_bytes,
    coapHeaderLen, List.drop_succ_cons, List.drop_zero]
  rw [if_neg (by simp), if_neg (by omega)]
  refine coapParseTokenOption_body B henc ?_ h0 fun _ => hpay
  rw [← hall, CoapPacket.headerOf, hudp]

/-- The options of a message that fits are a list that the parser can follow. -/
theorem encodable_of_fits (hl : Ascending 0 l)
    (hfit : (encodeOptions 0 l).length ≤ coapMaxHeaderSize) : Encodable 0 l := by
  refine encodable_of_ascending hl ?_
  have hmax : coapMaxHeaderSize = 181 := rfl
  omega

theorem coapSerializeOptions_request {p : CoapPacket} (h : RequestOk p) (hsig : coapCheckSignalMessage p = false) :
    coapSerializeOptions p = encodeOptions 0 (requestOptions p) := by
  unfold coapSerializeOptions
  rw [if_neg (by simp [hsig]), serializeRequestOptions_eq h.contentFormat.1 h.accept.1]

theorem coapSerializeOptions_signal {p : CoapPacket} (hsig : coapCheckSignalMessage p = true) :
    coapSerializeOptions p = encodeOptions 0 (signalOptions p) := by
  unfold coapSerializeOptions
  rw [if_pos hsig, coapSerializeSignalOptions_eq]

/-- A message that `coap_udp_init_message` and the setters have built is parsed as it was built; a message
with a signalling code carries the options of that code instead of the ones that were set. -/
theorem coapUdpParseMessage_serialize (B : BufferSettings) (type : CoapMessageType) (code : UInt8) (mid : UInt16)
    (cs : List CoapSetter) (hcs : ∀ c ∈ cs, c.Ok) (hcode : code ≠ 0) (p : CoapPacket)
    (hp : p = CoapSetter.applyAll B (coapUdpInitMessage type code mid) cs) (hne : coapSerializeMessage p ≠ []) :
    ∃ r, coapUdpParseMessage B (coapSerializeMessage p) = (coapNoError, r) ∧
      r.type = type ∧ r.code = code ∧ r.mid = mid ∧ r.token = p.token ∧ r.payload = p.payload ∧
      (coapCheckSignalMessage p = false → r = { p.received with version := 1 }) := by
  have hok : RequestOk p := hp ▸ (requestOk_init .udp type code mid).applyAll B hcs
  have hframe : SameFrame (coapUdpInitMessage type code mid) p := hp ▸ sameFrame_applyAll B _ cs
  have hpay : p.payload.length ≤ B.blockSize := hp ▸ payload_applyAll_le B rfl (Nat.zero_le _) cs
  have hudp : p.transportType = .udp := hframe.transportType
  obtain ⟨hbytes, hfit⟩ := coapSerializeMessage_eq (hframe.code.trans_ne hcode) hne
  have hheader : coapHeaderFields p = coapUdpSetHeaderFields p := by
    rw [coapHeaderFields, hudp]
  rw [hbytes, hheader]
  cases hsig : coapCheckSignalMessage p with
  | false =>
    have hopts := coapSerializeOptions_request hok hsig
    rw [hopts] at hfit ⊢
    have hall := parseAll_requestOptions (q := p.headerOf 1) hok hsig rfl
    refine ⟨_, coapUdpParseMessage_eq B hudp hok.token (encodable_of_fits (requestOptions_ascending p) hfit) hall rfl
      hpay, hframe.type, hframe.code, hframe.mid, rfl, rfl, fun _ => ?_⟩
    obtain ⟨ht, hv, hty, hc, hm, hage, hport, hmsg, hbw, hcust, haddr, hhold, hbad⟩ := hframe
    simp only [CoapPacket.withOptions, CoapPacket.headerOf, CoapPacket.received, hage, hport, hmsg, hbw, hcust, haddr,
      hhold, hbad]
    rfl
  | true =>
    rw [coapSerializeOptions_signal hsig] at hfit ⊢
    obtain ⟨r, hall, hsame⟩ := parseAll_signal (signalOptions p) (p.headerOf 1) hsig
    exact ⟨_, coapUdpParseMessage_eq B hudp hok.token (encodable_of_fits (signalOptions_ascending p) hfit) hall
      hsame.payload hpay, hsame.type.trans hframe.type, hsame.code.trans hframe.code, hsame.mid.trans hframe.mid,
      hsame.token, rfl, fun h => absurd h (by decide)⟩

/-- The sizes that `oc_main.c` starts with. -/
def defaultSettings : BufferSettings := ⟨1024, 8192, 10, by decide, by decide, rfl⟩

theorem blockSize_sixteen : ∃ k, 4 ≤ k ∧ k ≤ 11 ∧ 16 = 2 ^ k := ⟨4, by decide, by decide, rfl⟩

/-- A request for `a/b` with a token, an Observe option, the second block of a Block2 transfer and a
payload. -/
def getSetters : List CoapSetter :=
  [.token [1, 2], .uriPath [47, 97, 47, 98], .observe 0, .accept 10000, .block2 1 0 16, .payload [7]]

theorem coapUdpParseMessage_get :
    let p := CoapSetter.applyAll defaultSettings (coapUdpInitMessage .con coapGet 300) getSetters
    coapSerializeMessage p ≠ [] ∧ ∃ r, coapUdpParseMessage defaultSettings (coapSerializeMessage p) = (coapNoError, r) ∧
      r.type = .con ∧ r.code = coapGet ∧ r.mid = 300 ∧ r.token = p.token ∧ r.payload = p.payload ∧
      (coapCheckSignalMessage p = false → r = { p.received with version := 1 }) := by
  have hok : ∀ c ∈ getSetters, c.Ok := by
    intro c hc
    simp only [getSetters, List.mem_cons, List.not_mem_nil, or_false] at hc
    obtain rfl | rfl | rfl | rfl | rfl | rfl := hc
    · trivial
    · exact ⟨by decide, by decide⟩
    · trivial
    · rfl
    · exact ⟨by decide, 0, by decide, rfl⟩
    · trivial
  have hne : coapSerializeMessage (CoapSetter.applyAll defaultSettings (coapUdpInitMessage .con coapGet 300) getSetters) ≠ [] := by
    decide
  exact ⟨hne, coapUdpParseMessage_serialize defaultSettings .con coapGet 300 getSetters hok (by decide) _ rfl hne⟩

/-- The Observe option of a message with the code of a CSM is not sent. -/
theorem coapUdpParseMessage_csm :
    let p := CoapSetter.applyAll defaultSettings (coapUdpInitMessage .con csm701 300) [.observe 1]
    coapSerializeMessage p ≠ [] ∧ p.isOption coapOptionObserve = true ∧ p.observe = 1 ∧
      (coapUdpParseMessage defaultSettings (coapSerializeMessage p)).2.isOption coapOptionObserve = false ∧
      (coapUdpParseMessage defaultSettings (coapSerializeMessage p)).2.observe = 0 := by
  decide

end SmartGarage
