/-
Which messages that `coap_receive` sends to an endpoint with the TCP flag have the framing of TCP: the
branches that initialise the answer with `coap_udp_init_message` do not.
-/
import SmartGarage.Messaging.CoapParsed
import SmartGarage.Messaging.Receive

namespace SmartGarage

/-! ## Lengths of options -/

/-- A writer that adds at least `lo` and at most `hi` bytes; there is no upper bound where `hi` is none. -/
structure Adds (lo : Nat) (hi : Option Nat) (f : OptionWriter → OptionWriter) : Prop where
  least : ∀ w, w.bytes.length + lo ≤ (f w).bytes.length
  most : ∀ k ∈ hi, ∀ w, (f w).bytes.length ≤ w.bytes.length + k

theorem Adds.comp {a b : Nat} {k l : Option Nat} {f g : OptionWriter → OptionWriter} (hf : Adds a k f) (hg : Adds b l g) :
    Adds (a + b) (k.bind fun m => l.map (m + ·)) (fun w => g (f w)) := by
  constructor
  · intro w
    have h := hf.least w
    have h' := hg.least (f w)
    omega
  · intro m hm w
    simp only [Option.mem_def, Option.bind_eq_some_iff, Option.map_eq_some_iff] at hm
    obtain ⟨i, hi, j, hj, rfl⟩ := hm
    have h := hf.most i hi w
    have h' := hg.most j hj (f w)
    omega

theorem length_extendedBytes (v : Nat) : (extendedBytes v).length ≤ 2 := by
  unfold extendedBytes
  split
  · exact Nat.le_refl 2
  · split
    · exact Nat.le_succ 1
    · exact Nat.zero_le 2

theorem length_put (w : OptionWriter) (n : Nat) (value : OcString) :
    w.bytes.length + 1 + value.length ≤ (w.put n value).bytes.length ∧
      (w.put n value).bytes.length ≤ w.bytes.length + 5 + value.length := by
  have hd := length_extendedBytes (n - w.currentNumber)
  have hl := length_extendedBytes value.length
  simp only [OptionWriter.put, coapSetOptionHeader, List.length_append, List.length_cons]
  omega

section Pieces

variable (p : CoapPacket) (n : Nat)

theorem adds_int (v : UInt32) : Adds 0 (some 9) (serializeInt p n v) := by
  have hv := intOptionBytes_length v
  refine ⟨fun w => ?_, fun k hk w => ?_⟩
  all_goals
    have hput := length_put w n (intOptionBytes v)
    unfold serializeInt coapSerializeIntOption
  · split <;> omega
  · cases hk
    split <;> omega

theorem adds_block (b : CoapBlock) : Adds 0 (some 9) (serializeBlock p n b) := adds_int p n (blockOptionValue b)

theorem adds_version (option : Nat) (format : UInt16) : Adds 0 (some 9) (serializeVersion p option format n) := by
  have hv := intOptionBytes_length ocfVer100
  refine ⟨fun w => ?_, fun k hk w => ?_⟩
  all_goals
    have hput := length_put w n (intOptionBytes ocfVer100)
    unfold serializeVersion coapSerializeIntOption
  · split
    · dsimp only
      split <;> omega
    · omega
  · cases hk
    split
    · dsimp only
      split <;> omega
    · omega

theorem length_putParts : ∀ (l : List OcString) (w : OptionWriter),
    w.bytes.length ≤ (l.foldl (fun w part => w.put n part) w).bytes.length
  | [], w => Nat.le_refl _
  | part :: l, w => by
    have hput := length_put w n part
    have hrest := length_putParts l (w.put n part)
    rw [List.foldl_cons]
    omega

theorem adds_array (array : OcString) (sep : UInt8) : Adds 0 none (serializeArray p n array sep) := by
  refine ⟨fun w => ?_, nofun⟩
  unfold serializeArray coapSerializeArrayOption
  split
  · split
    · exact length_putParts n _ w
    · have hput := length_put w n array
      omega
  · exact Nat.le_refl _

theorem adds_bytes (array : OcString) : Adds 0 (some (5 + array.length)) (serializeArray p n array 0) := by
  refine ⟨(adds_array p n array 0).least, fun k hk w => ?_⟩
  cases hk
  have hput := length_put w n array
  unfold serializeArray coapSerializeArrayOption
  split
  · rw [if_neg (by decide)]
    omega
  · omega

theorem adds_unset {p : CoapPacket} {n : Nat} (h : p.isOption n = false) (array : OcString) (sep : UInt8) :
    Adds 0 (some 0) (serializeArray p n array sep) := by
  have hid (w : OptionWriter) : serializeArray p n array sep w = w := by
    unfold serializeArray
    rw [if_neg (by simp [h])]
  exact ⟨fun w => by rw [hid]; exact Nat.le_refl _, fun k _ w => by rw [hid]; omega⟩

theorem adds_accept {p : CoapPacket} (h : p.isOption coapOptionAccept = true) (ha : p.accept = 10000) :
    Adds 3 none (serializeInt p coapOptionAccept p.accept.toUInt32) := by
  refine ⟨fun w => ?_, nofun⟩
  have hput := length_put w coapOptionAccept (intOptionBytes p.accept.toUInt32)
  have hlen : (intOptionBytes p.accept.toUInt32).length = 2 := by
    rw [ha]
    decide
  unfold serializeInt coapSerializeIntOption
  rw [if_pos h]
  omega

end Pieces

section

variable {p : CoapPacket}

theorem length_options_le (hpath : p.isOption coapOptionUriPath = false)
    (hquery : p.isOption coapOptionUriQuery = false) (hetag : p.etag.length ≤ coapEtagLen) :
    (serializeRequestOptions p).bytes.length ≤ 103 := by
  have hadds := (((((((((((adds_bytes p coapOptionEtag p.etag).comp (adds_int p coapOptionObserve p.observe)).comp
    (adds_int p coapOptionUriPort p.uriPort.toUInt32)).comp (adds_unset hpath p.uriPath 47)).comp
    (adds_int p coapOptionContentFormat p.contentFormat.toUInt32)).comp (adds_unset hquery p.uriQuery 38)).comp
    (adds_int p coapOptionAccept p.accept.toUInt32)).comp (adds_block p coapOptionBlock2 p.block2)).comp
    (adds_block p coapOptionBlock1 p.block1)).comp (adds_int p coapOptionSize2 p.size2)).comp
    (adds_int p coapOptionSize1 p.size1)).comp
    ((adds_version p ocfOptionAcceptContentFormatVer coapOptionAccept p.accept).comp
      (adds_version p ocfOptionContentFormatVer coapOptionContentFormat p.contentFormat))
  have hlen := hadds.most _ rfl OptionWriter.empty
  have h0 : OptionWriter.empty.bytes.length = 0 := rfl
  have h8 : coapEtagLen = 8 := rfl
  refine Nat.le_trans hlen ?_
  dsimp only
  omega

theorem le_length_options (h : p.isOption coapOptionAccept = true) (ha : p.accept = 10000) :
    3 ≤ (serializeRequestOptions p).bytes.length := by
  have hadds := (((((((((((adds_array p coapOptionEtag p.etag 0).comp (adds_int p coapOptionObserve p.observe)).comp
    (adds_int p coapOptionUriPort p.uriPort.toUInt32)).comp (adds_array p coapOptionUriPath p.uriPath 47)).comp
    (adds_int p coapOptionContentFormat p.contentFormat.toUInt32)).comp
    (adds_array p coapOptionUriQuery p.uriQuery 38)).comp (adds_accept h ha)).comp
    (adds_block p coapOptionBlock2 p.block2)).comp
    (adds_block p coapOptionBlock1 p.block1)).comp (adds_int p coapOptionSize2 p.size2)).comp
    (adds_int p coapOptionSize1 p.size1)).comp
    ((adds_version p ocfOptionAcceptContentFormatVer coapOptionAccept p.accept).comp
      (adds_version p ocfOptionContentFormatVer coapOptionContentFormat p.contentFormat))
  exact hadds.least OptionWriter.empty

/-! ## Messages that fit -/

theorem coapSerializeMessage_ne_nil (htoken : p.token.length ≤ coapTokenLen)
    (hoptions : (coapSerializeOptions p).length ≤ 160) : coapSerializeMessage p ≠ [] := by
  have hmax : coapMaxHeaderSize = 181 := rfl
  have h8 : coapTokenLen = 8 := rfl
  have hheader : 0 < (coapHeaderFields p).length ∧ (coapHeaderFields p).length ≤ 6 := by
    unfold coapHeaderFields
    split
    · rw [length_tcpHeader]
      unfold coapTcpComputeMessageLength coapTcpDefaultHeaderLen
      dsimp only
      repeat' split
      all_goals dsimp only; omega
    · exact ⟨Nat.succ_pos 3, Nat.le_add_right 4 2⟩
  have hmarker : (if p.payload.length > 0 then [0xFF] else [] : OcString).length ≤ 1 := by
    split
    · exact Nat.le_refl 1
    · exact Nat.zero_le 1
  have hcons : coapHeaderFields p ≠ [] := List.ne_nil_of_length_pos hheader.1
  unfold coapSerializeMessage
  rw [if_neg (by omega)]
  split
  · exact hcons
  · rw [if_neg (by simp only [List.length_append]; omega)]
    simp [hcons]

theorem Framed.size (h : Framed p) (hcode : p.code ≠ 0) (hpos : (coapSerializeMessage p).length > 0) :
    coapTcpGetPacketSize (coapSerializeMessage p) = (coapSerializeMessage p).length :=
  coapTcpGetPacketSize_eq h hcode (List.ne_nil_of_length_pos hpos)

theorem length_signal_le (hrelease : p.code ≠ release704) : (coapSerializeSignalOptions p).bytes.length ≤ 18 := by
  have h0 : OptionWriter.empty.bytes.length = 0 := rfl
  have hint (n : Nat) (v : UInt32) (w : OptionWriter) := (adds_int p n v).most _ rfl w
  unfold coapSerializeSignalOptions
  dsimp only
  split
  · have h1 := hint coapSignalOptionMaxMsgSize p.maxMsgSize OptionWriter.empty
    have h2 := hint coapSignalOptionBlockwiseTransfer 0 (serializeInt p coapSignalOptionMaxMsgSize p.maxMsgSize .empty)
    split <;> omega
  · split
    · have h1 := hint coapSignalOptionCustody 0 OptionWriter.empty
      split <;> omega
    · have h1 := hint coapSignalOptionBadCsm p.badCsmOpt.toUInt32 OptionWriter.empty
      split <;> omega

theorem framed_signal (h : Framed p) (hcode : p.code = csm701 ∨ p.code = pong703) :
    coapTcpGetPacketSize (coapSerializeMessage p) = (coapSerializeMessage p).length := by
  have hsig : coapCheckSignalMessage p = true ∧ p.code ≠ 0 ∧ p.code ≠ release704 := by
    unfold coapCheckSignalMessage
    rcases hcode with hc | hc <;> rw [hc] <;> decide
  refine coapTcpGetPacketSize_eq h hsig.2.1 (coapSerializeMessage_ne_nil h.token ?_)
  rw [coapSerializeOptions, if_pos hsig.1]
  have hlen := length_signal_le hsig.2.2
  omega

/-! ## Messages of the UDP format -/

theorem coapTcpGetPacketSize_udp (htoken : p.token.length ≤ coapTokenLen) (rest : OcString) :
    coapTcpGetPacketSize (coapUdpSetHeaderFields p ++ rest) = 6 + p.type.code.toNat + p.token.length := by
  have hall : ∀ (n : Fin 9) (b : UInt8), b = ((0xC0 : UInt8) &&& ((1 : UInt8) <<< 6)) |||
      ((0x30 : UInt8) &&& (p.type.code <<< 4)) ||| ((0x0F : UInt8) &&& UInt8.ofNat n) →
      (0xF0 &&& b) >>> 4 = 4 + p.type.code ∧ (0x0F &&& b).toNat = n := by
    rintro n b rfl
    revert n
    cases p.type <;> decide
  obtain ⟨hlen, htok⟩ := hall ⟨p.token.length, by unfold coapTokenLen at htoken; omega⟩ _ rfl
  have hlt : 4 + p.type.code < 13 ∧ (4 + p.type.code).toNat = 4 + p.type.code.toNat := by
    cases p.type <;> decide
  unfold coapTcpGetPacketSize coapTcpParseMessageLength coapUdpSetHeaderFields coapTcpDefaultHeaderLen
  simp only [List.cons_append, List.getD_cons_zero]
  simp only at hlen htok
  rw [hlen, htok, if_pos hlt.1, hlt.2]
  dsimp only
  omega

/-- A confirmable message that `coap_receive` initialises for UDP. -/
structure UdpCon (p : CoapPacket) : Prop where
  transportType : p.transportType = .udp
  type : p.type = .con
  token : p.token.length ≤ coapTokenLen

/-- All of them have the Accept option in the end. -/
structure UdpReply (p : CoapPacket) : Prop extends UdpCon p where
  accept : p.isOption coapOptionAccept = true ∧ p.accept = 10000

/-- Its options alone make it longer than its first byte says over TCP. -/
theorem UdpReply.unframed (h : UdpReply p) (hcode : p.code ≠ 0) (hsig : coapCheckSignalMessage p = false)
    (hne : coapSerializeMessage p ≠ []) :
    coapTcpGetPacketSize (coapSerializeMessage p) ≠ (coapSerializeMessage p).length := by
  obtain ⟨hbytes, -⟩ := coapSerializeMessage_eq hcode hne
  have hheader : coapHeaderFields p = coapUdpSetHeaderFields p := by
    rw [coapHeaderFields, h.transportType]
  have hoptions : 3 ≤ (coapSerializeOptions p).length := by
    rw [coapSerializeOptions, if_neg (by simp [hsig])]
    exact le_length_options h.accept.1 h.accept.2
  have hcon : p.type.code.toNat = 0 := by
    rw [h.type]
    rfl
  have hfour : (coapUdpSetHeaderFields p).length = 4 := rfl
  rw [hbytes, hheader, coapTcpGetPacketSize_udp h.token, hcon]
  simp only [List.length_append, hfour]
  omega

theorem empty_unset (type : CoapMessageType) (code : UInt8) (mid : UInt16) (token : OcString) :
    let p := if token.length > 0 then (coapUdpInitMessage type code mid).setToken token
      else coapUdpInitMessage type code mid
    (∃ t : OcString, t.length ≤ coapTokenLen ∧ p = { coapUdpInitMessage type code mid with token := t }) ∧
      coapSerializeOptions p = [] ∧ coapSerializeMessage p ≠ [] := by
  intro p
  obtain ⟨t, ht, hp⟩ : ∃ t : OcString, t.length ≤ coapTokenLen ∧
      p = { coapUdpInitMessage type code mid with token := t } := by
    by_cases h : token.length > 0
    · exact ⟨token.take coapTokenLen, List.length_take_le _ _, if_pos h⟩
    · exact ⟨[], Nat.zero_le _, if_neg h⟩
  have hunset (n : Nat) : p.isOption n = false := by
    rw [hp]
    exact BitVec.getLsbD_zero
  have hoptions : coapSerializeOptions p = [] := by
    unfold coapSerializeOptions coapSerializeSignalOptions serializeRequestOptions serializeInt serializeArray serializeBlock
      serializeVersion
    simp only [hunset, Bool.false_eq_true, reduceIte, ite_self]
    rfl
  have htoken : p.token.length ≤ coapTokenLen := by rw [hp]; exact ht
  exact ⟨⟨t, ht, hp⟩, hoptions, coapSerializeMessage_ne_nil htoken (by simp [hoptions])⟩

theorem empty_unframed (code : UInt8) (mid : UInt16) (token : OcString) (hcode : code ≠ 0) :
    let p := if token.length > 0 then (coapUdpInitMessage .non code mid).setToken token
      else coapUdpInitMessage .non code mid
    coapSerializeMessage p ≠ [] ∧ coapTcpGetPacketSize (coapSerializeMessage p) ≠ (coapSerializeMessage p).length := by
  intro p
  obtain ⟨⟨t, ht, hp⟩, hoptions, hne⟩ := empty_unset .non code mid token
  change p = _ at hp
  change coapSerializeOptions p = [] at hoptions
  have hpayload : p.payload = [] := by rw [hp]; rfl
  have htoken : p.token.length ≤ coapTokenLen := by rw [hp]; exact ht
  have hpcode : p.code ≠ 0 := by rw [hp]; exact hcode
  refine ⟨hne, ?_⟩
  obtain ⟨hbytes, -⟩ := coapSerializeMessage_eq hpcode hne
  have hheader : coapHeaderFields p = coapUdpSetHeaderFields p := by rw [hp]; rfl
  have hnon : p.type.code.toNat = 1 := by rw [hp]; rfl
  have hfour : (coapUdpSetHeaderFields p).length = 4 := rfl
  rw [hbytes, hheader, coapTcpGetPacketSize_udp htoken, hnon, hoptions, hpayload]
  simp [hfour, markedPayload]

/-! ## Building answers -/

theorem isOption_accept_setOption (opt : Nat) (h : p.isOption coapOptionAccept = true) :
    (p.setOption opt).isOption coapOptionAccept = true := by
  rw [isOption_setOption p opt (by decide), h, Bool.true_or]

theorem udpCon_init (code : UInt8) (mid : UInt16) : UdpCon (coapUdpInitMessage .con code mid) :=
  ⟨rfl, rfl, Nat.zero_le _⟩

theorem UdpCon.apply (B : BufferSettings) {p : CoapPacket} (h : UdpCon p) (c : CoapSetter) : UdpCon (c.apply B p) := by
  have hframe := sameFrame_apply B p c
  refine ⟨hframe.transportType.trans h.transportType, hframe.type.trans h.type, ?_⟩
  cases c with
  | token t => exact List.length_take_le _ _
  | payload b =>
    simp only [CoapSetter.apply, CoapPacket.setPayload, h.transportType]
    exact h.token
  | block1 num more size =>
    simp only [CoapSetter.apply, CoapPacket.setHeaderBlock1]
    split <;> exact h.token
  | block2 num more size =>
    simp only [CoapSetter.apply, CoapPacket.setHeaderBlock2]
    split <;> exact h.token
  | _ => exact h.token

theorem UdpCon.applyAll (B : BufferSettings) : ∀ (cs : List CoapSetter) {p : CoapPacket}, UdpCon p →
    UdpCon (CoapSetter.applyAll B p cs)
  | [], _, h => h
  | c :: cs, _, h => applyAll B cs (h.apply B c)

/-- The setters other than the one of the Accept option keep a message of the UDP format one. -/
theorem UdpReply.apply (B : BufferSettings) {p : CoapPacket} (h : UdpReply p) (c : CoapSetter)
    (hc : ∀ v, c ≠ .accept v) : UdpReply (c.apply B p) := by
  refine ⟨h.toUdpCon.apply B c, ?_⟩
  cases c with
  | accept v => exact absurd rfl (hc v)
  | token t => exact h.accept
  | payload b =>
    simp only [CoapSetter.apply, CoapPacket.setPayload, h.transportType]
    exact h.accept
  | block1 num more size =>
    simp only [CoapSetter.apply, CoapPacket.setHeaderBlock1]
    split
    · exact ⟨isOption_accept_setOption _ h.accept.1, h.accept.2⟩
    · exact h.accept
  | block2 num more size =>
    simp only [CoapSetter.apply, CoapPacket.setHeaderBlock2]
    split
    · exact ⟨isOption_accept_setOption _ h.accept.1, h.accept.2⟩
    · exact h.accept
  | _ => exact ⟨isOption_accept_setOption _ h.accept.1, h.accept.2⟩

theorem UdpCon.setHeaderAccept (h : UdpCon p) : UdpReply (p.setHeaderAccept 10000) := by
  refine ⟨⟨h.transportType, h.type, h.token⟩, ?_, rfl⟩
  have hset := isOption_setOption { p with accept := (10000 : UInt32).toUInt16 } coapOptionAccept (n := coapOptionAccept)
    (by decide)
  rw [decide_eq_true rfl, Bool.or_true] at hset
  exact hset

/-- Answers that fit: they carry neither path nor query. -/
structure ShortReply (p : CoapPacket) : Prop where
  uriPath : p.isOption coapOptionUriPath = false
  uriQuery : p.isOption coapOptionUriQuery = false
  etag : p.etag.length ≤ coapEtagLen

theorem shortReply_init (type : CoapMessageType) (code : UInt8) (mid : UInt16) :
    ShortReply (coapUdpInitMessage type code mid) :=
  ⟨BitVec.getLsbD_zero, BitVec.getLsbD_zero, Nat.zero_le _⟩

theorem ShortReply.step {p q : CoapPacket} (h : ShortReply p) (opt : Nat) (h1 : opt ≠ coapOptionUriPath)
    (h2 : opt ≠ coapOptionUriQuery) (ho : q.options = p.options ||| optionBit opt) (he : q.etag.length ≤ coapEtagLen) :
    ShortReply q := by
  have hbit {n : Nat} (hn : n < 64) (hne : opt ≠ n) : q.isOption n = p.isOption n := by
    rw [CoapPacket.isOption, ho, BitVec.getLsbD_or, optionBit_getLsbD hn, decide_eq_false hne, Bool.or_false]
    rfl
  exact ⟨(hbit (by decide) h1).trans h.uriPath, (hbit (by decide) h2).trans h.uriQuery, he⟩

theorem ShortReply.apply (B : BufferSettings) {p : CoapPacket} (h : ShortReply p) (c : CoapSetter)
    (h1 : ∀ v, c ≠ .uriPath v) (h2 : ∀ v, c ≠ .uriQuery v) : ShortReply (c.apply B p) := by
  cases c with
  | uriPath v => exact absurd rfl (h1 v)
  | uriQuery v => exact absurd rfl (h2 v)
  | token t => exact ⟨h.uriPath, h.uriQuery, h.etag⟩
  | payload b =>
    simp only [CoapSetter.apply, CoapPacket.setPayload]
    split <;> exact ⟨h.uriPath, h.uriQuery, h.etag⟩
  | block1 num more size =>
    simp only [CoapSetter.apply, CoapPacket.setHeaderBlock1]
    split
    · exact h.step coapOptionBlock1 (by decide) (by decide) rfl h.etag
    · exact h
  | block2 num more size =>
    simp only [CoapSetter.apply, CoapPacket.setHeaderBlock2]
    split
    · exact h.step coapOptionBlock2 (by decide) (by decide) rfl h.etag
    · exact h
  | etag v => exact h.step coapOptionEtag (by decide) (by decide) rfl (List.length_take_le _ _)
  | contentFormat v => exact h.step coapOptionContentFormat (by decide) (by decide) rfl h.etag
  | accept v => exact h.step coapOptionAccept (by decide) (by decide) rfl h.etag
  | observe v => exact h.step coapOptionObserve (by decide) (by decide) rfl h.etag
  | size1 v => exact h.step coapOptionSize1 (by decide) (by decide) rfl h.etag
  | size2 v => exact h.step coapOptionSize2 (by decide) (by decide) rfl h.etag

theorem ShortReply.fits (h : ShortReply p) (hsig : coapCheckSignalMessage p = false)
    (htoken : p.token.length ≤ coapTokenLen) : coapSerializeMessage p ≠ [] := by
  refine coapSerializeMessage_ne_nil htoken ?_
  rw [coapSerializeOptions, if_neg (by simp [hsig])]
  have hlen := length_options_le h.uriPath h.uriQuery h.etag
  omega

end

end SmartGarage
