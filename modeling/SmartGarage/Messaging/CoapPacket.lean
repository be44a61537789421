/-
`coap.h`, `constants.h`, `coap.c` and `coap_signal.c`: the packet record, the functions that
initialise it and the setters of its options.
-/
import SmartGarage.Api.Basic

namespace SmartGarage

/-! ## Constants -/

/-- `coap_message_type_t` -/
inductive CoapMessageType
  | con | non | ack | rst
deriving DecidableEq

/-- The number of a message type. -/
def CoapMessageType.code : CoapMessageType → UInt8
  | con => 0
  | non => 1
  | ack => 2
  | rst => 3

/-- The message type with a number of two bits. -/
def CoapMessageType.ofCode (n : UInt8) : CoapMessageType :=
  if n = 0 then con else if n = 1 then non else if n = 2 then ack else rst

/-- `coap_transport_type_t` -/
inductive CoapTransportType
  | udp | tcp
deriving DecidableEq

/-- `COAP_GET` -/
def coapGet : UInt8 := 1
/-- `COAP_POST` -/
def coapPost : UInt8 := 2
/-- `COAP_PUT` -/
def coapPut : UInt8 := 3
/-- `COAP_DELETE` -/
def coapDelete : UInt8 := 4

/-- `COAP_NO_ERROR` -/
def coapNoError : UInt8 := 0
/-- `CHANGED_2_04` -/
def changed204 : UInt8 := 68
/-- `CONTENT_2_05` -/
def content205 : UInt8 := 69
/-- `CONTINUE_2_31` -/
def continue231 : UInt8 := 95
/-- `BAD_REQUEST_4_00` -/
def badRequest400 : UInt8 := 128
/-- `BAD_OPTION_4_02` -/
def badOption402 : UInt8 := 130
/-- `NOT_ACCEPTABLE_4_06` -/
def notAcceptable406 : UInt8 := 134
/-- `REQUEST_ENTITY_TOO_LARGE_4_13` -/
def requestEntityTooLarge413 : UInt8 := 141
/-- `UNSUPPORTED_MEDIA_TYPE_4_15` -/
def unsupportedMediaType415 : UInt8 := 143
/-- `INTERNAL_SERVER_ERROR_5_00` -/
def internalServerError500 : UInt8 := 160

/-- `CSM_7_01` -/
def csm701 : UInt8 := 225
/-- `PING_7_02` -/
def ping702 : UInt8 := 226
/-- `PONG_7_03` -/
def pong703 : UInt8 := 227
/-- `RELEASE_7_04` -/
def release704 : UInt8 := 228
/-- `ABORT_7_05` -/
def abort705 : UInt8 := 229

/-- `COAP_HEADER_LEN` -/
def coapHeaderLen : Nat := 4
/-- `COAP_TCP_DEFAULT_HEADER_LEN` -/
def coapTcpDefaultHeaderLen : Nat := 2
/-- `COAP_TOKEN_LEN` -/
def coapTokenLen : Nat := 8
/-- `COAP_ETAG_LEN` -/
def coapEtagLen : Nat := 8
/-- `COAP_MAX_HEADER_SIZE` in a build with `OC_BLOCK_WISE`. -/
def coapMaxHeaderSize : Nat := 4 + coapTokenLen + 3 + coapEtagLen + 4 + 4 + 150

/-- `APPLICATION_VND_OCF_CBOR` -/
def applicationVndOcfCbor : UInt16 := 10000
/-- `OCF_VER_1_0_0` -/
def ocfVer100 : UInt32 := 2048

/-- `COAP_OPTION_ETAG` -/
def coapOptionEtag : Nat := 4
/-- `COAP_OPTION_OBSERVE` -/
def coapOptionObserve : Nat := 6
/-- `COAP_OPTION_URI_PORT` -/
def coapOptionUriPort : Nat := 7
/-- `COAP_OPTION_URI_PATH` -/
def coapOptionUriPath : Nat := 11
/-- `COAP_OPTION_CONTENT_FORMAT` -/
def coapOptionContentFormat : Nat := 12
/-- `COAP_OPTION_MAX_AGE` -/
def coapOptionMaxAge : Nat := 14
/-- `COAP_OPTION_URI_QUERY` -/
def coapOptionUriQuery : Nat := 15
/-- `COAP_OPTION_ACCEPT` -/
def coapOptionAccept : Nat := 17
/-- `COAP_OPTION_BLOCK2` -/
def coapOptionBlock2 : Nat := 23
/-- `COAP_OPTION_BLOCK1` -/
def coapOptionBlock1 : Nat := 27
/-- `COAP_OPTION_SIZE2` -/
def coapOptionSize2 : Nat := 28
/-- `COAP_OPTION_SIZE1` -/
def coapOptionSize1 : Nat := 60
/-- `OCF_OPTION_ACCEPT_CONTENT_FORMAT_VER` -/
def ocfOptionAcceptContentFormatVer : Nat := 2049
/-- `OCF_OPTION_CONTENT_FORMAT_VER` -/
def ocfOptionContentFormatVer : Nat := 2053

/-- `COAP_SIGNAL_OPTION_MAX_MSG_SIZE` -/
def coapSignalOptionMaxMsgSize : Nat := 2
/-- `COAP_SIGNAL_OPTION_BLOCKWISE_TRANSFER` -/
def coapSignalOptionBlockwiseTransfer : Nat := 4
/-- `COAP_SIGNAL_OPTION_CUSTODY` -/
def coapSignalOptionCustody : Nat := 2
/-- `COAP_SIGNAL_OPTION_ALT_ADDR` -/
def coapSignalOptionAltAddr : Nat := 2
/-- `COAP_SIGNAL_OPTION_HOLD_OFF` -/
def coapSignalOptionHoldOff : Nat := 4
/-- `COAP_SIGNAL_OPTION_BAD_CSM` -/
def coapSignalOptionBadCsm : Nat := 2

/-- The sizes of `oc_main.c`: `OC_BLOCK_SIZE` is a power of two, as `oc_set_mtu_size` sets it. -/
structure BufferSettings where
  blockSize : Nat
  maxAppDataSize : Nat
  blockSize_pow : ∃ k, 4 ≤ k ∧ k ≤ 11 ∧ blockSize = 2 ^ k

/-! ## The packet -/

/-- The fields of a Block1 or Block2 option. -/
structure CoapBlock where
  num : UInt32
  more : UInt8
  size : UInt16
  offset : UInt32
deriving DecidableEq

/-- A block option that `memset` has cleared. -/
def CoapBlock.zero : CoapBlock := ⟨0, 0, 0, 0⟩

/-- `coap_packet_t`, as the functions of `coap.c` use it. `options` is the bitmap of eight bytes, and a
pointer with its length is a list. -/
structure CoapPacket where
  transportType : CoapTransportType
  version : UInt8
  type : CoapMessageType
  code : UInt8
  mid : UInt16
  token : OcString
  options : BitVec 64
  contentFormat : UInt16
  maxAge : UInt32
  etag : OcString
  uriPort : UInt16
  uriPath : OcString
  observe : UInt32
  accept : UInt16
  block2 : CoapBlock
  block1 : CoapBlock
  size2 : UInt32
  size1 : UInt32
  uriQuery : OcString
  maxMsgSize : UInt32
  blockwiseTransfer : UInt8
  custody : UInt8
  altAddr : OcString
  holdOff : UInt32
  badCsmOpt : UInt16
  payload : OcString
deriving DecidableEq

/-- The packet as `memset` leaves it. -/
def CoapPacket.zero : CoapPacket where
  transportType := .udp
  version := 0
  type := .con
  code := 0
  mid := 0
  token := []
  options := 0
  contentFormat := 0
  maxAge := 0
  etag := []
  uriPort := 0
  uriPath := []
  observe := 0
  accept := 0
  block2 := CoapBlock.zero
  block1 := CoapBlock.zero
  size2 := 0
  size1 := 0
  uriQuery := []
  maxMsgSize := 0
  blockwiseTransfer := 0
  custody := 0
  altAddr := []
  holdOff := 0
  badCsmOpt := 0
  payload := []

/-- `1 << opt` in the bitmap. -/
def optionBit (opt : Nat) : BitVec 64 := 1#64 <<< opt

/-- `SET_OPTION` -/
def CoapPacket.setOption (p : CoapPacket) (opt : Nat) : CoapPacket := { p with options := p.options ||| optionBit opt }

/-- `IS_OPTION` -/
def CoapPacket.isOption (p : CoapPacket) (opt : Nat) : Bool := p.options.getLsbD opt

/-- `coap_check_signal_message` -/
def coapCheckSignalMessage (p : CoapPacket) : Bool :=
  p.code == csm701 || p.code == ping702 || p.code == pong703 || p.code == release704 || p.code == abort705

/-- `coap_udp_init_message` -/
def coapUdpInitMessage (type : CoapMessageType) (code : UInt8) (mid : UInt16) : CoapPacket :=
  { CoapPacket.zero with transportType := .udp, type := type, code := code, mid := mid }

/-- `coap_tcp_init_message` -/
def coapTcpInitMessage (code : UInt8) : CoapPacket :=
  { CoapPacket.zero with transportType := .tcp, type := .non, code := code, mid := 0 }

/-! ## Setters -/

namespace CoapPacket

variable (p : CoapPacket)

/-- `coap_set_token` -/
def setToken (token : OcString) : CoapPacket := { p with token := token.take coapTokenLen }

/-- `coap_set_header_content_format` -/
def setHeaderContentFormat (format : UInt32) : CoapPacket :=
  { p with contentFormat := format.toUInt16 }.setOption coapOptionContentFormat

/-- `coap_set_header_accept` -/
def setHeaderAccept (accept : UInt32) : CoapPacket := { p with accept := accept.toUInt16 }.setOption coapOptionAccept

/-- `coap_set_header_etag` -/
def setHeaderEtag (etag : OcString) : CoapPacket := { p with etag := etag.take coapEtagLen }.setOption coapOptionEtag

/-- `coap_set_header_uri_path`: leading slashes are skipped. -/
def setHeaderUriPath (path : OcString) : CoapPacket :=
  { p with uriPath := path.dropWhile (· = 47) }.setOption coapOptionUriPath

/-- `coap_set_header_uri_query`: leading question marks are skipped. -/
def setHeaderUriQuery (query : OcString) : CoapPacket :=
  { p with uriQuery := (cstr query).dropWhile (· = 63) }.setOption coapOptionUriQuery

/-- `coap_set_header_observe` -/
def setHeaderObserve (observe : UInt32) : CoapPacket := { p with observe := observe }.setOption coapOptionObserve

/-- The check of the block setters. -/
def blockArgsOk (num : UInt32) (size : UInt16) : Bool := !(size < 16) && !(size > 2048) && !(num > 0x0FFFFF)

/-- `coap_set_header_block2` -/
def setHeaderBlock2 (num : UInt32) (more : UInt8) (size : UInt16) : CoapPacket :=
  if blockArgsOk num size then
    { p with block2 := { p.block2 with num := num, more := if more ≠ 0 then 1 else 0, size := size } }.setOption
      coapOptionBlock2
  else p

/-- `coap_set_header_block1`, which stores the flag as it is given. -/
def setHeaderBlock1 (num : UInt32) (more : UInt8) (size : UInt16) : CoapPacket :=
  if blockArgsOk num size then
    { p with block1 := { p.block1 with num := num, more := more, size := size } }.setOption coapOptionBlock1
  else p

/-- `coap_set_header_size2` -/
def setHeaderSize2 (size : UInt32) : CoapPacket := { p with size2 := size }.setOption coapOptionSize2

/-- `coap_set_header_size1` -/
def setHeaderSize1 (size : UInt32) : CoapPacket := { p with size1 := size }.setOption coapOptionSize1

/-- `coap_set_payload`: the length is cut to the type of `payload_len`, and over UDP to a block. -/
def setPayload (B : BufferSettings) (payload : OcString) : CoapPacket :=
  match p.transportType with
  | .tcp => { p with payload := payload.take (payload.length % 2 ^ 32) }
  | .udp => { p with payload := payload.take (min B.blockSize payload.length % 2 ^ 16) }

/-- `coap_signal_set_max_msg_size` -/
def signalSetMaxMsgSize (size : UInt32) : CoapPacket :=
  if p.code ≠ csm701 then p else { p with maxMsgSize := size }.setOption coapSignalOptionMaxMsgSize

/-- `coap_signal_set_blockwise_transfer` -/
def signalSetBlockwiseTransfer (value : UInt8) : CoapPacket :=
  if p.code ≠ csm701 ∨ (value ≠ 0 ∧ value ≠ 1) then p
  else { p with blockwiseTransfer := value }.setOption coapSignalOptionBlockwiseTransfer

/-- `coap_signal_set_custody` -/
def signalSetCustody (value : UInt8) : CoapPacket :=
  if (p.code ≠ ping702 ∧ p.code ≠ pong703) ∨ (value ≠ 0 ∧ value ≠ 1) then p
  else { p with custody := value }.setOption coapSignalOptionCustody

/-- `coap_signal_set_alt_addr` -/
def signalSetAltAddr (addr : OcString) : CoapPacket :=
  if p.code ≠ release704 ∨ addr = [] then p else { p with altAddr := addr }.setOption coapSignalOptionAltAddr

/-- `coap_signal_set_hold_off` -/
def signalSetHoldOff (seconds : UInt32) : CoapPacket :=
  if p.code ≠ release704 then p else { p with holdOff := seconds }.setOption coapSignalOptionHoldOff

/-- `coap_signal_set_bad_csm` -/
def signalSetBadCsm (opt : UInt16) : CoapPacket :=
  if p.code ≠ abort705 then p else { p with badCsmOpt := opt }.setOption coapSignalOptionBadCsm

end CoapPacket

/-! ## The bitmap -/

theorem optionBit_getLsbD {opt n : Nat} (hn : n < 64) : (optionBit opt).getLsbD n = decide (opt = n) := by
  unfold optionBit
  rw [BitVec.getLsbD_shiftLeft, BitVec.getLsbD_one]
  by_cases h : opt = n
  · subst h
    simp [hn]
  · simp only [hn, decide_true, Bool.true_and, h, decide_false]
    simp only [Bool.and_eq_false_imp, Bool.not_eq_eq_eq_not, Bool.not_true, decide_eq_false_iff_not]
    omega

@[simp] theorem isOption_setOption (p : CoapPacket) (opt : Nat) {n : Nat} (hn : n < 64) :
    (p.setOption opt).isOption n = (p.isOption n || decide (opt = n)) := by
  unfold CoapPacket.isOption CoapPacket.setOption
  rw [BitVec.getLsbD_or, optionBit_getLsbD hn]

end SmartGarage
