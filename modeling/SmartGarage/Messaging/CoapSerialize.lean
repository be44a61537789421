/-
`coap.c`: serialising a packet. The functions of the source write to a buffer and return the number
of bytes; called with a null pointer they only count them, so that a list stands for both.
-/
import SmartGarage.Lib.Bytes
import SmartGarage.Messaging.CoapPacket

namespace SmartGarage

/-! ## Option headers and values -/

/-- `coap_option_nibble` -/
def coapOptionNibble (value : Nat) : UInt8 :=
  if value < 13 then UInt8.ofNat value
  else if value ≤ 0xFF + 13 then 13
  else 14

/-- The bytes of `coap_set_option_header` behind its first one, for the delta or the length. -/
def extendedBytes (value : Nat) : OcString :=
  if value > 268 then [UInt8.ofNat ((value - 269) / 256), UInt8.ofNat (value - 269)]
  else if value > 12 then [UInt8.ofNat (value - 13)]
  else []

/-- `coap_set_option_header` -/
def coapSetOptionHeader (delta length : Nat) : OcString :=
  ((coapOptionNibble delta <<< 4) ||| coapOptionNibble length) :: (extendedBytes delta ++ extendedBytes length)

/-- The bytes that `coap_serialize_int_option` writes for a value: as few as it needs. -/
def intOptionBytes (value : UInt32) : OcString :=
  (if 0xFF000000 &&& value ≠ 0 then [(value >>> 24).toUInt8] else []) ++
  (if 0xFFFF0000 &&& value ≠ 0 then [(value >>> 16).toUInt8] else []) ++
  (if 0xFFFFFF00 &&& value ≠ 0 then [(value >>> 8).toUInt8] else []) ++
  (if 0xFFFFFFFF &&& value ≠ 0 then [value.toUInt8] else [])

/-- The parts into which `coap_serialize_array_option` splits an array: `part` is what lies between
`part_start` and `j`, and the list what is left from `j` on. Behind a separator the loop skips one
index, so that the byte there is not looked at; an array that ends with the separator loses its last
part. -/
def splitParts (splitChar : UInt8) : OcString → OcString → List OcString
  | part, [] => [part]
  | part, [b] => if b = splitChar then [part] else [part ++ [b]]
  | part, b :: c :: rest =>
    if b = splitChar then part :: splitParts splitChar [c] rest
    else splitParts splitChar (part ++ [b]) (c :: rest)

/-! ## The writer -/

/-- The bytes written so far, and `current_number`. -/
structure OptionWriter where
  bytes : OcString
  currentNumber : Nat

/-- The writer at the start. -/
def OptionWriter.empty : OptionWriter := ⟨[], 0⟩

/-- An option behind the previous one. -/
def OptionWriter.put (w : OptionWriter) (number : Nat) (value : OcString) : OptionWriter :=
  ⟨w.bytes ++ coapSetOptionHeader (number - w.currentNumber) value.length ++ value, number⟩

/-- `coap_serialize_int_option` -/
def coapSerializeIntOption (number : Nat) (value : UInt32) (w : OptionWriter) : OptionWriter :=
  w.put number (intOptionBytes value)

/-- `coap_serialize_array_option`; a split character of zero means none. -/
def coapSerializeArrayOption (number : Nat) (array : OcString) (splitChar : UInt8) (w : OptionWriter) : OptionWriter :=
  if splitChar ≠ 0 then (splitParts splitChar [] array).foldl (fun w part => w.put number part) w
  else w.put number array

/-- `coap_log_2`: the position of the highest bit, and 0 for 0. -/
def coapLog2 (value : UInt16) : UInt16 := UInt16.ofNat (Nat.log2 value.toNat)

/-- The value that `COAP_SERIALIZE_BLOCK_OPTION` writes. -/
def blockOptionValue (b : CoapBlock) : UInt32 :=
  (b.num <<< 4) ||| (if b.more ≠ 0 then 0x8 else 0) ||| (0xF &&& coapLog2 (b.size / 16)).toUInt32

/-- `COAP_SERIALIZE_INT_OPTION` -/
def serializeInt (p : CoapPacket) (number : Nat) (value : UInt32) (w : OptionWriter) : OptionWriter :=
  if p.isOption number then coapSerializeIntOption number value w else w

/-- `COAP_SERIALIZE_BYTE_OPTION` and `COAP_SERIALIZE_STRING_OPTION` -/
def serializeArray (p : CoapPacket) (number : Nat) (array : OcString) (splitChar : UInt8) (w : OptionWriter) :
    OptionWriter :=
  if p.isOption number then coapSerializeArrayOption number array splitChar w else w

/-- `COAP_SERIALIZE_BLOCK_OPTION` -/
def serializeBlock (p : CoapPacket) (number : Nat) (b : CoapBlock) (w : OptionWriter) : OptionWriter :=
  if p.isOption number then coapSerializeIntOption number (blockOptionValue b) w else w

/-- The version option that follows a content format; `current_number` moves even where none is
written. -/
def serializeVersion (p : CoapPacket) (option : Nat) (format : UInt16) (number : Nat) (w : OptionWriter) :
    OptionWriter :=
  if p.isOption option then
    { (if format = applicationVndOcfCbor then coapSerializeIntOption number ocfVer100 w else w) with
      currentNumber := number }
  else w

/-- `coap_serialize_signal_options` -/
def coapSerializeSignalOptions (p : CoapPacket) : OptionWriter :=
  let w := OptionWriter.empty
  if p.code = csm701 then
    let w := serializeInt p coapSignalOptionMaxMsgSize p.maxMsgSize w
    if p.blockwiseTransfer ≠ 0 then serializeInt p coapSignalOptionBlockwiseTransfer 0 w else w
  else if p.code = ping702 ∨ p.code = pong703 then
    if p.custody ≠ 0 then serializeInt p coapSignalOptionCustody 0 w else w
  else if p.code = release704 then
    serializeInt p coapSignalOptionHoldOff p.holdOff (serializeArray p coapSignalOptionAltAddr p.altAddr 0 w)
  else if p.code = abort705 then serializeInt p coapSignalOptionBadCsm p.badCsmOpt.toUInt32 w
  else w

/-- `coap_serialize_options` for a message that is no signal. -/
def serializeRequestOptions (p : CoapPacket) : OptionWriter :=
  let w := OptionWriter.empty
  let w := serializeArray p coapOptionEtag p.etag 0 w
  let w := serializeInt p coapOptionObserve p.observe w
  let w := serializeInt p coapOptionUriPort p.uriPort.toUInt32 w
  let w := serializeArray p coapOptionUriPath p.uriPath 47 w
  let w := serializeInt p coapOptionContentFormat p.contentFormat.toUInt32 w
  let w := serializeArray p coapOptionUriQuery p.uriQuery 38 w
  let w := serializeInt p coapOptionAccept p.accept.toUInt32 w
  let w := serializeBlock p coapOptionBlock2 p.block2 w
  let w := serializeBlock p coapOptionBlock1 p.block1 w
  let w := serializeInt p coapOptionSize2 p.size2 w
  let w := serializeInt p coapOptionSize1 p.size1 w
  let w := serializeVersion p coapOptionAccept p.accept ocfOptionAcceptContentFormatVer w
  serializeVersion p coapOptionContentFormat p.contentFormat ocfOptionContentFormatVer w

/-- `coap_serialize_options` -/
def coapSerializeOptions (p : CoapPacket) : OcString :=
  if coapCheckSignalMessage p then (coapSerializeSignalOptions p).bytes else (serializeRequestOptions p).bytes

/-! ## Headers -/

/-- `coap_udp_set_header_fields`; `version` has been set to 1. -/
def coapUdpSetHeaderFields (p : CoapPacket) : OcString :=
  [((0xC0 : UInt8) &&& ((1 : UInt8) <<< 6)) ||| ((0x30 : UInt8) &&& (p.type.code <<< 4)) |||
     ((0x0F : UInt8) &&& UInt8.ofNat p.token.length), p.code,
   (p.mid >>> 8).toUInt8, p.mid.toUInt8]

/-- What `coap_tcp_compute_message_length` computes. -/
structure TcpLength where
  numExtendedLengthBytes : Nat
  len : UInt8
  extendedLen : Nat
deriving DecidableEq

/-- `coap_tcp_compute_message_length` -/
def coapTcpComputeMessageLength (p : CoapPacket) (optionLength : Nat) : TcpLength :=
  let totalLength := optionLength + if p.payload.length > 0 then 1 + p.payload.length else 0
  if totalLength < 13 then ⟨0, UInt8.ofNat totalLength, 0⟩
  else if totalLength < 269 then ⟨1, 13, totalLength - 13⟩
  else if totalLength < 65805 then ⟨2, 14, totalLength - 269⟩
  else ⟨4, 15, totalLength - 65805⟩

/-- `coap_tcp_set_header_fields` -/
def coapTcpSetHeaderFields (p : CoapPacket) (l : TcpLength) : OcString :=
  (((0xF0 : UInt8) &&& (l.len <<< 4)) ||| ((0x0F : UInt8) &&& UInt8.ofNat p.token.length)) ::
    (((List.range l.numExtendedLengthBytes).map fun i =>
      UInt8.ofNat (l.extendedLen >>> (8 * (l.numExtendedLengthBytes - (i + 1))))) ++ [p.code])

/-- The bytes of the header, without the token. -/
def coapHeaderFields (p : CoapPacket) : OcString :=
  match p.transportType with
  | .tcp => coapTcpSetHeaderFields p (coapTcpComputeMessageLength p (coapSerializeOptions p).length)
  | .udp => coapUdpSetHeaderFields p

/-- `coap_serialize_message`: the bytes of the message, or none where it returns 0. -/
def coapSerializeMessage (p : CoapPacket) : OcString :=
  let header := coapHeaderFields p
  let options := coapSerializeOptions p
  let marker : OcString := if p.payload.length > 0 then [0xFF] else []
  if options.length + marker.length + p.token.length + header.length > coapMaxHeaderSize then []
  -- an empty message ends behind the header
  else if p.code = 0 then header
  else if (header ++ p.token ++ options).length > coapMaxHeaderSize then []
  else header ++ p.token ++ options ++ marker ++ p.payload

end SmartGarage
