/-
`coap.c`: parsing a packet. A message is the list of its bytes. Header and token of a datagram are read whether
they end with it or not, so that a short datagram is read with the bytes that lie behind it; those of an option
behind the end read as zero here, where the option is refused for its length right afterwards.
-/
import SmartGarage.Messaging.CoapSerialize

namespace SmartGarage

/-! ## Option values -/

/-- `coap_parse_int_option` -/
def coapParseIntOption (bytes : OcString) : UInt32 :=
  bytes.foldl (fun (var : UInt32) b => (var <<< 8) ||| b.toUInt32) 0

/-- `coap_merge_multi_option`: the option is moved behind the previous ones in place, where it never
reaches the bytes that are still to be read. -/
def coapMergeMultiOption (dst option : OcString) (separator : UInt8) : OcString :=
  if dst.length > 0 then dst ++ separator :: option else option

/-- The fields that are read from the value of a block option. -/
def parseBlock (value : OcString) : CoapBlock :=
  let num := coapParseIntOption value
  { num := num >>> 4
    more := ((num &&& 0x08) >>> 3).toUInt8
    size := UInt16.ofNat (16 <<< (num &&& 0x07).toNat)
    offset := (num &&& ~~~0x0000000F) <<< (num &&& 0x07) }

/-- `coap_parse_signal_options`, whose result the parser does not use. -/
def coapParseSignalOptions (p : CoapPacket) (number : Nat) (value : OcString) : CoapPacket :=
  if p.code = csm701 then
    if number = coapSignalOptionMaxMsgSize then { p with maxMsgSize := coapParseIntOption value }
    else if number = coapSignalOptionBlockwiseTransfer then { p with blockwiseTransfer := 1 }
    else p
  else if p.code = ping702 ∨ p.code = pong703 then
    if number = coapSignalOptionCustody then { p with custody := 1 } else p
  else if p.code = release704 then
    if number = coapSignalOptionAltAddr then { p with altAddr := value }
    else if number = coapSignalOptionHoldOff then { p with holdOff := coapParseIntOption value }
    else p
  else if p.code = abort705 then
    if number = coapSignalOptionBadCsm then { p with badCsmOpt := (coapParseIntOption value).toUInt16 } else p
  else p

/-- The `switch` of `coap_parse_token_option` over the option number: the packet, or the error code. -/
def parseRequestOption (p : CoapPacket) (number : Nat) (value : OcString) : Except UInt8 CoapPacket :=
  if number = coapOptionContentFormat then
    let format := (coapParseIntOption value).toUInt16
    if format ≠ applicationVndOcfCbor then .error unsupportedMediaType415 else .ok { p with contentFormat := format }
  else if number = coapOptionMaxAge then .ok { p with maxAge := coapParseIntOption value }
  else if number = coapOptionEtag then .ok { p with etag := value.take coapEtagLen }
  else if number = coapOptionAccept then
    let accept := (coapParseIntOption value).toUInt16
    if accept ≠ applicationVndOcfCbor then .error notAcceptable406 else .ok { p with accept := accept }
  else if number = coapOptionUriPort then .ok { p with uriPort := (coapParseIntOption value).toUInt16 }
  else if number = coapOptionUriPath then .ok { p with uriPath := coapMergeMultiOption p.uriPath value 47 }
  else if number = coapOptionUriQuery then .ok { p with uriQuery := coapMergeMultiOption p.uriQuery value 38 }
  else if number = coapOptionObserve then .ok { p with observe := coapParseIntOption value }
  else if number = coapOptionBlock2 then .ok { p with block2 := parseBlock value }
  else if number = coapOptionBlock1 then .ok { p with block1 := parseBlock value }
  else if number = coapOptionSize2 then .ok { p with size2 := coapParseIntOption value }
  else if number = coapOptionSize1 then .ok { p with size1 := coapParseIntOption value }
  else if number = ocfOptionContentFormatVer ∨ number = ocfOptionAcceptContentFormatVer then
    if (coapParseIntOption value).toUInt16 < ocfVer100.toUInt16 then .error unsupportedMediaType415 else .ok p
  -- of the options that are not known, the critical ones are refused
  else if number % 2 = 1 then .error badOption402
  else .ok p

/-- One option: the bitmap is only kept up to `COAP_OPTION_SIZE1`. -/
def parseOption (p : CoapPacket) (number : Nat) (value : OcString) : Except UInt8 CoapPacket :=
  let p := if number ≤ coapOptionSize1 then p.setOption number else p
  if coapCheckSignalMessage p then .ok (coapParseSignalOptions p number value) else parseRequestOption p number value

/-! ## The options of a message -/

/-- The delta or length that a nibble of the option header stands for, and the number of bytes behind the
first one that belong to it. -/
def readExtended (nibble : UInt8) (rest : OcString) : Nat × Nat :=
  if nibble = 13 then (13 + (rest.getD 0 0).toNat, 1)
  else if nibble = 14 then (14 + 255 + (rest.getD 0 0).toNat * 256 + (rest.getD 1 0).toNat, 2)
  else (nibble.toNat, 0)

/-- The payload behind its marker, over UDP at most a block. -/
def parsePayload (B : BufferSettings) (p : CoapPacket) (payload : OcString) : CoapPacket :=
  { p with payload := if p.transportType = .udp then payload.take B.blockSize else payload }

/-- The loop of `coap_parse_token_option`, for a number of rounds: each of them reads at least one byte.
The result is the status code with the packet as it is at that point. -/
def parseOptions (B : BufferSettings) : Nat → CoapPacket → Nat → OcString → UInt8 × CoapPacket
  | 0, p, _, _ => (coapNoError, p)
  | _ + 1, p, _, [] => (coapNoError, p)
  | rounds + 1, p, number, b :: rest =>
    if b &&& 0xF0 = 0xF0 then (coapNoError, parsePayload B p rest)
    else
      let (delta, n) := readExtended (b >>> 4) rest
      let (length, k) := readExtended (b &&& 0x0F) (rest.drop n)
      let number := (number + delta) % 2 ^ 32
      if n + k + length > rest.length then
        (badOption402, if number ≤ coapOptionSize1 then p.setOption number else p)
      else
        match parseOption p number ((rest.drop (n + k)).take length) with
        | .error code => (code, if number ≤ coapOptionSize1 then p.setOption number else p)
        | .ok p => parseOptions B rounds p number (rest.drop (n + k + length))

/-- `coap_parse_token_option` on the bytes behind the header; `tokenLen` is the field of the header. -/
def coapParseTokenOption (B : BufferSettings) (p : CoapPacket) (tokenLen : Nat) (data : OcString) :
    UInt8 × CoapPacket :=
  parseOptions B data.length { p with token := (List.range tokenLen).map (data.getD · 0) } 0 (data.drop tokenLen)

/-! ## Messages -/

/-- A datagram with the bytes behind it that header and token take of the memory it is read from. -/
def datagramRead (behind : Nat → UInt8) (data : OcString) : OcString :=
  let tokenLen := (0x0F &&& data.headD (behind 0)).toNat
  data ++ (List.range (coapHeaderLen + tokenLen - data.length)).map behind

/-- `coap_udp_parse_message`, of a datagram with the bytes that header and token take. -/
def coapUdpParseMessage (B : BufferSettings) (data : OcString) : UInt8 × CoapPacket :=
  let b := data.getD 0 0
  let version := (0xC0 &&& b) >>> 6
  let tokenLen := (0x0F &&& b).toNat
  let p := { CoapPacket.zero with
    transportType := .udp
    version := version
    type := .ofCode ((0x30 &&& b) >>> 4)
    code := data.getD 1 0
    mid := ((data.getD 2 0).toUInt16 <<< 8) ||| (data.getD 3 0).toUInt16
    token := List.replicate tokenLen 0 }
  if version ≠ 1 then (badRequest400, p)
  else if tokenLen > coapTokenLen then (badRequest400, p)
  else coapParseTokenOption B p tokenLen (data.drop coapHeaderLen)

/-- `coap_tcp_parse_message_length`: the length of options and payload, and the number of bytes of the
extended length. -/
def coapTcpParseMessageLength (data : OcString) : Nat × Nat :=
  let tcpLen := (0xF0 &&& data.getD 0 0) >>> 4
  if tcpLen < 13 then (tcpLen.toNat, 0)
  else
    let n := 1 <<< (tcpLen - 13).toNat
    let length := (List.range n).foldl
      (fun l i => l ||| ((data.getD (i + 1) 0).toUInt32 <<< UInt32.ofNat (8 * (n - (i + 1)))).toNat) 0
    (length + if tcpLen = 13 then 13 else if tcpLen = 14 then 269 else 65805, n)

/-- `coap_tcp_get_packet_size` -/
def coapTcpGetPacketSize (data : OcString) : Nat :=
  let (messageLength, n) := coapTcpParseMessageLength data
  coapTcpDefaultHeaderLen + n + (0x0F &&& data.getD 0 0).toNat + messageLength

/-- `coap_tcp_parse_message` -/
def coapTcpParseMessage (B : BufferSettings) (data : OcString) : UInt8 × CoapPacket :=
  let (_, n) := coapTcpParseMessageLength data
  let tokenLen := (0x0F &&& data.getD 0 0).toNat
  let p := { CoapPacket.zero with
    transportType := .tcp, type := .non, mid := 0, code := data.getD (1 + n) 0, token := List.replicate tokenLen 0 }
  if tokenLen > coapTokenLen then (badRequest400, p)
  else coapParseTokenOption B p tokenLen (data.drop (coapTcpDefaultHeaderLen + n))

end SmartGarage
