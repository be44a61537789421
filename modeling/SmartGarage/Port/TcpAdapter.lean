/-
`oc_tcp_receive_message` of the Linux port, from the point where a session is ready to be read: the bytes of one
unsecured connection, as `recv` splits them.
-/
import SmartGarage.Lib.Memory
import SmartGarage.Messaging.CoapParse

namespace SmartGarage

/-- `DEFAULT_RECEIVE_SIZE` -/
def defaultReceiveSize : Nat := coapTcpDefaultHeaderLen + 4

/-- A difference of two `size_t`. -/
def sizeSub (a b : Nat) : Nat := (a + 2 ^ 64 - b) % 2 ^ 64

/-- What a call of `oc_tcp_receive_message` comes to: it waits for bytes, the session is closed, the length is
refused, or a message is received. The bytes that are left are behind. -/
inductive TcpReceived
  | waiting
  | closed
  | refused (stream : OcString)
  | message (bytes : OcString) (stream : OcString)
deriving DecidableEq

section Receive

variable (maxAppDataSize : Nat) (ready : Nat → Nat)

/-- `OC_MAX_APP_DATA_SIZE + COAP_MAX_HEADER_SIZE`, which is also the length of the buffer of a message. -/
def tcpPduSize : Nat := maxAppDataSize + coapMaxHeaderSize

/-- `recv`: one byte at least where there is one, and not more than are asked for; `ready` says how many bytes
have arrived when a number of bytes of the stream is left. -/
def recvCount (want : Nat) (stream : OcString) : Nat := min (max 1 (ready stream.length)) (min want stream.length)

/-- The loop of `oc_tcp_receive_message`. `data` is the buffer of the message, of which `length` bytes have been
read. -/
def tcpReceiveLoop (data : OcString) (length totalLength want : Nat) (stream : OcString) : TcpReceived :=
  if _hwait : stream = [] then .waiting
  else if _hclosed : recvCount ready want stream = 0 then .closed
  else
    let count := recvCount ready want stream
    let data := Memory.write data length (stream.take count)
    let length := length + count
    let rest := stream.drop count
    if totalLength = 0 then
      let totalLength := coapTcpGetPacketSize data
      if totalLength > tcpPduSize maxAppDataSize then .refused rest
      else if totalLength > length then tcpReceiveLoop data length totalLength (sizeSub totalLength count) rest
      else .message (data.take length) rest
    else if totalLength > length then tcpReceiveLoop data length totalLength (sizeSub want count) rest
    else .message (data.take length) rest
termination_by stream.length
decreasing_by
  all_goals
    have hpos := List.length_pos_iff.2 _hwait
    rw [List.length_drop]
    omega

/-- `oc_tcp_receive_message` with a buffer that holds the bytes of an earlier use. -/
def ocTcpReceiveMessage (data stream : OcString) : TcpReceived :=
  tcpReceiveLoop maxAppDataSize ready data 0 0 defaultReceiveSize stream

/-- The messages that successive calls deliver, one for each buffer, until one of them delivers none. -/
def tcpReceiveAll : List OcString → OcString → List OcString
  | [], _ => []
  | data :: buffers, stream =>
    match ocTcpReceiveMessage maxAppDataSize ready data stream with
    | .message bytes rest => bytes :: tcpReceiveAll buffers rest
    | _ => []

end Receive

end SmartGarage
