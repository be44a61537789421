/-
An upload in blocks (Block1), from the first one on: the client sends a block in answer to a response, and the server
stores each block, cut to the size that its option has, at its place.
-/
import SmartGarage.Lib.Chunks
import SmartGarage.Lib.Run
import SmartGarage.Messaging.ClientRequest
import SmartGarage.Messaging.CoapParsed

namespace SmartGarage

open Runs

/-! ## What the server reads -/

/-- The Block1 option of a packet as it is read from the message. -/
def readBlock1 (p : CoapPacket) : CoapBlock := parseBlock (intOptionBytes (blockOptionValue p.block1))

/-- The payload that the server has with a further packet; it may start again with a block of number 0. Without
the option the payload is taken for a whole one. -/
def serverStore (again : Bool) (store : OcString) (p : CoapPacket) : OcString :=
  if p.isOption coapOptionBlock1 then
    let b := readBlock1 p
    Chunks.put (if again = true ∧ b.num = 0 then [] else store) b.offset.toNat (p.payload.take b.size.toNat)
  else p.payload

/-! ## Runs -/

/-- A request with a payload that is longer than a block. -/
structure UploadRequest (B : BufferSettings) where
  cb : ClientCb
  payload : OcString
  udp : cb.endpoint.flags.tcp = false
  network : cb.endpoint.flags.ipv6 = true ∨ cb.endpoint.flags.ipv4 = true
  putOrPost : cb.method = coapPut ∨ cb.method = coapPost
  longer : B.blockSize < payload.length
  fits : payload.length ≤ B.maxAppDataSize

/-- The address and the token of the callback of a request are new. -/
structure NewCallback (st : Engine) (cb : ClientCb) : Prop where
  id : ∀ c ∈ st.clientCbs, c.id ≠ cb.id
  token : ∀ c ∈ st.clientCbs, c.token ≠ cb.token
  own : ∀ b ∈ st.requests, b.clientCb ≠ some cb.id ∧ b.id < st.nextId

/-- A response to an upload: 2.31 or 2.04 with a Block1 option, or 4.13, with a Size1 option or without. -/
structure IsUploadAnswer (cb : ClientCb) (message : CoapPacket) : Prop where
  type : message.type ≠ .rst
  token : message.token = cb.token
  code : (message.code = continue231 ∨ message.code = changed204) ∧ message.isOption coapOptionBlock1 = true ∨
    message.code = requestEntityTooLarge413

/-- A response, what the rest of the stack does with it, and whether the server starts again with the next
block if that has the number 0. -/
structure UploadAnswer (B : BufferSettings) (cb : ClientCb) where
  env : EngineEnv
  data : OcString
  again : Bool
  settings : env.settings = B
  parsed : (coapUdpParseMessage B (datagramRead env.behind data)).1 = coapNoError
  answer : IsUploadAnswer cb (coapUdpParseMessage B (datagramRead env.behind data)).2

/-- The message of a response. -/
def UploadAnswer.message {B : BufferSettings} {cb : ClientCb} (a : UploadAnswer B cb) : CoapPacket :=
  (coapUdpParseMessage B (datagramRead a.env.behind a.data)).2

/-- An upload: the client with the address of the request buffer, the blocks that it has sent, and the payload that
the server has. -/
structure Upload where
  client : Engine
  buffer : Nat
  sent : List CoapPacket
  store : OcString

/-- An upload whose first block is sent and stored, if there is one. -/
def Upload.started (buffer : Nat) (r : Option CoapPacket × Engine × List Output) : Option Upload :=
  r.1.map fun p => ⟨r.2.1, buffer, [p], serverStore true [] p⟩

/-- The start of an upload, if the request can be made. -/
def Upload.start {B : BufferSettings} (rq : UploadRequest B) (env : EngineEnv) (csm : CsmState) (st : Engine) :
    Option Upload :=
  (prepareCoapRequest env (addClientCb st rq.cb) rq.cb).bind fun r =>
    Upload.started r.1.id (dispatchCoapRequest env r.2 rq.cb csm r.1 rq.payload)

/-- One response: the block that it makes the client send is stored. -/
def Upload.step {B : BufferSettings} {cb : ClientCb} (u : Upload) (a : UploadAnswer B cb) : Upload :=
  let client := (coapReceive a.env u.client a.data cb.endpoint).1
  match blockSent a.env u.client a.message cb.endpoint with
  | some (id, p) =>
    if id = u.buffer then { u with client := client, sent := u.sent ++ [p], store := serverStore a.again u.store p }
    else { u with client := client }
  | none => { u with client := client }

/-! ## Properties -/

/-- A block of the payload: it stands where the option that is sent says, fills its size unless it is the last
one, and is the last one only at the end of the payload. -/
structure IsBlock (payload : OcString) (p : CoapPacket) : Prop where
  option : p.isOption coapOptionBlock1 = true
  offset : (readBlock1 p).offset.toNat = (readBlock1 p).num.toNat * (readBlock1 p).size.toNat
  place : Chunks.StandsAt payload (readBlock1 p).offset.toNat p.payload
  full : (readBlock1 p).more ≠ 0 → (readBlock1 p).size.toNat ≤ p.payload.length
  last : (readBlock1 p).more = 0 → p.payload.length ≤ (readBlock1 p).size.toNat ∧
    (readBlock1 p).offset.toNat + p.payload.length = payload.length

/-- The server has the payload when it sees a last block. -/
def Reassembled (payload : OcString) (u : Upload) : Prop :=
  ∀ p ∈ u.sent.getLast?, (readBlock1 p).more = 0 → u.store = payload

/-- The size that a response asks for. -/
def askedSize (B : BufferSettings) (message : CoapPacket) : UInt16 :=
  if message.isOption coapOptionBlock1 then block1Size B message
  else if message.isOption coapOptionSize1 then min message.size1.toUInt16 (UInt16.ofNat B.blockSize)
  else UInt16.ofNat B.blockSize

/-- Where the block begins that a response asks for. -/
def askedOffset (B : BufferSettings) (message : CoapPacket) : UInt32 :=
  if message.isOption coapOptionBlock1 then message.block1.offset + (block1Size B message).toUInt32 else 0

/-- The response asks for a block of the payload. -/
def AsksForUploadBlock {B : BufferSettings} {cb : ClientCb} (payload : OcString) (a : UploadAnswer B cb) : Prop :=
  (askedOffset B a.message).toNat < payload.length

/-- The size that a response asks for can be encoded; where it asks for another block with Block1, the number can be
too, and a size that is larger than that of the client stands for the first block only. -/
structure AskedEncodable {B : BufferSettings} {cb : ClientCb} (payload : OcString) (a : UploadAnswer B cb) : Prop where
  size : 16 ≤ (askedSize B a.message).toNat
  number : a.message.isOption coapOptionBlock1 = true → AsksForUploadBlock payload a →
    a.message.block1.num.toNat + 1 < 2 ^ 20 ∧ (a.message.block1.num = 0 ∨ a.message.block1.size.toNat ≤ B.blockSize)

/-- The block that a response asks for begins within what the server has, or right behind it. -/
def AskedKnown {B : BufferSettings} {cb : ClientCb} (payload : OcString) (u : Upload) (a : UploadAnswer B cb) : Prop :=
  AsksForUploadBlock payload a → (askedOffset B a.message).toNat ≤ u.store.length

end SmartGarage
