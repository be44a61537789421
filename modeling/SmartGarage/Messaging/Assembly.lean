/-
The reassembly of a payload that a client sends in blocks (Block1), for the requests of one endpoint to one path with
one method and query. What the resource layer is handed for a last block is put beside the blocks of the current
transfer in their places; a block with the number 0 starts a transfer anew.
-/
import SmartGarage.Lib.Chunks
import SmartGarage.Lib.Run
import SmartGarage.Messaging.EngineFrame

namespace SmartGarage

open Runs

/-! ## Requests -/

/-- A request with a Block1 option for the key of a transfer, and what the rest of the stack does with it. -/
structure Block1Request (B : BufferSettings) (k : BlockwiseKey) where
  env : EngineEnv
  data : OcString
  settings : env.settings = B
  parsed : (parseMessage env data k.endpoint).1 = coapNoError
  request : isRequest (parseMessage env data k.endpoint).2 = true
  block1 : (parseMessage env data k.endpoint).2.isOption coapOptionBlock1 = true
  key : requestKey (parseMessage env data k.endpoint).2 k.endpoint = k

/-- The message of a request. -/
def Block1Request.message {B : BufferSettings} {k : BlockwiseKey} (a : Block1Request B k) : CoapPacket :=
  (parseMessage a.env a.data k.endpoint).2

/-- The branch by the block options that a request comes to, unless it is dropped on the way. -/
def servedStep (env : EngineEnv) (st : Engine) (message : CoapPacket) (endpoint : OcEndpoint) : Option ServerStep :=
  match initResponse message endpoint (clearTransaction st message endpoint) with
  | (none, _) => none
  | (some response, st) =>
    if env.transactionAvailable then some (serverStep env env.csmState message endpoint st response) else none

/-! ## Transfers -/

/-- What the resource layer was handed for a last block: the payload, the bytes of the transfer, and where the block
begins and how long it is. -/
structure Delivery where
  payload : OcString
  transfer : OcString
  offset : Nat
  length : Nat

/-- The payload is the transfer, and it ends with the block. -/
def Delivery.Whole (d : Delivery) : Prop := d.payload = d.transfer ∧ d.payload.length = d.offset + d.length

/-- The bytes of the current transfer in front of a block. -/
def transferBefore (transfer : OcString) (message : CoapPacket) : OcString :=
  if message.block1.num = 0 then [] else transfer

/-- The bytes of the current transfer with a block. -/
def transferWith (transfer : OcString) (message : CoapPacket) : OcString :=
  Chunks.put (transferBefore transfer message) message.block1.offset.toNat message.payload

/-- The current transfer behind a request: a block is part of it if it is acknowledged with 2.31 or handed over. -/
def transferAfter (transfer : OcString) (message : CoapPacket) : Option ServerStep → OcString
  | none => transfer
  | some step =>
    match step.next with
    | .reset _ _ => transfer
    | _ => transferWith transfer message

/-- The payloads that the resource layer is handed. -/
def handedOver (out : List Output) : List OcString :=
  out.filterMap fun
    | .handler payload => some payload
    | _ => none

/-- A run: the engine, the bytes of the current transfer, and the deliveries. -/
structure Assembly where
  engine : Engine
  transfer : OcString
  delivered : List Delivery

/-- One request. -/
def Assembly.step {B : BufferSettings} {k : BlockwiseKey} (s : Assembly) (a : Block1Request B k) : Assembly :=
  let (engine, out) := coapReceive a.env s.engine a.data k.endpoint
  let transfer := transferAfter s.transfer a.message (servedStep a.env s.engine a.message k.endpoint)
  ⟨engine, transfer, s.delivered ++
    (handedOver out).map fun payload => ⟨payload, transfer, a.message.block1.offset.toNat, a.message.payload.length⟩⟩

/-! ## The condition -/

/-- The bytes that a buffer has. -/
def BlockwiseState.stored (b : BlockwiseState) : OcString := b.buffer.take b.nextBlockOffset.toNat

/-- The block is not cut when it is stored. -/
structure WholeBlock (B : BufferSettings) (message : CoapPacket) : Prop where
  size : message.payload.length ≤ (block1Size B message).toNat
  stop : message.block1.offset.toNat + message.payload.length < 2 ^ 32

/-- The block begins within the current transfer, or right behind it. Below the write position of the buffer it repeats
what is stored there, and ends at the write position if it is the last one. -/
structure Continues (transfer : OcString) (message : CoapPacket) (b : BlockwiseState) : Prop where
  within : message.block1.offset.toNat ≤ (transferBefore transfer message).length
  again : message.block1.offset < b.nextBlockOffset →
    Chunks.StandsAt b.stored message.block1.offset.toNat message.payload ∧
      (message.block1.more = 0 → message.block1.offset.toNat + message.payload.length = b.nextBlockOffset.toNat)

/-- The condition on a block that is not dropped on the way, by the buffer that it goes to: there is one, and it reaches
the block, or the block makes a new one. -/
def InOrder {B : BufferSettings} {k : BlockwiseKey} (s : Assembly) (a : Block1Request B k) : Prop :=
  (servedStep a.env s.engine a.message k.endpoint).isSome = true →
    match (findBlock1Buffer s.engine a.message k.endpoint).1 with
    | some b => a.message.block1.offset ≤ b.nextBlockOffset → WholeBlock B a.message ∧ Continues s.transfer a.message b
    | none => a.message.block1.num = 0 → WholeBlock B a.message

end SmartGarage
