/-
`oc_client_api.c`: a request with a payload over UDP (`oc_init_put` or `oc_init_post`, then `oc_do_put` or
`oc_do_post`), and the block of an upload that `coap_receive` sends in answer to a response.
-/
import SmartGarage.Messaging.EngineFrame

namespace SmartGarage

/-! ## Requests -/

section Request

variable (env : EngineEnv) (st : Engine) (cb : ClientCb)

/-- `oc_ri_alloc_client_cb`: the callback is the last one. -/
def addClientCb : Engine := { st with clientCbs := st.clientCbs ++ [cb] }

/-- The options that `prepare_coap_request` sets. -/
def preparedRequest : CoapPacket :=
  let request := coapUdpInitMessage (if cb.highQos then .con else .non) cb.method cb.mid
  let request := ((request.setHeaderAccept 10000).setToken cb.token).setHeaderUriPath cb.uri
  withQuery cb (if cb.observeSeq ≠ notObserved then request.setHeaderObserve cb.observeSeq else request)

/-- `prepare_coap_request` for a method with a payload: the request buffer, without the first slash of the path. -/
def prepareCoapRequest : Option (BlockwiseState × Engine) :=
  if env.transactionAvailable then
    match ocBlockwiseAllocRequestBuffer env st cb.uri.tail cb.endpoint cb.method .client [] with
    | some (b, st) =>
      let b := { b with mid := cb.mid, clientCb := some cb.id }
      some (b, st.setRequest b)
    | none => none
  else none

/-- `oc_rep_get_encoded_payload_size`, which returns an `int`. -/
def encodedPayloadSize (payload : OcString) : Int :=
  if payload.length % 2 ^ 32 < 2 ^ 31 then payload.length % 2 ^ 32 else payload.length % 2 ^ 32 - 2 ^ 32

/-- The payload of a request in its buffer, the packet, and the callback: a payload that is longer than a block goes
in blocks, and the first one is confirmable. A buffer that is not needed any more has no references left. -/
def dispatchPayload (request : CoapPacket) (b : BlockwiseState) (size : Int) : CoapPacket × BlockwiseState × ClientCb :=
  if size > 0 then
    let b := { b with payloadSize := UInt32.ofNat size.toNat }
    if size > env.settings.blockSize then
      match ocBlockwiseDispatchBlock b 0 (UInt32.ofNat env.settings.blockSize) with
      | some (b', payload) =>
        let length := dispatchLength b 0 (UInt32.ofNat env.settings.blockSize)
        let request := (request.setPayload env.settings payload).setHeaderBlock1 0 1 length.toUInt16
        ({ request.setHeaderSize1 (UInt32.ofNat size.toNat) with type := .con }, b', { cb with highQos := true })
      | none => (request, b, cb)
    else (request.setPayload env.settings (b.buffer.take size.toNat), { b with refCount := 0 }, cb)
  else (request, b, cb)

/-- `dispatch_coap_request` for a payload that the application has written to the request buffer, of the given
encoded size: the packet if it can be serialised, and the engine behind it. -/
def dispatchSized (csm : CsmState) (b : BlockwiseState) (payload : OcString) (size : Int) :
    Option CoapPacket × Engine × List Output :=
  let (request, b, cb') := dispatchPayload env cb (preparedRequest cb) { b with buffer := writeAt b.buffer 0 payload } size
  let request := if size > 0 then request.setHeaderContentFormat 10000 else request
  let st := (st.setRequest b).setCb cb'
  let data := coapSerializeMessage request
  if data.length > 0 then
    let (st, out) := coapSendTransaction env csm st cb.mid cb.endpoint data
    (some request, if b.refCount = 0 then st.freeRequest b.id else st, out)
  else (none, st.freeClientCb cb.id, [])

/-- `dispatch_coap_request` -/
def dispatchCoapRequest (csm : CsmState) (b : BlockwiseState) (payload : OcString) :
    Option CoapPacket × Engine × List Output :=
  dispatchSized env st cb csm b payload (encodedPayloadSize payload)

end Request

/-! ## Blocks of an upload -/

section Block

variable (env : EngineEnv) (st : Engine) (message : CoapPacket) (endpoint : OcEndpoint)

/-- The request buffer of the block that a response makes the client send, and the packet. -/
def blockSent : Option (Nat × CoapPacket) :=
  match findUploadBuffer st message endpoint (responseCb st message) with
  | some b =>
    if asksForUpload message = true ∧ env.transactionAvailable = true then
      match nextUploadBlock env message b, b.clientCb.bind st.clientCb with
      | (some (b', payload), size), some cb =>
        let p := blockRequest env message (uploadMessage env message b' cb (st.currentMid + 1) payload size) none
        if (coapSerializeMessage p).length > 0 then some (b.id, p) else none
      | _, _ => none
    else none
  | none => none

end Block

end SmartGarage
