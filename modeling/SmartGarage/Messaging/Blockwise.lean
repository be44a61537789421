/-
`oc_blockwise.c`: the buffers of block-wise transfers, the searches over them, and what storing an
incoming block and dispatching an outgoing one do.
-/
import SmartGarage.Messaging.CoapPacket

namespace SmartGarage

/-! ## Buffers -/

/-- `oc_blockwise_role_t` -/
inductive BlockwiseRole
  | client | server
deriving DecidableEq

/-- `oc_blockwise_state_t` with the fields that a response adds to it. `id` stands for the address, and
`buffer` for the `OC_MAX_APP_DATA_SIZE` bytes of memory. `observeSeq` is -1 where nothing is observed. -/
structure BlockwiseState where
  id : Nat
  href : OcString
  endpoint : OcEndpoint
  method : UInt8
  role : BlockwiseRole
  payloadSize : UInt32
  nextBlockOffset : UInt32
  refCount : UInt8
  buffer : OcString
  uriQuery : OcString
  token : OcString
  mid : UInt16
  clientCb : Option Nat
  etag : OcString
  observeSeq : UInt32
deriving DecidableEq

/-- The bytes of a memory from an index on. -/
def memoryBytes (memory : Nat → UInt8) (start n : Nat) : OcString := (List.range' start n).map memory

@[simp] theorem length_memoryBytes (memory : Nat → UInt8) (start n : Nat) : (memoryBytes memory start n).length = n := by
  rw [memoryBytes, List.length_map, List.length_range']

/-- `oc_blockwise_init_buffer`, for a path that is not empty. The bytes of the buffer are those of the memory that is
allocated. -/
def ocBlockwiseInitBuffer (B : BufferSettings) (memory : Nat → UInt8) (id : Nat) (href : OcString)
    (endpoint : OcEndpoint) (method : UInt8) (role : BlockwiseRole) : BlockwiseState where
  id := id
  href := href
  endpoint := endpoint
  method := method
  role := role
  payloadSize := 0
  nextBlockOffset := 0
  refCount := 1
  buffer := memoryBytes memory 0 B.maxAppDataSize
  uriQuery := []
  token := []
  mid := 0
  clientCb := none
  etag := []
  observeSeq := 0xFFFFFFFF

/-! ## Searches -/

/-- `strncmp(s, t, n) == 0`, where `s` has `n` bytes and `t` ends with a zero byte. -/
def strncmpEq : OcString → OcString → Bool
  | [], _ => true
  | b :: s, t => b == t.headD 0 && (b == 0 || strncmpEq s t.tail)

/-- What a buffer is searched by. -/
structure BlockwiseKey where
  href : OcString
  endpoint : OcEndpoint
  method : UInt8
  query : OcString
  role : BlockwiseRole
deriving DecidableEq

/-- The condition of `oc_blockwise_find_buffer`: the path is compared up to its own length only. -/
def BlockwiseKey.finds (k : BlockwiseKey) (b : BlockwiseState) : Bool :=
  strncmpEq k.href b.href && ocEndpointCompare b.endpoint k.endpoint && b.method == k.method && b.role == k.role &&
    b.uriQuery == k.query

/-- The condition of `oc_blockwise_find_buffer_by_token` -/
def findsByToken (token : OcString) (b : BlockwiseState) : Bool :=
  decide (token.length > 0) && b.role == .client && b.token == token

/-- The condition of `oc_blockwise_find_buffer_by_mid` -/
def findsByMid (mid : UInt16) (b : BlockwiseState) : Bool := b.mid == mid && b.role == .client

/-- The condition of `oc_blockwise_find_buffer_by_client_cb` -/
def findsByClientCb (endpoint : OcEndpoint) (cb : Nat) (b : BlockwiseState) : Bool :=
  b.role == .client && b.clientCb == some cb && ocEndpointCompare endpoint b.endpoint

/-! ## Blocks -/

/-- The memory with some bytes written at an offset. -/
def writeAt (memory : OcString) (offset : Nat) (bytes : OcString) : OcString :=
  memory.take offset ++ bytes ++ memory.drop (offset + bytes.length)

/-- `oc_blockwise_handle_block`: the buffer behind it, or none where the block is refused. A block below
the write position is accepted without being stored. -/
def ocBlockwiseHandleBlock (B : BufferSettings) (b : BlockwiseState) (offset : UInt32) (block : OcString) :
    Option BlockwiseState :=
  if offset.toNat ≥ B.maxAppDataSize % 2 ^ 32 ∨ block.length > B.maxAppDataSize - offset.toNat ∨
      offset > b.nextBlockOffset then none
  else if b.nextBlockOffset = offset then
    some { b with
      buffer := writeAt b.buffer offset.toNat block
      nextBlockOffset := b.nextBlockOffset + UInt32.ofNat block.length }
  else some b

/-- The length that `oc_blockwise_dispatch_block` returns: the whole payload when that is smaller than a
block, wherever the block begins. -/
def dispatchLength (b : BlockwiseState) (offset requested : UInt32) : UInt32 :=
  if b.payloadSize < requested then b.payloadSize else min requested (b.payloadSize - offset)

/-- `oc_blockwise_dispatch_block`: the buffer behind it and the bytes of the block. -/
def ocBlockwiseDispatchBlock (b : BlockwiseState) (offset requested : UInt32) : Option (BlockwiseState × OcString) :=
  if offset < b.payloadSize then
    let length := dispatchLength b offset requested
    some ({ b with nextBlockOffset := offset + length }, (b.buffer.drop offset.toNat).take length.toNat)
  else none

end SmartGarage
