/-
`oc_parse_rep`: from the items of a CBOR payload, as tinycbor's iterator gives them, to the tree of `oc_rep_t`
records. An array is written, element by element, to a block that is allocated for its first element. The functions
of tinycbor follow its documentation.
-/
import SmartGarage.Api.Rep

namespace SmartGarage

/-! ## Items -/

/-- The types of items that the parser has no case for. -/
inductive OtherType
  | simple | null | undefined | halfFloat | float
deriving DecidableEq

/-- A CBOR item. The items of a map are its keys and values in turn, a double is taken as its bits, and a string
is the same in one chunk or in several; `definite` says whether an array announces its length. -/
inductive Cbor
  | integer (v : Int)
  | boolean (b : Bool)
  | double (bits : UInt64)
  | byteString (b : OcString)
  | textString (t : OcString)
  | map (items : List Cbor)
  | array (definite : Bool) (items : List Cbor)
  | tag (content : Cbor)
  | other (type : OtherType)

/-- `CborType` -/
inductive CborType
  | integer | byteString | textString | array | map | tag | boolean | double
  | other (type : OtherType)
deriving DecidableEq

/-- `cbor_value_get_type` -/
def Cbor.type : Cbor → CborType
  | integer _ => .integer
  | boolean _ => .boolean
  | double _ => .double
  | byteString _ => .byteString
  | textString _ => .textString
  | map _ => .map
  | array _ _ => .array
  | tag _ => .tag
  | other t => .other t

/-- How often the iterator stops at an item: a tag and its content are two stops. -/
def Cbor.stops : Cbor → Nat
  | tag content => content.stops + 1
  | _ => 1

/-- `len` of an array: what it announces, or else the stops that are counted. A tag is no item of its own for the
length that is announced. -/
def arrayLength (definite : Bool) (items : List Cbor) : Nat :=
  if definite then items.length else (items.map Cbor.stops).sum

/-! ## The records -/

/-- The types of `oc_rep_value_type_t` that an element of an array may have. -/
inductive ElementType
  | int | double | bool | byteString | string | object
deriving DecidableEq

/-- The number of the type. -/
def ElementType.code : ElementType → UInt8
  | int => 1
  | double => 2
  | bool => 3
  | byteString => 4
  | string => 5
  | object => 6

/-- `OC_REP_ARRAY` -/
def repArray : UInt8 := 8

/-- `cur->type` while the elements of an array are read: zero, or the type of the first element and
`OC_REP_ARRAY`. -/
def arrayTypeCode : Option ElementType → UInt8
  | none => 0
  | some type => type.code ||| repArray

/-- `(cur->type & type) == type` -/
def typeTest (type : Option ElementType) (element : ElementType) : Bool :=
  arrayTypeCode type &&& element.code == element.code

/-- What is written for an element: a value, or the bytes of a slot of a string array. -/
inductive Content
  | int (v : Int)
  | double (bits : UInt64)
  | bool (b : Bool)
  | slot (bytes : OcString)
deriving DecidableEq

/-- An element that has been written: as which type, and as which item. -/
structure Stored where
  type : ElementType
  index : Nat
  content : Content
deriving DecidableEq

/-- The value of a record that holds no other records. -/
inductive RepScalar
  | nil
  | int (v : Int)
  | bool (b : Bool)
  | double (bits : UInt64)
  | byteString (b : OcString)
  | string (t : OcString)
deriving DecidableEq

/-- `oc_rep_t`: the records of an object are a list. Of an array the record keeps the type, the length of the
block, the elements written to it, and the number of elements the parser has gone through; `stray` are the
elements that have been written as if an array of objects had a block. -/
inductive RepNode
  | leaf (name : OcString) (value : RepScalar)
  | object (name : OcString) (entries : List RepNode)
  | array (name : OcString) (type : ElementType) (length : Nat) (stored : List Stored) (count : Nat)
  | objectArray (name : OcString) (objects : List (List RepNode)) (stray : List Stored) (count : Nat)

/-- Why `oc_parse_rep` fails: an item of the wrong type, or a string that does not fit. -/
inductive RepError
  | illegalType
  | outOfMemory
deriving DecidableEq

/-! ## Arrays -/

/-- What the loop over the elements of an array has reached. -/
structure ArrayState where
  type : Option ElementType
  stored : List Stored
  objects : List (List RepNode)
  count : Nat

namespace ArrayState

variable (s : ArrayState)

/-- The state before the first element. -/
def start : ArrayState := ⟨none, [], [], 0⟩

/-- The type of an element is that of the array if it is the first one, and is tested otherwise. -/
def accept (element : ElementType) : Except RepError ArrayState :=
  if s.count = 0 then .ok { s with type := some element }
  else if typeTest s.type element then .ok s
  else .error .illegalType

/-- An element without a case is passed over. -/
def skip : ArrayState := { s with count := s.count + 1 }

/-- An element is written. -/
def store (element : ElementType) (content : Content) : ArrayState :=
  { s with stored := s.stored ++ [⟨element, s.count, content⟩], count := s.count + 1 }

/-- An object is added. -/
def addObject (entries : List RepNode) : ArrayState := { s with objects := s.objects ++ [entries], count := s.count + 1 }

/-- The record of an array. -/
def node (name : OcString) (length : Nat) : RepNode :=
  match s.type with
  | none => .leaf name .nil
  | some .object => .objectArray name s.objects s.stored s.count
  | some type => .array name type length s.stored s.count

end ArrayState

/-- `cbor_value_get_int64`: the range is not checked. -/
def cborValueGetInt64 (v : Int) : Int := v.bmod (2 ^ 64)

/-- `cbor_value_copy_text_string` and `cbor_value_copy_byte_string` to a buffer: they end a string with a zero byte
where there is room for it. -/
def copyString (room : Nat) (s : OcString) : Except RepError OcString :=
  if s.length > room then .error .outOfMemory
  else if s.length < room then .ok (s ++ [0])
  else .ok s

/-! ## Parsing -/

/-- The key of a property. -/
def repKey : Cbor → Except RepError OcString
  | .textString t => .ok t
  | _ => .error .illegalType

section Parse

variable (itemMax : Nat)

mutual

/-- The records of the keys and values of a map: a key without a value is an error. -/
def parseEntries : List Cbor → Except RepError (List RepNode)
  | [] => .ok []
  | [_] => .error .illegalType
  | key :: value :: rest => do
    let name ← repKey key
    let node ← parseValue name value
    let nodes ← parseEntries rest
    .ok (node :: nodes)

/-- `oc_parse_rep_value` behind the key; tags are passed over. -/
def parseValue (name : OcString) : Cbor → Except RepError RepNode
  | .tag content => parseValue name content
  | .integer v => .ok (.leaf name (.int (cborValueGetInt64 v)))
  | .boolean b => .ok (.leaf name (.bool b))
  | .double bits => .ok (.leaf name (.double bits))
  | .byteString b => .ok (.leaf name (.byteString b))
  | .textString t => .ok (.leaf name (.string t))
  | .map items => do
    let entries ← parseEntries items
    .ok (.object name entries)
  | .array definite items => do
    let s ← parseItems .start items
    .ok (s.node name (arrayLength definite items))
  | .other _ => .ok (.leaf name .nil)

/-- The loop over the elements of an array. -/
def parseItems (s : ArrayState) : List Cbor → Except RepError ArrayState
  | [] => .ok s
  | item :: rest => do
    let s ← parseItem s item
    parseItems s rest

/-- One element of an array. `itemMax` is `STRING_ARRAY_ITEM_MAX_LEN`, the size of the slot of a string. -/
def parseItem (s : ArrayState) : Cbor → Except RepError ArrayState
  | .tag content => parseItem s.skip content
  | .integer v => do
    let s ← s.accept .int
    .ok (s.store .int (.int (cborValueGetInt64 v)))
  | .boolean b => do
    let s ← s.accept .bool
    .ok (s.store .bool (.bool b))
  | .double bits => do
    let s ← s.accept .double
    .ok (s.store .double (.double bits))
  | .byteString b => do
    let s ← s.accept .byteString
    -- the length goes to the byte before the string, and the room is just the length
    let length := min b.length (itemMax - 1)
    let bytes ← copyString length b
    .ok (s.store .byteString (.slot (UInt8.ofNat length :: bytes)))
  | .textString t => do
    let s ← s.accept .string
    let bytes ← copyString (min (t.length + 1) itemMax) t
    .ok (s.store .string (.slot bytes))
  | .map items => do
    let s ← s.accept .object
    let entries ← parseEntries items
    .ok (s.addObject entries)
  | .array _ _ => .ok s.skip
  | .other _ => .ok s.skip

end

/-- The objects of an array at the root. To enter an item that is no container is outside of what tinycbor
documents, and taken as an error. -/
def parseRootItems : List Cbor → Except RepError (List RepNode)
  | [] => .ok []
  | .map items :: rest | .array _ items :: rest => do
    let entries ← parseEntries itemMax items
    let nodes ← parseRootItems rest
    .ok (.object [] entries :: nodes)
  | _ => .error .illegalType

/-- `oc_parse_rep` -/
def ocParseRep : Cbor → Except RepError (List RepNode)
  | .map items => parseEntries itemMax items
  | .array _ items => parseRootItems itemMax items
  | _ => .ok []

end Parse

/-! ## Steps that may fail -/

theorem bind_eq_ok {ε α β : Type} {x : Except ε α} {f : α → Except ε β} {b : β} :
    (x >>= f) = .ok b ↔ ∃ a, x = .ok a ∧ f a = .ok b := by
  cases x with
  | ok a => exact ⟨fun h => ⟨a, rfl, h⟩, fun ⟨_, heq, h⟩ => by cases heq; exact h⟩
  | error e => exact ⟨fun h => (nomatch h), fun ⟨_, heq, _⟩ => nomatch heq⟩

theorem isOk_iff {ε α : Type} {x : Except ε α} : x.isOk = true ↔ ∃ a, x = .ok a := by
  cases x with
  | ok a => exact ⟨fun _ => ⟨a, rfl⟩, fun _ => rfl⟩
  | error e => exact ⟨fun h => (Bool.false_ne_true h).elim, fun ⟨_, heq⟩ => nomatch heq⟩

theorem isOk_bind {ε α β : Type} {x : Except ε α} {f : α → Except ε β} :
    (x >>= f).isOk = true ↔ ∃ a, x = .ok a ∧ (f a).isOk = true := by
  cases x with
  | ok a => exact ⟨fun h => ⟨a, rfl, h⟩, fun ⟨_, heq, h⟩ => by cases heq; exact h⟩
  | error e => exact ⟨fun h => (Bool.false_ne_true h).elim, fun ⟨_, heq, _⟩ => nomatch heq⟩

end SmartGarage
