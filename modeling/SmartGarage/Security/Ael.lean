/-
The audit event log of a device, `oc_ael.c`. Events pass the filters and are kept as long as the sizes of all of them,
in a running counter, are within `maxsize`; from the storage they are added the same way.
-/
import SmartGarage.Api.RepRead
import SmartGarage.Lib.BoundedLog
import SmartGarage.Security.State

namespace SmartGarage.Ael

/-! ## The log -/

/-- The sizes of the platform: of an event, of a pointer, the bits of a `size_t`, and `STRING_ARRAY_ITEM_MAX_LEN`. -/
structure Abi where
  sizeofEvent : Nat
  sizeofPointer : Nat
  sizeBits : Nat
  itemMax : Nat
  sizeBits_le : 32 ≤ sizeBits
  itemMax_le : 32 ≤ itemMax

/-- `OC_SEC_AEL_MAX_SIZE` -/
def OC_SEC_AEL_MAX_SIZE : Nat := 1024 * 2

/-- `AEL_AUX_INFO_MAX_ITEMS` -/
def AEL_AUX_INFO_MAX_ITEMS : Nat := 256

/-- `oc_sec_ael_event_t`; an absent string is `[]`. -/
structure OcSecAelEvent where
  size : Nat
  category : UInt8
  priority : UInt8
  timestamp : BitVec 64
  aeid : OcString
  message : OcString
  auxInfo : List OcString
deriving DecidableEq

/-- `oc_sec_ael_t` -/
structure OcSecAel where
  categoryfilter : UInt8
  priorityfilter : UInt8
  maxsize : Nat
  unit : Nat
  eventsSize : Nat
  events : List OcSecAelEvent
deriving DecidableEq

/-- What `oc_sec_ael_init` leaves. -/
def OcSecAel.zero : OcSecAel := ⟨0, 0, 0, 0, 0, []⟩

/-- The arguments of `oc_sec_ael_add_event`: `none` is a null pointer, and an array without items may be one too. -/
structure AelArgs where
  category : UInt8
  priority : UInt8
  timestamp : BitVec 64
  aeid : Option OcString
  message : Option OcString
  aux : List OcString

/-- `strlen` -/
def strlen (s : OcString) : Nat := (cstr s).length

/-- The space of a string that may be absent. -/
def stringSize : Option OcString → Nat
  | some s => strlen s + 1
  | none => 0

section Add

variable (abi : Abi)

/-- `oc_sec_ael_calc_event_size`. The sum does not wrap: there is memory for a copy of everything. -/
def calcEventSize (args : AelArgs) : Nat :=
  abi.sizeofEvent + stringSize args.aeid + stringSize args.message +
    (args.aux.length * abi.sizeofPointer + (args.aux.map fun aux => strlen aux + 1).sum)

/-- `oc_sec_ael_create_event` -/
def createEvent (args : AelArgs) (eventSz : Nat) : OcSecAelEvent where
  size := eventSz
  category := args.category
  priority := args.priority
  timestamp := args.timestamp
  aeid := cstr (args.aeid.getD [])
  message := cstr (args.message.getD [])
  auxInfo := args.aux.map cstr

/-- The loop that deletes old events, with the running counter. -/
def deleteOld (maxsize eventSz : Nat) : List OcSecAelEvent → Nat → List OcSecAelEvent × Nat
  | [], eventsSize => ([], eventsSize)
  | t :: rest, eventsSize =>
    if (eventSz + eventsSize) % 2 ^ abi.sizeBits > maxsize then
      deleteOld maxsize eventSz rest ((eventsSize + (2 ^ abi.sizeBits - t.size)) % 2 ^ abi.sizeBits)
    else (t :: rest, eventsSize)

variable (a : OcSecAel)

/-- The filters let an event pass. -/
def OcSecAel.passes (category priority : UInt8) : Bool :=
  a.categoryfilter &&& category ≠ 0 && !decide (a.priorityfilter < priority)

/-- `oc_sec_ael_add_event`; all allocations succeed. -/
def addEvent (args : AelArgs) : Bool × OcSecAel :=
  if !a.passes args.category args.priority then (false, a)
  else
    let eventSz := calcEventSize abi args
    if eventSz > a.maxsize then (false, a)
    else
      let (events, eventsSize) := deleteOld abi a.maxsize eventSz a.events a.eventsSize
      let e := createEvent args eventSz
      (true, { a with events := events ++ [e], eventsSize := (eventsSize + e.size) % 2 ^ abi.sizeBits })

end Add

/-- `oc_sec_ael_default` -/
def ocSecAelDefault : OcSecAel := ⟨0xff, 4, OC_SEC_AEL_MAX_SIZE, 0, 0, []⟩

/-! ## Decoding -/

section Decode

variable (abi : Abi) (fromStorage : Bool)

/-- The first loop of `oc_sec_ael_decode`, at a record. -/
def decodeFilter (a : OcSecAel) : RepNode → OcSecAel
  | .leaf name (.int v) =>
    if name = ascii "categoryfilter" then { a with categoryfilter := UInt8.ofInt v }
    else if name = ascii "priorityfilter" then { a with priorityfilter := UInt8.ofInt v }
    else if fromStorage && name = ascii "maxspace" then { a with maxsize := (v % 2 ^ abi.sizeBits).toNat }
    else if fromStorage && name = ascii "unit" then { a with unit := (v % 2 ^ 32).toNat }
    else a
  | _ => a

/-- The string at the start of some slots: it ends at a zero byte, and without one it goes on in the next slot. -/
def slotText : List Content → Option OcString
  | .slot bytes :: rest => if 0 ∈ bytes then some (cstr bytes) else (slotText rest).map (bytes ++ ·)
  | _ => none

/-- The items of an array of strings, as `oc_string_array_get_item` points to them. -/
def slotTexts : List Content → Option (List OcString)
  | [] => some []
  | content :: rest => do
    let text ← slotText (content :: rest)
    let texts ← slotTexts rest
    some (text :: texts)

/-- A property of an event; `none` where the array of pointers is too short, or a string does not end. -/
def decodeEventProperty (args : AelArgs) : RepNode → Option AelArgs
  | .leaf name (.int v) =>
    some <|
      if name = ascii "category" then { args with category := UInt8.ofInt v }
      else if name = ascii "priority" then { args with priority := UInt8.ofInt v }
      else if name = ascii "timestamp" then { args with timestamp := BitVec.ofInt 64 v }
      else args
  | .leaf name (.string t) =>
    some <|
      if name = ascii "aeid" then { args with aeid := some t }
      else if name = ascii "message" then { args with message := some t }
      else args
  | .array name .string length stored _ =>
    if name = ascii "auxiliaryinfo" then
      if length > AEL_AUX_INFO_MAX_ITEMS then none
      else ((RepBlock.items ⟨stored, length⟩ some).bind slotTexts).map fun aux => { args with aux := aux }
    else some args
  | _ => some args

/-- An item of `events`. -/
def decodeEvent (item : List RepNode) : Option AelArgs :=
  item.foldlM decodeEventProperty ⟨0, 0, 0, none, none, []⟩

/-- The second loop of `oc_sec_ael_decode`, at a record. -/
def decodeEvents (a : OcSecAel) : RepNode → Option OcSecAel
  | .objectArray name objects _ _ =>
    if fromStorage && name = ascii "events" then
      objects.foldlM (fun a item => (decodeEvent item).map fun args => (addEvent abi a args).2) a
    else some a
  | _ => some a

/-- `oc_sec_ael_decode`; `none` where it accesses what is outside of an array. -/
def ocSecAelDecode (a : OcSecAel) (rep : List RepNode) : Option OcSecAel :=
  rep.foldlM (decodeEvents abi fromStorage) (rep.foldl (decodeFilter abi fromStorage) a)

end Decode

/-- `post_ael` in the device state `s`, for an interface that it serves. -/
def postAel (abi : Abi) (s : OcDostype) (a : OcSecAel) (rep : List RepNode) : Option OcSecAel :=
  if s = .rfnop then some a else ocSecAelDecode abi false a rep

end SmartGarage.Ael
