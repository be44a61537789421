/-
The macros that encode a representation, as the items they add to the open container, and the values that are
built with them.
-/
import SmartGarage.Api.RepParse

namespace SmartGarage

/-! ## Values in an object -/

section Set

variable (key : OcString)

/-- `oc_rep_set_int` -/
def ocRepSetInt (value : Int) : List Cbor := [.textString key, .integer value]

/-- `oc_rep_set_uint` -/
def ocRepSetUint (value : UInt64) : List Cbor := [.textString key, .integer value.toNat]

/-- `oc_rep_set_double` -/
def ocRepSetDouble (bits : UInt64) : List Cbor := [.textString key, .double bits]

/-- `oc_rep_set_boolean` -/
def ocRepSetBoolean (value : Bool) : List Cbor := [.textString key, .boolean value]

/-- `oc_rep_set_text_string`: a null pointer is the empty text. -/
def ocRepSetTextString (value : Option OcString) : List Cbor := [.textString key, .textString (value.getD [])]

/-- `oc_rep_set_byte_string` -/
def ocRepSetByteString (value : OcString) : List Cbor := [.textString key, .byteString value]

/-- `oc_rep_set_int_array` -/
def ocRepSetIntArray (values : List Int) : List Cbor := [.textString key, .array true (values.map .integer)]

/-- `oc_rep_set_bool_array` -/
def ocRepSetBoolArray (values : List Bool) : List Cbor := [.textString key, .array true (values.map .boolean)]

/-- `oc_rep_set_double_array` -/
def ocRepSetDoubleArray (values : List UInt64) : List Cbor := [.textString key, .array true (values.map .double)]

/-- `oc_rep_set_string_array`: an empty item is left out. -/
def ocRepSetStringArray (values : List OcString) : List Cbor :=
  [.textString key, .array false ((values.filter fun t => decide (t.length > 0)).map .textString)]

/-- `oc_rep_open_array` with what is added until `oc_rep_close_array`. -/
def ocRepOpenArray (items : List Cbor) : List Cbor := [.textString key, .array false items]

/-- `oc_rep_open_object` with what is set until `oc_rep_close_object`. -/
def ocRepOpenObject (entries : List Cbor) : List Cbor := [.textString key, .map entries]

end Set

/-! ## Items of an array -/

/-- `oc_rep_add_int` -/
def ocRepAddInt (value : Int) : Cbor := .integer value

/-- `oc_rep_add_double` -/
def ocRepAddDouble (bits : UInt64) : Cbor := .double bits

/-- `oc_rep_add_boolean` -/
def ocRepAddBoolean (value : Bool) : Cbor := .boolean value

/-- `oc_rep_add_text_string` -/
def ocRepAddTextString (value : Option OcString) : Cbor := .textString (value.getD [])

/-- `oc_rep_add_byte_string` -/
def ocRepAddByteString (value : OcString) : Cbor := .byteString value

/-- `oc_rep_object_array_begin_item` with what is set until `oc_rep_object_array_end_item`. -/
def ocRepObjectArrayItem (entries : List Cbor) : Cbor := .map entries

/-! ## Values -/

/-- What is put under a key, by the macros it is built with. -/
inductive RepBuild
  | setInt (value : Int)
  | setUint (value : UInt64)
  | setDouble (bits : UInt64)
  | setBoolean (value : Bool)
  | setTextString (value : OcString)
  | setByteString (value : OcString)
  | setIntArray (values : List Int)
  | setBoolArray (values : List Bool)
  | setDoubleArray (values : List UInt64)
  | setStringArray (values : List OcString)
  | addInts (values : List Int)
  | addDoubles (values : List UInt64)
  | addBooleans (values : List Bool)
  | addTextStrings (values : List OcString)
  | addByteStrings (values : List OcString)
  | object (entries : List (OcString × RepBuild))
  | objects (items : List (List (OcString × RepBuild)))

namespace RepBuild

mutual

/-- The items that the macros encode for a key and a value. -/
def encode (key : OcString) : RepBuild → List Cbor
  | setInt value => ocRepSetInt key value
  | setUint value => ocRepSetUint key value
  | setDouble bits => ocRepSetDouble key bits
  | setBoolean value => ocRepSetBoolean key value
  | setTextString value => ocRepSetTextString key (some value)
  | setByteString value => ocRepSetByteString key value
  | setIntArray values => ocRepSetIntArray key values
  | setBoolArray values => ocRepSetBoolArray key values
  | setDoubleArray values => ocRepSetDoubleArray key values
  | setStringArray values => ocRepSetStringArray key values
  | addInts values => ocRepOpenArray key (values.map ocRepAddInt)
  | addDoubles values => ocRepOpenArray key (values.map ocRepAddDouble)
  | addBooleans values => ocRepOpenArray key (values.map ocRepAddBoolean)
  | addTextStrings values => ocRepOpenArray key (values.map fun t => ocRepAddTextString (some t))
  | addByteStrings values => ocRepOpenArray key (values.map ocRepAddByteString)
  | object entries => ocRepOpenObject key (encodeEntries entries)
  | objects items => ocRepOpenArray key (encodeObjects items)

/-- The items of an object. -/
def encodeEntries : List (OcString × RepBuild) → List Cbor
  | [] => []
  | (key, value) :: rest => encode key value ++ encodeEntries rest

/-- The items of an array of objects. -/
def encodeObjects : List (List (OcString × RepBuild)) → List Cbor
  | [] => []
  | entries :: rest => ocRepObjectArrayItem (encodeEntries entries) :: encodeObjects rest

end

/-- `oc_rep_begin_root_object` with what is set until `oc_rep_end_root_object`. -/
def ocRepRootObject (entries : List (OcString × RepBuild)) : Cbor := .map (encodeEntries entries)

mutual

/-- The entry that stands for a key and a value. -/
def entry (key : OcString) : RepBuild → OcRep
  | setInt value => .int (some key) value
  | setUint value => .int (some key) value.toInt64.toInt
  | setDouble bits => .double (some key) bits
  | setBoolean value => .bool (some key) value
  | setTextString value => .string (some key) value
  | setByteString value => .byteString (some key) value
  | setIntArray values | addInts values => .intArray (some key) values
  | setBoolArray values | addBooleans values => .boolArray (some key) values
  | setDoubleArray values | addDoubles values => .doubleArray (some key) values
  | setStringArray values => .stringArray (some key) (values.filter fun t => decide (t.length > 0))
  | addTextStrings values => .stringArray (some key) values
  | addByteStrings values => .byteStringArray (some key) values
  | object entries => .object (some key) (entriesOf entries)
  | objects items => .objectArray (some key) (objectsOf items)

/-- The entries of an object. -/
def entriesOf : List (OcString × RepBuild) → List OcRep
  | [] => []
  | (key, value) :: rest => entry key value :: entriesOf rest

/-- The entries of the objects of an array. -/
def objectsOf : List (List (OcString × RepBuild)) → List (List OcRep)
  | [] => []
  | entries :: rest => entriesOf entries :: objectsOf rest

end

/-! ## Values that can be encoded -/

section Encodable

variable (itemMax : Nat)

/-- A signed integer of 64 bits. -/
def InInt64 (value : Int) : Prop := -2 ^ 63 ≤ value ∧ value < 2 ^ 63

mutual

/-- Texts are C strings, integers have 64 bits, arrays are not empty, and the items of an array of strings are
shorter than their slots. -/
def Encodable : RepBuild → Prop
  | setInt value => InInt64 value
  | setUint _ | setDouble _ | setBoolean _ | setByteString _ => True
  | setTextString value => 0 ∉ value
  | setIntArray values | addInts values => values ≠ [] ∧ ∀ v ∈ values, InInt64 v
  | setBoolArray values | addBooleans values => values ≠ []
  | setDoubleArray values | addDoubles values => values ≠ []
  | setStringArray values => (∃ t ∈ values, t ≠ []) ∧ ∀ t ∈ values, 0 ∉ t ∧ t.length < itemMax - 1
  | addTextStrings values => values ≠ [] ∧ ∀ t ∈ values, 0 ∉ t ∧ t.length < itemMax - 1
  | addByteStrings values => values ≠ [] ∧ ∀ b ∈ values, b.length < itemMax - 1
  | object entries => EncodableEntries entries
  | objects items => items ≠ [] ∧ EncodableObjects items

/-- The entries of an object. -/
def EncodableEntries : List (OcString × RepBuild) → Prop
  | [] => True
  | (key, value) :: rest => 0 ∉ key ∧ Encodable value ∧ EncodableEntries rest

/-- The objects of an array. -/
def EncodableObjects : List (List (OcString × RepBuild)) → Prop
  | [] => True
  | entries :: rest => EncodableEntries entries ∧ EncodableObjects rest

end

end Encodable

end RepBuild

end SmartGarage
