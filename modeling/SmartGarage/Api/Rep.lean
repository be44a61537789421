/-
The representation tree `oc_rep_t` that the CBOR parser hands to the resource handlers: a list of
named entries whose values may again be objects or arrays of objects.
-/
import SmartGarage.Api.Basic
import SmartGarage.Lib.Decimal

namespace SmartGarage

/-- An entry of an `oc_rep_t` list: its name (`none` for an entry of a root array) and its value,
one constructor for each `oc_rep_value_type_t`. -/
inductive OcRep
  | nil (name : Option OcString)
  | int (name : Option OcString) (value : Int)
  | double (name : Option OcString) (bits : UInt64)
  | bool (name : Option OcString) (value : Bool)
  | byteString (name : Option OcString) (value : OcString)
  | string (name : Option OcString) (value : OcString)
  | object (name : Option OcString) (entries : List OcRep)
  | intArray (name : Option OcString) (values : List Int)
  | doubleArray (name : Option OcString) (bits : List UInt64)
  | boolArray (name : Option OcString) (values : List Bool)
  | byteStringArray (name : Option OcString) (values : List OcString)
  | stringArray (name : Option OcString) (values : List OcString)
  | objectArray (name : Option OcString) (items : List (List OcRep))

/-- The `name` field of an entry. -/
def OcRep.name : OcRep → Option OcString
  | nil n | int n _ | double n _ | bool n _ | byteString n _ | string n _ | object n _ | intArray n _
  | doubleArray n _ | boolArray n _ | byteStringArray n _ | stringArray n _ | objectArray n _ => n

/-- `oc_string_len(name) == strlen(s) && memcmp(oc_string(name), s, strlen(s)) == 0` -/
def nameIs (name : Option OcString) (s : String) : Bool := name = some (ascii s)

/-- `(int)value` for a 64-bit CBOR integer. -/
def castInt (v : Int) : Int := v.bmod (2 ^ 32)

/-- `(uint16_t)value` for a 64-bit CBOR integer. -/
def castUInt16 (v : Int) : BitVec 16 := BitVec.ofInt 16 v

/-- `%PRId64` -/
def printInt64 (v : Int) : OcString := (if v < 0 then [45] else []) ++ Decimal.print v.natAbs

end SmartGarage
