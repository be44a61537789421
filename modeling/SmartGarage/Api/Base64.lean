/-
`oc_base64.c`: the in-place Base64 decoder. Output is only written behind the read position, so
the loop is a fold over the input that collects the output.
-/
import SmartGarage.Api.Basic

namespace SmartGarage

/-- The 6-bit value of a character of the Base64 alphabet. -/
def base64Value (ch : UInt8) : Option UInt8 :=
  if 65 ≤ ch ∧ ch ≤ 90 then some (ch - 65)
  else if 97 ≤ ch ∧ ch ≤ 122 then some (ch - 71)
  else if 48 ≤ ch ∧ ch ≤ 57 then some (ch + 4)
  else if ch = 43 then some 62
  else if ch = 47 then some 63
  else none

/-- The loop of `oc_base64_decode` at the index `i`, with the pending byte `val_c` and the output
so far; padding ends it, and is an error before the last two characters. -/
def base64Loop (len : Nat) : Nat → UInt8 → OcString → OcString → Option OcString
  | _, _, out, [] => some out
  | i, valC, out, ch :: rest =>
    if ch = 61 then
      if i + 2 < len then none
      else if i + 2 = len ∧ rest.head? ≠ some 61 then none
      else some out
    else match base64Value ch with
      | none => none
      | some valS =>
        if i % 4 = 0 then base64Loop len (i + 1) ((valS <<< 2) &&& 0xFD) out rest
        else if i % 4 = 1 then base64Loop len (i + 1) ((valS <<< 4) &&& 0xF0) (out ++ [valC ||| (valS >>> 4)]) rest
        else if i % 4 = 2 then base64Loop len (i + 1) ((valS <<< 6) &&& 0xD0) (out ++ [valC ||| (valS >>> 2)]) rest
        else base64Loop len (i + 1) (valC ||| valS) (out ++ [valC ||| valS]) rest

/-- `oc_base64_decode`: the decoded bytes, or `none` where it returns -1. -/
def ocBase64Decode (str : OcString) : Option OcString :=
  if str.length % 4 ≠ 0 then none else base64Loop str.length 0 0 [] str

end SmartGarage
