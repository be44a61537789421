/-
The text of a tree of `oc_rep_t` records: `oc_rep_to_json` with its helpers (`oc_rep.c`), as programs that print into a
buffer. What they leave in a buffer of any size, and when they read what has not been set.
-/
import SmartGarage.Api.RepRead
import SmartGarage.Api.Base64RoundTrip
import SmartGarage.Lib.TextBuffer

namespace SmartGarage

open TextBuffer (Program LikeSnprintf)

/-! ## Numbers -/

/-- The fraction of a double. -/
def doubleFraction (bits : UInt64) : Nat := bits.toNat % 2 ^ 52

/-- The exponent of a double, as it is stored. -/
def doubleExponent (bits : UInt64) : Nat := bits.toNat / 2 ^ 52 % 2 ^ 11

/-- A double is a number, and not infinite. -/
def doubleFinite (bits : UInt64) : Bool := doubleExponent bits ≠ 2 ^ 11 - 1

/-- The millionths of a finite double without its sign, rounded to the nearest, and to an even number between two. -/
def doubleMillionths (bits : UInt64) : Nat :=
  let significand := if doubleExponent bits = 0 then doubleFraction bits else 2 ^ 52 + doubleFraction bits
  let exponent := max (doubleExponent bits) 1
  let scaled := significand * 1000000
  if 1075 ≤ exponent then scaled * 2 ^ (exponent - 1075)
  else
    let unit := 2 ^ (1075 - exponent)
    let rest := scaled % unit
    if unit < 2 * rest ∨ (unit = 2 * rest ∧ scaled / unit % 2 = 1) then scaled / unit + 1 else scaled / unit

/-- Six digits of a number. -/
def sixDigits (n : Nat) : OcString := [100000, 10000, 1000, 100, 10, 1].map fun d => UInt8.ofNat (48 + n / d % 10)

/-- `%f` -/
def printDouble (bits : UInt64) : OcString :=
  (if 2 ^ 63 ≤ bits.toNat then [45] else []) ++
    if doubleFinite bits then Decimal.print (doubleMillionths bits / 1000000) ++ 46 :: sixDigits (doubleMillionths bits)
    else if doubleFraction bits = 0 then ascii "inf" else ascii "nan"

/-- The texts of a truth value. -/
def printBool (b : Bool) : OcString := if b then ascii "true" else ascii "false"

/-! ## Pieces -/

/-- `oc_rep_to_json_tab` -/
def ocRepToJsonTab (tabDepth : Nat) : Program := .all (List.replicate tabDepth (.print (ascii "  ")))

/-- `oc_rep_to_json_base64_encoded_byte_string`: `oc_base64_encode` writes no zero. -/
def ocRepToJsonBase64EncodedByteString (byteStr : OcString) : Program := .framed 34 (base64Text byteStr) 34

/-- Of a buffer with room for the Base64 text and a zero `oc_base64_encode` takes the text, of the length that has been
calculated before. -/
theorem ocBase64Encode_framed {byteStr buffer : OcString} (h : buffer.length = base64Length byteStr.length + 1) :
    (base64Text byteStr).length = base64Length byteStr.length ∧ ∃ after,
      ocBase64Encode byteStr buffer = some ((base64Text byteStr).length, after) ∧
        after.take (base64Text byteStr).length = base64Text byteStr := by
  have hlength : (base64Text byteStr).length = base64Length byteStr.length := by rw [base64Text_eq, base64Groups_length]
  obtain ⟨n, after, hencode, -, htake⟩ := @ocBase64Encode_text byteStr buffer (by omega)
  have hn : n = (base64Text byteStr).length := by
    unfold ocBase64Encode at hencode
    rw [if_neg (by omega)] at hencode
    cases hencode
    rfl
  refine ⟨hlength, after, hn ▸ hencode, ?_⟩
  rw [← hn, htake, base64Text_eq]

/-- `"\"%s\""` -/
def quoted (s : OcString) : OcString := 34 :: cstr s ++ [34]

/-- `oc_rep_get_value` with `oc_string` of a name as the key: of the records from here on the first one with the C string
as its name. A name that has not been set is a null pointer. -/
def jsonLookup (rep : List OcRep) (name : Option OcString) (type : RepValueType) : Option OcRep :=
  name.bind fun name => rep.find? fun e => e.name.getD [] = cstr name ∧ e.type = type

/-- A loop over the items of an array, with something printed between two of them, and behind the last one. -/
def jsonItems {α : Type} (item : α → Program) (between last : Program) : List α → Program
  | [] => .skip
  | x :: rest => .seq (item x) (if rest.isEmpty then last else .seq between (jsonItems item between last rest))

section Format

variable (prettyPrint : Bool)

/-- What is printed for a reader's eye only. -/
def pretty (p : Program) : Program := if prettyPrint then p else .skip

/-- A text that is followed by a space or a line for a reader's eye. -/
def spaced (text space : String) : Program := .print (if prettyPrint then ascii text ++ ascii space else ascii text)

/-- The tabulators at the beginning of a line. -/
def jsonTab (depth : Nat) : Program := pretty prettyPrint (.call (ocRepToJsonTab depth))

/-- An array that is printed on one line. -/
def jsonArray (texts : List OcString) : Program :=
  .all [.print (ascii "["), jsonItems .print (spaced prettyPrint "," " ") .skip texts, .print (ascii "]")]

/-- An array with a line for each item. -/
def jsonLines (depth : Nat) (items : List Program) : Program :=
  .all [spaced prettyPrint "[" "\n", jsonItems (fun item => .all [jsonTab prettyPrint (depth + 2), item])
      (spaced prettyPrint "," "\n") (pretty prettyPrint (.print (ascii "\n"))) items,
    jsonTab prettyPrint (depth + 1), .print (ascii "]")]

/-- The key of a record with a name. -/
def jsonKey (name : Option OcString) : Program :=
  if name.getD [] = [] then .skip
  else .print (quoted (name.getD []) ++ if prettyPrint then ascii " : " else ascii ":")

/-- The switch over the type of a record; `rep` are the records from there on. A byte string that is not found leaves its
size unset, and an array of objects without one has no first record. -/
def jsonScalar (depth : Nat) (rep : List OcRep) : OcRep → Program
  | .nil _ => .print (ascii "null")
  | .int _ v => .print (printInt64 v)
  | .double _ bits => .print (printDouble bits)
  | .bool _ b => .print (printBool b)
  | .byteString name _ =>
    match jsonLookup rep name .byteString with
    | some (.byteString _ b) => .call (ocRepToJsonBase64EncodedByteString b)
    | _ => .undefined
  | .string _ s => .print (quoted s)
  | .intArray name _ =>
    match jsonLookup rep name (.array .int) with
    | some (.intArray _ values) => jsonArray prettyPrint (values.map printInt64)
    | _ => jsonArray prettyPrint []
  | .doubleArray name _ =>
    match jsonLookup rep name (.array .double) with
    | some (.doubleArray _ values) => jsonArray prettyPrint (values.map printDouble)
    | _ => jsonArray prettyPrint []
  | .boolArray name _ =>
    match jsonLookup rep name (.array .bool) with
    | some (.boolArray _ values) => jsonArray prettyPrint (values.map printBool)
    | _ => jsonArray prettyPrint []
  | .byteStringArray name _ =>
    match jsonLookup rep name (.array .byteString) with
    | some (.byteStringArray _ values) =>
      jsonLines prettyPrint depth (values.map fun b => .call (ocRepToJsonBase64EncodedByteString b))
    | _ => jsonLines prettyPrint depth []
  | .stringArray name _ =>
    match jsonLookup rep name (.array .string) with
    | some (.stringArray _ values) => jsonLines prettyPrint depth (values.map fun s => .print (quoted s))
    | _ => jsonLines prettyPrint depth []
  | _ => .skip

mutual

/-- The value of a record. -/
def jsonValue (depth : Nat) (rep : List OcRep) : OcRep → Program
  | .object _ entries =>
    .all [spaced prettyPrint "\x7b" "\n", .call (ocRepToJsonFormat (depth + 1) entries), jsonTab prettyPrint (depth + 1),
      .print (ascii "\x7d")]
  | .objectArray _ items =>
    .all [.print (ascii "["), pretty prettyPrint (.print (ascii "\n")), jsonObjects depth items]
  | e => jsonScalar prettyPrint depth rep e

/-- `oc_rep_to_json_format` -/
def ocRepToJsonFormat (depth : Nat) : List OcRep → Program
  | [] => .skip
  | e :: rest =>
    .all [jsonTab prettyPrint (depth + 1), jsonKey prettyPrint e.name, jsonValue depth (e :: rest) e,
      if rest.isEmpty then .skip else .print (ascii ","), pretty prettyPrint (.print (ascii "\n")),
      ocRepToJsonFormat depth rest]

/-- The loop over the objects of an array. -/
def jsonObjects (depth : Nat) : List (List OcRep) → Program
  | [] => .undefined
  | item :: rest =>
    .all [jsonTab prettyPrint (depth + 2), spaced prettyPrint "\x7b" "\n", .call (ocRepToJsonFormat (depth + 2) item),
      jsonTab prettyPrint (depth + 2),
      if rest.isEmpty then .print (ascii "\x7d]") else .seq (spaced prettyPrint "\x7d," "\n") (jsonObjects depth rest)]

end

/-- The list is printed as an array: its first record is an object without a name. -/
def isObjectArray (rep : List OcRep) : Bool :=
  match rep.head? with
  | some e => e.type = .object ∧ e.name.getD [] = []
  | none => false

/-- `oc_rep_to_json` -/
def ocRepToJson (rep : List OcRep) : Program :=
  .seq (.seq (spaced prettyPrint (if isObjectArray rep then "[" else "\x7b") "\n")
    (.call (ocRepToJsonFormat prettyPrint 0 rep))) (spaced prettyPrint (if isObjectArray rep then "]" else "\x7d") "\n")

end Format

/-! ## What can be printed -/

mutual

/-- A record can be printed: a byte string is found under its name among the records from there on, and an array of
objects is not empty. -/
def OcRep.Printable (rep : List OcRep) : OcRep → Prop
  | .byteString name _ => ∃ key ∈ name, ∃ e ∈ rep, e.name.getD [] = cstr key ∧ e.type = .byteString
  | .object _ entries => PrintableEntries entries
  | .objectArray _ items => items ≠ [] ∧ PrintableItems items
  | _ => True

/-- All records of a list can be printed. -/
def PrintableEntries : List OcRep → Prop
  | [] => True
  | e :: rest => e.Printable (e :: rest) ∧ PrintableEntries rest

/-- All objects of an array can be printed. -/
def PrintableItems : List (List OcRep) → Prop
  | [] => True
  | item :: rest => PrintableEntries item ∧ PrintableItems rest

end

/-! ## The meaning of the programs -/

section Meaning

variable {prettyPrint : Bool}

@[simp]
theorem isSome_pretty (p : Program) : (pretty prettyPrint p).text.isSome = (!prettyPrint || p.text.isSome) := by
  unfold pretty
  cases prettyPrint <;> simp

@[simp]
theorem isSome_spaced (text space : String) : (spaced prettyPrint text space).text.isSome = true := rfl

@[simp]
theorem isSome_jsonTab (depth : Nat) : (jsonTab prettyPrint depth).text.isSome = true := by
  have htab : ∀ n, (Program.all (List.replicate n (.print (ascii "  ")))).text.isSome = true := fun n => by
    induction n with
    | zero => rfl
    | succ n ih => simpa [List.replicate_succ] using ih
  simp [jsonTab, ocRepToJsonTab, htab]

@[simp]
theorem isSome_jsonKey (name : Option OcString) : (jsonKey prettyPrint name).text.isSome = true := by
  unfold jsonKey
  split <;> rfl

theorem isSome_jsonItems {α : Type} {item : α → Program} {between last : Program} (hbetween : between.text.isSome = true)
    (hlast : last.text.isSome = true) : ∀ {items : List α}, (∀ x ∈ items, (item x).text.isSome = true) →
      (jsonItems item between last items).text.isSome = true
  | [], _ => rfl
  | x :: rest, h => by
    have hrest := isSome_jsonItems hbetween hlast fun y hy => h y (List.mem_cons_of_mem _ hy)
    have hx := h x List.mem_cons_self
    rw [jsonItems]
    split
    · simp [hx, hlast]
    · simp [hx, hbetween, hrest]

@[simp]
theorem isSome_jsonArray (texts : List OcString) : (jsonArray prettyPrint texts).text.isSome = true := by
  have hitems : (jsonItems .print (spaced prettyPrint "," " ") .skip texts).text.isSome = true :=
    isSome_jsonItems rfl rfl fun _ _ => rfl
  simp [jsonArray, hitems]

theorem isSome_jsonLines {depth : Nat} {items : List Program} (h : ∀ p ∈ items, p.text.isSome = true) :
    (jsonLines prettyPrint depth items).text.isSome = true := by
  have hitems : (jsonItems (fun item => .all [jsonTab prettyPrint (depth + 2), item]) (spaced prettyPrint "," "\n")
      (pretty prettyPrint (.print (ascii "\n"))) items).text.isSome = true :=
    isSome_jsonItems rfl (by simp) fun p hp => by simp [h p hp]
  simpa [jsonLines] using hitems

theorem jsonLookup_isSome {rep : List OcRep} {name : Option OcString} {type : RepValueType} :
    (jsonLookup rep name type).isSome ↔ ∃ key ∈ name, ∃ e ∈ rep, e.name.getD [] = cstr key ∧ e.type = type := by
  cases name with
  | none => simp [jsonLookup]
  | some key => simp [jsonLookup, List.find?_isSome]

theorem jsonLookup_type {rep : List OcRep} {name : Option OcString} {type : RepValueType} {e : OcRep}
    (h : jsonLookup rep name type = some e) : e.type = type := by
  obtain ⟨key, -, hfind⟩ := Option.bind_eq_some_iff.1 h
  have hboth := List.find?_some hfind
  exact (of_decide_eq_true hboth).2

theorem isSome_jsonScalar (depth : Nat) (rep : List OcRep) (e : OcRep) (hobject : e.type ≠ .object)
    (harray : e.type ≠ .array .object) : (jsonScalar prettyPrint depth rep e).text.isSome = true ↔ e.Printable rep := by
  cases e with
  | byteString name b =>
    simp only [jsonScalar, OcRep.Printable, ← jsonLookup_isSome]
    cases hfound : jsonLookup rep name .byteString with
    | none => simp
    | some found =>
      have htype := jsonLookup_type hfound
      cases found with
      | byteString _ b => exact iff_of_true rfl rfl
      | _ => cases htype
  | object name entries => exact absurd rfl hobject
  | objectArray name items => exact absurd rfl harray
  | byteStringArray name values =>
    simp only [jsonScalar, OcRep.Printable, iff_true]
    split <;> exact isSome_jsonLines (by simp [ocRepToJsonBase64EncodedByteString])
  | stringArray name values =>
    simp only [jsonScalar, OcRep.Printable, iff_true]
    split <;> exact isSome_jsonLines (by simp)
  | intArray name values =>
    simp only [jsonScalar, OcRep.Printable, iff_true]
    split <;> exact isSome_jsonArray _
  | doubleArray name values =>
    simp only [jsonScalar, OcRep.Printable, iff_true]
    split <;> exact isSome_jsonArray _
  | boolArray name values =>
    simp only [jsonScalar, OcRep.Printable, iff_true]
    split <;> exact isSome_jsonArray _
  | _ => simp [jsonScalar, OcRep.Printable]

mutual

theorem isSome_jsonValue (depth : Nat) (rep : List OcRep) :
    ∀ e : OcRep, (jsonValue prettyPrint depth rep e).text.isSome = true ↔ e.Printable rep
  | .object name entries => by
    have hentries := isSome_format (depth + 1) entries
    simp only [jsonValue, OcRep.Printable, Program.all_cons, Program.all_nil]
    simpa using hentries
  | .objectArray name items => by
    have hitems := isSome_objects depth items
    simp only [jsonValue, OcRep.Printable, Program.all_cons, Program.all_nil]
    simpa using hitems
  | .nil _ | .int _ _ | .double _ _ | .bool _ _ | .byteString _ _ | .string _ _ | .intArray _ _ | .doubleArray _ _
  | .boolArray _ _ | .byteStringArray _ _ | .stringArray _ _ => by
    rw [jsonValue]
    · exact isSome_jsonScalar depth rep _ (by simp [OcRep.type]) (by simp [OcRep.type])
    · rintro name entries heq
      cases heq
    · rintro name items heq
      cases heq

theorem isSome_format (depth : Nat) :
    ∀ entries : List OcRep, (ocRepToJsonFormat prettyPrint depth entries).text.isSome = true ↔ PrintableEntries entries
  | [] => iff_of_true rfl trivial
  | e :: rest => by
    have hvalue := isSome_jsonValue depth (e :: rest) e
    have hrest := isSome_format depth rest
    have hcomma : (if rest.isEmpty then Program.skip else .print (ascii ",")).text.isSome = true := by split <;> rfl
    simp only [ocRepToJsonFormat, PrintableEntries, Program.all_cons, Program.all_nil, Program.isSome_seq, hcomma]
    simp [hvalue, hrest]

theorem isSome_objects (depth : Nat) : ∀ items : List (List OcRep),
    (jsonObjects prettyPrint depth items).text.isSome = true ↔ items ≠ [] ∧ PrintableItems items
  | [] => by simp [jsonObjects]
  | item :: rest => by
    have hitem := isSome_format (depth + 2) item
    have hrest := isSome_objects depth rest
    simp only [jsonObjects, PrintableItems, Program.all_cons, Program.all_nil, Program.isSome_seq]
    cases rest with
    | nil => simp [hitem, PrintableItems]
    | cons next rest => simp [hitem, hrest]

end

end Meaning

/-! ## The property -/

/-- A byte string with a zero byte in its name. -/
def zeroInName : List OcRep := [.byteString (some [97, 0]) [0]]

end SmartGarage
