/-
Reading a tree of `oc_rep_t` records: the `oc_rep_get_*` accessors, and the entries that a reader of the tree sees,
with the items of an array read from its block.
-/
import SmartGarage.Api.RepParse

namespace SmartGarage

/-! ## Blocks -/

/-- The block of an array with the number of its items. -/
structure RepBlock where
  stored : List Stored
  size : Nat

/-- The integer that has been written, as a reader of an array of integers finds it; and so on. -/
def Content.int? : Content → Option Int
  | int v => some v
  | _ => none

def Content.double? : Content → Option UInt64
  | double bits => some bits
  | _ => none

def Content.bool? : Content → Option Bool
  | bool b => some b
  | _ => none

/-- `oc_string_array_get_item`, as a C string. -/
def Content.text? : Content → Option OcString
  | slot bytes => if 0 ∈ bytes then some (cstr bytes) else none
  | _ => none

/-- `oc_byte_string_array_get_item` and `oc_byte_string_array_get_item_size` -/
def Content.bytes? : Content → Option OcString
  | slot (length :: bytes) => if length.toNat ≤ bytes.length then some (bytes.take length.toNat) else none
  | _ => none

namespace RepBlock

/-- Item `k` of a block, if it has been written. -/
def item (block : RepBlock) (k : Nat) : Option Content :=
  (block.stored.find? fun s => s.index = k).map Stored.content

/-- The items of a block, each read as the reader wants it. -/
def items {α : Type} (block : RepBlock) (read : Content → Option α) : Option (List α) :=
  (List.range block.size).mapM fun k => (block.item k).bind read

end RepBlock

/-! ## Accessors -/

/-- `oc_rep_value_type_t` -/
inductive RepValueType
  | nil | int | double | bool | byteString | string | object
  | array (type : ElementType)
deriving DecidableEq

namespace RepNode

/-- The `name` field of a record. -/
def name : RepNode → OcString
  | leaf name _ | object name _ | array name _ _ _ _ | objectArray name _ _ _ => name

/-- The `type` field of a record. -/
def type : RepNode → RepValueType
  | leaf _ .nil => .nil
  | leaf _ (.int _) => .int
  | leaf _ (.bool _) => .bool
  | leaf _ (.double _) => .double
  | leaf _ (.byteString _) => .byteString
  | leaf _ (.string _) => .string
  | object _ _ => .object
  | array _ type _ _ _ => .array type
  | objectArray _ _ _ _ => .array .object

end RepNode

section Accessors

variable (rep : List RepNode) (key : OcString)

/-- `oc_rep_get_value`: the first record with a name and a type. -/
def ocRepGetValue (type : RepValueType) : Option RepNode :=
  rep.find? fun node => node.name = key ∧ node.type = type

/-- `oc_rep_get_int` -/
def ocRepGetInt : Option Int :=
  match ocRepGetValue rep key .int with
  | some (.leaf _ (.int v)) => some v
  | _ => none

/-- `oc_rep_get_bool` -/
def ocRepGetBool : Option Bool :=
  match ocRepGetValue rep key .bool with
  | some (.leaf _ (.bool b)) => some b
  | _ => none

/-- `oc_rep_get_double` -/
def ocRepGetDouble : Option UInt64 :=
  match ocRepGetValue rep key .double with
  | some (.leaf _ (.double bits)) => some bits
  | _ => none

/-- `oc_rep_get_byte_string` -/
def ocRepGetByteString : Option OcString :=
  match ocRepGetValue rep key .byteString with
  | some (.leaf _ (.byteString b)) => some b
  | _ => none

/-- `oc_rep_get_string` -/
def ocRepGetString : Option OcString :=
  match ocRepGetValue rep key .string with
  | some (.leaf _ (.string t)) => some t
  | _ => none

/-- The block that the accessor of an array type returns. -/
def ocRepGetArray (type : ElementType) : Option RepBlock :=
  match ocRepGetValue rep key (.array type) with
  | some (.array _ _ length stored _) => some ⟨stored, length⟩
  | _ => none

/-- `oc_rep_get_int_array` -/
def ocRepGetIntArray : Option RepBlock := ocRepGetArray rep key .int

/-- `oc_rep_get_bool_array` -/
def ocRepGetBoolArray : Option RepBlock := ocRepGetArray rep key .bool

/-- `oc_rep_get_double_array` -/
def ocRepGetDoubleArray : Option RepBlock := ocRepGetArray rep key .double

/-- `oc_rep_get_byte_string_array` -/
def ocRepGetByteStringArray : Option RepBlock := ocRepGetArray rep key .byteString

/-- `oc_rep_get_string_array` -/
def ocRepGetStringArray : Option RepBlock := ocRepGetArray rep key .string

/-- `oc_rep_get_object` -/
def ocRepGetObject : Option (List RepNode) :=
  match ocRepGetValue rep key .object with
  | some (.object _ entries) => some entries
  | _ => none

/-- `oc_rep_get_object_array` -/
def ocRepGetObjectArray : Option (List (List RepNode)) :=
  match ocRepGetValue rep key (.array .object) with
  | some (.objectArray _ objects _ _) => some objects
  | _ => none

end Accessors

/-! ## The entries of a tree -/

/-- The type of an entry. -/
def OcRep.type : OcRep → RepValueType
  | .nil _ => .nil
  | .int _ _ => .int
  | .double _ _ => .double
  | .bool _ _ => .bool
  | .byteString _ _ => .byteString
  | .string _ _ => .string
  | .object _ _ => .object
  | .intArray _ _ => .array .int
  | .doubleArray _ _ => .array .double
  | .boolArray _ _ => .array .bool
  | .byteStringArray _ _ => .array .byteString
  | .stringArray _ _ => .array .string
  | .objectArray _ _ => .array .object

/-- The entry of an array, if its items can be read. -/
def RepBlock.entry (block : RepBlock) (name : OcString) : ElementType → Option OcRep
  | .int => (block.items Content.int?).map (.intArray (some name))
  | .double => (block.items Content.double?).map (.doubleArray (some name))
  | .bool => (block.items Content.bool?).map (.boolArray (some name))
  | .byteString => (block.items Content.bytes?).map (.byteStringArray (some name))
  | .string => (block.items Content.text?).map (.stringArray (some name))
  | .object => none

mutual

/-- The entry that a record stands for. -/
def RepNode.entry : RepNode → Option OcRep
  | .leaf name .nil => some (.nil (some name))
  | .leaf name (.int v) => some (.int (some name) v)
  | .leaf name (.bool b) => some (.bool (some name) b)
  | .leaf name (.double bits) => some (.double (some name) bits)
  | .leaf name (.byteString b) => some (.byteString (some name) b)
  | .leaf name (.string t) => some (.string (some name) t)
  | .object name entries => (repEntries entries).map (.object (some name))
  | .array name type length stored _ => RepBlock.entry ⟨stored, length⟩ name type
  | .objectArray name objects stray _ =>
    if stray = [] then (repObjects objects).map (.objectArray (some name)) else none

/-- The entries of an object. -/
def repEntries : List RepNode → Option (List OcRep)
  | [] => some []
  | node :: rest => do
    let first ← node.entry
    let others ← repEntries rest
    some (first :: others)

/-- The entries of the objects of an array. -/
def repObjects : List (List RepNode) → Option (List (List OcRep))
  | [] => some []
  | entries :: rest => do
    let first ← repEntries entries
    let others ← repObjects rest
    some (first :: others)

end

/-! ## What the accessors return -/

/-- An array is returned with the number of its items, and they are read from its block. -/
def RepBlock.Reads {α : Type} (found : Option RepBlock) (read : Content → Option α) (values : List α) : Prop :=
  ∃ block, found = some block ∧ block.items read = some values ∧ block.size = values.length

/-- The accessor of its type returns the value of an entry for a key. -/
def Returned (rep : List RepNode) (key : OcString) : OcRep → Prop
  | .nil _ => True
  | .int _ v => ocRepGetInt rep key = some v
  | .double _ bits => ocRepGetDouble rep key = some bits
  | .bool _ b => ocRepGetBool rep key = some b
  | .byteString _ b => ocRepGetByteString rep key = some b
  | .string _ t => ocRepGetString rep key = some t
  | .object _ entries => ∃ inner, ocRepGetObject rep key = some inner ∧ repEntries inner = some entries
  | .intArray _ values => RepBlock.Reads (ocRepGetIntArray rep key) Content.int? values
  | .doubleArray _ values => RepBlock.Reads (ocRepGetDoubleArray rep key) Content.double? values
  | .boolArray _ values => RepBlock.Reads (ocRepGetBoolArray rep key) Content.bool? values
  | .byteStringArray _ values => RepBlock.Reads (ocRepGetByteStringArray rep key) Content.bytes? values
  | .stringArray _ values => RepBlock.Reads (ocRepGetStringArray rep key) Content.text? values
  | .objectArray _ items => ∃ objects, ocRepGetObjectArray rep key = some objects ∧ repObjects objects = some items

/-- The accessors return every entry that is the first one with its key and type. -/
def AccessorsReturn (rep : List RepNode) (entries : List OcRep) : Prop :=
  ∀ before entry after, entries = before ++ entry :: after →
    (∀ e ∈ before, e.name = entry.name → e.type ≠ entry.type) → ∃ key, entry.name = some key ∧ Returned rep key entry

/-- The lists of records in a tree: the root, the objects of a list, and the items of an array of objects. -/
inductive RepLevel (rep : List RepNode) : List RepNode → Prop
  | root : RepLevel rep rep
  | object {level entries : List RepNode} {name : OcString} :
    RepLevel rep level → .object name entries ∈ level → RepLevel rep entries
  | item {level entries : List RepNode} {name : OcString} {objects : List (List RepNode)} {stray : List Stored}
    {count : Nat} :
    RepLevel rep level → .objectArray name objects stray count ∈ level → entries ∈ objects → RepLevel rep entries

/-! ## Records and their entries -/

theorem length_of_mapM {α β : Type} {f : α → Option β} : ∀ {xs : List α} {ys : List β},
    xs.mapM f = some ys → ys.length = xs.length
  | [], ys, h => by
    cases h
    rfl
  | x :: xs, ys, h => by
    rw [List.mapM_cons] at h
    obtain ⟨y, -, h⟩ := Option.bind_eq_some_iff.1 h
    obtain ⟨rest, hrest, heq⟩ := Option.bind_eq_some_iff.1 h
    cases heq
    rw [List.length_cons, List.length_cons, length_of_mapM hrest]

theorem RepBlock.reads_of_items {α : Type} {found : Option RepBlock} {read : Content → Option α} {values : List α}
    {block : RepBlock} (hfound : found = some block) (h : block.items read = some values) :
    RepBlock.Reads found read values :=
  ⟨block, hfound, h, by rw [length_of_mapM h, List.length_range]⟩

theorem RepNode.entry_name {node : RepNode} {e : OcRep} (h : node.entry = some e) :
    e.name = some node.name ∧ e.type = node.type := by
  cases node with
  | leaf name value =>
    cases value <;> cases h <;> exact ⟨rfl, rfl⟩
  | object name entries =>
    rw [RepNode.entry] at h
    obtain ⟨es, -, rfl⟩ := Option.map_eq_some_iff.1 h
    exact ⟨rfl, rfl⟩
  | array name type length stored count =>
    rw [RepNode.entry] at h
    cases type with
    | object => cases h
    | _ =>
      obtain ⟨values, -, rfl⟩ := Option.map_eq_some_iff.1 h
      exact ⟨rfl, rfl⟩
  | objectArray name objects stray count =>
    rw [RepNode.entry] at h
    split at h
    · obtain ⟨items, -, rfl⟩ := Option.map_eq_some_iff.1 h
      exact ⟨rfl, rfl⟩
    · cases h

theorem repEntries_cons {node : RepNode} {rest : List RepNode} {entries : List OcRep}
    (h : repEntries (node :: rest) = some entries) :
    ∃ first others, node.entry = some first ∧ repEntries rest = some others ∧ entries = first :: others := by
  rw [repEntries] at h
  obtain ⟨first, hfirst, h⟩ := Option.bind_eq_some_iff.1 h
  obtain ⟨others, hothers, heq⟩ := Option.bind_eq_some_iff.1 h
  cases heq
  exact ⟨first, others, hfirst, hothers, rfl⟩

theorem ocRepGetValue_first {key : OcString} {type : RepValueType} : ∀ {rep : List RepNode} {before after : List OcRep}
    {e : OcRep}, repEntries rep = some (before ++ e :: after) →
      (∀ b ∈ before, b.name = some key → b.type ≠ type) → e.name = some key → e.type = type →
        ∃ node, ocRepGetValue rep key type = some node ∧ node.entry = some e
  | [], before, after, e, h, _, _, _ => by
    rw [repEntries] at h
    exact absurd (Option.some.inj h).symm (by simp)
  | node :: rest, before, after, e, h, hbefore, hname, htype => by
    obtain ⟨first, others, hfirst, hothers, heq⟩ := repEntries_cons h
    obtain ⟨hn, ht⟩ := RepNode.entry_name hfirst
    cases before with
    | nil =>
      obtain ⟨rfl, rfl⟩ := List.cons.inj heq
      rw [hn] at hname
      rw [ht] at htype
      have hfind : decide (node.name = key ∧ node.type = type) = true :=
        decide_eq_true ⟨Option.some.inj hname, htype⟩
      exact ⟨node, List.find?_cons_of_pos hfind, hfirst⟩
    | cons b before =>
      obtain ⟨rfl, rfl⟩ := List.cons.inj heq
      have hne : ¬(node.name = key ∧ node.type = type) := fun hboth =>
        hbefore b List.mem_cons_self (by rw [hn, hboth.1]) (ht.trans hboth.2)
      obtain ⟨found, hfound, hentry⟩ := ocRepGetValue_first hothers
        (fun x hx => hbefore x (List.mem_cons_of_mem _ hx)) hname htype
      refine ⟨found, ?_, hentry⟩
      unfold ocRepGetValue at hfound ⊢
      rw [List.find?_cons_of_neg (by simpa using hne), hfound]

theorem returned_of_found {rep : List RepNode} {key : OcString} {node : RepNode} {e : OcRep}
    (hfound : ocRepGetValue rep key e.type = some node) (h : node.entry = some e) : Returned rep key e := by
  have hfound' : ocRepGetValue rep key node.type = some node := (RepNode.entry_name h).2 ▸ hfound
  cases node with
  | leaf name value =>
    cases value <;> cases h
    · trivial
    · show ocRepGetInt rep key = _
      rw [ocRepGetInt, show ocRepGetValue rep key .int = _ from hfound']
    · show ocRepGetBool rep key = _
      rw [ocRepGetBool, show ocRepGetValue rep key .bool = _ from hfound']
    · show ocRepGetDouble rep key = _
      rw [ocRepGetDouble, show ocRepGetValue rep key .double = _ from hfound']
    · show ocRepGetByteString rep key = _
      rw [ocRepGetByteString, show ocRepGetValue rep key .byteString = _ from hfound']
    · show ocRepGetString rep key = _
      rw [ocRepGetString, show ocRepGetValue rep key .string = _ from hfound']
  | object name entries =>
    rw [RepNode.entry] at h
    obtain ⟨es, hes, rfl⟩ := Option.map_eq_some_iff.1 h
    refine ⟨entries, ?_, hes⟩
    rw [ocRepGetObject, show ocRepGetValue rep key .object = _ from hfound']
  | array name type length stored count =>
    have hblock : ocRepGetArray rep key type = some ⟨stored, length⟩ := by
      rw [ocRepGetArray, show ocRepGetValue rep key (.array type) = _ from hfound']
    rw [RepNode.entry] at h
    cases type with
    | object => cases h
    | _ =>
      obtain ⟨values, hvalues, rfl⟩ := Option.map_eq_some_iff.1 h
      exact RepBlock.reads_of_items hblock hvalues
  | objectArray name objects stray count =>
    rw [RepNode.entry] at h
    split at h
    · obtain ⟨items, hitems, rfl⟩ := Option.map_eq_some_iff.1 h
      refine ⟨objects, ?_, hitems⟩
      rw [ocRepGetObjectArray, show ocRepGetValue rep key (.array .object) = _ from hfound']
    · cases h

theorem named_of_entries : ∀ {rep : List RepNode} {entries : List OcRep}, repEntries rep = some entries →
    ∀ e ∈ entries, ∃ key, e.name = some key
  | [], entries, h, e, he => by
    cases h
    cases he
  | node :: rest, entries, h, e, he => by
    obtain ⟨first, others, hfirst, hothers, rfl⟩ := repEntries_cons h
    obtain rfl | he := List.mem_cons.1 he
    · exact ⟨node.name, (RepNode.entry_name hfirst).1⟩
    · exact named_of_entries hothers e he

theorem accessorsReturn_of_entries {rep : List RepNode} {entries : List OcRep} (h : repEntries rep = some entries) :
    AccessorsReturn rep entries := by
  rintro before e after rfl hbefore
  obtain ⟨key, hkey⟩ := named_of_entries h e (by simp)
  obtain ⟨node, hfound, hentry⟩ := ocRepGetValue_first h
    (fun b hb hname => hbefore b hb (hname.trans hkey.symm)) hkey rfl
  exact ⟨key, hkey, returned_of_found hfound hentry⟩

theorem entry_of_mem : ∀ {rep : List RepNode} {entries : List OcRep}, repEntries rep = some entries →
    ∀ node ∈ rep, ∃ e, node.entry = some e
  | [], _, _, node, hn => absurd hn List.not_mem_nil
  | first :: rest, entries, h, node, hn => by
    obtain ⟨e, others, hfirst, hothers, -⟩ := repEntries_cons h
    obtain rfl | hn := List.mem_cons.1 hn
    · exact ⟨e, hfirst⟩
    · exact entry_of_mem hothers node hn

theorem entries_of_mem : ∀ {objects : List (List RepNode)} {items : List (List OcRep)},
    repObjects objects = some items → ∀ rep ∈ objects, ∃ entries, repEntries rep = some entries
  | [], _, _, rep, hr => absurd hr List.not_mem_nil
  | first :: rest, items, h, rep, hr => by
    rw [repObjects] at h
    obtain ⟨entries, hfirst, h⟩ := Option.bind_eq_some_iff.1 h
    obtain ⟨others, hothers, -⟩ := Option.bind_eq_some_iff.1 h
    obtain rfl | hr := List.mem_cons.1 hr
    · exact ⟨entries, hfirst⟩
    · exact entries_of_mem hothers rep hr

/-- Where the root of a tree has entries, so has every list of records in it. -/
theorem RepLevel.entries {rep level : List RepNode} {entries : List OcRep} (h : repEntries rep = some entries)
    (hlevel : RepLevel rep level) : ∃ values, repEntries level = some values := by
  induction hlevel with
  | root => exact ⟨entries, h⟩
  | object _ hmem ih =>
    obtain ⟨values, hvalues⟩ := ih
    obtain ⟨e, he⟩ := entry_of_mem hvalues _ hmem
    rw [RepNode.entry] at he
    obtain ⟨es, hes, -⟩ := Option.map_eq_some_iff.1 he
    exact ⟨es, hes⟩
  | item _ hmem hin ih =>
    obtain ⟨values, hvalues⟩ := ih
    obtain ⟨e, he⟩ := entry_of_mem hvalues _ hmem
    rw [RepNode.entry] at he
    split at he
    · obtain ⟨items, hitems, -⟩ := Option.map_eq_some_iff.1 he
      exact entries_of_mem hitems _ hin
    · cases he

end SmartGarage
