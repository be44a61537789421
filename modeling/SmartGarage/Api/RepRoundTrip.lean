/-
What the macros encode is what `oc_parse_rep` reads: the tree has the keys, types, values and order that were set,
and the accessors return them.
-/
import SmartGarage.Api.RepEncode
import SmartGarage.Api.RepRead

namespace SmartGarage

variable {type : ElementType}

/-! ## Blocks that are written item by item -/

/-- What is written for the elements of an array from item `k` on. -/
def storedFrom (type : ElementType) (k : Nat) : List Content → List Stored
  | [] => []
  | content :: rest => ⟨type, k, content⟩ :: storedFrom type (k + 1) rest

theorem item_storedFrom (type : ElementType) (length : Nat) : ∀ (contents : List Content) (k j : Nat),
    RepBlock.item ⟨storedFrom type k contents, length⟩ (k + j) = contents[j]?
  | [], k, j => rfl
  | content :: rest, k, 0 => by
    simp [RepBlock.item, storedFrom]
  | content :: rest, k, j + 1 => by
    have hne : ¬k = k + (j + 1) := by omega
    have ih := item_storedFrom type length rest (k + 1) j
    rw [show k + 1 + j = k + (j + 1) by omega] at ih
    simpa [RepBlock.item, storedFrom, hne] using ih

theorem mapM_range_getElem? {α β : Type} (read : α → Option β) : ∀ {xs : List α} {ys : List β},
    xs.map read = ys.map some → ((List.range xs.length).mapM fun k => (xs[k]?).bind read) = some ys
  | [], ys, h => by
    cases ys with
    | nil => rfl
    | cons => cases h
  | x :: xs, [], h => by cases h
  | x :: xs, y :: ys, h => by
    obtain ⟨hx, hxs⟩ := List.cons.inj h
    have ih := mapM_range_getElem? read hxs
    rw [List.length_cons, List.range_succ_eq_map, List.mapM_cons, List.mapM_map]
    simp only [List.getElem?_cons_zero, Option.bind_some, hx]
    show (List.mapM (fun k => (xs[k]?).bind read) (List.range xs.length)).bind _ = _
    rw [ih]
    rfl

theorem items_storedFrom {α : Type} (type : ElementType) (write : α → Content) (read : Content → Option α)
    {values : List α} (h : ∀ v ∈ values, read (write v) = some v) :
    RepBlock.items ⟨storedFrom type 0 (values.map write), (values.map write).length⟩ read = some values := by
  have hmap : (values.map write).map read = values.map some := by
    rw [List.map_map]
    exact List.map_congr_left h
  have hitem : ∀ k, RepBlock.item ⟨storedFrom type 0 (values.map write), (values.map write).length⟩ k =
      (values.map write)[k]? := fun k => by
    have hk := item_storedFrom type (values.map write).length (values.map write) 0 k
    rwa [Nat.zero_add] at hk
  unfold RepBlock.items
  simp only [hitem]
  exact mapM_range_getElem? read hmap

/-! ## Arrays of values -/

section Items

variable {itemMax : Nat}

theorem typeTest_self (type : ElementType) : typeTest (some type) type = true := by cases type <;> decide

theorem accept_same {s : ArrayState} (h : s.count = 0 ∨ s.type = some type) :
    s.accept type = .ok { s with type := some type } := by
  unfold ArrayState.accept
  split
  · rfl
  · rename_i hcount
    have htype := h.resolve_left hcount
    rw [htype, if_pos (typeTest_self type), ← htype]

theorem parseItems_written {α : Type} {item : α → Cbor} {write : α → Content} :
    ∀ {values : List α} {s : ArrayState}, s.count = 0 ∨ s.type = some type →
      (∀ v ∈ values, ∀ s, parseItem itemMax s (item v) = s.accept type >>= fun s => .ok (s.store type (write v))) →
        parseItems itemMax s (values.map item) = .ok ⟨if values = [] then s.type else some type,
          s.stored ++ storedFrom type s.count (values.map write), s.objects, s.count + values.length⟩
  | [], s, _, _ => by
    rw [List.map_nil, parseItems]
    simp [storedFrom]
  | v :: rest, s, hs, hstep => by
    have hitem := hstep v List.mem_cons_self s
    rw [accept_same hs] at hitem
    have ih := parseItems_written (s := (ArrayState.store { s with type := some type } type (write v)))
      (.inr rfl) fun v hv => hstep v (List.mem_cons_of_mem _ hv)
    rw [List.map_cons, parseItems, hitem]
    refine ih.trans ?_
    simp only [ArrayState.store, storedFrom, List.map_cons, List.append_assoc, List.singleton_append, ite_self,
      List.cons_ne_nil, if_false, List.length_cons]
    rw [Nat.add_assoc s.count, Nat.add_comm 1]

/-- The record of an array whose elements have been written one after the other. -/
def writtenArray (name : OcString) (type : ElementType) (contents : List Content) : RepNode :=
  .array name type contents.length (storedFrom type 0 contents) contents.length

theorem parseValue_written {α : Type} (htype : type ≠ .object) {item : α → Cbor}
    {write : α → Content} {values : List α} (name : OcString) (definite : Bool) (hne : values ≠ [])
    (hstops : ∀ v, (item v).stops = 1)
    (hstep : ∀ v ∈ values, ∀ s, parseItem itemMax s (item v) = s.accept type >>= fun s => .ok (s.store type (write v))) :
    parseValue itemMax name (.array definite (values.map item)) = .ok (writtenArray name type (values.map write)) := by
  have hlength : arrayLength definite (values.map item) = values.length := by
    unfold arrayLength
    split
    · rw [List.length_map]
    · rw [List.map_map, List.map_congr_left fun v _ => show (Cbor.stops ∘ item) v = 1 from hstops v]
      simp
  have hitems := parseItems_written (s := .start) (.inl rfl) hstep
  rw [if_neg hne] at hitems
  rw [parseValue, hitems, hlength]
  show Except.ok (ArrayState.node _ name _) = _
  unfold ArrayState.node writtenArray
  cases type with
  | object => exact absurd rfl htype
  | _ => simp [ArrayState.start]

/-! ## What is written for one element -/

theorem cborValueGetInt64_eq {v : Int} (h : RepBuild.InInt64 v) : cborValueGetInt64 v = v := by
  unfold cborValueGetInt64
  exact Int.bmod_eq_of_le (by have := h.1; omega) (by have := h.2; omega)

theorem cborValueGetInt64_toNat (v : UInt64) : cborValueGetInt64 v.toNat = v.toInt64.toInt :=
  (BitVec.toInt_eq_toNat_bmod v.toBitVec).symm

theorem inInt64_byte (b : UInt8) : RepBuild.InInt64 b.toNat := by
  have hlt := b.toNat_lt
  constructor <;> omega

theorem ofInt_byte (b : UInt8) : UInt8.ofInt b.toNat = b := by
  have hlt := b.toNat_lt
  unfold UInt8.ofInt
  have hmod : ((b.toNat : Int) % 2 ^ 8).toNat = b.toNat := by omega
  rw [hmod, UInt8.ofNat_toNat]

theorem parseItem_int {v : Int} (h : RepBuild.InInt64 v) (s : ArrayState) :
    parseItem itemMax s (.integer v) = s.accept .int >>= fun s => .ok (s.store .int (.int v)) := by
  rw [parseItem, cborValueGetInt64_eq h]

/-- A text that is shorter than its slot ends with a zero byte there. -/
theorem parseItem_text {t : OcString} (h : t.length < itemMax) (s : ArrayState) :
    parseItem itemMax s (.textString t) = s.accept .string >>= fun s => .ok (s.store .string (.slot (t ++ [0]))) := by
  have hcopy : copyString (min (t.length + 1) itemMax) t = .ok (t ++ [0]) := by
    unfold copyString
    rw [if_neg (by omega), if_pos (by omega)]
  rw [parseItem, hcopy]
  rfl

theorem parseItem_bytes {b : OcString} (h : b.length < itemMax - 1) (s : ArrayState) :
    parseItem itemMax s (.byteString b) =
      s.accept .byteString >>= fun s => .ok (s.store .byteString (.slot (UInt8.ofNat b.length :: b))) := by
  have hcopy : copyString b.length b = .ok b := by
    unfold copyString
    rw [if_neg (by omega), if_neg (by omega)]
  rw [parseItem, Nat.min_eq_left (by omega)]
  simp only [hcopy]
  rfl

theorem text?_slot {t : OcString} (h : 0 ∉ t) : Content.text? (.slot (t ++ [0])) = some t := by
  have hmem : (0 : UInt8) ∈ t ++ [0] := List.mem_append_right _ List.mem_cons_self
  have hcstr : cstr (t ++ [0]) = t := by
    unfold cstr
    rw [List.takeWhile_append_of_pos fun x hx => by
      have hne : x ≠ 0 := fun heq => h (heq ▸ hx)
      simpa using hne]
    simp
  rw [Content.text?, if_pos hmem, hcstr]

theorem bytes?_slot {b : OcString} (h : b.length < 256) :
    Content.bytes? (.slot (UInt8.ofNat b.length :: b)) = some b := by
  have hlength : (UInt8.ofNat b.length).toNat = b.length := by
    rw [UInt8.toNat_ofNat', Nat.mod_eq_of_lt h]
  rw [Content.bytes?, hlength, if_pos (Nat.le_refl _), List.take_length]

/-! ## The tree that is parsed -/

namespace RepBuild

mutual

/-- The record of a key and a value. -/
def node (key : OcString) : RepBuild → RepNode
  | setInt value => .leaf key (.int value)
  | setUint value => .leaf key (.int value.toInt64.toInt)
  | setDouble bits => .leaf key (.double bits)
  | setBoolean value => .leaf key (.bool value)
  | setTextString value => .leaf key (.string value)
  | setByteString value => .leaf key (.byteString value)
  | setIntArray values | addInts values => writtenArray key .int (values.map .int)
  | setBoolArray values | addBooleans values => writtenArray key .bool (values.map .bool)
  | setDoubleArray values | addDoubles values => writtenArray key .double (values.map .double)
  | setStringArray values =>
    writtenArray key .string ((values.filter fun t => decide (t.length > 0)).map fun t => .slot (t ++ [0]))
  | addTextStrings values => writtenArray key .string (values.map fun t => .slot (t ++ [0]))
  | addByteStrings values => writtenArray key .byteString (values.map fun b => .slot (UInt8.ofNat b.length :: b))
  | object entries => .object key (nodesOf entries)
  | objects items => .objectArray key (nodesOfObjects items) [] items.length

/-- The records of an object. -/
def nodesOf : List (OcString × RepBuild) → List RepNode
  | [] => []
  | (key, value) :: rest => node key value :: nodesOf rest

/-- The records of the objects of an array. -/
def nodesOfObjects : List (List (OcString × RepBuild)) → List (List RepNode)
  | [] => []
  | entries :: rest => nodesOf entries :: nodesOfObjects rest

end

/-- The parser reads `value` behind `key` where `cbor` has been encoded. -/
def Parsed (itemMax : Nat) (key : OcString) (cbor : List Cbor) (node : RepNode) : Prop :=
  ∃ value, cbor = [.textString key, value] ∧ parseValue itemMax key value = .ok node

theorem Parsed.entries {key : OcString} {cbor rest : List Cbor} {node : RepNode} {nodes : List RepNode}
    (h : Parsed itemMax key cbor node) (hrest : parseEntries itemMax rest = .ok nodes) :
    parseEntries itemMax (cbor ++ rest) = .ok (node :: nodes) := by
  obtain ⟨value, rfl, hvalue⟩ := h
  show parseEntries itemMax (.textString key :: value :: rest) = _
  rw [parseEntries, repKey]
  show (parseValue itemMax key value >>= fun node => _) = _
  rw [hvalue]
  show (parseEntries itemMax rest >>= fun nodes => _) = _
  rw [hrest]
  rfl

theorem parsed_array {α : Type} {item : α → Cbor} {write : α → Content} {values : List α}
    (key : OcString) (definite : Bool) (htype : type ≠ .object) (hne : values ≠ []) (hstops : ∀ v, (item v).stops = 1)
    (hstep : ∀ v ∈ values, ∀ s, parseItem itemMax s (item v) = s.accept type >>= fun s => .ok (s.store type (write v))) :
    Parsed itemMax key [.textString key, .array definite (values.map item)]
      (writtenArray key type (values.map write)) :=
  ⟨_, rfl, parseValue_written htype key definite hne hstops hstep⟩

mutual

theorem parsed_encode (key : OcString) : ∀ {value : RepBuild}, Encodable itemMax value →
    Parsed itemMax key (encode key value) (node key value)
  | setInt value, h => ⟨_, rfl, by rw [parseValue, cborValueGetInt64_eq h]; rfl⟩
  | setUint value, _ => ⟨_, rfl, by rw [parseValue, cborValueGetInt64_toNat]; rfl⟩
  | setDouble _, _ | setBoolean _, _ | setTextString _, _ | setByteString _, _ => ⟨_, rfl, rfl⟩
  | setIntArray values, h =>
    parsed_array key true (by decide) h.1 (fun _ => rfl) fun v hv => parseItem_int (h.2 v hv)
  | addInts values, h =>
    parsed_array key false (by decide) h.1 (fun _ => rfl) fun v hv => parseItem_int (h.2 v hv)
  | setBoolArray values, h => parsed_array key true (by decide) h (fun _ => rfl) fun _ _ _ => rfl
  | addBooleans values, h => parsed_array key false (by decide) h (fun _ => rfl) fun _ _ _ => rfl
  | setDoubleArray values, h => parsed_array key true (by decide) h (fun _ => rfl) fun _ _ _ => rfl
  | addDoubles values, h => parsed_array key false (by decide) h (fun _ => rfl) fun _ _ _ => rfl
  | setStringArray values, h => by
    obtain ⟨⟨t, ht, hne⟩, hall⟩ := h
    refine parsed_array key false (by decide) (List.ne_nil_of_mem (List.mem_filter.2 ⟨ht, ?_⟩)) (fun _ => rfl)
      fun v hv => parseItem_text ((hall v (List.mem_of_mem_filter hv)).2.trans_le (Nat.sub_le _ _))
    exact decide_eq_true (List.length_pos_iff.2 hne)
  | addTextStrings values, h =>
    parsed_array key false (by decide) h.1 (fun _ => rfl) fun v hv =>
      parseItem_text ((h.2 v hv).2.trans_le (Nat.sub_le _ _))
  | addByteStrings values, h =>
    parsed_array key false (by decide) h.1 (fun _ => rfl) fun v hv => parseItem_bytes (h.2 v hv)
  | object entries, h => ⟨_, rfl, by rw [parseValue, parsed_entries h]; rfl⟩
  | objects items, h => by
    have hitems := parsed_objects (s := .start) h.2 (.inl rfl)
    rw [if_neg h.1] at hitems
    refine ⟨_, rfl, ?_⟩
    rw [parseValue, hitems]
    show Except.ok (ArrayState.node _ key _) = Except.ok (RepNode.objectArray key _ [] items.length)
    simp [ArrayState.node, ArrayState.start]

theorem parsed_entries : ∀ {entries : List (OcString × RepBuild)}, EncodableEntries itemMax entries →
    parseEntries itemMax (encodeEntries entries) = .ok (nodesOf entries)
  | [], _ => rfl
  | (key, _) :: _, h => (parsed_encode key h.2.1).entries (parsed_entries h.2.2)

theorem parsed_objects : ∀ {items : List (List (OcString × RepBuild))} {s : ArrayState},
    EncodableObjects itemMax items → s.count = 0 ∨ s.type = some .object →
      parseItems itemMax s (encodeObjects items) = .ok ⟨if items = [] then s.type else some .object, s.stored,
        s.objects ++ nodesOfObjects items, s.count + items.length⟩
  | [], s, _, _ => by
    rw [encodeObjects, parseItems]
    simp [nodesOfObjects]
  | entries :: rest, s, h, hs => by
    have ih := parsed_objects (s := (ArrayState.addObject { s with type := some .object } (nodesOf entries))) h.2 (.inr rfl)
    rw [encodeObjects, parseItems, ocRepObjectArrayItem, parseItem, accept_same hs]
    show (parseEntries itemMax (encodeEntries entries) >>= fun entries => _) >>= _ = _
    rw [parsed_entries h.1]
    refine ih.trans ?_
    simp only [ArrayState.addObject, nodesOfObjects, List.append_assoc, List.singleton_append, ite_self,
      List.cons_ne_nil, if_false, List.length_cons]
    rw [Nat.add_assoc s.count, Nat.add_comm 1]

end

/-! ## The entries that are read -/

mutual

theorem entry_node (hmax : itemMax ≤ 256) (key : OcString) : ∀ {value : RepBuild}, Encodable itemMax value →
    (node key value).entry = some (entry key value)
  | setInt _, _ | setUint _, _ | setDouble _, _ | setBoolean _, _ | setTextString _, _ | setByteString _, _ => rfl
  | setIntArray values, _ | addInts values, _ => by
    rw [node, writtenArray, RepNode.entry, RepBlock.entry,
      items_storedFrom .int .int Content.int? fun _ _ => rfl]
    rfl
  | setBoolArray values, _ | addBooleans values, _ => by
    rw [node, writtenArray, RepNode.entry, RepBlock.entry,
      items_storedFrom .bool .bool Content.bool? fun _ _ => rfl]
    rfl
  | setDoubleArray values, _ | addDoubles values, _ => by
    rw [node, writtenArray, RepNode.entry, RepBlock.entry,
      items_storedFrom .double .double Content.double? fun _ _ => rfl]
    rfl
  | setStringArray values, h => by
    rw [node, writtenArray, RepNode.entry, RepBlock.entry,
      items_storedFrom _ _ _ fun t ht => text?_slot (h.2 t (List.mem_of_mem_filter ht)).1]
    rfl
  | addTextStrings values, h => by
    rw [node, writtenArray, RepNode.entry, RepBlock.entry, items_storedFrom _ _ _ fun t ht => text?_slot (h.2 t ht).1]
    rfl
  | addByteStrings values, h => by
    rw [node, writtenArray, RepNode.entry, RepBlock.entry, items_storedFrom _ _ _ fun b hb => bytes?_slot (by
      have hlength := h.2 b hb
      omega)]
    rfl
  | object entries, h => by
    rw [node, RepNode.entry, repEntries_nodesOf hmax h]
    rfl
  | objects items, h => by
    rw [node, RepNode.entry, if_pos rfl, repObjects_nodesOf hmax h.2]
    rfl

theorem repEntries_nodesOf (hmax : itemMax ≤ 256) : ∀ {entries : List (OcString × RepBuild)},
    EncodableEntries itemMax entries → repEntries (nodesOf entries) = some (entriesOf entries)
  | [], _ => rfl
  | (key, value) :: rest, h => by
    rw [nodesOf, repEntries, entry_node hmax key h.2.1, repEntries_nodesOf hmax h.2.2]
    rfl

theorem repObjects_nodesOf (hmax : itemMax ≤ 256) : ∀ {items : List (List (OcString × RepBuild))},
    EncodableObjects itemMax items → repObjects (nodesOfObjects items) = some (objectsOf items)
  | [], _ => rfl
  | entries :: rest, h => by
    rw [nodesOfObjects, repObjects, repEntries_nodesOf hmax h.1, repObjects_nodesOf hmax h.2]
    rfl

end

/-- What is set in a root object is parsed to a tree with the same entries, and at every level of the tree the
accessors return them. -/
theorem ocParseRep_encode (hmax : itemMax ≤ 256) {entries : List (OcString × RepBuild)}
    (h : EncodableEntries itemMax entries) : ∃ rep, ocParseRep itemMax (ocRepRootObject entries) = .ok rep ∧
      repEntries rep = some (entriesOf entries) ∧
        ∀ level, RepLevel rep level → ∃ values, repEntries level = some values ∧ AccessorsReturn level values := by
  have hread := repEntries_nodesOf hmax h
  refine ⟨nodesOf entries, parsed_entries h, hread, fun level hlevel => ?_⟩
  obtain ⟨values, hvalues⟩ := hlevel.entries hread
  exact ⟨values, hvalues, accessorsReturn_of_entries hvalues⟩

/-- An object with a text and an array of objects, in the slots of the static build. -/
theorem ocParseRep_encode_objects :
    let entries := [(ascii "n", .setTextString (ascii "door")), (ascii "l", .objects [[(ascii "v", .setInt 7)], []])]
    ∃ rep, ocParseRep 32 (ocRepRootObject entries) = .ok rep ∧ repEntries rep = some (entriesOf entries) ∧
      ∀ level, RepLevel rep level → ∃ values, repEntries level = some values ∧ AccessorsReturn level values :=
  ocParseRep_encode (by decide) (by
    simp only [EncodableEntries, Encodable, EncodableObjects, InInt64]
    decide)

/-- `oc_rep_set_string_array` leaves out an empty item, and it does not come back. -/
theorem ocParseRep_encode_emptyItem : ∃ rep,
    ocParseRep 32 (ocRepRootObject [(ascii "k", .setStringArray [ascii "a", [], ascii "b"])]) = .ok rep ∧
      repEntries rep = some [.stringArray (some (ascii "k")) [ascii "a", ascii "b"]] ∧
        repEntries rep ≠ some [.stringArray (some (ascii "k")) [ascii "a", [], ascii "b"]] := by
  have hread : repEntries [writtenArray (ascii "k") .string [.slot (ascii "a" ++ [0]), .slot (ascii "b" ++ [0])]] =
      some [.stringArray (some (ascii "k")) [ascii "a", ascii "b"]] := rfl
  refine ⟨_, rfl, hread, fun heq => ?_⟩
  have hsame := Option.some.inj (hread.symm.trans heq)
  exact absurd (OcRep.stringArray.inj (List.cons.inj hsame).1).2 (by decide)

end RepBuild

end Items

end SmartGarage
