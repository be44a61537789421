/-
The arrays that `oc_parse_rep` makes: which payloads it accepts, and when every element of an array has the type
of the array and its own item in the block. The type of an element is tested by a mask, and the numbers of the
types share bits.
-/
import SmartGarage.Api.RepParse
import Mathlib.Tactic.Tauto

namespace SmartGarage

variable {element : ElementType}

/-! ## Arrays and their blocks -/

section Blocks

variable (itemMax : Nat)

/-- The bytes of one item of a block. -/
def ElementType.width : ElementType → Nat
  | int | double => 8
  | bool => 1
  | byteString | string => itemMax
  | object => 0

/-- The bytes that are written for an element. -/
def Content.size : Content → Nat
  | int _ | double _ => 8
  | bool _ => 1
  | slot bytes => bytes.length

/-- The element has been written into its item, and the item is in a block. -/
def Stored.InBlock (s : Stored) (type : ElementType) (length : Nat) : Prop :=
  s.index * s.type.width itemMax + s.content.size ≤ (s.index + 1) * s.type.width itemMax ∧
    (s.index + 1) * s.type.width itemMax ≤ length * type.width itemMax

/-- Every element of an array has the type of the array, and element `k` is item `k` of the block or the list. -/
def Homogeneous : RepNode → Prop
  | .array _ type length stored count =>
    stored.map (fun s => (s.type, s.index)) = (List.range count).map (fun k => (type, k)) ∧
      ∀ s ∈ stored, s.InBlock itemMax type length
  | .objectArray _ objects stray count => stray = [] ∧ objects.length = count
  | _ => True

end Blocks

/-- A record is in a tree. -/
inductive Contains : List RepNode → RepNode → Prop
  | here {nodes : List RepNode} {node : RepNode} : node ∈ nodes → Contains nodes node
  | object {nodes entries : List RepNode} {name : OcString} {node : RepNode} :
    .object name entries ∈ nodes → Contains entries node → Contains nodes node
  | item {nodes entries : List RepNode} {name : OcString} {objects : List (List RepNode)} {stray : List Stored}
    {count : Nat} {node : RepNode} :
    .objectArray name objects stray count ∈ nodes → entries ∈ objects → Contains entries node → Contains nodes node

/-! ## Payloads -/

/-- The items of an array have one type. -/
def SameType (items : List Cbor) : Prop := ∀ a ∈ items, ∀ b ∈ items, a.type = b.type

mutual

/-- No array of an item mixes types. -/
def Unmixed : Cbor → Prop
  | .array _ items => SameType items ∧ UnmixedAll items
  | .map items => UnmixedAll items
  | .tag content => Unmixed content
  | _ => True

/-- No array of some items mixes types. -/
def UnmixedAll : List Cbor → Prop
  | [] => True
  | item :: rest => Unmixed item ∧ UnmixedAll rest

end

/-- The type an element is read as, if the parser has a case for it. -/
def Cbor.elementType : Cbor → Option ElementType
  | integer _ => some .int
  | boolean _ => some .bool
  | double _ => some .double
  | byteString _ => some .byteString
  | textString _ => some .string
  | map _ => some .object
  | array _ _ | tag _ | other _ => none

/-- The types at the stops of the iterator. -/
def Cbor.stopTypes : Cbor → List (Option ElementType)
  | tag content => none :: content.stopTypes
  | item => [item.elementType]

/-- The types of the later elements pass the test against the type of the first one. -/
def typesPass : List (Option ElementType) → Bool
  | [] => true
  | first :: rest => rest.all fun
    | some element => typeTest first element
    | none => true

section Accepted

variable (itemMax : Nat)

mutual

/-- The keys are text strings, each with a value that the parser accepts. -/
def acceptsEntries : List Cbor → Bool
  | [] => true
  | [_] => false
  | key :: value :: rest => key.type == .textString && acceptsValue value && acceptsEntries rest

/-- The elements of an array pass the test of their types. -/
def acceptsValue : Cbor → Bool
  | .tag content => acceptsValue content
  | .map items => acceptsEntries items
  | .array _ items => typesPass (items.flatMap Cbor.stopTypes) && acceptsItems items
  | _ => true

/-- Every element of an array is accepted by itself. -/
def acceptsItems : List Cbor → Bool
  | [] => true
  | item :: rest => acceptsItem item && acceptsItems rest

/-- A string fits its slot, and an object has a value for every key. -/
def acceptsItem : Cbor → Bool
  | .tag content => acceptsItem content
  | .map items => acceptsEntries items
  | .byteString b => decide (b.length ≤ itemMax - 1)
  | .textString t => decide (t.length ≤ itemMax)
  | _ => true

end

/-- The objects of an array at the root. -/
def acceptsRootItems : List Cbor → Bool
  | [] => true
  | .map items :: rest | .array _ items :: rest => acceptsEntries itemMax items && acceptsRootItems rest
  | _ => false

/-- A payload without a fault that the parser reports: keys that are text strings, strings that fit their slots,
and elements whose type numbers have no bit that the first element's lacks. -/
def acceptsPayload : Cbor → Bool
  | .map items => acceptsEntries itemMax items
  | .array _ items => acceptsRootItems itemMax items
  | _ => true

end Accepted

/-! ## Accepted payloads are parsed -/

namespace ArrayState

variable {s s' : ArrayState}

/-- The array has no type before its first element. -/
def Typed (s : ArrayState) : Prop := s.count = 0 → s.type = none

/-- The types of further stops pass the test in a state of the loop. -/
def passes (s : ArrayState) (types : List (Option ElementType)) : Bool :=
  if s.count = 0 then typesPass types else typesPass (s.type :: types)

theorem typed_start : start.Typed := fun _ => rfl

theorem passes_nil : s.passes [] = true := by
  unfold passes
  split <;> rfl

theorem passes_skip (h : s.Typed) (types : List (Option ElementType)) :
    s.passes (none :: types) = s.skip.passes types := by
  unfold passes skip
  by_cases hs : s.count = 0
  · rw [if_pos hs, if_neg (Nat.succ_ne_zero _), h hs]
  · rw [if_neg hs, if_neg (Nat.succ_ne_zero _)]
    simp [typesPass]

theorem passes_none (h : s.Typed) : s.passes [none] = true := by
  rw [passes_skip h, passes_nil]

/-- What an element does to the state if its type is accepted. -/
structure Accepted (s s' : ArrayState) (element : ElementType) : Prop where
  type : s'.type = if s.count = 0 then some element else s.type
  stored : s'.stored = s.stored
  objects : s'.objects = s.objects
  count : s'.count = s.count

theorem accept_isOk (element : ElementType) : (s.accept element).isOk = s.passes [some element] := by
  unfold accept passes
  by_cases hs : s.count = 0
  · simp [hs, typesPass, Except.isOk, Except.toBool]
  · by_cases ht : typeTest s.type element = true
    · simp [hs, ht, typesPass, Except.isOk, Except.toBool]
    · simp [hs, ht, typesPass, Except.isOk, Except.toBool]

theorem accepted_of_accept (h : s.accept element = .ok s') : s.Accepted s' element := by
  unfold accept at h
  split at h
  · rename_i hs
    cases h
    exact ⟨by rw [if_pos hs], rfl, rfl, rfl⟩
  · rename_i hs
    split at h
    · cases h
      exact ⟨by rw [if_neg hs], rfl, rfl, rfl⟩
    · cases h

theorem accept_bind_isOk {α : Type} {f : ArrayState → Except RepError α} {b : Bool}
    (hf : ∀ a, (f a).isOk = b) : (s.accept element >>= f).isOk = (s.passes [some element] && b) := by
  rw [← accept_isOk, Bool.eq_iff_iff, isOk_bind, Bool.and_eq_true, isOk_iff]
  constructor
  · rintro ⟨a, ha, h⟩
    exact ⟨⟨a, ha⟩, hf a ▸ h⟩
  · rintro ⟨⟨a, ha⟩, h⟩
    exact ⟨a, ha, (hf a).trans h⟩

/-- The types behind an element that has been accepted are tested against the type of the state it leads to. -/
theorem passes_accept {a : ArrayState} (h : s.accept element = .ok a)
    (htype : s'.type = a.type) (hcount : s'.count = a.count + 1) (types : List (Option ElementType)) :
    s.passes (some element :: types) = s'.passes types := by
  have ha : s.passes [some element] = true := by rw [← accept_isOk, h]; rfl
  have ht := (accepted_of_accept h).type
  unfold passes at ha ⊢
  rw [if_neg (show s'.count ≠ 0 by omega), htype, ht]
  by_cases hs : s.count = 0
  · rw [if_pos hs, if_pos hs]
  · rw [if_neg hs] at ha ⊢
    rw [if_neg hs]
    have htest : typeTest s.type element = true := by simpa [typesPass] using ha
    simp [typesPass, htest]

end ArrayState

section Parsing

variable {itemMax : Nat} {s s' : ArrayState} {item : Cbor} {items : List Cbor} {name : OcString}

theorem copyString_isOk (room : Nat) (t : OcString) : (copyString room t).isOk = decide (t.length ≤ room) := by
  unfold copyString
  split
  · rename_i h
    simp [Except.isOk, Except.toBool, h]
  · rename_i h
    have hle : t.length ≤ room := by omega
    split <;> simp [Except.isOk, Except.toBool, hle]

/-- What an element with a case does to the state in which its type has been accepted. -/
inductive Writes (itemMax : Nat) (a : ArrayState) (element : ElementType) : Cbor → ArrayState → Prop
  | value {item : Cbor} {content : Content} (hkind : element ≠ .object)
      (hsize : 0 < itemMax → content.size ≤ element.width itemMax) :
    Writes itemMax a element item (a.store element content)
  | object {items : List Cbor} {entries : List RepNode} (hkind : element = .object)
      (hentries : parseEntries itemMax items = .ok entries) :
    Writes itemMax a element (.map items) (a.addObject entries)

theorem copyString_size {room : Nat} {t bytes : OcString} (h : copyString room t = .ok bytes) :
    bytes.length ≤ room := by
  unfold copyString at h
  split at h
  · cases h
  · split at h
    · cases h
      rw [List.length_append, List.length_singleton]
      omega
    · cases h
      omega

theorem parseItem_element
    (he : item.elementType = some element) (h : parseItem itemMax s item = .ok s') :
    ∃ a, s.accept element = .ok a ∧ Writes itemMax a element item s' := by
  cases item with
  | integer v =>
    cases he
    obtain ⟨a, ha, heq⟩ := bind_eq_ok.1 h
    cases heq
    exact ⟨a, ha, .value (by decide) fun _ => Nat.le_refl 8⟩
  | boolean b =>
    cases he
    obtain ⟨a, ha, heq⟩ := bind_eq_ok.1 h
    cases heq
    exact ⟨a, ha, .value (by decide) fun _ => Nat.le_refl 1⟩
  | double bits =>
    cases he
    obtain ⟨a, ha, heq⟩ := bind_eq_ok.1 h
    cases heq
    exact ⟨a, ha, .value (by decide) fun _ => Nat.le_refl 8⟩
  | byteString b =>
    cases he
    obtain ⟨a, ha, h⟩ := bind_eq_ok.1 h
    obtain ⟨bytes, hb, heq⟩ := bind_eq_ok.1 h
    cases heq
    refine ⟨a, ha, .value (by decide) fun hpos => ?_⟩
    have hsize := copyString_size hb
    show bytes.length + 1 ≤ itemMax
    omega
  | textString t =>
    cases he
    obtain ⟨a, ha, h⟩ := bind_eq_ok.1 h
    obtain ⟨bytes, hb, heq⟩ := bind_eq_ok.1 h
    cases heq
    refine ⟨a, ha, .value (by decide) fun _ => ?_⟩
    have hsize := copyString_size hb
    show bytes.length ≤ itemMax
    omega
  | map items =>
    cases he
    rw [parseItem] at h
    obtain ⟨a, ha, h⟩ := bind_eq_ok.1 h
    obtain ⟨entries, hentries, heq⟩ := bind_eq_ok.1 h
    cases heq
    exact ⟨a, ha, .object rfl hentries⟩
  | array | tag | other => cases he

theorem parseItem_cases (h : parseItem itemMax s item = .ok s') :
    (∃ element a, item.elementType = some element ∧ s.accept element = .ok a ∧ Writes itemMax a element item s') ∨
      (∃ content, item = .tag content ∧ parseItem itemMax s.skip content = .ok s') ∨
      (item.stopTypes = [none] ∧ s' = s.skip) := by
  cases he : item.elementType with
  | some element =>
    obtain ⟨a, ha, hw⟩ := parseItem_element he h
    exact .inl ⟨element, a, rfl, ha, hw⟩
  | none =>
    cases item with
    | tag content => exact .inr (.inl ⟨content, rfl, h⟩)
    | array definite items => cases h; exact .inr (.inr ⟨rfl, rfl⟩)
    | other type => cases h; exact .inr (.inr ⟨rfl, rfl⟩)
    | _ => cases he

theorem stopTypes_of_elementType (h : item.elementType = some element) :
    item.stopTypes = [some element] := by
  cases item <;> cases h <;> rfl

theorem parseItem_passes {s s' : ArrayState} {item : Cbor} (hs : s.Typed) (h : parseItem itemMax s item = .ok s') :
    s'.Typed ∧ ∀ types, s.passes (item.stopTypes ++ types) = s'.passes types := by
  obtain ⟨element, a, he, ha, hw⟩ | ⟨content, rfl, hc⟩ | ⟨hstops, rfl⟩ := parseItem_cases h
  · rw [stopTypes_of_elementType he]
    cases hw with
    | value => exact ⟨fun hc => absurd hc (Nat.succ_ne_zero _), ArrayState.passes_accept ha rfl rfl⟩
    | object => exact ⟨fun hc => absurd hc (Nat.succ_ne_zero _), ArrayState.passes_accept ha rfl rfl⟩
  · obtain ⟨ht, hp⟩ := parseItem_passes (fun hc => absurd hc (Nat.succ_ne_zero _)) hc
    refine ⟨ht, fun types => ?_⟩
    rw [Cbor.stopTypes, List.cons_append, ArrayState.passes_skip hs, hp]
  · rw [hstops]
    exact ⟨fun hc => absurd hc (Nat.succ_ne_zero _), ArrayState.passes_skip hs⟩
termination_by item

theorem passes_of_append (types rest : List (Option ElementType)) :
    s.passes (types ++ rest) = true → s.passes types = true := by
  unfold ArrayState.passes
  split
  · cases types with
    | nil => exact fun _ => rfl
    | cons t types => simp only [List.cons_append, typesPass, List.all_append, Bool.and_eq_true]; exact And.left
  · simp only [typesPass, List.all_append, Bool.and_eq_true]
    exact And.left

mutual

theorem parseEntries_isOk : ∀ items, (parseEntries itemMax items).isOk = acceptsEntries itemMax items
  | [] => rfl
  | [_] => rfl
  | key :: value :: rest => by
    rw [parseEntries, acceptsEntries, ← parseEntries_isOk rest]
    cases key with
    | textString t =>
      rw [← parseValue_isOk t value]
      show (parseValue itemMax t value >>= fun node => _).isOk = _
      cases parseValue itemMax t value with
      | error e => rfl
      | ok node =>
        show (parseEntries itemMax rest >>= fun nodes => _).isOk = _
        cases parseEntries itemMax rest <;> rfl
    | _ => rfl

theorem parseValue_isOk (name : OcString) : ∀ value, (parseValue itemMax name value).isOk = acceptsValue itemMax value
  | .tag content => by
    rw [parseValue, acceptsValue, parseValue_isOk name content]
  | .map items => by
    rw [parseValue, acceptsValue, ← parseEntries_isOk items]
    cases parseEntries itemMax items <;> rfl
  | .array definite items => by
    have h := parseItems_isOk ArrayState.typed_start items
    rw [parseValue, acceptsValue, ← show ArrayState.start.passes _ = typesPass (items.flatMap Cbor.stopTypes) from rfl, ← h]
    cases parseItems itemMax .start items <;> rfl
  | .integer _ | .boolean _ | .double _ | .byteString _ | .textString _ | .other _ => rfl

theorem parseItems_isOk {s : ArrayState} (hs : s.Typed) : ∀ items,
    (parseItems itemMax s items).isOk = (s.passes (items.flatMap Cbor.stopTypes) && acceptsItems itemMax items)
  | [] => by
    rw [List.flatMap_nil, ArrayState.passes_nil]
    rfl
  | item :: rest => by
    have hi := parseItem_isOk hs item
    rw [parseItems, acceptsItems, List.flatMap_cons, Bool.eq_iff_iff, isOk_bind]
    constructor
    · rintro ⟨s', hs', hrest⟩
      obtain ⟨ht, hp⟩ := parseItem_passes hs hs'
      rw [parseItems_isOk ht rest, Bool.and_eq_true] at hrest
      have hitem := isOk_iff.2 ⟨s', hs'⟩
      rw [hi, Bool.and_eq_true] at hitem
      rw [hp, Bool.and_eq_true, Bool.and_eq_true]
      exact ⟨hrest.1, hitem.2, hrest.2⟩
    · rw [Bool.and_eq_true, Bool.and_eq_true]
      rintro ⟨hpass, hitem, hrest⟩
      rw [passes_of_append _ _ hpass, hitem, Bool.and_self] at hi
      obtain ⟨s', hs'⟩ := isOk_iff.1 hi
      obtain ⟨ht, hp⟩ := parseItem_passes hs hs'
      refine ⟨s', hs', ?_⟩
      rw [parseItems_isOk ht rest, ← hp, hpass, hrest]
      rfl

theorem parseItem_isOk {s : ArrayState} (hs : s.Typed) : ∀ item,
    (parseItem itemMax s item).isOk = (s.passes item.stopTypes && acceptsItem itemMax item)
  | .tag content => by
    rw [parseItem, acceptsItem, Cbor.stopTypes, ArrayState.passes_skip hs]
    exact parseItem_isOk (fun hc => absurd hc (Nat.succ_ne_zero _)) content
  | .integer _ => ArrayState.accept_bind_isOk fun _ => rfl
  | .boolean _ => ArrayState.accept_bind_isOk fun _ => rfl
  | .double _ => ArrayState.accept_bind_isOk fun _ => rfl
  | .byteString b => ArrayState.accept_bind_isOk fun a => by
    have hb := copyString_isOk (min b.length (itemMax - 1)) b
    rw [acceptsItem, ← show decide (b.length ≤ min b.length (itemMax - 1)) = _ from decide_eq_decide.2 (by omega), ← hb]
    show (copyString (min b.length (itemMax - 1)) b >>= fun bytes => _).isOk = _
    cases copyString (min b.length (itemMax - 1)) b <;> rfl
  | .textString t => ArrayState.accept_bind_isOk fun a => by
    have ht := copyString_isOk (min (t.length + 1) itemMax) t
    rw [acceptsItem, ← show decide (t.length ≤ min (t.length + 1) itemMax) = _ from decide_eq_decide.2 (by omega), ← ht]
    cases copyString (min (t.length + 1) itemMax) t <;> rfl
  | .map items => by
    rw [parseItem]
    exact ArrayState.accept_bind_isOk fun a => by
      rw [acceptsItem, ← parseEntries_isOk items]
      cases parseEntries itemMax items <;> rfl
  | .array _ _ | .other _ => (ArrayState.passes_none hs).symm ▸ rfl

end

/-! ## Arrays of one type -/

/-- What the loop over an array of one type keeps: element `k` is item `k`, or else object `k`. -/
structure Filled (itemMax : Nat) (element : ElementType) (s : ArrayState) : Prop where
  typed : s.Typed
  type : s.count ≠ 0 → s.type = some element
  stored : element ≠ .object →
    s.stored.map (fun x => (x.type, x.index)) = (List.range s.count).map (fun k => (element, k))
  size : ∀ x ∈ s.stored, x.content.size ≤ x.type.width itemMax
  objects : element = .object → s.stored = [] ∧ s.objects.length = s.count

theorem filled_start (element : ElementType) : Filled itemMax element .start :=
  ⟨ArrayState.typed_start, fun h => absurd rfl h, fun _ => rfl, fun _ h => absurd h List.not_mem_nil,
    fun _ => ⟨rfl, rfl⟩⟩

theorem Filled.accept {s a : ArrayState} (hs : Filled itemMax element s)
    (ha : s.accept element = .ok a) : a.type = some element := by
  rw [(ArrayState.accepted_of_accept ha).type]
  split
  · rfl
  · rename_i hne
    exact hs.type hne

theorem Filled.step (hpos : 0 < itemMax)
    (hs : Filled itemMax element s) (he : item.elementType = some element)
    (h : parseItem itemMax s item = .ok s') : Filled itemMax element s' ∧ s'.count = s.count + 1 := by
  obtain ⟨a, ha, hw⟩ := parseItem_element he h
  have hacc := ArrayState.accepted_of_accept ha
  have htype := hs.accept ha
  cases hw with
  | @value _ content hkind hsize =>
    refine ⟨⟨fun hc => absurd hc (Nat.succ_ne_zero _), fun _ => htype, fun _ => ?_, ?_, fun hobj => absurd hobj hkind⟩,
      congrArg (· + 1) hacc.count⟩
    · show List.map _ (a.stored ++ [_]) = (List.range (a.count + 1)).map _
      rw [List.map_append, List.range_succ, List.map_append, hacc.stored, hs.stored hkind, hacc.count]
      rfl
    · intro x hx
      rcases List.mem_append.1 hx with hx | hx
      · rw [hacc.stored] at hx
        exact hs.size x hx
      · cases List.mem_singleton.1 hx
        exact hsize hpos
  | @object items entries hkind _ =>
    obtain ⟨hstored, hlen⟩ := hs.objects hkind
    refine ⟨⟨fun hc => absurd hc (Nat.succ_ne_zero _), fun _ => htype, fun hne => absurd hkind hne, ?_, fun _ => ?_⟩,
      congrArg (· + 1) hacc.count⟩
    · intro x hx
      have hx' : x ∈ a.stored := hx
      rw [hacc.stored, hstored] at hx'
      cases hx'
    · show a.stored = [] ∧ (a.objects ++ [entries]).length = a.count + 1
      rw [hacc.stored, hacc.objects, hacc.count, List.length_append, hlen]
      exact ⟨hstored, rfl⟩

theorem Filled.run (hpos : 0 < itemMax) : ∀ {items : List Cbor} {s s' : ArrayState},
    Filled itemMax element s → (∀ item ∈ items, item.elementType = some element) →
      parseItems itemMax s items = .ok s' → Filled itemMax element s' ∧ s'.count = s.count + items.length
  | [], s, s', hs, _, h => by
    rw [parseItems] at h
    cases h
    exact ⟨hs, rfl⟩
  | item :: rest, s, s', hs, hall, h => by
    rw [parseItems] at h
    obtain ⟨s₁, h₁, hrest⟩ := bind_eq_ok.1 h
    obtain ⟨hf, hcount⟩ := hs.step hpos (hall item List.mem_cons_self) h₁
    obtain ⟨hf', hcount'⟩ := Filled.run hpos hf (fun x hx => hall x (List.mem_cons_of_mem _ hx)) hrest
    refine ⟨hf', ?_⟩
    rw [hcount', hcount, List.length_cons]
    omega

theorem Filled.homogeneous (hs : Filled itemMax element s)
    (name : OcString) : Homogeneous itemMax (s.node name s.count) := by
  unfold ArrayState.node
  cases ht : s.type with
  | none => trivial
  | some type =>
    have hcount : s.count ≠ 0 := fun hc => by
      rw [hs.typed hc] at ht
      cases ht
    have heq : element = type := by
      have hsome := hs.type hcount
      rw [ht] at hsome
      exact (Option.some.inj hsome).symm
    subst heq
    have harray : element ≠ .object → Homogeneous itemMax (.array name element s.count s.stored s.count) := by
      intro hne
      refine ⟨hs.stored hne, fun x hx => ?_⟩
      have hmem : (x.type, x.index) ∈ s.stored.map (fun x => (x.type, x.index)) := List.mem_map_of_mem hx
      rw [hs.stored hne] at hmem
      obtain ⟨k, hk, hpair⟩ := List.mem_map.1 hmem
      obtain ⟨htype, rfl⟩ := Prod.mk.inj hpair
      have hsize := hs.size x hx
      rw [← htype] at hsize
      have hlt : x.index + 1 ≤ s.count := List.mem_range.1 hk
      unfold Stored.InBlock
      rw [← htype, Nat.succ_mul]
      exact ⟨Nat.add_le_add_left hsize _, by
        rw [← Nat.succ_mul]
        exact Nat.mul_le_mul_right _ hlt⟩
    cases element with
    | object => exact hs.objects rfl
    | int => exact harray (by decide)
    | double => exact harray (by decide)
    | bool => exact harray (by decide)
    | byteString => exact harray (by decide)
    | string => exact harray (by decide)

theorem parseItem_untyped {s s' : ArrayState} {item : Cbor} (hs : s.type = none)
    (hfirst : s.count ≠ 0 ∨ item.elementType = none) (h : parseItem itemMax s item = .ok s') :
    s'.type = none ∧ s'.count ≠ 0 := by
  obtain ⟨element, a, he, ha, -⟩ | ⟨content, rfl, hc⟩ | ⟨-, rfl⟩ := parseItem_cases h
  · -- the type of no element passes the test against a type that has not been set
    have hcount : s.count ≠ 0 := hfirst.resolve_right fun hnone => by
      rw [he] at hnone
      cases hnone
    have htest : typeTest none element = false := by cases element <;> decide
    rw [ArrayState.accept, if_neg hcount, hs, htest] at ha
    cases ha
  · exact parseItem_untyped (show s.skip.type = none from hs) (.inl (Nat.succ_ne_zero _)) hc
  · exact ⟨hs, Nat.succ_ne_zero _⟩
termination_by item

theorem parseItems_untyped : ∀ {items : List Cbor} {s s' : ArrayState}, s.type = none →
    (s.count ≠ 0 ∨ ∀ item ∈ items, item.elementType = none) → parseItems itemMax s items = .ok s' → s'.type = none
  | [], s, s', hs, _, h => by
    rw [parseItems] at h
    cases h
    exact hs
  | item :: rest, s, s', hs, hfirst, h => by
    rw [parseItems] at h
    obtain ⟨s₁, h₁, hrest⟩ := bind_eq_ok.1 h
    obtain ⟨htype, hcount⟩ := parseItem_untyped hs (hfirst.imp_right fun hall => hall item List.mem_cons_self) h₁
    exact parseItems_untyped htype (.inl hcount) hrest

theorem elementType_eq_of_type {a b : Cbor} (h : a.type = b.type) : a.elementType = b.elementType := by
  cases a <;> cases b <;> first | rfl | cases h

theorem SameType.elements (h : SameType items) :
    (∃ element, ∀ item ∈ items, item.elementType = some element) ∨ ∀ item ∈ items, item.elementType = none := by
  cases items with
  | nil => exact .inr fun _ hi => absurd hi List.not_mem_nil
  | cons first rest =>
    have hall : ∀ item ∈ first :: rest, item.elementType = first.elementType :=
      fun item hi => elementType_eq_of_type (h item hi first List.mem_cons_self)
    cases hfirst : first.elementType with
    | none => exact .inr fun item hi => (hall item hi).trans hfirst
    | some element => exact .inl ⟨element, fun item hi => (hall item hi).trans hfirst⟩

theorem arrayLength_of_elements (definite : Bool)
    (h : ∀ item ∈ items, item.elementType = some element) : arrayLength definite items = items.length := by
  have hstops : ∀ item ∈ items, item.stops = 1 := fun item hi => by
    have he := h item hi
    cases item with
    | tag => cases he
    | _ => rfl
  unfold arrayLength
  split
  · rfl
  · rw [List.map_congr_left hstops]
    simp

theorem SameType.homogeneous (hpos : 0 < itemMax) (hsame : SameType items) (definite : Bool)
    (name : OcString) (h : parseItems itemMax .start items = .ok s) :
    Homogeneous itemMax (s.node name (arrayLength definite items)) := by
  obtain ⟨element, hall⟩ | hall := hsame.elements
  · obtain ⟨hf, hcount⟩ := (filled_start element).run hpos hall h
    rw [arrayLength_of_elements definite hall, ← (hcount.trans (Nat.zero_add _))]
    exact hf.homogeneous name
  · have htype := parseItems_untyped rfl (.inr hall) h
    unfold ArrayState.node
    rw [htype]
    trivial

/-! ## The records of a tree -/

section Trees

theorem not_contains_nil {node : RepNode} : ¬Contains [] node := fun h => by
  cases h with
  | here h => cases h
  | object h => cases h
  | item h => cases h

theorem contains_cons {first node : RepNode} {rest : List RepNode} :
    Contains (first :: rest) node ↔ Contains [first] node ∨ Contains rest node := by
  constructor
  · intro h
    cases h with
    | here h =>
      obtain rfl | h := List.mem_cons.1 h
      · exact .inl (.here List.mem_cons_self)
      · exact .inr (.here h)
    | object h hc =>
      obtain rfl | h := List.mem_cons.1 h
      · exact .inl (.object List.mem_cons_self hc)
      · exact .inr (.object h hc)
    | item h hi hc =>
      obtain rfl | h := List.mem_cons.1 h
      · exact .inl (.item List.mem_cons_self hi hc)
      · exact .inr (.item h hi hc)
  · intro h
    have hsub : ∀ {nodes : List RepNode}, nodes ⊆ first :: rest → Contains nodes node → Contains (first :: rest) node := by
      intro nodes hsub h
      cases h with
      | here h => exact .here (hsub h)
      | object h hc => exact .object (hsub h) hc
      | item h hi hc => exact .item (hsub h) hi hc
    obtain h | h := h
    · exact hsub (by simp) h
    · exact hsub (List.subset_cons_self _ _) h

variable (itemMax : Nat)

/-- Every array of a tree is homogeneous. -/
def AllHomogeneous (nodes : List RepNode) : Prop := ∀ node, Contains nodes node → Homogeneous itemMax node

variable {itemMax}

theorem allHomogeneous_nil : AllHomogeneous itemMax [] := fun _ h => absurd h not_contains_nil

theorem allHomogeneous_cons {first : RepNode} {rest : List RepNode} (hfirst : AllHomogeneous itemMax [first])
    (hrest : AllHomogeneous itemMax rest) : AllHomogeneous itemMax (first :: rest) := fun node h =>
  (contains_cons.1 h).elim (hfirst node) (hrest node)

theorem allHomogeneous_singleton {first : RepNode} (hfirst : Homogeneous itemMax first)
    (hobject : ∀ name entries, first = .object name entries → AllHomogeneous itemMax entries)
    (hitems : ∀ name objects stray count, first = .objectArray name objects stray count →
      ∀ entries ∈ objects, AllHomogeneous itemMax entries) : AllHomogeneous itemMax [first] := by
  intro node h
  cases h with
  | here h =>
    cases List.mem_singleton.1 h
    exact hfirst
  | object h hc => exact hobject _ _ (List.mem_singleton.1 h).symm node hc
  | item h hi hc => exact hitems _ _ _ _ (List.mem_singleton.1 h).symm _ hi node hc

theorem allHomogeneous_leaf (name : OcString) (value : RepScalar) : AllHomogeneous itemMax [.leaf name value] :=
  allHomogeneous_singleton trivial (fun _ _ h => nomatch h) (fun _ _ _ _ h => nomatch h)

theorem allHomogeneous_object {entries : List RepNode} (h : AllHomogeneous itemMax entries) :
    AllHomogeneous itemMax [.object name entries] :=
  allHomogeneous_singleton trivial (fun _ _ heq => by cases heq; exact h) (fun _ _ _ _ h => nomatch h)

theorem allHomogeneous_node {length : Nat}
    (h : Homogeneous itemMax (s.node name length)) (hobjects : ∀ entries ∈ s.objects, AllHomogeneous itemMax entries) :
    AllHomogeneous itemMax [s.node name length] := by
  refine allHomogeneous_singleton h (fun n entries heq => ?_) (fun n objects stray count heq => ?_)
  · unfold ArrayState.node at heq
    split at heq <;> cases heq
  · unfold ArrayState.node at heq
    split at heq <;> cases heq
    exact hobjects

end Trees

/-! ## The trees of the parser -/

theorem parseItem_objects (hmap : item.type ≠ .map) (htag : item.type ≠ .tag)
    (h : parseItem itemMax s item = .ok s') : s'.objects = s.objects := by
  obtain ⟨element, a, -, ha, hw⟩ | ⟨content, rfl, -⟩ | ⟨-, rfl⟩ := parseItem_cases h
  · cases hw with
    | value => exact (ArrayState.accepted_of_accept ha).objects
    | object => exact absurd rfl hmap
  · exact absurd rfl htag
  · rfl

mutual

theorem parseEntries_homogeneous (hpos : 0 < itemMax) : ∀ {items : List Cbor} {nodes : List RepNode},
    UnmixedAll items → parseEntries itemMax items = .ok nodes → AllHomogeneous itemMax nodes
  | [], nodes, _, h => by
    cases h
    exact allHomogeneous_nil
  | [_], nodes, _, h => by cases h
  | key :: value :: rest, nodes, hu, h => by
    rw [parseEntries] at h
    obtain ⟨name, -, h⟩ := bind_eq_ok.1 h
    obtain ⟨node, hnode, h⟩ := bind_eq_ok.1 h
    obtain ⟨others, hothers, heq⟩ := bind_eq_ok.1 h
    cases heq
    exact allHomogeneous_cons (parseValue_homogeneous hpos hu.2.1 hnode) (parseEntries_homogeneous hpos hu.2.2 hothers)

theorem parseValue_homogeneous (hpos : 0 < itemMax) {name : OcString} : ∀ {value : Cbor} {node : RepNode},
    Unmixed value → parseValue itemMax name value = .ok node → AllHomogeneous itemMax [node]
  | .tag content, node, hu, h => by
    rw [parseValue] at h
    exact parseValue_homogeneous hpos (show Unmixed content from hu) h
  | .map items, node, hu, h => by
    rw [parseValue] at h
    obtain ⟨entries, hentries, heq⟩ := bind_eq_ok.1 h
    cases heq
    exact allHomogeneous_object (parseEntries_homogeneous hpos hu hentries)
  | .array definite items, node, hu, h => by
    rw [parseValue] at h
    obtain ⟨s, hs, heq⟩ := bind_eq_ok.1 h
    cases heq
    exact allHomogeneous_node (hu.1.homogeneous hpos definite name hs)
      (parseItems_homogeneous hpos hu.2 (fun _ h => absurd h List.not_mem_nil) hs)
  | .integer _, node, _, h | .boolean _, node, _, h | .double _, node, _, h | .byteString _, node, _, h
  | .textString _, node, _, h | .other _, node, _, h => by
    cases h
    exact allHomogeneous_leaf _ _

theorem parseItems_homogeneous (hpos : 0 < itemMax) : ∀ {items : List Cbor} {s s' : ArrayState}, UnmixedAll items →
    (∀ entries ∈ s.objects, AllHomogeneous itemMax entries) → parseItems itemMax s items = .ok s' →
      ∀ entries ∈ s'.objects, AllHomogeneous itemMax entries
  | [], s, s', _, hs, h => by
    cases h
    exact hs
  | item :: rest, s, s', hu, hs, h => by
    rw [parseItems] at h
    obtain ⟨s₁, h₁, hrest⟩ := bind_eq_ok.1 h
    exact parseItems_homogeneous hpos hu.2 (parseItem_homogeneous hpos hu.1 hs h₁) hrest

theorem parseItem_homogeneous (hpos : 0 < itemMax) : ∀ {item : Cbor} {s s' : ArrayState}, Unmixed item →
    (∀ entries ∈ s.objects, AllHomogeneous itemMax entries) → parseItem itemMax s item = .ok s' →
      ∀ entries ∈ s'.objects, AllHomogeneous itemMax entries
  | .tag content, s, s', hu, hs, h => by
    rw [parseItem] at h
    have hskip : ∀ entries ∈ s.skip.objects, AllHomogeneous itemMax entries := hs
    exact parseItem_homogeneous hpos (show Unmixed content from hu) hskip h
  | .map items, s, s', hu, hs, h => by
    rw [parseItem] at h
    obtain ⟨a, ha, h⟩ := bind_eq_ok.1 h
    obtain ⟨entries, hentries, heq⟩ := bind_eq_ok.1 h
    cases heq
    intro es hes
    rcases List.mem_append.1 hes with hes | hes
    · rw [(ArrayState.accepted_of_accept ha).objects] at hes
      exact hs es hes
    · cases List.mem_singleton.1 hes
      exact parseEntries_homogeneous hpos hu hentries
  | .integer _, s, s', _, hs, h | .boolean _, s, s', _, hs, h | .double _, s, s', _, hs, h
  | .byteString _, s, s', _, hs, h | .textString _, s, s', _, hs, h | .array _ _, s, s', _, hs, h
  | .other _, s, s', _, hs, h => by
    rw [parseItem_objects (by nofun) (by nofun) h]
    exact hs

end

theorem parseRootItems_isOk : ∀ items, (parseRootItems itemMax items).isOk = acceptsRootItems itemMax items
  | [] => rfl
  | .map items :: rest | .array _ items :: rest => by
    rw [parseRootItems, acceptsRootItems, ← parseEntries_isOk items, ← parseRootItems_isOk rest]
    cases parseEntries itemMax items with
    | error e => rfl
    | ok entries =>
      show (parseRootItems itemMax rest >>= fun nodes => _).isOk = _
      cases parseRootItems itemMax rest <;> rfl
  | .integer _ :: _ | .boolean _ :: _ | .double _ :: _ | .byteString _ :: _ | .textString _ :: _ | .tag _ :: _
  | .other _ :: _ => rfl

theorem ocParseRep_isOk (payload : Cbor) : (ocParseRep itemMax payload).isOk = acceptsPayload itemMax payload := by
  cases payload with
  | map items => exact parseEntries_isOk items
  | array definite items => exact parseRootItems_isOk items
  | _ => rfl

theorem parseRootItems_homogeneous (hpos : 0 < itemMax) : ∀ {items : List Cbor} {nodes : List RepNode},
    UnmixedAll items → parseRootItems itemMax items = .ok nodes → AllHomogeneous itemMax nodes
  | [], nodes, _, h => by
    cases h
    exact allHomogeneous_nil
  | .map items :: rest, nodes, hu, h => by
    rw [parseRootItems] at h
    obtain ⟨entries, hentries, h⟩ := bind_eq_ok.1 h
    obtain ⟨others, hothers, heq⟩ := bind_eq_ok.1 h
    cases heq
    exact allHomogeneous_cons (allHomogeneous_object (parseEntries_homogeneous hpos hu.1 hentries))
      (parseRootItems_homogeneous hpos hu.2 hothers)
  | .array _ items :: rest, nodes, hu, h => by
    rw [parseRootItems] at h
    obtain ⟨entries, hentries, h⟩ := bind_eq_ok.1 h
    obtain ⟨others, hothers, heq⟩ := bind_eq_ok.1 h
    cases heq
    exact allHomogeneous_cons (allHomogeneous_object (parseEntries_homogeneous hpos hu.1.2 hentries))
      (parseRootItems_homogeneous hpos hu.2 hothers)
  | .integer _ :: _, _, _, h | .boolean _ :: _, _, _, h | .double _ :: _, _, _, h | .byteString _ :: _, _, _, h
  | .textString _ :: _, _, _, h | .tag _ :: _, _, _, h | .other _ :: _, _, _, h => by cases h

theorem ocParseRep_homogeneous (hpos : 0 < itemMax) {payload : Cbor} {nodes : List RepNode} (hu : Unmixed payload)
    (h : ocParseRep itemMax payload = .ok nodes) : AllHomogeneous itemMax nodes := by
  cases payload with
  | map items => exact parseEntries_homogeneous hpos hu h
  | array definite items => exact parseRootItems_homogeneous hpos hu.2 h
  | _ =>
    cases h
    exact allHomogeneous_nil

/-! ## Payloads whose arrays are kept -/

variable (itemMax)

/-- A payload that is parsed has no array that mixes types, and all arrays of its tree are homogeneous. -/
def ArraysKept (payload : Cbor) : Prop :=
  ∀ nodes, ocParseRep itemMax payload = .ok nodes → Unmixed payload ∧ AllHomogeneous itemMax nodes

variable {itemMax}

/-- The arrays are kept just where the parser reports a fault of every payload that mixes types. -/
theorem ocParseRep_arrays (hpos : 0 < itemMax) (payload : Cbor) :
    ArraysKept itemMax payload ↔ (acceptsPayload itemMax payload = true → Unmixed payload) := by
  rw [← ocParseRep_isOk]
  constructor
  · intro h hok
    obtain ⟨nodes, hnodes⟩ := isOk_iff.1 hok
    exact (h nodes hnodes).1
  · intro h nodes hnodes
    have hu := h (isOk_iff.2 ⟨nodes, hnodes⟩)
    exact ⟨hu, ocParseRep_homogeneous hpos hu hnodes⟩

/-- A payload of an array of truth values, with the slots of strings of the static build. -/
theorem ocParseRep_arrays_bools : 0 < 32 ∧
    ArraysKept 32 (.map [.textString (ascii "a"), .array true [.boolean true, .boolean false]]) := by
  refine ⟨by decide, (ocParseRep_arrays (by decide) _).2 fun _ => ?_⟩
  simp [Unmixed, UnmixedAll, SameType, Cbor.type]

/-- An integer is accepted behind a truth value, and its eight bytes go to a block that has one for each item. -/
theorem ocParseRep_mixed :
    let stored : List Stored := [⟨.bool, 0, .bool true⟩, ⟨.int, 1, .int 1⟩]
    ocParseRep 32 (.map [.textString (ascii "a"), .array true [.boolean true, .integer 1]]) =
        .ok [.array (ascii "a") .bool 2 stored 2] ∧
      ¬ArraysKept 32 (.map [.textString (ascii "a"), .array true [.boolean true, .integer 1]]) ∧
      ¬Homogeneous 32 (.array (ascii "a") .bool 2 stored 2) ∧
      ¬∀ s ∈ stored, s.InBlock 32 .bool 2 := by
  intro stored
  have hparse : ocParseRep 32 (.map [.textString (ascii "a"), .array true [.boolean true, .integer 1]]) =
      .ok [.array (ascii "a") .bool 2 stored 2] := rfl
  have hblock : ¬∀ s ∈ stored, s.InBlock 32 .bool 2 := fun h => by
    have hint := (h ⟨.int, 1, .int 1⟩ (by decide)).2
    exact absurd hint (by decide)
  have hnode : ¬Homogeneous 32 (.array (ascii "a") .bool 2 stored 2) := fun h => hblock h.2
  exact ⟨hparse, fun h => hnode ((h _ hparse).2 _ (.here List.mem_cons_self)), hnode, hblock⟩

end Parsing

end SmartGarage
