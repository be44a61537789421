/-
The audit event log across a restart: what `oc_sec_ael_encode` writes to the storage is decoded to the same log, unless
the filters have been changed behind an event, or an auxiliary item does not fit its slot.
-/
import SmartGarage.Api.RepArrays
import SmartGarage.Api.RepRoundTrip
import SmartGarage.Security.AelRuns

namespace SmartGarage.Ael

variable {entries : List (OcString × RepBuild)} {e : OcSecAelEvent}

open Runs BoundedLog RepBuild

/-! ## Encoding -/

/-- The properties of an item of `events`. -/
def eventEntries (e : OcSecAelEvent) : List (OcString × RepBuild) :=
  [(ascii "category", .setInt e.category.toNat), (ascii "priority", .setInt e.priority.toNat),
    (ascii "timestamp", .setInt e.timestamp.toInt)] ++
  ((if e.aeid.length > 0 then [(ascii "aeid", .setTextString e.aeid)] else []) ++
  ((if e.message.length > 0 then [(ascii "message", .setTextString e.message)] else []) ++
  [(ascii "auxiliaryinfo", .addTextStrings e.auxInfo)]))

/-- The properties in front of `events`. -/
def headEntries (a : OcSecAel) : List (OcString × RepBuild) :=
  [(ascii "rt", .addTextStrings [ascii "oic.r.ael"]),
    (ascii "if", .addTextStrings [ascii "oic.if.rw", ascii "oic.if.baseline"]),
    (ascii "categoryfilter", .setInt a.categoryfilter.toNat), (ascii "priorityfilter", .setInt a.priorityfilter.toNat),
    (ascii "maxspace", .setInt a.maxsize), (ascii "unit", .setInt a.unit)]

/-- `oc_sec_ael_encode` for the storage. -/
def ocSecAelEncode (a : OcSecAel) : Cbor :=
  ocRepRootObject (headEntries a ++ [(ascii "events", .objects (a.events.map eventEntries))])

/-- The log `a` is decoded from a payload in the storage; `none` where the payload is not parsed, or the decoder
accesses what is outside of an array. -/
def reload (abi : Abi) (a : OcSecAel) (payload : Cbor) : Option OcSecAel :=
  match ocParseRep abi.itemMax payload with
  | .ok rep => ocSecAelDecode abi true a rep
  | .error _ => none

/-- The content of an event, without its size. -/
def OcSecAelEvent.content (e : OcSecAelEvent) : OcSecAelEvent := { e with size := 0 }

/-- The same filters, `maxsize` and unit, and the same events. -/
structure OcSecAel.SameLog (a b : OcSecAel) : Prop where
  categoryfilter : b.categoryfilter = a.categoryfilter
  priorityfilter : b.priorityfilter = a.priorityfilter
  maxsize : b.maxsize = a.maxsize
  unit : b.unit = a.unit
  events : b.events.map OcSecAelEvent.content = a.events.map OcSecAelEvent.content

/-! ## Slots -/

section Slots

variable {itemMax : Nat}

/-- The slot of a text that is not longer than it. -/
def slotOf (itemMax : Nat) (t : OcString) : Content := .slot (if t.length < itemMax then t ++ [0] else t)

/-- The texts are shorter than their slots; one that fills its slot ends with an empty one behind it. -/
def AuxFits (itemMax : Nat) : List OcString → Prop
  | [] => True
  | t :: rest => (t.length < itemMax ∨ t.length = itemMax ∧ rest.head? = some []) ∧ AuxFits itemMax rest

instance AuxFits.decidable : ∀ texts, Decidable (AuxFits itemMax texts)
  | [] => .isTrue trivial
  | t :: rest =>
    have : Decidable (AuxFits itemMax rest) := AuxFits.decidable rest
    inferInstanceAs (Decidable ((t.length < itemMax ∨ t.length = itemMax ∧ rest.head? = some []) ∧ AuxFits itemMax rest))

theorem AuxFits.length_le : ∀ {texts : List OcString}, AuxFits itemMax texts → ∀ t ∈ texts, t.length ≤ itemMax
  | t :: rest, ⟨ht, hrest⟩, u, hu => by
    rcases List.mem_cons.1 hu with rfl | hu
    · rcases ht with hlt | ⟨heq, -⟩
      · exact Nat.le_of_lt hlt
      · exact Nat.le_of_eq heq
    · exact hrest.length_le u hu

theorem parseItem_slot {t : OcString} (h : t.length ≤ itemMax) (s : ArrayState) :
    parseItem itemMax s (.textString t) = s.accept .string >>= fun s => .ok (s.store .string (slotOf itemMax t)) := by
  unfold slotOf
  split
  · rename_i hlt
    exact parseItem_text hlt s
  · rename_i hfull
    have hcopy : copyString (min (t.length + 1) itemMax) t = .ok t := by
      unfold copyString
      rw [if_neg (by omega), if_neg (by omega)]
    rw [parseItem, hcopy]
    rfl

theorem slotText_short {t : OcString} (hzero : 0 ∉ t) (h : t.length < itemMax) (rest : List Content) :
    slotText (slotOf itemMax t :: rest) = some t := by
  have hmem : (0 : UInt8) ∈ t ++ [0] := List.mem_append_right _ List.mem_cons_self
  have hread := text?_slot hzero
  rw [Content.text?, if_pos hmem] at hread
  rw [slotOf, if_pos h, slotText, if_pos hmem, hread]

theorem slotText_full {t : OcString} (hzero : 0 ∉ t) (h : ¬t.length < itemMax) (rest : List Content) :
    slotText (slotOf itemMax t :: rest) = (slotText rest).map (t ++ ·) := by
  rw [slotOf, if_neg h, slotText, if_neg hzero]

theorem zero_notMem_slotText : ∀ {contents : List Content} {t : OcString}, slotText contents = some t → 0 ∉ t
  | .slot bytes :: rest, t, h => by
    rw [slotText] at h
    split at h
    · cases h
      exact cstr_eq_self_iff.1 (cstr_cstr bytes)
    · rename_i hbytes
      obtain ⟨u, hu, rfl⟩ := Option.map_eq_some_iff.1 h
      rw [List.mem_append, not_or]
      exact ⟨hbytes, zero_notMem_slotText hu⟩

theorem slotText_eq_nil (hpos : 0 < itemMax) {texts : List OcString} (hzero : ∀ t ∈ texts, 0 ∉ t) :
    slotText (texts.map (slotOf itemMax)) = some [] ↔ texts.head? = some [] := by
  cases texts with
  | nil => exact iff_of_false (fun h => nomatch h) fun h => nomatch h
  | cons t rest =>
    rw [List.map_cons, List.head?_cons, Option.some.injEq]
    by_cases hshort : t.length < itemMax
    · rw [slotText_short (hzero t List.mem_cons_self) hshort, Option.some.injEq]
    · rw [slotText_full (hzero t List.mem_cons_self) hshort]
      refine iff_of_false (fun h => ?_) fun h => hshort (by rw [h]; exact hpos)
      obtain ⟨u, -, hu⟩ := Option.map_eq_some_iff.1 h
      exact hshort (by rw [(List.append_eq_nil_iff.1 hu).1]; exact hpos)

theorem slotTexts_iff (hpos : 0 < itemMax) : ∀ {texts : List OcString}, (∀ t ∈ texts, 0 ∉ t) →
    (∀ t ∈ texts, t.length ≤ itemMax) → (slotTexts (texts.map (slotOf itemMax)) = some texts ↔ AuxFits itemMax texts)
  | [], _, _ => iff_of_true rfl trivial
  | t :: rest, hzero, hle => by
    have ih : slotTexts (rest.map (slotOf itemMax)) = some rest ↔ AuxFits itemMax rest :=
      slotTexts_iff hpos (fun u hu => hzero u (List.mem_cons_of_mem _ hu)) fun u hu =>
        hle u (List.mem_cons_of_mem _ hu)
    have htext : slotText (slotOf itemMax t :: rest.map (slotOf itemMax)) = some t ↔
        t.length < itemMax ∨ t.length = itemMax ∧ rest.head? = some [] := by
      by_cases hshort : t.length < itemMax
      · exact iff_of_true (slotText_short (hzero t List.mem_cons_self) hshort _) (.inl hshort)
      · have hlength : t.length = itemMax := Nat.le_antisymm (hle t List.mem_cons_self) (Nat.le_of_not_lt hshort)
        rw [slotText_full (hzero t List.mem_cons_self) hshort, Option.map_eq_some_iff,
          ← slotText_eq_nil hpos fun u hu => hzero u (List.mem_cons_of_mem _ hu)]
        constructor
        · rintro ⟨u, hu, happend⟩
          exact .inr ⟨hlength, hu.trans (congrArg some (List.append_right_eq_self.1 happend))⟩
        · rintro (hlt | ⟨-, hnext⟩)
          · exact absurd hlt hshort
          · exact ⟨[], hnext, List.append_nil t⟩
    rw [List.map_cons, slotTexts, AuxFits, ← htext, ← ih]
    cases slotText (slotOf itemMax t :: rest.map (slotOf itemMax)) with
    | none => exact iff_of_false (fun h => nomatch h) fun h => nomatch h.1
    | some u =>
      cases slotTexts (rest.map (slotOf itemMax)) with
      | none => exact iff_of_false (fun h => nomatch h) fun h => nomatch h.2
      | some us =>
        show some (u :: us) = some (t :: rest) ↔ some u = some t ∧ some us = some rest
        rw [Option.some.injEq, Option.some.injEq, Option.some.injEq, List.cons.injEq]

end Slots

/-! ## Parsing -/

section Parse

variable {itemMax : Nat}

theorem parseEntries_all {nodes : List RepNode}
    (h : List.Forall₂ (fun entry node => RepBuild.Parsed itemMax entry.1 (encode entry.1 entry.2) node) entries nodes) :
    parseEntries itemMax (encodeEntries entries) = .ok nodes := by
  induction h with
  | nil => rfl
  | cons hentry _ ih => exact hentry.entries ih

/-- The record of an array of objects: an array without items is a record without a value. -/
def objectsNode (key : OcString) (objects : List (List RepNode)) : RepNode :=
  if objects = [] then .leaf key .nil else .objectArray key objects [] objects.length

section Objects

variable {ι : Type} {entries : ι → List (OcString × RepBuild)} {nodes : ι → List RepNode}

theorem parseItems_objects : ∀ {items : List ι} {s : ArrayState},
    (∀ i ∈ items, parseEntries itemMax (encodeEntries (entries i)) = .ok (nodes i)) →
      s.count = 0 ∨ s.type = some .object → parseItems itemMax s (encodeObjects (items.map entries)) =
        .ok ⟨if items = [] then s.type else some .object, s.stored, s.objects ++ items.map nodes, s.count + items.length⟩
  | [], s, _, _ => by
    rw [List.map_nil, encodeObjects, parseItems]
    simp
  | i :: rest, s, h, hs => by
    have ih := parseItems_objects (s := (ArrayState.addObject { s with type := some .object } (nodes i)))
      (fun j hj => h j (List.mem_cons_of_mem _ hj)) (.inr rfl)
    rw [List.map_cons, encodeObjects, parseItems, ocRepObjectArrayItem, parseItem, accept_same hs]
    show (parseEntries itemMax (encodeEntries (entries i)) >>= fun entries => _) >>= _ = _
    rw [h i List.mem_cons_self]
    refine ih.trans ?_
    simp only [ArrayState.addObject, List.map_cons, List.append_assoc, List.singleton_append, ite_self,
      List.cons_ne_nil, if_false, List.length_cons]
    rw [Nat.add_assoc s.count, Nat.add_comm 1]

theorem parsed_objectsNode (key : OcString) {items : List ι}
    (h : ∀ i ∈ items, parseEntries itemMax (encodeEntries (entries i)) = .ok (nodes i)) :
    RepBuild.Parsed itemMax key (encode key (.objects (items.map entries))) (objectsNode key (items.map nodes)) := by
  refine ⟨_, rfl, ?_⟩
  rw [parseValue, parseItems_objects (s := .start) h (.inl rfl)]
  cases items with
  | nil => rfl
  | cons item rest =>
    show Except.ok (ArrayState.node _ key _) = _
    simp [ArrayState.node, ArrayState.start, objectsNode]

end Objects

/-- The record of the auxiliary items. -/
def auxNode (itemMax : Nat) (texts : List OcString) : RepNode :=
  if texts = [] then .leaf (ascii "auxiliaryinfo") .nil
  else writtenArray (ascii "auxiliaryinfo") .string (texts.map (slotOf itemMax))

theorem parsed_auxNode {texts : List OcString} (h : ∀ t ∈ texts, t.length ≤ itemMax) :
    RepBuild.Parsed itemMax (ascii "auxiliaryinfo") (encode (ascii "auxiliaryinfo") (.addTextStrings texts))
      (auxNode itemMax texts) := by
  unfold auxNode
  split
  · rename_i hnil
    subst hnil
    exact ⟨_, rfl, rfl⟩
  · rename_i hne
    exact parsed_array _ false (by decide) hne (fun _ => rfl) fun t ht => parseItem_slot (h t ht)

/-- The records of an item of `events`. -/
def eventNodes (itemMax : Nat) (e : OcSecAelEvent) : List RepNode :=
  [.leaf (ascii "category") (.int e.category.toNat), .leaf (ascii "priority") (.int e.priority.toNat),
    .leaf (ascii "timestamp") (.int e.timestamp.toInt)] ++
  ((if e.aeid.length > 0 then [.leaf (ascii "aeid") (.string e.aeid)] else []) ++
  ((if e.message.length > 0 then [.leaf (ascii "message") (.string e.message)] else []) ++
  [auxNode itemMax e.auxInfo]))

theorem parsed_int (key : OcString) {v : Int} (h : InInt64 v) :
    RepBuild.Parsed itemMax key (encode key (.setInt v)) (.leaf key (.int v)) :=
  parsed_encode key (show RepBuild.Encodable itemMax (.setInt v) from h)

theorem inInt64_timestamp (t : BitVec 64) : InInt64 t.toInt := ⟨BitVec.le_toInt t, BitVec.toInt_lt⟩

theorem parseEntries_event (h : ∀ t ∈ e.auxInfo, t.length ≤ itemMax) :
    parseEntries itemMax (encodeEntries (eventEntries e)) = .ok (eventNodes itemMax e) := by
  refine parseEntries_all (List.rel_append ?_ (List.rel_append ?_ (List.rel_append ?_ ?_)))
  · exact .cons (parsed_int _ (inInt64_byte _)) (.cons (parsed_int _ (inInt64_byte _))
      (.cons (parsed_int _ (inInt64_timestamp _)) .nil))
  · split
    · exact .cons ⟨_, rfl, rfl⟩ .nil
    · exact .nil
  · split
    · exact .cons ⟨_, rfl, rfl⟩ .nil
    · exact .nil
  · exact .cons (parsed_auxNode h) .nil

/-- The records of the log. -/
def logNodes (itemMax : Nat) (a : OcSecAel) : List RepNode :=
  nodesOf (headEntries a) ++ [objectsNode (ascii "events") (a.events.map (eventNodes itemMax))]

theorem parsed_nodesOf (h : EncodableEntries itemMax entries) :
    List.Forall₂ (fun entry node => RepBuild.Parsed itemMax entry.1 (encode entry.1 entry.2) node) entries
      (nodesOf entries) := by
  induction entries with
  | nil => exact .nil
  | cons entry rest ih =>
    obtain ⟨key, value⟩ := entry
    exact .cons (parsed_encode key h.2.1) (ih h.2.2)

theorem headEntries_encodable (hmax : 32 ≤ itemMax) {a : OcSecAel} (hmaxsize : a.maxsize ≤ OC_SEC_AEL_MAX_SIZE)
    (hunit : a.unit = 0) : EncodableEntries itemMax (headEntries a) := by
  have htexts : ∀ t ∈ [ascii "oic.r.ael", ascii "oic.if.rw", ascii "oic.if.baseline"], 0 ∉ t ∧ t.length < 16 := by decide
  have hfits : ∀ t ∈ [ascii "oic.r.ael", ascii "oic.if.rw", ascii "oic.if.baseline"], 0 ∉ t ∧ t.length < itemMax - 1 :=
    fun t ht => ⟨(htexts t ht).1, by have hlt := (htexts t ht).2; omega⟩
  have hspace : InInt64 a.maxsize := by
    unfold OC_SEC_AEL_MAX_SIZE at hmaxsize
    constructor <;> omega
  have hunit64 : InInt64 a.unit := by
    rw [hunit]
    exact ⟨by decide, by decide⟩
  exact ⟨by decide, ⟨by decide, fun t ht => hfits t (List.mem_cons.2 (.inl (List.mem_singleton.1 ht)))⟩,
    by decide, ⟨by decide, fun t ht => hfits t (List.mem_cons_of_mem _ ht)⟩,
    by decide, inInt64_byte _, by decide, inInt64_byte _, by decide, hspace, by decide, hunit64, trivial⟩

theorem ocParseRep_log (hmax : 32 ≤ itemMax) {a : OcSecAel} (hmaxsize : a.maxsize ≤ OC_SEC_AEL_MAX_SIZE)
    (hunit : a.unit = 0) (h : ∀ e ∈ a.events, ∀ t ∈ e.auxInfo, t.length ≤ itemMax) :
    ocParseRep itemMax (ocSecAelEncode a) = .ok (logNodes itemMax a) := by
  exact parseEntries_all (List.rel_append (parsed_nodesOf (headEntries_encodable hmax hmaxsize hunit))
    (.cons (parsed_objectsNode _ fun e he => parseEntries_event (h e he)) .nil))

end Parse

/-! ## Decoding -/

section Decode

variable {itemMax : Nat}

theorem decodeFilter_log {abi : Abi} {a : OcSecAel} (hmaxsize : a.maxsize ≤ OC_SEC_AEL_MAX_SIZE) (hunit : a.unit = 0)
    (b : OcSecAel) : (logNodes itemMax a).foldl (decodeFilter abi true) b = { b with
      categoryfilter := a.categoryfilter
      priorityfilter := a.priorityfilter
      maxsize := a.maxsize
      unit := a.unit } := by
  have hcategory : ∀ (b : OcSecAel) (v : UInt8),
      decodeFilter abi true b (.leaf (ascii "categoryfilter") (.int v.toNat)) = { b with categoryfilter := v } :=
    fun b v => by rw [decodeFilter, if_pos rfl, ofInt_byte]
  have hpriority : ∀ (b : OcSecAel) (v : UInt8),
      decodeFilter abi true b (.leaf (ascii "priorityfilter") (.int v.toNat)) = { b with priorityfilter := v } :=
    fun b v => by rw [decodeFilter, if_neg (by decide), if_pos rfl, ofInt_byte]
  have hspace : ∀ b : OcSecAel,
      decodeFilter abi true b (.leaf (ascii "maxspace") (.int a.maxsize)) = { b with maxsize := a.maxsize } := fun b => by
    have hlt : a.maxsize < 2 ^ abi.sizeBits := abi.sizes_lt hmaxsize (Nat.zero_le _)
    have hmod : ((a.maxsize : Int) % 2 ^ abi.sizeBits).toNat = a.maxsize := by
      rw [show (2 ^ abi.sizeBits : Int) = ((2 ^ abi.sizeBits : Nat) : Int) by norm_cast, ← Int.natCast_mod,
        Int.toNat_natCast, Nat.mod_eq_of_lt hlt]
    rw [decodeFilter, if_neg (by decide), if_neg (by decide), if_pos (by decide), hmod]
  have hunits : ∀ b : OcSecAel,
      decodeFilter abi true b (.leaf (ascii "unit") (.int a.unit)) = { b with unit := a.unit } := fun b => by
    rw [hunit, decodeFilter, if_neg (by decide), if_neg (by decide), if_neg (by decide), if_pos (by decide)]
    rfl
  have hevents : ∀ b : OcSecAel, decodeFilter abi true b (objectsNode (ascii "events") (a.events.map (eventNodes itemMax))) = b :=
    fun b => by
      unfold objectsNode
      split <;> rfl
  show decodeFilter abi true (decodeFilter abi true (decodeFilter abi true (decodeFilter abi true (decodeFilter abi true
    b (.leaf (ascii "categoryfilter") (.int a.categoryfilter.toNat)))
      (.leaf (ascii "priorityfilter") (.int a.priorityfilter.toNat))) (.leaf (ascii "maxspace") (.int a.maxsize)))
        (.leaf (ascii "unit") (.int a.unit))) (objectsNode (ascii "events") (a.events.map (eventNodes itemMax))) = _
  rw [hcategory, hpriority, hspace, hunits, hevents]

/-- The arguments that an event is added with again. -/
def reloadedArgs (e : OcSecAelEvent) (aux : List OcString) : AelArgs where
  category := e.category
  priority := e.priority
  timestamp := e.timestamp
  aeid := if e.aeid.length > 0 then some e.aeid else none
  message := if e.message.length > 0 then some e.message else none
  aux := aux

theorem decodeEventProperty_aux (args : AelArgs) (texts : List OcString) (haux : args.aux = []) :
    decodeEventProperty args (auxNode itemMax texts) =
      if texts.length > AEL_AUX_INFO_MAX_ITEMS then none
      else (slotTexts (texts.map (slotOf itemMax))).map fun aux => { args with aux := aux } := by
  unfold auxNode
  split
  · rename_i hnil
    subst hnil
    rw [if_neg (by decide)]
    cases args
    cases haux
    rfl
  · have hitems : RepBlock.items ⟨storedFrom .string 0 (texts.map (slotOf itemMax)),
        (texts.map (slotOf itemMax)).length⟩ some = some (texts.map (slotOf itemMax)) := by
      have hread := items_storedFrom .string id (some : Content → Option Content)
        (fun v (_ : v ∈ texts.map (slotOf itemMax)) => rfl)
      rwa [List.map_id] at hread
    rw [writtenArray, decodeEventProperty, if_pos rfl, hitems, List.length_map]
    rfl

theorem decodeEvent_event (e : OcSecAelEvent) : decodeEvent (eventNodes itemMax e) =
    if e.auxInfo.length > AEL_AUX_INFO_MAX_ITEMS then none
    else (slotTexts (e.auxInfo.map (slotOf itemMax))).map (reloadedArgs e) := by
  have hints : [RepNode.leaf (ascii "category") (.int e.category.toNat), .leaf (ascii "priority") (.int e.priority.toNat),
      .leaf (ascii "timestamp") (.int e.timestamp.toInt)].foldlM decodeEventProperty ⟨0, 0, 0, none, none, []⟩ =
        some ⟨e.category, e.priority, e.timestamp, none, none, []⟩ := by
    have hcategory : ∀ args : AelArgs, decodeEventProperty args (.leaf (ascii "category") (.int e.category.toNat)) =
        some { args with category := e.category } := fun args => by rw [decodeEventProperty, if_pos rfl, ofInt_byte]
    have hpriority : ∀ args : AelArgs, decodeEventProperty args (.leaf (ascii "priority") (.int e.priority.toNat)) =
        some { args with priority := e.priority } := fun args => by
      rw [decodeEventProperty, if_neg (by decide), if_pos rfl, ofInt_byte]
    have htimestamp : ∀ args : AelArgs, decodeEventProperty args (.leaf (ascii "timestamp") (.int e.timestamp.toInt)) =
        some { args with timestamp := e.timestamp } := fun args => by
      rw [decodeEventProperty, if_neg (by decide), if_neg (by decide), if_pos rfl, BitVec.ofInt_toInt]
    simp only [List.foldlM_cons, List.foldlM_nil, hcategory, hpriority, htimestamp, Option.bind_eq_bind, Option.bind_some,
      Option.pure_def]
  have haeid : ∀ args : AelArgs, args.aeid = none →
      (if e.aeid.length > 0 then [RepNode.leaf (ascii "aeid") (.string e.aeid)] else []).foldlM decodeEventProperty args =
        some { args with aeid := if e.aeid.length > 0 then some e.aeid else none } := fun args hargs => by
    split
    · show (decodeEventProperty args _ >>= fun args => some args) = _
      rw [decodeEventProperty, if_pos rfl]
      rfl
    · rw [← hargs]
      rfl
  have hmessage : ∀ args : AelArgs, args.message = none →
      (if e.message.length > 0 then [RepNode.leaf (ascii "message") (.string e.message)] else []).foldlM
        decodeEventProperty args =
          some { args with message := if e.message.length > 0 then some e.message else none } := fun args hargs => by
    split
    · show (decodeEventProperty args _ >>= fun args => some args) = _
      rw [decodeEventProperty, if_neg (by decide), if_pos rfl]
      rfl
    · rw [← hargs]
      rfl
  unfold decodeEvent eventNodes
  rw [List.foldlM_append, hints, Option.bind_eq_bind, Option.bind_some, List.foldlM_append, haeid _ rfl,
    Option.bind_eq_bind, Option.bind_some, List.foldlM_append, hmessage _ rfl, Option.bind_eq_bind, Option.bind_some]
  show (decodeEventProperty _ _ >>= fun args => some args) = _
  rw [decodeEventProperty_aux _ _ rfl, Option.bind_eq_bind]
  split
  · rfl
  · cases slotTexts (e.auxInfo.map (slotOf itemMax)) <;> rfl

/-- An event of the storage is added again. -/
def addAgain (abi : Abi) (b : OcSecAel) (e : OcSecAelEvent) : Option OcSecAel :=
  (decodeEvent (eventNodes abi.itemMax e)).map fun args => (addEvent abi b args).2

theorem ocSecAelDecode_log {abi : Abi} {a : OcSecAel} (hmaxsize : a.maxsize ≤ OC_SEC_AEL_MAX_SIZE) (hunit : a.unit = 0)
    (b : OcSecAel) : ocSecAelDecode abi true b (logNodes abi.itemMax a) = a.events.foldlM (addAgain abi) { b with
      categoryfilter := a.categoryfilter
      priorityfilter := a.priorityfilter
      maxsize := a.maxsize
      unit := a.unit } := by
  have hhead : ∀ b : OcSecAel, (nodesOf (headEntries a)).foldlM (decodeEvents abi true) b = some b := fun _ => rfl
  have hevents : ∀ (b : OcSecAel) (objects : List (List RepNode)),
      decodeEvents abi true b (objectsNode (ascii "events") objects) =
        objects.foldlM (fun a item => (decodeEvent item).map fun args => (addEvent abi a args).2) b := fun b objects => by
    unfold objectsNode
    split
    · rename_i hnil
      rw [hnil]
      rfl
    · rw [decodeEvents, if_pos (by decide)]
  rw [ocSecAelDecode, decodeFilter_log hmaxsize hunit, logNodes, List.foldlM_append, hhead, Option.bind_eq_bind,
    Option.bind_some, List.foldlM_cons, hevents, List.foldlM_map]
  show (a.events.foldlM (addAgain abi) _).bind some = _
  rw [Option.bind_fun_some]

end Decode

/-! ## The restart -/

section Restart

variable {abi : Abi}

/-- The event that is made of what has been stored. -/
def again (abi : Abi) (e : OcSecAelEvent) (aux : List OcString) : OcSecAelEvent := eventOf abi (reloadedArgs e aux)

theorem again_content (hmade : ∃ args, e = eventOf abi args) :
    (again abi e e.auxInfo).content = e.content ∧ (again abi e e.auxInfo).size ≤ e.size ∧ ∀ t ∈ e.auxInfo, 0 ∉ t := by
  obtain ⟨args, rfl⟩ := hmade
  have hcut : ∀ s : OcString, cstr ((if (cstr s).length > 0 then some (cstr s) else none).getD []) = cstr s := fun s => by
    split
    · exact cstr_cstr s
    · rename_i hnil
      rw [List.eq_nil_of_length_eq_zero (Nat.eq_zero_of_not_pos hnil)]
      rfl
  have hsize : ∀ s : Option OcString, stringSize (if (cstr (s.getD [])).length > 0 then some (cstr (s.getD [])) else none) ≤
      stringSize s := fun s => by
    split
    · cases s with
      | none => rename_i hpos; exact absurd hpos (by decide)
      | some s =>
        show (cstr (cstr s)).length + 1 ≤ (cstr s).length + 1
        rw [cstr_cstr]
    · exact Nat.zero_le _
  have haux : (args.aux.map cstr).map cstr = args.aux.map cstr := by
    rw [List.map_map]
    exact List.map_congr_left fun t _ => cstr_cstr t
  have hauxSize : ((args.aux.map cstr).map fun aux => strlen aux + 1) = args.aux.map fun aux => strlen aux + 1 := by
    rw [List.map_map]
    exact List.map_congr_left fun t _ => by
      show strlen (cstr t) + 1 = strlen t + 1
      unfold strlen
      rw [cstr_cstr]
  refine ⟨?_, ?_, ?_⟩
  · show OcSecAelEvent.mk 0 args.category args.priority args.timestamp
      (cstr ((if (cstr (args.aeid.getD [])).length > 0 then some (cstr (args.aeid.getD [])) else none).getD []))
      (cstr ((if (cstr (args.message.getD [])).length > 0 then some (cstr (args.message.getD [])) else none).getD []))
      ((args.aux.map cstr).map cstr) = _
    rw [hcut, hcut, haux]
    rfl
  · show abi.sizeofEvent + stringSize (ite _ _ _) + stringSize (ite _ _ _) + ((args.aux.map cstr).length * abi.sizeofPointer +
      ((args.aux.map cstr).map fun aux => strlen aux + 1).sum) ≤ abi.sizeofEvent + stringSize args.aeid +
        stringSize args.message + (args.aux.length * abi.sizeofPointer + (args.aux.map fun aux => strlen aux + 1).sum)
    rw [hauxSize, List.length_map]
    exact Nat.add_le_add_right (Nat.add_le_add (Nat.add_le_add_left (hsize args.aeid) _) (hsize args.message)) _
  · intro t ht
    obtain ⟨u, -, rfl⟩ := List.mem_map.1 ht
    exact cstr_eq_self_iff.1 (cstr_cstr u)

/-- An event comes back: it passes the filters, its auxiliary items fit their slots, and there are not too many of
them for the array of pointers. -/
def OcSecAel.Restores (abi : Abi) (a : OcSecAel) (e : OcSecAelEvent) : Prop :=
  a.passes e.category e.priority = true ∧ AuxFits abi.itemMax e.auxInfo ∧ e.auxInfo.length ≤ AEL_AUX_INFO_MAX_ITEMS

theorem Abi.itemMax_pos (abi : Abi) : 0 < abi.itemMax := Nat.lt_of_lt_of_le (by decide) abi.itemMax_le

theorem addAgain_restores {b : OcSecAel} (hb : b.Counted) (hmade : ∃ args, e = eventOf abi args)
    (hroom : total OcSecAelEvent.size b.events + e.size ≤ b.maxsize) (h : b.Restores abi e) :
    addAgain abi b e = some { b with
      events := b.events ++ [again abi e e.auxInfo]
      eventsSize := total OcSecAelEvent.size (b.events ++ [again abi e e.auxInfo]) } := by
  obtain ⟨-, hsize, hzero⟩ := again_content hmade
  obtain ⟨hpass, hfits, hcount⟩ := h
  have hown : (again abi e e.auxInfo).size ≤ b.maxsize := by omega
  have haccepts : b.Accepts abi (reloadedArgs e e.auxInfo) := ⟨hpass, hown⟩
  have hkept : evict OcSecAelEvent.size b.maxsize (eventOf abi (reloadedArgs e e.auxInfo)) b.events = b.events := by
    refine evict_of_room ?_
    show (again abi e e.auxInfo).size + _ ≤ _
    omega
  have hread := (slotTexts_iff abi.itemMax_pos hzero hfits.length_le).2 hfits
  unfold addAgain
  rw [decodeEvent_event, if_neg (Nat.not_lt_of_le hcount), hread, Option.map_some, Option.map_some,
    addEvent_accepted hb haccepts, hkept]
  rfl

theorem foldlM_restores : ∀ {es : List OcSecAelEvent} {b : OcSecAel}, b.Counted →
    (∀ e ∈ es, ∃ args, e = eventOf abi args) → total OcSecAelEvent.size b.events + total OcSecAelEvent.size es ≤ b.maxsize →
      (∀ e ∈ es, b.Restores abi e) → ∃ eventsSize, es.foldlM (addAgain abi) b = some { b with
        events := b.events ++ es.map fun e => again abi e e.auxInfo
        eventsSize := eventsSize }
  | [], b, _, _, _, _ => ⟨b.eventsSize, by rw [List.map_nil, List.append_nil]; rfl⟩
  | e :: es, b, hb, hmade, hroom, h => by
    obtain ⟨hmadeE, hmadeEs⟩ := List.forall_mem_cons.1 hmade
    obtain ⟨hE, hEs⟩ := List.forall_mem_cons.1 h
    have hsize := (again_content hmadeE).2.1
    rw [total_cons] at hroom
    have hstep := addAgain_restores hb hmadeE (by omega) hE
    have hnew : total OcSecAelEvent.size (b.events ++ [again abi e e.auxInfo]) + total OcSecAelEvent.size es ≤
        b.maxsize := by
      rw [total_append, total_cons, total_nil]
      omega
    obtain ⟨eventsSize, hrest⟩ := foldlM_restores (b := { b with
      events := b.events ++ [again abi e e.auxInfo]
      eventsSize := total OcSecAelEvent.size (b.events ++ [again abi e e.auxInfo]) })
      ⟨rfl, Nat.le_trans (Nat.le_add_right _ _) hnew, hb.maxsize⟩ hmadeEs hnew hEs
    refine ⟨eventsSize, ?_⟩
    rw [List.foldlM_cons, hstep]
    refine Eq.trans hrest ?_
    rw [List.map_cons, List.append_assoc]
    rfl

/-- What an event has been added as, with the auxiliary items that its slots are read as. -/
def AddedAs (abi : Abi) (b : OcSecAel) (e new : OcSecAelEvent) : Prop :=
  b.passes e.category e.priority = true ∧ e.auxInfo.length ≤ AEL_AUX_INFO_MAX_ITEMS ∧
    ∃ aux, slotTexts (e.auxInfo.map (slotOf abi.itemMax)) = some aux ∧ new = again abi e aux

/-- One more event at most: and if there is one more, the event has been added and none has been deleted. -/
theorem addAgain_spec {b b' : OcSecAel} (hb : b.Counted) (h : addAgain abi b e = some b') :
    (b'.Counted ∧ ∀ category priority, b'.passes category priority = b.passes category priority) ∧
      b'.events.length ≤ b.events.length + 1 ∧
      (b'.events.length = b.events.length + 1 → ∃ new, b'.events = b.events ++ [new] ∧ AddedAs abi b e new) := by
  unfold addAgain at h
  rw [decodeEvent_event] at h
  obtain ⟨args, hdecoded, rfl⟩ := Option.map_eq_some_iff.1 h
  obtain ⟨hcount, hread⟩ := Option.ite_none_left_eq_some.1 hdecoded
  obtain ⟨aux, haux, rfl⟩ := Option.map_eq_some_iff.1 hread
  by_cases haccepts : b.Accepts abi (reloadedArgs e aux)
  · have hlength : (evict OcSecAelEvent.size b.maxsize (eventOf abi (reloadedArgs e aux)) b.events).length ≤
        b.events.length := (evict_suffix _ _).length_le
    rw [addEvent_accepted hb haccepts]
    refine ⟨⟨⟨rfl, ?_, hb.maxsize⟩, fun _ _ => rfl⟩, ?_, fun heq => ?_⟩
    · have hown : (eventOf abi (reloadedArgs e aux)).size ≤ b.maxsize := haccepts.2
      have hroom := evict_fits hown b.events
      show total OcSecAelEvent.size (_ ++ [_]) ≤ b.maxsize
      rw [total_append, total_cons, total_nil]
      omega
    · show (_ ++ [_]).length ≤ _
      rw [List.length_append]
      exact Nat.add_le_add_right hlength 1
    · have hsame : evict OcSecAelEvent.size b.maxsize (eventOf abi (reloadedArgs e aux)) b.events = b.events := by
        refine (evict_suffix _ _).eq_of_length ?_
        have heq' : (_ ++ [_]).length = b.events.length + 1 := heq
        rw [List.length_append] at heq'
        exact Nat.add_right_cancel heq'
      refine ⟨again abi e aux, ?_, haccepts.1, Nat.le_of_not_lt hcount, aux, haux, rfl⟩
      show _ ++ [_] = _
      rw [hsame]
      rfl
  · rw [addEvent_rejected haccepts]
    exact ⟨⟨hb, fun _ _ => rfl⟩, Nat.le_succ _, fun heq => absurd heq (Nat.ne_of_lt (Nat.lt_succ_self _))⟩

theorem foldlM_spec : ∀ {es : List OcSecAelEvent} {b b' : OcSecAel}, b.Counted → es.foldlM (addAgain abi) b = some b' →
    b'.events.length ≤ b.events.length + es.length ∧ (b'.events.length = b.events.length + es.length →
      ∃ added, b'.events = b.events ++ added ∧ List.Forall₂ (AddedAs abi b) es added)
  | [], b, b', _, h => by
    cases h
    exact ⟨Nat.le_refl _, fun _ => ⟨[], (List.append_nil _).symm, .nil⟩⟩
  | e :: es, b, b', hb, h => by
    rw [List.foldlM_cons] at h
    obtain ⟨b₁, hfirst, hrest⟩ := Option.bind_eq_some_iff.1 h
    obtain ⟨⟨hcounted, hpasses⟩, hle, hone⟩ := addAgain_spec hb hfirst
    obtain ⟨hleRest, hall⟩ := foldlM_spec hcounted hrest
    refine ⟨by rw [List.length_cons]; omega, fun heq => ?_⟩
    rw [List.length_cons] at heq
    obtain ⟨new, hnew, hadded⟩ := hone (by omega)
    obtain ⟨added, hevents, hforall⟩ := hall (by omega)
    refine ⟨new :: added, by rw [hevents, hnew, List.append_assoc]; rfl, .cons hadded ?_⟩
    exact hforall.imp fun e new h => ⟨(hpasses _ _).symm.trans h.1, h.2⟩

theorem zero_notMem_slotTexts : ∀ {contents : List Content} {texts : List OcString}, slotTexts contents = some texts →
    ∀ t ∈ texts, 0 ∉ t
  | [], texts, h, t, ht => by
    cases h
    cases ht
  | content :: rest, texts, h, t, ht => by
    obtain ⟨u, hu, h⟩ := Option.bind_eq_some_iff.1 h
    obtain ⟨us, hus, h⟩ := Option.bind_eq_some_iff.1 h
    cases h
    rcases List.mem_cons.1 ht with rfl | ht
    · exact zero_notMem_slotText hu
    · exact zero_notMem_slotTexts hus t ht

theorem AddedAs.restores {a b : OcSecAel} (hpasses : ∀ category priority, b.passes category priority = a.passes category priority)
    {e new : OcSecAelEvent} (h : AddedAs abi b e new) (hmade : ∃ args, e = eventOf abi args)
    (hle : ∀ t ∈ e.auxInfo, t.length ≤ abi.itemMax) (hcontent : new.content = e.content) : a.Restores abi e := by
  obtain ⟨hpass, hcount, aux, haux, rfl⟩ := h
  refine ⟨(hpasses _ _).symm.trans hpass, ?_, hcount⟩
  have hsame : aux.map cstr = e.auxInfo := congrArg OcSecAelEvent.auxInfo hcontent
  have hself : aux.map cstr = aux :=
    (List.map_congr_left fun t ht => cstr_eq_self_iff.2 (zero_notMem_slotTexts haux t ht)).trans (List.map_id _)
  rw [← hself, hsame] at haux
  exact (slotTexts_iff abi.itemMax_pos (again_content hmade).2.2 hle).1 haux

theorem restores_of_added {a b : OcSecAel} (hpasses : ∀ category priority, b.passes category priority = a.passes category priority)
    {es added : List OcSecAelEvent} (h : List.Forall₂ (AddedAs abi b) es added) :
    added.map OcSecAelEvent.content = es.map OcSecAelEvent.content → (∀ e ∈ es, ∃ args, e = eventOf abi args) →
      (∀ e ∈ es, ∀ t ∈ e.auxInfo, t.length ≤ abi.itemMax) → ∀ e ∈ es, a.Restores abi e := by
  induction h with
  | nil => exact fun _ _ _ e he => absurd he List.not_mem_nil
  | cons hfirst _ ih =>
    intro hcontent hmade hle e he
    obtain ⟨hcontentFirst, hcontentRest⟩ := List.cons.inj hcontent
    rcases List.mem_cons.1 he with rfl | he
    · exact hfirst.restores hpasses (hmade e List.mem_cons_self) (hle e List.mem_cons_self) hcontentFirst
    · exact ih hcontentRest (fun e he => hmade e (List.mem_cons_of_mem _ he)) (fun e he => hle e (List.mem_cons_of_mem _ he))
        e he

theorem acceptsEntries_mem {itemMax : Nat} {key : OcString} {value : RepBuild} {cbor : Cbor}
    (hvalue : encode key value = [.textString key, cbor]) : ∀ {entries : List (OcString × RepBuild)},
      acceptsEntries itemMax (encodeEntries entries) = true → (key, value) ∈ entries → acceptsValue itemMax cbor = true
  | (k, v) :: rest, h, hmem => by
    have hencode : ∃ c, encode k v = [.textString k, c] := by cases v <;> exact ⟨_, rfl⟩
    obtain ⟨c, hc⟩ := hencode
    rw [encodeEntries, hc] at h
    have hparts : (acceptsValue itemMax c && acceptsEntries itemMax (encodeEntries rest)) = true := h
    obtain ⟨hfirst, hrest⟩ := Bool.and_eq_true_iff.1 hparts
    rcases List.mem_cons.1 hmem with heq | hmem
    · cases heq
      rw [hvalue] at hc
      cases hc
      exact hfirst
    · exact acceptsEntries_mem hvalue hrest hmem

theorem acceptsItems_mem {itemMax : Nat} : ∀ {items : List Cbor}, acceptsItems itemMax items = true →
    ∀ item ∈ items, acceptsItem itemMax item = true
  | first :: rest, h, item, hmem => by
    rw [acceptsItems, Bool.and_eq_true_iff] at h
    rcases List.mem_cons.1 hmem with rfl | hmem
    · exact h.1
    · exact acceptsItems_mem h.2 item hmem

theorem encodeObjects_mem : ∀ {items : List (List (OcString × RepBuild))},
    entries ∈ items → .map (encodeEntries entries) ∈ encodeObjects items
  | item :: rest, h => by
    rcases List.mem_cons.1 h with rfl | h
    · exact List.mem_cons_self
    · exact List.mem_cons_of_mem _ (encodeObjects_mem h)

theorem aux_length_le {a : OcSecAel} {rep : List RepNode} (h : ocParseRep abi.itemMax (ocSecAelEncode a) = .ok rep) :
    ∀ e ∈ a.events, ∀ t ∈ e.auxInfo, t.length ≤ abi.itemMax := by
  intro e he t ht
  have hok : acceptsPayload abi.itemMax (ocSecAelEncode a) = true := by
    rw [← ocParseRep_isOk, h]
    rfl
  have hevents : acceptsValue abi.itemMax (.array false (encodeObjects (a.events.map eventEntries))) = true :=
    acceptsEntries_mem rfl hok (List.mem_append_right _ List.mem_cons_self)
  rw [acceptsValue, Bool.and_eq_true_iff] at hevents
  have hitem := acceptsItems_mem hevents.2 _ (encodeObjects_mem (List.mem_map_of_mem he))
  rw [acceptsItem] at hitem
  have hmem : (ascii "auxiliaryinfo", RepBuild.addTextStrings e.auxInfo) ∈ eventEntries e := by
    unfold eventEntries
    simp only [List.mem_append, List.mem_singleton, or_true]
  have haux : acceptsValue abi.itemMax (.array false (e.auxInfo.map fun t => ocRepAddTextString (some t))) = true :=
    acceptsEntries_mem rfl hitem hmem
  rw [acceptsValue, Bool.and_eq_true_iff] at haux
  have htext := acceptsItems_mem haux.2 _ (List.mem_map_of_mem ht)
  exact of_decide_eq_true htext

theorem reload_iff {log : Log} (h : log.Inv abi) (b : OcSecAel) (hevents : b.events = []) (heventsSize : b.eventsSize = 0) :
    (∃ b', reload abi b (ocSecAelEncode log.ael) = some b' ∧ log.ael.SameLog b') ↔
      ∀ e ∈ log.ael.events, log.ael.Restores abi e := by
  have hmade : ∀ e ∈ log.ael.events, ∃ args, e = eventOf abi args := fun e he => h.made e (h.retains.suffix.subset he)
  have hb : OcSecAel.Counted { b with
      categoryfilter := log.ael.categoryfilter
      priorityfilter := log.ael.priorityfilter
      maxsize := log.ael.maxsize
      unit := log.ael.unit } := by
    refine ⟨?_, ?_, h.maxsize⟩
    · show b.eventsSize = total _ b.events
      rw [hevents, heventsSize]
      rfl
    · show total _ b.events ≤ _
      rw [hevents]
      exact Nat.zero_le _
  unfold reload
  constructor
  · rintro ⟨b', hreload, hsame⟩
    split at hreload
    · rename_i rep hparse
      have hle := aux_length_le hparse
      rw [ocParseRep_log abi.itemMax_le h.maxsize h.unit_eq hle] at hparse
      cases hparse
      rw [ocSecAelDecode_log h.maxsize h.unit_eq] at hreload
      have hlength := congrArg List.length hsame.events
      rw [List.length_map, List.length_map] at hlength
      obtain ⟨-, hall⟩ := foldlM_spec hb hreload
      obtain ⟨added, hadded, hforall⟩ := hall (by
        show _ = b.events.length + _
        rw [hlength, hevents, List.length_nil, Nat.zero_add])
      have hcontent : added.map OcSecAelEvent.content = log.ael.events.map OcSecAelEvent.content := by
        rw [← hsame.events, hadded]
        show _ = (b.events ++ added).map _
        rw [hevents, List.nil_append]
      exact restores_of_added (fun _ _ => rfl) hforall hcontent hmade hle
    · cases hreload
  · -- every event is parsed back, and fits with those before it
    intro hall
    have hle : ∀ e ∈ log.ael.events, ∀ t ∈ e.auxInfo, t.length ≤ abi.itemMax := fun e he => (hall e he).2.1.length_le
    rw [ocParseRep_log abi.itemMax_le h.maxsize h.unit_eq hle]
    obtain ⟨eventsSize, hfold⟩ := foldlM_restores hb hmade (by
      show total _ b.events + _ ≤ _
      rw [hevents, total_nil, Nat.zero_add]
      exact h.retains.fits) hall
    refine ⟨_, (ocSecAelDecode_log h.maxsize h.unit_eq b).trans hfold, rfl, rfl, rfl, rfl, ?_⟩
    show (b.events ++ _).map _ = _
    rw [hevents, List.nil_append, List.map_map]
    exact List.map_congr_left fun e he => (again_content (hmade e he)).1

end Restart

/-- In every run the log is decoded to what it was, into any empty log, if and only if each of its events passes the
filters of now, fits the slots of its auxiliary items, and has as many of them as there are pointers. -/
theorem ael_restored_iff (abi : Abi) (l : List AelCall) (categoryfilter priorityfilter : UInt8) (maxsize unit : Nat) :
    let a := (runFrom (Log.step abi) .start l).ael
    (∃ b, reload abi ⟨categoryfilter, priorityfilter, maxsize, unit, 0, []⟩ (ocSecAelEncode a) = some b ∧ a.SameLog b) ↔
      ∀ e ∈ a.events, a.Restores abi e :=
  reload_iff (log_inv abi l) _ rfl rfl

/-- An event is logged, and then its category is taken from the filter. -/
theorem ael_lost :
    let abi : Abi := ⟨96, 8, 64, 128, by decide, by decide⟩
    let a := (runFrom (Log.step abi) .start [.default, .add ⟨1, 0, 0, none, none, []⟩,
      .post .rfpro [.leaf (ascii "categoryfilter") (.int 2)]]).ael
    ¬∃ b, reload abi .zero (ocSecAelEncode a) = some b ∧ a.SameLog b := by
  intro abi a h
  have hall := (reload_iff (log_inv abi _) .zero rfl rfl).1 h
  have hevents : a.events = [⟨96, 1, 0, 0, [], [], []⟩] := by decide
  have hpass : a.passes 1 0 = true := (hall ⟨96, 1, 0, 0, [], [], []⟩ (by rw [hevents]; exact List.mem_singleton_self _)).1
  exact absurd hpass (by decide)

end SmartGarage.Ael
