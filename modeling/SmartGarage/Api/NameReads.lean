/-
How four handlers of payloads look at the names of the entries: `post_openlevel` and `post_doorstate`
(`device_builder_server.c`), `oc_core_con_handler_post` (`oc_core_res.c`) and `oc_sec_decode_pstat` (`oc_pstat.c`). The
parser leaves the objects of an array at the root without a name, and a name may be empty.
-/
import SmartGarage.Garage.PostHandlers
import SmartGarage.Security.Pstat

namespace SmartGarage.NameReads

open DeviceBuilder

/-! ## Looks at a name -/

/-- A look at a name: at so many of its bytes, with the zero byte behind it. -/
structure NameRead where
  name : Option OcString
  looked : Nat

/-- The entry has a name, and not more of it is looked at than there is. -/
def NameRead.Valid (r : NameRead) : Prop := ∃ t, r.name = some t ∧ r.looked ≤ t.length + 1

/-- `strcmp`: up to the first difference, or to the zero byte that both end with. -/
def strcmpRead (name : Option OcString) (s : String) : NameRead :=
  ⟨name, (((name.getD []).zip (ascii s)).takeWhile fun p => p.1 = p.2 ∧ p.1 ≠ 0).length + 1⟩

/-- `strcmp(..) == 0` -/
def strcmpEq (name : Option OcString) (s : String) : Bool := name.any fun t => cstr t = ascii s

/-- `memcmp` behind a comparison of the lengths. -/
def guardedRead (name : Option OcString) (s : String) : List NameRead :=
  if (name.getD []).length = (ascii s).length then [⟨name, (ascii s).length⟩] else []

/-- `memcmp` with two bytes. -/
def twoBytes (name : Option OcString) : NameRead := ⟨name, 2⟩

/-! ## The entries of a payload -/

/-- An entry with its name; at the root it may have none. -/
abbrev Entry := Option OcString × RepNode

/-- The entries of a payload that has been parsed. -/
def entries (payload : Cbor) (rep : List RepNode) : List Entry :=
  match payload with
  | .array _ _ => rep.map fun node => (none, node)
  | _ => rep.map fun node => (some node.name, node)

/-! ## The handlers of the application -/

/-- The comparisons of `check_on_readonly_common_resource_properties`, one behind another until one succeeds. -/
def chainReads (name : Option OcString) : List String → List NameRead
  | [] => []
  | s :: rest => strcmpRead name s :: if strcmpEq name s then [] else chainReads name rest

/-- `oc_rep_get_int_array`, which looks for its entry from one on. -/
def getIntArrayReads (key : String) : List Entry → List NameRead
  | [] => []
  | e :: rest => guardedRead e.1 key ++
      if e.1 = some (ascii key) ∧ e.2.type = .array .int then [] else getIntArrayReads key rest

/-- A loop over the entries, each with those behind it. -/
def loopReads (reads : Entry → List Entry → List NameRead) : List Entry → List NameRead
  | [] => []
  | e :: rest => reads e (e :: rest) ++ loopReads reads rest

/-- `post_openlevel`; the last loop is gone through without an error only. -/
def postOpenlevelReads (l : List Entry) : List NameRead :=
  l.map (fun e => strcmpRead e.1 "openLevel") ++
    loopReads (fun e rest => chainReads e.1 ["n", "if", "rt", "id", "id"] ++ strcmpRead e.1 "openLevel" ::
      strcmpRead e.1 "range" :: ((if strcmpEq e.1 "range" then getIntArrayReads "range" rest else []) ++
        [strcmpRead e.1 "step"])) l ++
    if errorState (l.map Prod.snd) then []
    else loopReads (fun e rest => strcmpRead e.1 "openLevel" :: strcmpRead e.1 "range" ::
      ((if strcmpEq e.1 "range" then getIntArrayReads "range" rest else []) ++ [strcmpRead e.1 "step"])) l

/-- `error_state` behind the checks of `post_doorstate`. -/
def doorstateError (rep : List RepNode) : Bool :=
  rep.foldl checkDoorstate (if varInRequest "openAlarm" rep then false else true)

/-- `post_doorstate` -/
def postDoorstateReads (l : List Entry) : List NameRead :=
  l.map (fun e => strcmpRead e.1 "openAlarm") ++
    loopReads (fun e _ => chainReads e.1 ["n", "if", "rt", "id", "id"] ++ [strcmpRead e.1 "openAlarm"]) l ++
    if doorstateError (l.map Prod.snd) then []
    else l.map fun e => strcmpRead e.1 "openAlarm"

/-! ## The handlers of the stack -/

/-- `oc_core_con_handler_post`: the loop ends at the first entry with the name. -/
def conHandlerPostReads : List Entry → List NameRead
  | [] => []
  | e :: rest => strcmpRead e.1 "n" :: if strcmpEq e.1 "n" then [] else conHandlerPostReads rest

/-- What `oc_sec_decode_pstat` sees of an entry: the keys of an object, and for all types without a case the same. -/
def pstatKey (node : RepNode) : OcRep :=
  match node with
  | .leaf name (.int v) => .int (some name) v
  | _ => .nil (some node.name)

def pstatEntry (e : Entry) : OcRep :=
  match e.2 with
  | .leaf _ (.int v) => .int e.1 v
  | .leaf _ (.bool b) => .bool e.1 b
  | .leaf _ (.string t) => .string e.1 t
  | .object _ nodes => .object e.1 (nodes.map pstatKey)
  | _ => .nil e.1

section Pstat

variable (fromStorage : Bool)

/-- The loop over the keys of an object `dos`. -/
def dosReads : List OcRep → List NameRead
  | [] => []
  | r :: rest =>
    (match r with
      | .int n _ => guardedRead n "s"
      | r => if fromStorage then [] else guardedRead r.name "p") ++
    if (decodeDosKey fromStorage ⟨OcSecPstat.zero .reset, false⟩ r).isSome then dosReads rest else []

/-- The comparisons of the case for integers. -/
def pstatIntReads (n : Option OcString) : List NameRead :=
  (if fromStorage then [twoBytes n] else []) ++
    if fromStorage && nameStarts n "cm" then []
    else twoBytes n :: if nameStarts n "tm" then []
    else twoBytes n :: if nameStarts n "om" then []
    else if fromStorage then [twoBytes n] else []

/-- One round of the loop of `oc_sec_decode_pstat`. -/
def pstatPropertyReads (d : PstatDecoding) : OcRep → List NameRead
  | .object n nodes => guardedRead n "dos" ++ if nameIs n "dos" then dosReads fromStorage nodes else []
  | .bool n _ => if fromStorage then guardedRead n "isop" else []
  | .int n _ => pstatIntReads fromStorage n
  | .string n _ =>
    if fromStorage || (d.ps.s != .rfpro && d.ps.s != .rfnop) then guardedRead n "rowneruuid" else []
  | r => guardedRead r.name "rt" ++ if nameIs r.name "rt" then [] else guardedRead r.name "if"

/-- The loop, which ends at the first entry that is refused. -/
def pstatReads (d : PstatDecoding) : List OcRep → List NameRead
  | [] => []
  | r :: rest => pstatPropertyReads fromStorage d r ++
      match decodePstatProperty fromStorage d r with
      | some d => pstatReads d rest
      | none => []

end Pstat

/-! ## Valid looks -/

/-- No integer with an empty name is reached by `oc_sec_decode_pstat`. -/
def EmptyNameNotReached (fromStorage : Bool) (d : PstatDecoding) (l : List OcRep) : Prop :=
  ∀ before v after, l = before ++ .int (some []) v :: after →
    before.foldlM (decodePstatProperty fromStorage) d = none

section Valid

variable {name : Option OcString} {s : String}

theorem strcmpRead_valid (h : name.isSome) : (strcmpRead name s).Valid := by
  obtain ⟨t, rfl⟩ := Option.isSome_iff_exists.1 h
  refine ⟨t, rfl, ?_⟩
  have htake := (List.takeWhile_sublist (fun p : UInt8 × UInt8 => decide (p.1 = p.2 ∧ p.1 ≠ 0))
    (l := t.zip (ascii s))).length_le
  have hzip : (t.zip (ascii s)).length ≤ t.length := by
    rw [List.length_zip]
    exact Nat.min_le_left _ _
  exact Nat.succ_le_succ (htake.trans hzip)

theorem guardedRead_valid (hs : ascii s ≠ []) : ∀ r ∈ guardedRead name s, r.Valid := by
  intro r hr
  unfold guardedRead at hr
  split at hr
  · next hlen =>
    rw [List.mem_singleton.1 hr]
    cases name with
    | none => exact absurd (List.length_eq_zero_iff.1 hlen.symm) hs
    | some t => exact ⟨t, rfl, Nat.le_succ_of_le (Nat.le_of_eq hlen.symm)⟩
  · exact absurd hr List.not_mem_nil

theorem twoBytes_valid_iff : (twoBytes name).Valid ↔ ∃ t, name = some t ∧ t ≠ [] := by
  constructor
  · rintro ⟨t, ht, hle⟩
    refine ⟨t, ht, ?_⟩
    rintro rfl
    exact absurd hle (by simp [twoBytes])
  · rintro ⟨t, rfl, hne⟩
    exact ⟨t, rfl, Nat.succ_le_succ (List.length_pos_iff.2 hne)⟩

theorem chainReads_valid (h : name.isSome) : ∀ names : List String, ∀ r ∈ chainReads name names, r.Valid
  | [] => fun _ hr => absurd hr List.not_mem_nil
  | s :: rest => by
    intro r hr
    rcases List.mem_cons.1 hr with rfl | hr
    · exact strcmpRead_valid h
    · split at hr
      · exact absurd hr List.not_mem_nil
      · exact chainReads_valid h rest r hr

theorem getIntArrayReads_valid (hs : ascii s ≠ []) : ∀ l : List Entry, ∀ r ∈ getIntArrayReads s l, r.Valid
  | [] => fun _ hr => absurd hr List.not_mem_nil
  | e :: rest => by
    intro r hr
    rcases List.mem_append.1 hr with hr | hr
    · exact guardedRead_valid hs r hr
    · split at hr
      · exact absurd hr List.not_mem_nil
      · exact getIntArrayReads_valid hs rest r hr

theorem loopReads_valid {reads : Entry → List Entry → List NameRead}
    (h : ∀ e rest, e.1.isSome → ∀ r ∈ reads e rest, r.Valid) : ∀ l : List Entry, (∀ e ∈ l, e.1.isSome) →
      ∀ r ∈ loopReads reads l, r.Valid
  | [], _ => fun _ hr => absurd hr List.not_mem_nil
  | e :: rest, hl => by
    intro r hr
    rcases List.mem_append.1 hr with hr | hr
    · exact h e _ (hl e List.mem_cons_self) r hr
    · exact loopReads_valid h rest (fun e he => hl e (List.mem_cons_of_mem _ he)) r hr

theorem forall_reads_append {a b : List NameRead} (ha : ∀ r ∈ a, r.Valid) (hb : ∀ r ∈ b, r.Valid) :
    ∀ r ∈ a ++ b, r.Valid := fun r hr => (List.mem_append.1 hr).elim (ha r) (hb r)

theorem forall_reads_cons {a : NameRead} {b : List NameRead} (ha : a.Valid) (hb : ∀ r ∈ b, r.Valid) :
    ∀ r ∈ a :: b, r.Valid := List.forall_mem_cons.2 ⟨ha, hb⟩

theorem forall_reads_nil : ∀ r ∈ ([] : List NameRead), r.Valid := fun _ hr => absurd hr List.not_mem_nil

theorem rangeReads_valid {e : Entry} (he : e.1.isSome) (rest : List Entry) :
    ∀ r ∈ strcmpRead e.1 "range" :: ((if strcmpEq e.1 "range" then getIntArrayReads "range" rest else []) ++
      [strcmpRead e.1 "step"]), r.Valid := by
  refine forall_reads_cons (strcmpRead_valid he) (forall_reads_append ?_ ?_)
  · split
    · exact getIntArrayReads_valid (by decide) rest
    · exact forall_reads_nil
  · exact forall_reads_cons (strcmpRead_valid he) forall_reads_nil

theorem postOpenlevelReads_iff (l : List Entry) : (∀ r ∈ postOpenlevelReads l, r.Valid) ↔ ∀ e ∈ l, e.1.isSome := by
  constructor
  · intro h e he
    have hread : strcmpRead e.1 "openLevel" ∈ postOpenlevelReads l :=
      List.mem_append_left _ (List.mem_append_left _ (List.mem_map.2 ⟨e, he, rfl⟩))
    obtain ⟨t, ht, -⟩ := h _ hread
    exact Option.isSome_iff_exists.2 ⟨t, ht⟩
  · intro h
    refine forall_reads_append (forall_reads_append ?_ ?_) ?_
    · intro r hr
      obtain ⟨e, he, rfl⟩ := List.mem_map.1 hr
      exact strcmpRead_valid (h e he)
    · exact loopReads_valid (fun e rest he => forall_reads_append (chainReads_valid he _)
        (forall_reads_cons (strcmpRead_valid he) (rangeReads_valid he rest))) l h
    · split
      · exact forall_reads_nil
      · exact loopReads_valid (fun e rest he => forall_reads_cons (strcmpRead_valid he) (rangeReads_valid he rest)) l h

theorem postDoorstateReads_valid {l : List Entry} (h : ∀ e ∈ l, e.1.isSome) : ∀ r ∈ postDoorstateReads l, r.Valid := by
  have hmap : ∀ r ∈ l.map (fun e : Entry => strcmpRead e.1 "openAlarm"), r.Valid := by
    intro r hr
    obtain ⟨e, he, rfl⟩ := List.mem_map.1 hr
    exact strcmpRead_valid (h e he)
  refine forall_reads_append (forall_reads_append hmap ?_) ?_
  · exact loopReads_valid (fun e rest he => forall_reads_append (chainReads_valid he _)
      (forall_reads_cons (strcmpRead_valid he) forall_reads_nil)) l h
  · split
    · exact forall_reads_nil
    · exact hmap

theorem conHandlerPostReads_valid : ∀ {l : List Entry}, (∀ e ∈ l, e.1.isSome) → ∀ r ∈ conHandlerPostReads l, r.Valid
  | [], _ => forall_reads_nil
  | e :: rest, h => by
    refine forall_reads_cons (strcmpRead_valid (h e List.mem_cons_self)) ?_
    split
    · exact forall_reads_nil
    · exact conHandlerPostReads_valid fun e he => h e (List.mem_cons_of_mem _ he)

end Valid

/-! ## `oc_sec_decode_pstat` -/

section Pstat

variable {fromStorage : Bool}

theorem dosReads_valid (l : List OcRep) : ∀ r ∈ dosReads fromStorage l, r.Valid := by
  induction l with
  | nil => exact forall_reads_nil
  | cons r rest ih =>
    refine forall_reads_append ?_ ?_
    · cases r with
      | int n v => exact guardedRead_valid (by decide)
      | _ =>
        simp only
        split
        · exact forall_reads_nil
        · exact guardedRead_valid (by decide)
    · split
      · exact ih
      · exact forall_reads_nil

theorem pstatIntReads_iff {n : Option OcString} :
    (∀ r ∈ pstatIntReads fromStorage n, r.Valid) ↔ ∃ t, n = some t ∧ t ≠ [] := by
  rw [← twoBytes_valid_iff]
  constructor
  · intro h
    refine h _ ?_
    cases fromStorage <;> simp [pstatIntReads]
  · intro h r hr
    have hall : ∀ read ∈ pstatIntReads fromStorage n, read = twoBytes n := by
      unfold pstatIntReads
      repeat' split
      all_goals simp
    rw [hall r hr]
    exact h

theorem pstatPropertyReads_iff (d : PstatDecoding) (r : OcRep) :
    (∀ read ∈ pstatPropertyReads fromStorage d r, read.Valid) ↔ ∀ n v, r = .int n v → ∃ t, n = some t ∧ t ≠ [] := by
  cases r with
  | int n v =>
    rw [pstatPropertyReads, pstatIntReads_iff]
    constructor
    · rintro h n' v' heq
      cases heq
      exact h
    · exact fun h => h n v rfl
  | object n nodes =>
    refine iff_of_true (forall_reads_append (guardedRead_valid (by decide)) ?_) fun _ _ heq => by cases heq
    split
    · exact dosReads_valid nodes
    · exact forall_reads_nil
  | bool n b =>
    refine iff_of_true ?_ fun _ _ heq => by cases heq
    rw [pstatPropertyReads]
    split
    · exact guardedRead_valid (by decide)
    · exact forall_reads_nil
  | string n t =>
    refine iff_of_true ?_ fun _ _ heq => by cases heq
    rw [pstatPropertyReads]
    split
    · exact guardedRead_valid (by decide)
    · exact forall_reads_nil
  | _ =>
    refine iff_of_true (forall_reads_append (guardedRead_valid (by decide)) ?_) fun _ _ heq => by cases heq
    split
    · exact forall_reads_nil
    · exact guardedRead_valid (by decide)

theorem pstatReads_iff : ∀ {l : List OcRep} (d : PstatDecoding), (∀ r ∈ l, ∀ v, r ≠ .int none v) →
    ((∀ read ∈ pstatReads fromStorage d l, read.Valid) ↔ EmptyNameNotReached fromStorage d l)
  | [], d, _ => iff_of_true forall_reads_nil fun before v after h => by simp at h
  | r :: rest, d, hnamed => by
    have hrest : ∀ x ∈ rest, ∀ v, x ≠ .int none v := fun x hx => hnamed x (List.mem_cons_of_mem _ hx)
    have hfirst : (∀ read ∈ pstatPropertyReads fromStorage d r, read.Valid) ↔ ∀ v, r ≠ .int (some []) v := by
      rw [pstatPropertyReads_iff]
      constructor
      · rintro h v rfl
        obtain ⟨t, ht, hne⟩ := h _ _ rfl
        cases ht
        exact hne rfl
      · rintro h n v rfl
        cases n with
        | none => exact absurd rfl (hnamed _ List.mem_cons_self v)
        | some t =>
          refine ⟨t, rfl, ?_⟩
          rintro rfl
          exact h v rfl
    rw [pstatReads, List.forall_mem_append, hfirst]
    constructor
    · rintro ⟨hr, hloop⟩ before v after heq
      cases before with
      | nil => exact absurd (List.cons.inj heq).1 (hr v)
      | cons x before =>
        obtain ⟨rfl, htail⟩ := List.cons.inj heq
        rw [List.foldlM_cons]
        cases hstep : decodePstatProperty fromStorage d r with
        | none => rfl
        | some d' =>
          rw [hstep] at hloop
          exact (pstatReads_iff d' hrest).1 hloop before v after htail
    · intro h
      refine ⟨fun v heq => ?_, ?_⟩
      · have hnone := h [] v rest (by rw [heq]; rfl)
        cases hnone
      · cases hstep : decodePstatProperty fromStorage d r with
        | none => exact forall_reads_nil
        | some d' =>
          refine (pstatReads_iff d' hrest).2 fun before v after heq => ?_
          have hnone := h (r :: before) v after (by rw [heq]; rfl)
          rw [List.foldlM_cons, hstep] at hnone
          exact hnone

end Pstat

/-! ## The property -/

theorem parseRootItems_objects {itemMax : Nat} : ∀ {items : List Cbor} {rep : List RepNode},
    parseRootItems itemMax items = .ok rep →
      rep.length = items.length ∧ ∀ node ∈ rep, ∃ nodes, node = .object [] nodes
  | [], rep, h => by
    cases h
    exact ⟨rfl, fun _ hn => absurd hn List.not_mem_nil⟩
  | item :: rest, rep, h => by
    obtain ⟨nodes, others, hothers, rfl⟩ : ∃ nodes others, parseRootItems itemMax rest = .ok others ∧
        rep = .object [] nodes :: others := by
      cases item with
      | map items | array _ items =>
        rw [parseRootItems, bind_eq_ok] at h
        obtain ⟨nodes, -, h⟩ := h
        obtain ⟨others, hothers, h⟩ := bind_eq_ok.1 h
        cases h
        exact ⟨nodes, others, hothers, rfl⟩
      | _ => cases h
    obtain ⟨hlen, hall⟩ := parseRootItems_objects hothers
    exact ⟨by rw [List.length_cons, List.length_cons, hlen], List.forall_mem_cons.2 ⟨⟨nodes, rfl⟩, hall⟩⟩

section Payload

variable {itemMax : Nat} {payload : Cbor} {rep : List RepNode}

theorem entries_named_iff (h : ocParseRep itemMax payload = .ok rep) :
    (∀ e ∈ entries payload rep, e.1.isSome) ↔ ∀ definite item items, payload ≠ .array definite (item :: items) := by
  cases payload with
  | array definite items =>
    obtain ⟨hlen, -⟩ := parseRootItems_objects h
    cases items with
    | nil =>
      obtain rfl := List.length_eq_zero_iff.1 hlen
      exact iff_of_true (fun _ he => absurd he List.not_mem_nil) fun _ _ _ heq => by cases heq
    | cons item items =>
      cases rep with
      | nil => cases hlen
      | cons node rep =>
        refine iff_of_false (fun hall => ?_) fun hne => hne _ _ _ rfl
        have hnone := hall (none, node) (List.mem_map.2 ⟨node, List.mem_cons_self, rfl⟩)
        cases hnone
  | _ =>
    refine iff_of_true (fun e he => ?_) fun _ _ _ heq => by cases heq
    obtain ⟨node, -, rfl⟩ := List.mem_map.1 he
    rfl

theorem pstatEntry_named (h : ocParseRep itemMax payload = .ok rep) :
    ∀ r ∈ (entries payload rep).map pstatEntry, ∀ v, r ≠ .int none v := by
  rintro r hr v rfl
  obtain ⟨e, he, hentry⟩ := List.mem_map.1 hr
  cases payload with
  | array definite items =>
    obtain ⟨node, hnode, rfl⟩ := List.mem_map.1 he
    obtain ⟨nodes, rfl⟩ := (parseRootItems_objects h).2 node hnode
    cases hentry
  | _ =>
    obtain ⟨node, -, rfl⟩ := List.mem_map.1 he
    cases node with
    | leaf name value => cases value <;> cases hentry
    | _ => cases hentry

end Payload

/-- The four handlers look at the names that the entries of a payload have, and not beyond them, if and only if the root
of the payload is not an array with something in it, and `oc_sec_decode_pstat` reaches no integer with an empty name. -/
theorem names_valid_iff (itemMax : Nat) (payload : Cbor) (rep : List RepNode) (fromStorage : Bool) (d : PstatDecoding)
    (h : ocParseRep itemMax payload = .ok rep) :
    ((∀ r ∈ postOpenlevelReads (entries payload rep), r.Valid) ∧
      (∀ r ∈ postDoorstateReads (entries payload rep), r.Valid) ∧
      (∀ r ∈ conHandlerPostReads (entries payload rep), r.Valid) ∧
      ∀ r ∈ pstatReads fromStorage d ((entries payload rep).map pstatEntry), r.Valid) ↔
    (∀ definite item items, payload ≠ .array definite (item :: items)) ∧
      EmptyNameNotReached fromStorage d ((entries payload rep).map pstatEntry) := by
  rw [postOpenlevelReads_iff, pstatReads_iff d (pstatEntry_named h), ← entries_named_iff h]
  constructor
  · rintro ⟨hnamed, -, -, hpstat⟩
    exact ⟨hnamed, hpstat⟩
  · rintro ⟨hnamed, hpstat⟩
    exact ⟨hnamed, postDoorstateReads_valid hnamed, conHandlerPostReads_valid hnamed, hpstat⟩

/-- A map with the property that opens the door. -/
def openPayload : Cbor := .map [.textString (ascii "openLevel"), .integer 60]

/-- Its name is looked at by all of them, and not beyond its end. -/
theorem names_valid_open :
    (∀ r ∈ postOpenlevelReads (entries openPayload [.leaf (ascii "openLevel") (.int 60)]), r.Valid) ∧
      (∀ r ∈ postDoorstateReads (entries openPayload [.leaf (ascii "openLevel") (.int 60)]), r.Valid) ∧
      (∀ r ∈ conHandlerPostReads (entries openPayload [.leaf (ascii "openLevel") (.int 60)]), r.Valid) ∧
      ∀ r ∈ pstatReads false ⟨OcSecPstat.zero .rfotm, false⟩
        ((entries openPayload [.leaf (ascii "openLevel") (.int 60)]).map pstatEntry), r.Valid := by
  refine (names_valid_iff 128 openPayload _ false _ rfl).2 ⟨fun _ _ _ heq => (by cases heq), fun before v after heq => ?_⟩
  have hlen := congrArg List.length heq
  cases before with
  | nil => cases heq
  | cons x before => simp [entries, openPayload] at hlen

/-- An array at the root leaves an object without a name, and a map may have an integer with an empty one. -/
theorem names_notValid :
    (∃ rep, ocParseRep 128 (.array true [.map []]) = .ok rep ∧
      ¬∀ r ∈ postOpenlevelReads (entries (.array true [.map []]) rep), r.Valid) ∧
    ∃ rep, ocParseRep 128 (.map [.textString [], .integer 0]) = .ok rep ∧
      ¬∀ r ∈ pstatReads false ⟨OcSecPstat.zero .rfotm, false⟩
        ((entries (.map [.textString [], .integer 0]) rep).map pstatEntry), r.Valid := by
  refine ⟨⟨_, rfl, fun h => ?_⟩, ⟨_, rfl, fun h => ?_⟩⟩
  · obtain ⟨t, ht, -⟩ := h (strcmpRead none "openLevel") List.mem_cons_self
    cases ht
  · obtain ⟨t, ht, hle⟩ := h (twoBytes (some [])) List.mem_cons_self
    cases ht
    exact absurd hle (by decide)

end SmartGarage.NameReads
