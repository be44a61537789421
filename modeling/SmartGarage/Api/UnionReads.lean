/-
The members of `oc_rep_value` that three decoders of payloads read: `oc_sec_decode_acl`, `post_sw` with
`oc_swupdate_decode`, and `oc_handle_collection_request` for the interface `oic.if.create`. Each read is kept with its
record, whose type says which member has been written.
-/
import SmartGarage.Api.RepRead
import SmartGarage.Api.SwUpdateSchedule

namespace SmartGarage

/-! ## Reads -/

/-- The members of `oc_rep_value`; of an array with the type of its elements that the reader assumes. -/
inductive UnionMember
  | integer | string | object | objectArray
  | array (type : ElementType)
deriving DecidableEq

/-- The type of a record whose value is the member. -/
def UnionMember.type : UnionMember → RepValueType
  | integer => .int
  | string => .string
  | object => .object
  | objectArray => .array .object
  | array type => .array type

/-- A read of a member of a record's value. -/
structure UnionRead where
  node : RepNode
  member : UnionMember

/-- The member is the one that the type of the record says. -/
def UnionRead.Typed (r : UnionRead) : Prop := r.node.type = r.member.type

instance (r : UnionRead) : Decidable r.Typed := inferInstanceAs (Decidable (_ = _))

/-- A record has a name. -/
def RepNode.named (node : RepNode) (s : String) : Bool := node.name = ascii s

/-! ## Access control lists -/

/-- The check of the first loop of `oc_sec_decode_acl`. -/
def aclRecordAllowed (s : OcDostype) (fromStorage : Bool) (node : RepNode) : Bool :=
  match node.type with
  | .string => !(node.named "rowneruuid" && !fromStorage && (s == .rfnop || s == .rfpro))
  | .array .object => !(!fromStorage && s == .rfnop)
  | _ => true

/-- A record of a subject: its type is not looked at. -/
def subjectReads (sub : RepNode) : List UnionRead :=
  if sub.named "uuid" then [⟨sub, .string⟩]
  else if sub.named "role" then [⟨sub, .string⟩]
  else if sub.named "authority" then [⟨sub, .string⟩]
  else if sub.named "conntype" then [⟨sub, .string⟩]
  else []

/-- A record of an ACE. -/
def aceReads (ace : RepNode) : List UnionRead :=
  match ace with
  | .leaf _ (.int _) =>
    if ace.named "permission" then [⟨ace, .integer⟩] else if ace.named "aceid" then [⟨ace, .integer⟩] else []
  | .objectArray _ _ _ _ => if ace.named "resources" then [⟨ace, .objectArray⟩] else []
  | .object _ entries => ⟨ace, .object⟩ :: entries.flatMap subjectReads
  | _ => []

/-- The variable `resources` behind the records of an ACE. -/
def aceResources (entries : List RepNode) : List (List RepNode) :=
  entries.foldl (fun resources ace =>
    match ace with
    | .objectArray _ objects _ _ => if ace.named "resources" then objects else resources
    | _ => resources) []

/-- A record of a resource. -/
def resourceReads (resource : RepNode) : List UnionRead :=
  match resource with
  | .leaf _ (.string _) =>
    if resource.named "href" then [⟨resource, .string⟩] else if resource.named "wc" then [⟨resource, .string⟩] else []
  | _ => []

/-- An object of an array, with what is read of its records. -/
def itemReads (reads : RepNode → List UnionRead) (entries : List RepNode) : List UnionRead :=
  ⟨.object [] entries, .object⟩ :: entries.flatMap reads

/-- An ACE of the payload. -/
def aceItemReads (entries : List RepNode) : List UnionRead :=
  itemReads aceReads entries ++ (aceResources entries).flatMap (itemReads resourceReads)

/-- A property in the second loop of `oc_sec_decode_acl`. -/
def aclPropertyReads (rep : RepNode) : List UnionRead :=
  match rep with
  | .leaf _ (.string _) => if rep.named "rowneruuid" then [⟨rep, .string⟩] else []
  | .objectArray _ objects _ _ => ⟨rep, .objectArray⟩ :: objects.flatMap aceItemReads
  | _ => []

/-- `oc_sec_decode_acl` -/
def decodeAclReads (s : OcDostype) (fromStorage : Bool) (rep : List RepNode) : List UnionRead :=
  if rep.all (aclRecordAllowed s fromStorage) then rep.flatMap aclPropertyReads else []

/-! ## Software updates -/

section Sw

variable (P : SwPlatform) (now : Nat) (misread : RepNode → OcString)

/-- `value.string` of a record; of one of another type it is what its bytes make. -/
def RepNode.stringMember (node : RepNode) : OcString :=
  match node with
  | .leaf _ (.string t) => t
  | _ => misread node

/-- The test of a property in `post_sw` that has to be a string of less than 63 characters. -/
def badSwString (node : RepNode) : Bool := node.type ≠ .string || 63 ≤ (node.stringMember misread).length

/-- One round of the loop of `post_sw`. -/
def checkSwRecord (c : SwCheck) (node : RepNode) : SwCheck :=
  if readOnlySwProperty (some node.name) then { c with errorState := true }
  else if node.named "purl" then
    { c with errorState := c.errorState || badSwString misread node, purl := some (node.stringMember misread) }
  else if node.named "swupdateaction" then
    { c with errorState := c.errorState || badSwString misread node, action := strToAction (node.stringMember misread) }
  else if node.named "updatetime" then
    let mytime := P.parseTime (node.stringMember misread)
    { c with
      errorState := c.errorState || badSwString misread node || mytime = 0 || mytime < now
      ut := some (node.stringMember misread) }
  else c

/-- The names whose `value.string` the loop of `post_sw` reads; it goes on behind an error. -/
def checkedSwNames : List String := ["purl", "signed", "swupdateaction", "updatetime"]

/-- The names whose `value.string` `oc_swupdate_decode` reads. -/
def decodedSwNames : List String :=
  ["lastupdate", "nv", "purl", "signed", "swupdateaction", "swupdatestate", "updatetime"]

/-- A record under one of some names is read as a string. -/
def stringReads (names : List String) (node : RepNode) : List UnionRead :=
  if names.any node.named then [⟨node, .string⟩] else []

/-- A record in the loop of `oc_swupdate_decode`. -/
def decodeSwReads (node : RepNode) : List UnionRead :=
  stringReads decodedSwNames node ++ if node.named "swupdateresult" then [⟨node, .integer⟩] else []

/-- `post_sw` -/
def postSwReads (rep : List RepNode) : List UnionRead :=
  rep.flatMap (stringReads checkedSwNames) ++
    if (rep.foldl (checkSwRecord P now misread) SwCheck.start).error P then [] else rep.flatMap decodeSwReads

end Sw

/-! ## Created resources -/

/-- A record in the branch of `OC_IF_CREATE`: under the name `rt` the array is kept, and read behind the loop. -/
def createRecordReads (rep : RepNode) : List UnionRead :=
  match rep with
  | .array _ .string _ _ _ => [⟨rep, .array .string⟩]
  | .object _ entries =>
    ⟨rep, .object⟩ :: match entries with
      | obj :: _ => if rep.named "p" ∧ obj.type = .int ∧ obj.named "bm" then [⟨obj, .integer⟩] else []
      | [] => []
  | .leaf _ (.string _) => [⟨rep, .string⟩]
  | _ => []

/-- The branch, which looks at the payload of PUT and POST requests only. -/
def createReads (method : OcMethod) (rep : List RepNode) : List UnionRead :=
  if method = .put ∨ method = .post then rep.flatMap createRecordReads else []

/-! ## The decoders -/

/-- The decoders with what else they look at. -/
inductive UnionDecoder
  | acl (s : OcDostype) (fromStorage : Bool)
  | sw (P : SwPlatform) (now : Nat) (misread : RepNode → OcString)
  | create (method : OcMethod)

/-- The reads of a decoder. -/
def UnionDecoder.reads (rep : List RepNode) : UnionDecoder → List UnionRead
  | acl s fromStorage => decodeAclReads s fromStorage rep
  | sw P now misread => postSwReads P now misread rep
  | create method => createReads method rep

/-- The names of a subject. -/
def subjectNames : List String := ["uuid", "role", "authority", "conntype"]

/-- The condition: what is read by its name alone is a string. In an access control list that is not refused these are
the four properties of an object in an ACE; in an update, the URL, the signature, the action and the time. -/
def UnionDecoder.StringsTyped (rep : List RepNode) : UnionDecoder → Prop
  | acl s fromStorage =>
    rep.all (aclRecordAllowed s fromStorage) = true →
      ∀ name objects stray count, .objectArray name objects stray count ∈ rep →
        ∀ entries ∈ objects, ∀ name subs, .object name subs ∈ entries →
          ∀ sub ∈ subs, subjectNames.any sub.named = true → sub.type = .string
  | sw _ _ _ => ∀ node ∈ rep, checkedSwNames.any node.named = true → node.type = .string
  | create _ => True

/-! ## What is typed -/

/-- All reads of a list are of the member that has been written. -/
def AllTyped (reads : List UnionRead) : Prop := ∀ r ∈ reads, r.Typed

theorem allTyped_nil : AllTyped [] := fun _ h => absurd h List.not_mem_nil

theorem allTyped_append {a b : List UnionRead} : AllTyped (a ++ b) ↔ AllTyped a ∧ AllTyped b := List.forall_mem_append

theorem allTyped_cons {r : UnionRead} {reads : List UnionRead} : AllTyped (r :: reads) ↔ r.Typed ∧ AllTyped reads :=
  List.forall_mem_cons

theorem allTyped_flatMap {α : Type} {l : List α} {f : α → List UnionRead} :
    AllTyped (l.flatMap f) ↔ ∀ x ∈ l, AllTyped (f x) := List.forall_mem_flatMap

theorem allTyped_string {node : RepNode} {c : Prop} [Decidable c] :
    AllTyped (if c then [⟨node, .string⟩] else []) ↔ (c → node.type = .string) := by
  by_cases h : c
  · rw [if_pos h, allTyped_cons, and_iff_left allTyped_nil]
    exact ⟨fun ht _ => ht, fun ht => ht h⟩
  · rw [if_neg h]
    exact iff_of_true allTyped_nil fun hc => absurd hc h

theorem subjectReads_typed (sub : RepNode) :
    AllTyped (subjectReads sub) ↔ (subjectNames.any sub.named = true → sub.type = .string) := by
  have hsame : subjectReads sub = if subjectNames.any sub.named = true then [⟨sub, .string⟩] else [] := by
    unfold subjectReads subjectNames
    simp only [List.any_cons, List.any_nil]
    by_cases huuid : sub.named "uuid" = true
    · simp [huuid]
    · by_cases hrole : sub.named "role" = true
      · simp [huuid, hrole]
      · by_cases hauthority : sub.named "authority" = true
        · simp [huuid, hrole, hauthority]
        · simp [huuid, hrole, hauthority]
  rw [hsame]
  exact allTyped_string

theorem resourceReads_typed (resource : RepNode) : AllTyped (resourceReads resource) := by
  unfold resourceReads
  split
  · split
    · exact allTyped_cons.2 ⟨rfl, allTyped_nil⟩
    · split
      · exact allTyped_cons.2 ⟨rfl, allTyped_nil⟩
      · exact allTyped_nil
  · exact allTyped_nil

theorem itemReads_typed {reads : RepNode → List UnionRead} {entries : List RepNode} :
    AllTyped (itemReads reads entries) ↔ ∀ node ∈ entries, AllTyped (reads node) := by
  unfold itemReads
  rw [allTyped_cons, allTyped_flatMap]
  exact and_iff_right rfl

theorem aceReads_typed (ace : RepNode) : AllTyped (aceReads ace) ↔ ∀ name subs, ace = .object name subs →
    ∀ sub ∈ subs, subjectNames.any sub.named = true → sub.type = .string := by
  cases ace with
  | leaf name value =>
    refine iff_of_true ?_ (fun name subs h => by cases h)
    cases value with
    | int v =>
      unfold aceReads
      dsimp only
      split
      · exact allTyped_cons.2 ⟨rfl, allTyped_nil⟩
      · split
        · exact allTyped_cons.2 ⟨rfl, allTyped_nil⟩
        · exact allTyped_nil
    | _ => exact allTyped_nil
  | object name entries =>
    show AllTyped (⟨.object name entries, .object⟩ :: entries.flatMap subjectReads) ↔ _
    rw [allTyped_cons, allTyped_flatMap, and_iff_right (show UnionRead.Typed ⟨.object name entries, .object⟩ from rfl)]
    simp only [subjectReads_typed]
    constructor
    · rintro h name subs ⟨rfl, rfl⟩
      exact h
    · exact fun h => h name entries rfl
  | array name type length stored count => exact iff_of_true allTyped_nil fun name subs h => by cases h
  | objectArray name objects stray count =>
    refine iff_of_true ?_ fun name subs h => by cases h
    unfold aceReads
    dsimp only
    split
    · exact allTyped_cons.2 ⟨rfl, allTyped_nil⟩
    · exact allTyped_nil

theorem aceItemReads_typed {entries : List RepNode} : AllTyped (aceItemReads entries) ↔
    ∀ name subs, .object name subs ∈ entries → ∀ sub ∈ subs, subjectNames.any sub.named = true → sub.type = .string := by
  unfold aceItemReads
  rw [allTyped_append, itemReads_typed, and_iff_left]
  · simp only [aceReads_typed]
    constructor
    · rintro h name subs hmem
      exact h _ hmem name subs rfl
    · rintro h ace hmem name subs rfl
      exact h name subs hmem
  · exact allTyped_flatMap.2 fun resource _ => itemReads_typed.2 fun node _ => resourceReads_typed node

theorem aclPropertyReads_typed (rep : RepNode) : AllTyped (aclPropertyReads rep) ↔
    ∀ name objects stray count, rep = .objectArray name objects stray count → ∀ entries ∈ objects,
      ∀ name subs, .object name subs ∈ entries → ∀ sub ∈ subs, subjectNames.any sub.named = true → sub.type = .string := by
  cases rep with
  | leaf name value =>
    refine iff_of_true ?_ fun _ _ _ _ h => by cases h
    cases value with
    | string t =>
      unfold aclPropertyReads
      dsimp only
      split
      · exact allTyped_cons.2 ⟨rfl, allTyped_nil⟩
      · exact allTyped_nil
    | _ => exact allTyped_nil
  | object name entries => exact iff_of_true allTyped_nil fun _ _ _ _ h => by cases h
  | array name type length stored count => exact iff_of_true allTyped_nil fun _ _ _ _ h => by cases h
  | objectArray name objects stray count =>
    show AllTyped (⟨.objectArray name objects stray count, .objectArray⟩ :: objects.flatMap aceItemReads) ↔ _
    rw [allTyped_cons, allTyped_flatMap,
      and_iff_right (show UnionRead.Typed ⟨.objectArray name objects stray count, .objectArray⟩ from rfl)]
    simp only [aceItemReads_typed]
    constructor
    · rintro h name objects stray count ⟨rfl, rfl, rfl, rfl⟩
      exact h
    · exact fun h => h name objects stray count rfl

theorem decodeAclReads_typed (s : OcDostype) (fromStorage : Bool) (rep : List RepNode) :
    AllTyped (decodeAclReads s fromStorage rep) ↔ (UnionDecoder.acl s fromStorage).StringsTyped rep := by
  unfold decodeAclReads UnionDecoder.StringsTyped
  by_cases h : rep.all (aclRecordAllowed s fromStorage) = true
  · rw [if_pos h, allTyped_flatMap]
    simp only [aclPropertyReads_typed]
    constructor
    · rintro htyped - name objects stray count hmem
      exact htyped _ hmem name objects stray count rfl
    · rintro htyped node hmem name objects stray count rfl
      exact htyped h name objects stray count hmem
  · rw [if_neg h]
    exact iff_of_true allTyped_nil fun hall => absurd hall h

/-! ## Updates -/

section Sw

variable {P : SwPlatform} {now : Nat} {misread : RepNode → OcString}

theorem checkSwRecord_error {c : SwCheck} {node : RepNode}
    (h : c.errorState = true ∨ readOnlySwProperty (some node.name) = true) :
    (checkSwRecord P now misread c node).errorState = true := by
  unfold checkSwRecord
  by_cases hread : readOnlySwProperty (some node.name) = true
  · rw [if_pos hread]
  · have herror := h.resolve_right hread
    rw [if_neg hread]
    split
    · simp [herror]
    · split
      · simp [herror]
      · split
        · simp [herror]
        · exact herror

theorem checkSw_accepted {rep : List RepNode} : ∀ {c : SwCheck},
    (rep.foldl (checkSwRecord P now misread) c).errorState = false →
      c.errorState = false ∧ ∀ node ∈ rep, readOnlySwProperty (some node.name) = false := by
  induction rep with
  | nil => exact fun h => ⟨h, fun _ hmem => absurd hmem List.not_mem_nil⟩
  | cons node rep ih =>
    intro c h
    obtain ⟨hfirst, hrest⟩ := ih h
    have hnot : ¬(c.errorState = true ∨ readOnlySwProperty (some node.name) = true) := fun hor => by
      rw [checkSwRecord_error hor] at hfirst
      cases hfirst
    obtain ⟨herror, hread⟩ := not_or.1 hnot
    refine ⟨Bool.eq_false_iff.2 herror, fun n hn => ?_⟩
    obtain rfl | hn := List.mem_cons.1 hn
    · exact Bool.eq_false_iff.2 hread
    · exact hrest n hn

theorem nameIs_some {node : RepNode} {s : String} : nameIs (some node.name) s = node.named s := by
  unfold nameIs RepNode.named
  simp

theorem decodeSwReads_typed {node : RepNode} (hread : readOnlySwProperty (some node.name) = false)
    (h : checkedSwNames.any node.named = true → node.type = .string) : AllTyped (decodeSwReads node) := by
  unfold readOnlySwProperty at hread
  simp only [nameIs_some, Bool.or_eq_false_iff] at hread
  obtain ⟨⟨⟨⟨hlast, hnv⟩, hsigned⟩, hresult⟩, hstate⟩ := hread
  unfold decodeSwReads stringReads
  rw [hresult, allTyped_append, allTyped_string]
  refine ⟨fun hnamed => h ?_, allTyped_nil⟩
  simp only [decodedSwNames, checkedSwNames, List.any_cons, List.any_nil, hlast, hnv, hsigned, hstate, Bool.false_or,
    Bool.or_false] at hnamed ⊢
  exact hnamed

theorem postSwReads_typed (rep : List RepNode) :
    AllTyped (postSwReads P now misread rep) ↔ (UnionDecoder.sw P now misread).StringsTyped rep := by
  unfold postSwReads UnionDecoder.StringsTyped
  rw [allTyped_append, allTyped_flatMap]
  simp only [stringReads, allTyped_string]
  refine and_iff_left_of_imp fun h => ?_
  split
  · exact allTyped_nil
  · rename_i herror
    have haccepted : (rep.foldl (checkSwRecord P now misread) SwCheck.start).errorState = false := by
      unfold SwCheck.error at herror
      simp only [Bool.or_eq_true, not_or] at herror
      exact Bool.eq_false_iff.2 herror.1.1.1.1.1
    exact allTyped_flatMap.2 fun node hnode => decodeSwReads_typed ((checkSw_accepted haccepted).2 node hnode) (h node hnode)

end Sw

/-! ## The property -/

theorem createReads_typed (method : OcMethod) (rep : List RepNode) : AllTyped (createReads method rep) := by
  have hrecord (node : RepNode) : AllTyped (createRecordReads node) := by
    unfold createRecordReads
    split
    · exact allTyped_cons.2 ⟨rfl, allTyped_nil⟩
    · refine allTyped_cons.2 ⟨rfl, ?_⟩
      split
      · split
        · rename_i hobj
          exact allTyped_cons.2 ⟨hobj.2.1, allTyped_nil⟩
        · exact allTyped_nil
      · exact allTyped_nil
    · exact allTyped_cons.2 ⟨rfl, allTyped_nil⟩
    · exact allTyped_nil
  unfold createReads
  split
  · exact allTyped_flatMap.2 fun node _ => hrecord node
  · exact allTyped_nil

/-- Each decoder reads a value through the member that has been written if and only if what it reads by its name alone
is a string. -/
theorem unionReads_iff (decoder : UnionDecoder) (rep : List RepNode) :
    (∀ r ∈ decoder.reads rep, r.Typed) ↔ decoder.StringsTyped rep := by
  cases decoder with
  | acl s fromStorage => exact decodeAclReads_typed s fromStorage rep
  | sw P now misread => exact postSwReads_typed rep
  | create method => exact iff_of_true (createReads_typed method rep) trivial

/-- An ACE whose subject's UUID is an integer. -/
def integerSubject : Cbor :=
  .map [.textString (ascii "aclist2"), .array true [.map [.textString (ascii "subject"),
    .map [.textString (ascii "uuid"), .integer 5]]]]

/-- The integer of a subject is read as a string. -/
theorem decodeAcl_integerSubject : ∃ rep, ocParseRep 128 integerSubject = .ok rep ∧
    ¬∀ r ∈ (UnionDecoder.acl .rfotm false).reads rep, r.Typed := by
  refine ⟨_, rfl, fun h => ?_⟩
  have hstrings := (decodeAclReads_typed .rfotm false _).1 h (by decide)
  have hstring := hstrings _ _ _ _ List.mem_cons_self _ List.mem_cons_self _ _ List.mem_cons_self _ List.mem_cons_self
  exact absurd (hstring (by decide)) (by decide)

end SmartGarage
