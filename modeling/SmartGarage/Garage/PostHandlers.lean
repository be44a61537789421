/-
The POST handlers of `device_builder_server.c`, `post_doorstate` and `post_openlevel`, with the flag that is passed
through their loops: what they answer, and what they leave of the variables of both resources.
-/
import SmartGarage.Garage.OpenLevel

namespace SmartGarage.DeviceBuilder

/-! ## The handlers -/

/-- The global property variables of both resources. -/
structure Properties where
  openlevel : OpenLevel
  openAlarm : Bool
  openDuration : OcString
  openState : OcString

/-- What a handler leaves: the variables, the code of its answer, and the calls that drive the door. -/
structure Reply where
  properties : Properties
  status : OcStatus
  drives : List DoorDrive

/-- `check_on_readonly_common_resource_properties`, from one error state to the next. -/
def checkCommon (node : RepNode) (errorState : Bool) : Bool :=
  if named "n" node then true
  else if named "if" node then true
  else if named "rt" node then true
  else if named "id" node then true
  else errorState

/-- The first loop: whether a required property is there. -/
def varInRequest (name : String) (rep : List RepNode) : Bool :=
  rep.foldl (fun found node => if named name node then true else found) false

/-- The check of a required property, with its type. -/
def checkType (name : String) (type : RepValueType) (node : RepNode) (errorState : Bool) : Bool :=
  if named name node then (if node.type ≠ type then true else errorState) else errorState

/-- The second loop of `post_doorstate`, at one record. -/
def checkDoorstate (errorState : Bool) (node : RepNode) : Bool :=
  checkType "openAlarm" .bool node (checkCommon node errorState)

/-- The second loop of `post_openlevel`, at one record. -/
def checkOpenlevel (errorState : Bool) (node : RepNode) : Bool :=
  let errorState := checkType "openLevel" .int node (checkCommon node errorState)
  let errorState := if named "range" node then true else errorState
  if named "step" node then true else errorState

/-- `rep->value.boolean` -/
def boolean : RepNode → Bool
  | .leaf _ (.bool b) => b
  | _ => false

/-- `post_doorstate` -/
def postDoorstateReply (p : Properties) (rep : List RepNode) : Reply :=
  let errorState := if varInRequest "openAlarm" rep then false else true
  let errorState := rep.foldl checkDoorstate errorState
  if errorState = false then
    let openAlarm := rep.foldl (fun alarm node => if named "openAlarm" node then boolean node else alarm) p.openAlarm
    ⟨{ p with openAlarm := openAlarm }, .changed, []⟩
  else ⟨p, .badRequest, []⟩

/-- `post_openlevel` -/
def postOpenlevelReply (p : Properties) (rep : List RepNode) : Reply :=
  let errorState := if varInRequest "openLevel" rep then false else true
  let errorState := rep.foldl checkOpenlevel errorState
  if errorState = false then
    let level := assignAll p.openlevel rep
    ⟨{ p with openlevel := level }, .changed, [if level.openLevel > 50 then .openDoor else .closeDoor]⟩
  else ⟨p, .badRequest, []⟩

/-! ## What is accepted -/

/-- A payload has a property, always with its type, and none of the others. -/
structure Accepted (name : String) (type : RepValueType) (readOnly : List String) (rep : List RepNode) : Prop where
  occurs : ∃ node ∈ rep, named name node = true
  typed : ∀ node ∈ rep, named name node = true → node.type = type
  writable : ∀ s ∈ readOnly, ∀ node ∈ rep, named s node = false

/-- The last record under a name. -/
def lastNamed (name : String) (rep : List RepNode) : Option RepNode := (rep.filter (named name)).getLast?

section Loops

variable {name : String} {type : RepValueType} {readOnly : List String} {rep : List RepNode} {node : RepNode}

/-- A flag that is only set is clear at the end if it has been clear at the beginning and nothing sets it. -/
theorem foldl_flag {α : Type} {f : Bool → α → Bool} {passes : α → Prop}
    (hf : ∀ flag a, f flag a = false ↔ flag = false ∧ passes a) (l : List α) (flag : Bool) :
    l.foldl f flag = false ↔ flag = false ∧ ∀ a ∈ l, passes a := by
  induction l generalizing flag with
  | nil => simp
  | cons a l ih =>
    rw [List.foldl_cons, ih, hf, List.forall_mem_cons, and_assoc]

theorem varInRequest_iff : varInRequest name rep = true ↔ ∃ node ∈ rep, named name node = true := by
  have hstep (found : Bool) (node : RepNode) :
      (if named name node then true else found) = false ↔ found = false ∧ named name node = false := by
    cases named name node <;> simp
  rw [← Bool.not_eq_false, varInRequest, foldl_flag hstep]
  simp

variable (errorState : Bool)

theorem checkCommon_eq_false : checkCommon node errorState = false ↔
    errorState = false ∧ named "n" node = false ∧ named "if" node = false ∧ named "rt" node = false ∧
      named "id" node = false := by
  unfold checkCommon
  cases named "n" node <;> cases named "if" node <;> cases named "rt" node <;> cases named "id" node <;> simp

theorem checkType_eq_false : checkType name type node errorState = false ↔
    errorState = false ∧ (named name node = true → node.type = type) := by
  unfold checkType
  cases named name node
  · simp
  · by_cases htype : node.type = type <;> simp [htype]

theorem checkDoorstate_eq_false (node : RepNode) : checkDoorstate errorState node = false ↔
    errorState = false ∧ ((named "openAlarm" node = true → node.type = .bool) ∧
      ∀ s ∈ ["n", "if", "rt", "id"], named s node = false) := by
  unfold checkDoorstate
  rw [checkType_eq_false, checkCommon_eq_false]
  simp only [List.forall_mem_cons, List.not_mem_nil, false_imp_iff, implies_true, and_true]
  tauto

theorem checkOpenlevel_eq_false (node : RepNode) : checkOpenlevel errorState node = false ↔
    errorState = false ∧ ((named "openLevel" node = true → node.type = .int) ∧
      ∀ s ∈ ["range", "step", "n", "if", "rt", "id"], named s node = false) := by
  have hchecks : checkOpenlevel errorState node = false ↔ named "step" node = false ∧ named "range" node = false ∧
      checkType "openLevel" .int node (checkCommon node errorState) = false := by
    unfold checkOpenlevel
    cases named "range" node <;> cases named "step" node <;> simp
  rw [hchecks, checkType_eq_false, checkCommon_eq_false]
  simp only [List.forall_mem_cons, List.not_mem_nil, false_imp_iff, implies_true, and_true]
  tauto

theorem checks_iff {f : Bool → RepNode → Bool} (hf : ∀ errorState node, f errorState node = false ↔ errorState = false ∧
      ((named name node = true → node.type = type) ∧ ∀ s ∈ readOnly, named s node = false)) :
    rep.foldl f (if varInRequest name rep then false else true) = false ↔ Accepted name type readOnly rep := by
  rw [foldl_flag hf]
  have hrequired : (if varInRequest name rep then false else true) = false ↔ ∃ node ∈ rep, named name node = true := by
    rw [← varInRequest_iff]
    cases varInRequest name rep <;> simp
  simp only [hrequired]
  constructor
  · rintro ⟨hoccurs, hall⟩
    exact ⟨hoccurs, fun node hnode => (hall node hnode).1, fun s hs node hnode => (hall node hnode).2 s hs⟩
  · rintro ⟨hoccurs, htyped, hwritable⟩
    exact ⟨hoccurs, fun node hnode => ⟨htyped node hnode, fun s hs => hwritable s hs node hnode⟩⟩

theorem foldl_assign {α : Type} (value : RepNode → α) (rep : List RepNode) (v : α) :
    rep.foldl (fun v node => if named name node then value node else v) v =
      ((lastNamed name rep).map value).getD v := by
  induction rep generalizing v with
  | nil => rfl
  | cons node rest ih =>
    rw [List.foldl_cons, ih]
    unfold lastNamed
    by_cases hnode : named name node = true
    · rw [if_pos hnode, List.filter_cons_of_pos hnode, List.getLast?_cons]
      cases (rest.filter (named name)).getLast? <;> rfl
    · rw [if_neg hnode, List.filter_cons_of_neg hnode]

theorem Accepted.exists_last (h : Accepted name type readOnly rep) :
    ∃ node, lastNamed name rep = some node ∧ node.type = type := by
  obtain ⟨node, hmem, hnode⟩ := h.occurs
  have hne : rep.filter (named name) ≠ [] := List.ne_nil_of_mem (List.mem_filter.2 ⟨hmem, hnode⟩)
  have hlast := List.getLast_mem hne
  refine ⟨_, List.getLast?_eq_some_getLast hne, h.typed _ (List.mem_filter.1 hlast).1 (List.mem_filter.1 hlast).2⟩

end Loops

/-! ## The handlers and their answers -/

theorem leaf_of_bool {node : RepNode} (h : node.type = .bool) : ∃ name b, node = .leaf name (.bool b) := by
  cases node with
  | leaf name value =>
    cases value with
    | bool b => exact ⟨name, b, rfl⟩
    | _ => cases h
  | _ => cases h

theorem leaf_of_int {node : RepNode} (h : node.type = .int) : ∃ name v, node = .leaf name (.int v) := by
  cases node with
  | leaf name value =>
    cases value with
    | int v => exact ⟨name, v, rfl⟩
    | _ => cases h
  | _ => cases h

/-- The payloads that `post_doorstate` and `post_openlevel` accept. -/
def DoorstateAccepted (rep : List RepNode) : Prop := Accepted "openAlarm" .bool ["n", "if", "rt", "id"] rep

def OpenlevelAccepted (rep : List RepNode) : Prop :=
  Accepted "openLevel" .int ["range", "step", "n", "if", "rt", "id"] rep

section Replies

variable (p : Properties) {rep : List RepNode}

theorem postDoorstateReply_rejected (h : ¬DoorstateAccepted rep) : postDoorstateReply p rep = ⟨p, .badRequest, []⟩ := by
  simp only [postDoorstateReply]
  rw [if_neg ((checks_iff checkDoorstate_eq_false).not.2 h)]

theorem postDoorstateReply_accepted (h : DoorstateAccepted rep) : ∃ name b,
    lastNamed "openAlarm" rep = some (.leaf name (.bool b)) ∧
      postDoorstateReply p rep = ⟨{ p with openAlarm := b }, .changed, []⟩ := by
  obtain ⟨node, hlast, htype⟩ := h.exists_last
  obtain ⟨name, b, rfl⟩ := leaf_of_bool htype
  refine ⟨name, b, hlast, ?_⟩
  simp only [postDoorstateReply, (checks_iff checkDoorstate_eq_false).2 h, if_true, foldl_assign, hlast, Option.map_some,
    Option.getD_some, boolean]

theorem postOpenlevelReply_rejected (h : ¬OpenlevelAccepted rep) : postOpenlevelReply p rep = ⟨p, .badRequest, []⟩ := by
  simp only [postOpenlevelReply]
  rw [if_neg ((checks_iff checkOpenlevel_eq_false).not.2 h)]

theorem postOpenlevelReply_accepted (h : OpenlevelAccepted rep) : ∃ name v,
    lastNamed "openLevel" rep = some (.leaf name (.int v)) ∧
      postOpenlevelReply p rep = ⟨{ p with openlevel := { p.openlevel with openLevel := castInt v } }, .changed,
        [if castInt v > 50 then .openDoor else .closeDoor]⟩ := by
  obtain ⟨node, hlast, htype⟩ := h.exists_last
  obtain ⟨name, v, rfl⟩ := leaf_of_int htype
  refine ⟨name, v, hlast, ?_⟩
  have hassign : assignAll p.openlevel rep = { p.openlevel with openLevel := castInt v } := by
    rw [assignAll_eq fun node hnode => ⟨h.writable "range" (by simp) node hnode, h.writable "step" (by simp) node hnode⟩]
    show _ = { p.openlevel with openLevel := castInt v }
    rw [show (rep.filter (named "openLevel")).getLast? = some (.leaf name (.int v)) from hlast]
    rfl
  simp only [postOpenlevelReply, (checks_iff checkOpenlevel_eq_false).2 h, if_true, hassign]

theorem errorState_iff (rep : List RepNode) : errorState rep = false ↔ OpenlevelAccepted rep := by
  unfold errorState
  rw [Bool.or_eq_false_iff, Bool.not_eq_false', List.any_eq_true, List.any_eq_false]
  simp only [checkOnReadonlyCommonResourceProperties, Bool.not_eq_true, Bool.or_eq_false_iff, Bool.and_eq_false_iff,
    decide_eq_false_iff_not, not_not]
  constructor
  · rintro ⟨hoccurs, hall⟩
    refine ⟨hoccurs, fun node hnode hname => ?_, fun s hs node hnode => ?_⟩
    · have h := (hall node hnode).1.1.2
      simpa [hname] using h
    · have h := hall node hnode
      simp only [List.mem_cons, List.not_mem_nil, or_false] at hs
      rcases hs with rfl | rfl | rfl | rfl | rfl | rfl
      · exact h.1.2
      · exact h.2
      · exact h.1.1.1.1.1.1
      · exact h.1.1.1.1.1.2
      · exact h.1.1.1.1.2
      · exact h.1.1.1.2
  · rintro ⟨hoccurs, htyped, hwritable⟩
    refine ⟨hoccurs, fun node hnode => ?_⟩
    have hnot (s : String) (hs : s ∈ ["range", "step", "n", "if", "rt", "id"]) : named s node = false :=
      hwritable s hs node hnode
    refine ⟨⟨⟨⟨⟨⟨hnot "n" (by simp), hnot "if" (by simp)⟩, hnot "rt" (by simp)⟩, hnot "id" (by simp)⟩, ?_⟩,
      hnot "range" (by simp)⟩, hnot "step" (by simp)⟩
    cases hname : named "openLevel" node with
    | false => exact .inl rfl
    | true => exact .inr (htyped node hnode hname)

theorem postOpenlevelReply_level : (postOpenlevelReply p rep).properties.openlevel = (postOpenlevel p.openlevel rep).1 ∧
    (postOpenlevelReply p rep).drives = (postOpenlevel p.openlevel rep).2.toList := by
  by_cases h : OpenlevelAccepted rep
  · have herror := (errorState_iff rep).2 h
    have hloops := (checks_iff checkOpenlevel_eq_false).2 h
    simp only [postOpenlevelReply, postOpenlevel, hloops, herror, if_true, Bool.false_eq_true, if_false,
      Option.toList_some, true_and]
  · have herror : errorState rep = true := Bool.not_eq_false _ ▸ (errorState_iff rep).not.2 h
    rw [postOpenlevelReply_rejected p h]
    simp only [postOpenlevel, herror, if_true, Option.toList_none, true_and]

end Replies

/-! ## The property -/

/-- A payload is answered with 2.04 if and only if the property to be set occurs, always with its type, and no property
that is read-only; in every other case the answer is 4.00, and nothing is changed or driven. What is set is the last
occurrence, of the level as a C integer. -/
theorem postHandlers_answer (p : Properties) (rep : List RepNode) :
    (((postOpenlevelReply p rep).status = .changed ↔ OpenlevelAccepted rep) ∧
      (¬OpenlevelAccepted rep → postOpenlevelReply p rep = ⟨p, .badRequest, []⟩) ∧
      (OpenlevelAccepted rep → ∃ name v, lastNamed "openLevel" rep = some (.leaf name (.int v)) ∧
        (postOpenlevelReply p rep).properties = { p with openlevel := { p.openlevel with openLevel := castInt v } })) ∧
    ((postDoorstateReply p rep).status = .changed ↔ DoorstateAccepted rep) ∧
      (¬DoorstateAccepted rep → postDoorstateReply p rep = ⟨p, .badRequest, []⟩) ∧
      (DoorstateAccepted rep → ∃ name b, lastNamed "openAlarm" rep = some (.leaf name (.bool b)) ∧
        (postDoorstateReply p rep).properties = { p with openAlarm := b }) := by
  refine ⟨⟨?_, postOpenlevelReply_rejected p, fun h => ?_⟩, ?_, postDoorstateReply_rejected p, fun h => ?_⟩
  · by_cases h : OpenlevelAccepted rep
    · obtain ⟨_, _, -, hreply⟩ := postOpenlevelReply_accepted p h
      rw [hreply]
      exact iff_of_true rfl h
    · rw [postOpenlevelReply_rejected p h]
      exact iff_of_false (by simp) h
  · obtain ⟨name, v, hlast, hreply⟩ := postOpenlevelReply_accepted p h
    exact ⟨name, v, hlast, by rw [hreply]⟩
  · by_cases h : DoorstateAccepted rep
    · obtain ⟨_, _, -, hreply⟩ := postDoorstateReply_accepted p h
      rw [hreply]
      exact iff_of_true rfl h
    · rw [postDoorstateReply_rejected p h]
      exact iff_of_false (by simp) h
  · obtain ⟨name, b, hlast, hreply⟩ := postDoorstateReply_accepted p h
    exact ⟨name, b, hlast, by rw [hreply]⟩

/-- The variables before the first request. -/
def initialProperties : Properties := ⟨initializeVariables, false, [], []⟩

/-- A level that does not fit into a C integer is not the one that is set, and a name is taken up to its first zero
byte. -/
theorem postOpenlevel_asC :
    ((postOpenlevelReply initialProperties [.leaf (ascii "openLevel") (.int (2 ^ 32 + 60))]).status = .changed ∧
      (postOpenlevelReply initialProperties [.leaf (ascii "openLevel") (.int (2 ^ 32 + 60))]).properties.openlevel.openLevel ≠
        2 ^ 32 + 60) ∧
    (postOpenlevelReply initialProperties [.leaf (ascii "openLevel" ++ [0]) (.int 60)]).status = .changed := by
  decide

end SmartGarage.DeviceBuilder
