/-
The open level of the garage door, `/openlevel` of `device_builder_server.c`: `post_openlevel` takes any integer, while
the callbacks of the door write the levels of its four states.
-/
import SmartGarage.Api.RepRead
import SmartGarage.Lib.Run

namespace SmartGarage.DeviceBuilder

open Runs

/-! ## The resource -/

/-- The variables of the resource; `range` has two elements. -/
structure OpenLevel where
  openLevel : Int
  range : List Int
  rangeArraySize : Nat
  step : Int

/-- `initialize_variables` -/
def initializeVariables : OpenLevel := ⟨100, [0, 100], 2, 2⟩

/-- The name of a record is `s`, as `strcmp` sees it. -/
def named (s : String) (node : RepNode) : Bool := cstr node.name = ascii s

/-- `check_on_readonly_common_resource_properties` -/
def checkOnReadonlyCommonResourceProperties (node : RepNode) : Bool :=
  named "n" node || named "if" node || named "rt" node || named "id" node

/-- `error_state` behind the checks of `post_openlevel`. -/
def errorState (rep : List RepNode) : Bool :=
  !rep.any (named "openLevel") || rep.any fun node =>
    checkOnReadonlyCommonResourceProperties node || (named "openLevel" node && node.type ≠ .int) ||
      named "range" node || named "step" node

/-- `rep->value.integer` -/
def integer : RepNode → Int
  | .leaf _ (.int v) => v
  | _ => 0

/-- The copy of an array to `g_openlevel_range`. -/
def copyRange (level : OpenLevel) : Option RepBlock → OpenLevel
  | some block => { level with
      rangeArraySize := block.size
      range := (List.range block.size).foldl
        (fun range j => range.set j (castInt (((block.item j).bind Content.int?).getD 0))) level.range }
  | none => level

/-- The assignments for a record, the first one of `rep`. -/
def assign (level : OpenLevel) (node : RepNode) (rep : List RepNode) : OpenLevel :=
  let level := if named "openLevel" node then { level with openLevel := castInt (integer node) } else level
  let level := if named "range" node then copyRange level (ocRepGetIntArray rep (ascii "range")) else level
  if named "step" node then { level with step := castInt (integer node) } else level

/-- The loop over the records. -/
def assignAll : OpenLevel → List RepNode → OpenLevel
  | level, [] => level
  | level, node :: rest => assignAll (assign level node (node :: rest)) rest

/-- `open_door` and `close_door` -/
inductive DoorDrive
  | openDoor | closeDoor
deriving DecidableEq

/-- `post_openlevel`, with how it drives the door; `none` where it answers a bad request. -/
def postOpenlevel (level : OpenLevel) (rep : List RepNode) : OpenLevel × Option DoorDrive :=
  if errorState rep then (level, none)
  else
    let level := assignAll level rep
    (level, some (if level.openLevel > 50 then .openDoor else .closeDoor))

def garageDoorOpeningCallback (level : OpenLevel) : OpenLevel := { level with openLevel := 2 }

def garageDoorClosingCallback (level : OpenLevel) : OpenLevel := { level with openLevel := 98 }

def garageDoorOpenCallback (level : OpenLevel) : OpenLevel := { level with openLevel := 100 }

def garageDoorClosedCallback (level : OpenLevel) : OpenLevel := { level with openLevel := 0 }

/-! ## What a request assigns -/

/-- The integer that a request posts: the last one under the name. -/
def posted (rep : List RepNode) : Int := ((rep.filter (named "openLevel")).getLast?.map integer).getD 0

section Assign

variable {level : OpenLevel} {node : RepNode} {rep : List RepNode}

theorem accepted_records (h : errorState rep = false) :
    (∃ node ∈ rep, named "openLevel" node = true) ∧
      ∀ node ∈ rep, named "range" node = false ∧ named "step" node = false := by
  unfold errorState at h
  obtain ⟨hsome, hall⟩ := Bool.or_eq_false_iff.1 h
  refine ⟨List.any_eq_true.1 (Bool.not_eq_false_eq_eq_true _ ▸ hsome), fun node hnode => ?_⟩
  have hnone := List.any_eq_false.1 hall node hnode
  rw [Bool.not_eq_true, Bool.or_eq_false_iff, Bool.or_eq_false_iff] at hnone
  exact ⟨hnone.1.2, hnone.2⟩

theorem assign_eq (hrange : named "range" node = false) (hstep : named "step" node = false) :
    assign level node rep =
      if named "openLevel" node then { level with openLevel := castInt (integer node) } else level := by
  unfold assign
  simp only [hrange, hstep, Bool.false_eq_true, if_false]

theorem assignAll_eq : ∀ {rep : List RepNode} {level : OpenLevel},
    (∀ node ∈ rep, named "range" node = false ∧ named "step" node = false) →
      assignAll level rep = { level with
        openLevel := ((rep.filter (named "openLevel")).getLast?.map fun node => castInt (integer node)).getD
          level.openLevel }
  | [], _, _ => rfl
  | node :: rest, level, h => by
    obtain ⟨⟨hrange, hstep⟩, hrest⟩ := List.forall_mem_cons.1 h
    rw [assignAll, assign_eq hrange hstep, assignAll_eq hrest]
    by_cases hnode : named "openLevel" node = true
    · rw [if_pos hnode, List.filter_cons_of_pos hnode]
      cases hl : rest.filter (named "openLevel") with
      | nil => rfl
      | cons a l => rw [List.getLast?_cons_cons, List.getLast?_eq_some_getLast (List.cons_ne_nil a l)]; rfl
    · rw [if_neg hnode, List.filter_cons_of_neg hnode]

theorem assignAll_accepted (h : errorState rep = false) :
    assignAll level rep = { level with openLevel := castInt (posted rep) } := by
  obtain ⟨⟨node, hmem, hnode⟩, hall⟩ := accepted_records h
  have hne : rep.filter (named "openLevel") ≠ [] := List.ne_nil_of_mem (List.mem_filter.2 ⟨hmem, hnode⟩)
  rw [assignAll_eq hall, posted, List.getLast?_eq_some_getLast hne]
  rfl

end Assign

/-! ## Every run -/

/-- The resource, and the integers that have been posted to it, each with how it drove the door. -/
structure Door where
  level : OpenLevel
  drives : List (Int × DoorDrive)

/-- A request, or a call of one of the door's callbacks. -/
inductive DoorEvent
  | post (rep : List RepNode)
  | opening | closing | opened | closed

namespace Door

def init : Door := ⟨initializeVariables, []⟩

variable (door : Door)

def step : DoorEvent → Door
  | .post rep =>
    let (level, drive) := postOpenlevel door.level rep
    ⟨level, door.drives ++ (drive.map fun drive => (posted rep, drive)).toList⟩
  | .opening => { door with level := garageDoorOpeningCallback door.level }
  | .closing => { door with level := garageDoorClosingCallback door.level }
  | .opened => { door with level := garageDoorOpenCallback door.level }
  | .closed => { door with level := garageDoorClosedCallback door.level }

/-- The level lies in the range and on a step of it, and the door has been driven open by the integers above 50. -/
structure Valid : Prop where
  low : door.level.range.getD 0 0 ≤ door.level.openLevel
  high : door.level.openLevel ≤ door.level.range.getD 1 0
  onStep : door.level.step ∣ door.level.openLevel - door.level.range.getD 0 0
  driven : ∀ drive ∈ door.drives, drive.2 = .openDoor ↔ drive.1 > 50

/-- Range and step are those of the start. -/
structure Inv : Prop where
  valid : door.Valid
  range_eq : door.level.range = [0, 100]
  step_eq : door.level.step = 2

end Door

/-- The integer of a request that is accepted is, in 32 bits, an even number from 0 to 100, and above 50 there as it is
in 64 bits. -/
def DoorEvent.Suits : DoorEvent → Prop
  | .post rep => errorState rep = false →
      (0 ≤ castInt (posted rep) ∧ castInt (posted rep) ≤ 100 ∧ 2 ∣ castInt (posted rep)) ∧
        (castInt (posted rep) > 50 ↔ posted rep > 50)
  | _ => True

section Step

variable {door : Door}

theorem inv_init : Door.init.Inv := ⟨⟨by decide, by decide, by decide, fun _ h => nomatch h⟩, rfl, rfl⟩

theorem valid_iff {range : List Int} {size : Nat} {step v : Int} {drives : List (Int × DoorDrive)}
    (hrange : range = [0, 100]) (hstep : step = 2) : Door.Valid ⟨⟨v, range, size, step⟩, drives⟩ ↔
      (0 ≤ v ∧ v ≤ 100 ∧ 2 ∣ v) ∧ ∀ drive ∈ drives, drive.2 = .openDoor ↔ drive.1 > 50 := by
  subst hrange hstep
  constructor
  · rintro ⟨hlow, hhigh, honStep, hdriven⟩
    exact ⟨⟨hlow, hhigh, by simpa using honStep⟩, hdriven⟩
  · rintro ⟨⟨hlow, hhigh, honStep⟩, hdriven⟩
    exact ⟨hlow, hhigh, by simpa using honStep, hdriven⟩

theorem Door.Inv.setLevel (h : door.Inv) {v : Int} (hv : 0 ≤ v ∧ v ≤ 100 ∧ 2 ∣ v) :
    Door.Inv { door with level := { door.level with openLevel := v } } :=
  ⟨(valid_iff h.range_eq h.step_eq).2 ⟨hv, h.valid.driven⟩, h.range_eq, h.step_eq⟩

theorem step_rejected {rep : List RepNode} (h : errorState rep = true) : door.step (.post rep) = door := by
  simp only [Door.step, postOpenlevel, h, if_true, Option.map_none, Option.toList_none, List.append_nil]

theorem step_accepted {rep : List RepNode} (h : errorState rep = false) :
    door.step (.post rep) = ⟨{ door.level with openLevel := castInt (posted rep) },
      door.drives ++ [(posted rep, if castInt (posted rep) > 50 then .openDoor else .closeDoor)]⟩ := by
  simp only [Door.step, postOpenlevel, h, Bool.false_eq_true, if_false, assignAll_accepted h, Option.map_some,
    Option.toList_some]

theorem drive_iff (v w : Int) : ((if v > 50 then DoorDrive.openDoor else .closeDoor) = .openDoor ↔ w > 50) ↔
    (v > 50 ↔ w > 50) := by
  split
  · rename_i hv
    exact iff_congr (iff_of_true rfl hv) Iff.rfl
  · rename_i hv
    exact iff_congr (iff_of_false (fun h => nomatch h) hv) Iff.rfl

/-- A request that is accepted leaves a valid state if and only if its integer suits. -/
theorem valid_step_iff (h : door.Inv) {rep : List RepNode} (hok : errorState rep = false) :
    (door.step (.post rep)).Valid ↔ (DoorEvent.post rep).Suits := by
  rw [step_accepted hok, valid_iff h.range_eq h.step_eq, List.forall_mem_append, List.forall_mem_singleton, drive_iff]
  exact ⟨fun hv _ => ⟨hv.1, hv.2.2⟩, fun hv => ⟨(hv hok).1, h.valid.driven, (hv hok).2⟩⟩

theorem Door.Inv.step (h : door.Inv) {event : DoorEvent} (hevent : event.Suits) : (door.step event).Inv := by
  cases event with
  | post rep =>
    cases hok : errorState rep with
    | true =>
      rw [step_rejected hok]
      exact h
    | false =>
      refine ⟨(valid_step_iff h hok).2 hevent, ?_, ?_⟩ <;> rw [step_accepted hok]
      · exact h.range_eq
      · exact h.step_eq
  | opening => exact h.setLevel (v := 2) (by decide)
  | closing => exact h.setLevel (v := 98) (by decide)
  | opened => exact h.setLevel (v := 100) (by decide)
  | closed => exact h.setLevel (v := 0) (by decide)

theorem not_valid_step (h : door.Inv) {event : DoorEvent} (hevent : ¬event.Suits) : ¬(door.step event).Valid := by
  cases event with
  | post rep =>
    cases hok : errorState rep with
    | true => exact absurd (fun herr => nomatch hok.symm.trans herr) hevent
    | false => exact fun hvalid => hevent ((valid_step_iff h hok).1 hvalid)
  | opening | closing | opened | closed => exact absurd trivial hevent

end Step

/-- The level stays in its range and on its steps, and the door is driven open by the integers above 50, if and only if
the integers of the accepted requests suit. -/
theorem openLevel_valid_iff (l : List DoorEvent) :
    (∀ l', l' <+: l → (runFrom Door.step .init l').Valid) ↔ ∀ event ∈ l, event.Suits := by
  have hkeep : ∀ (door : Door) (event : DoorEvent), door.Inv → event.Suits → (door.step event).Inv :=
    fun _ _ h hevent => h.step hevent
  have hbreak : ∀ (door : Door) (event : DoorEvent), door.Inv → ¬event.Suits → ¬(door.step event).Valid :=
    fun _ _ h hevent => not_valid_step h hevent
  exact (always_iff_guarded (fun _ h => h.valid) hkeep hbreak inv_init).trans guarded_iff_forall

/-- A request for the level 1000. -/
theorem openLevel_beyond : ¬∀ l : List DoorEvent, (runFrom Door.step .init l).Valid := fun h =>
  absurd (h [.post [.leaf (ascii "openLevel") (.int 1000)]]).high (by decide)

end SmartGarage.DeviceBuilder
