/-
The state of the garage door, `gpio.c`: it is taken from both sensors when the door is initialised, and from then on
followed from one sensor at a time.
-/
import SmartGarage.Lib.Run

namespace SmartGarage.DoorState

open Runs

/-! ## The door -/

/-- `garage_door_state_codes` -/
inductive GarageDoorStateCode
  | opening | closing | opened | closed
deriving DecidableEq

/-- What `digitalRead` returns. -/
inductive Level
  | low | high
deriving DecidableEq

def Level.value : Level → Int
  | low => 0
  | high => 1

/-- The variables of `gpio.c`: `g_lower_state`, `g_upper_state`, `door_state` and, for each of the callbacks, whether it
is set, with the callbacks that have been called. -/
structure Gpio where
  lowerState : Int
  upperState : Int
  doorState : GarageDoorStateCode
  isSet : GarageDoorStateCode → Bool
  called : List GarageDoorStateCode

/-- The initial values. -/
def Gpio.zero : Gpio := ⟨-1, -1, .closed, fun _ => false, []⟩

/-- `get_door_state` -/
def getDoorState (lowerSensorState upperSensorState : Int) : GarageDoorStateCode :=
  if lowerSensorState = 0 then .closed
  else if upperSensorState = 0 then .opened
  else .closed

namespace Gpio

variable (g : Gpio)

/-- A call of a callback, where it is set. -/
def call (code : GarageDoorStateCode) : Gpio := if g.isSet code then { g with called := g.called ++ [code] } else g

/-- `init_door`, with what `wiringPiSetup` returns and the levels of the two sensors. -/
def initDoor (setup : Int) (isSet : GarageDoorStateCode → Bool) (lower upper : Level) : Int × Gpio :=
  if setup = -1 then (1, g)
  else
    let g := { g with isSet := isSet, lowerState := lower.value, upperState := upper.value }
    -- the reading of the lower sensor is passed for both
    (0, { g with doorState := getDoorState g.lowerState g.lowerState })

/-- What the callbacks of both sensors do in front of storing the reading: `old` is the one before, in contact the door is
in the state `contact`, and it leaves it to the state `left`. -/
def sensorChanged (value old : Int) (contact left : GarageDoorStateCode) : Gpio :=
  if value = 0 then
    let g' := { g with doorState := contact }
    if value ≠ old then g'.call contact else g'
  else if value ≠ old then { g with doorState := left }.call left
  else g

/-- `lower_sensor_changed_cb` -/
def lowerSensorChangedCb (value : Int) : Gpio :=
  { g.sensorChanged value g.lowerState .closed .opening with lowerState := value }

/-- `upper_sensor_changed_cb` -/
def upperSensorChangedCb (value : Int) : Gpio :=
  { g.sensorChanged value g.upperState .opened .closing with upperState := value }

end Gpio

/-! ## Every run -/

/-- The door, and whether a reading has changed since it was initialised. -/
structure Door where
  gpio : Gpio
  changed : Bool

/-- An interrupt of a sensor, with the level of its pin. -/
inductive Interrupt
  | lower (level : Level)
  | upper (level : Level)

namespace Door

/-- The door behind `init_door`, with the four callbacks. -/
def start (lower upper : Level) : Door := ⟨(Gpio.zero.initDoor 0 (fun _ => true) lower upper).2, false⟩

variable (door : Door)

def step : Interrupt → Door
  | .lower level => ⟨door.gpio.lowerSensorChangedCb level.value, door.changed || level.value ≠ door.gpio.lowerState⟩
  | .upper level => ⟨door.gpio.upperSensorChangedCb level.value, door.changed || level.value ≠ door.gpio.upperState⟩

/-- The sensors are not both in contact. -/
def Apart : Interrupt → Prop
  | .lower level => level = .low → door.gpio.upperState ≠ 0
  | .upper level => level = .low → door.gpio.lowerState ≠ 0

instance : ∀ interrupt, Decidable (door.Apart interrupt)
  | .lower level => inferInstanceAs (Decidable (level = .low → door.gpio.upperState ≠ 0))
  | .upper level => inferInstanceAs (Decidable (level = .low → door.gpio.lowerState ≠ 0))

/-- The state of the door is the one that its sensors show, and so is the last callback. -/
structure Agrees : Prop where
  closed : door.gpio.doorState = .closed ↔ door.gpio.lowerState = 0
  opened : door.gpio.doorState = .opened ↔ door.gpio.upperState = 0
  called : door.changed = true → door.gpio.called.getLast? = some door.gpio.doorState

/-- The readings are levels, and all callbacks are set. -/
structure Inv : Prop where
  agrees : door.Agrees
  lower : ∃ level : Level, door.gpio.lowerState = level.value
  upper : ∃ level : Level, door.gpio.upperState = level.value
  isSet : ∀ code, door.gpio.isSet code = true

end Door

section Step

variable {door : Door}

/-- The lower sensor is in contact in the closed state only, and the upper one in the open state. -/
theorem Door.Inv.apart (h : door.Inv) : ¬(door.gpio.lowerState = 0 ∧ door.gpio.upperState = 0) := fun ⟨hlower, hupper⟩ =>
  nomatch (h.agrees.closed.2 hlower).symm.trans (h.agrees.opened.2 hupper)

/-- The door behind a reading that has changed: it is in the state `code`, whose callback has been called. -/
def Door.enter (door : Door) (lower upper : Level) (code : GarageDoorStateCode) : Door :=
  ⟨{ door.gpio with
    lowerState := lower.value, upperState := upper.value, doorState := code, called := door.gpio.called ++ [code] }, true⟩

theorem Level.value_eq_zero {level : Level} : level.value = 0 ↔ level = .low := by
  cases level <;> decide

theorem Door.Inv.enter (h : door.Inv) {lower upper : Level} {code : GarageDoorStateCode}
    (hclosed : code = .closed ↔ lower = .low) (hopened : code = .opened ↔ upper = .low) :
    (door.enter lower upper code).Inv where
  agrees := ⟨hclosed.trans Level.value_eq_zero.symm, hopened.trans Level.value_eq_zero.symm,
    fun _ => List.getLast?_concat⟩
  lower := ⟨lower, rfl⟩
  upper := ⟨upper, rfl⟩
  isSet := h.isSet

/-- A reading that has changed takes the door to the state of its side, and another one leaves it as it is. -/
theorem Gpio.sensorChanged_eq {g : Gpio} (hset : ∀ code, g.isSet code = true) {level : Level} {old : Int}
    {contact left : GarageDoorStateCode} (hold : old = 0 → g.doorState = contact) :
    g.sensorChanged level.value old contact left =
      if level.value = old then g
      else
        let code := if level = .low then contact else left
        { g with doorState := code, called := g.called ++ [code] } := by
  obtain ⟨lowerState, upperState, doorState, isSet, called⟩ := g
  have hset : ∀ code, isSet code = true := hset
  by_cases hsame : level.value = old
  · rw [if_pos hsame]
    cases hsame
    cases level with
    | low =>
      cases hold rfl
      simp [sensorChanged, Level.value]
    | high => simp [sensorChanged, Level.value]
  · rw [if_neg hsame]
    cases level with
    | low =>
      have hne : ¬0 = old := hsame
      simp [sensorChanged, Gpio.call, Level.value, hset, hne]
    | high =>
      have hne : ¬1 = old := hsame
      simp [sensorChanged, Gpio.call, Level.value, hset, hne]

theorem Door.Inv.lower_eq (h : door.Inv) (level upper : Level) (hupper : door.gpio.upperState = upper.value) :
    door.step (.lower level) = if level.value = door.gpio.lowerState then door
      else door.enter level upper (if level = .low then .closed else .opening) := by
  rw [Door.step, Gpio.lowerSensorChangedCb, Gpio.sensorChanged_eq h.isSet h.agrees.closed.2]
  obtain ⟨⟨lowerState, upperState, doorState, isSet, called⟩, changed⟩ := door
  have hupper : upperState = upper.value := hupper
  subst hupper
  by_cases hsame : level.value = lowerState
  · cases hsame
    simp
  · simp [hsame, Door.enter]

theorem Door.Inv.upper_eq (h : door.Inv) (level lower : Level) (hlower : door.gpio.lowerState = lower.value) :
    door.step (.upper level) = if level.value = door.gpio.upperState then door
      else door.enter lower level (if level = .low then .opened else .closing) := by
  rw [Door.step, Gpio.upperSensorChangedCb, Gpio.sensorChanged_eq h.isSet h.agrees.opened.2]
  obtain ⟨⟨lowerState, upperState, doorState, isSet, called⟩, changed⟩ := door
  have hlower : lowerState = lower.value := hlower
  subst hlower
  by_cases hsame : level.value = upperState
  · cases hsame
    simp
  · simp [hsame, Door.enter]

theorem Level.ne_low_of_change {level old : Level} (hold : ¬level.value = old.value) (hlevel : ¬level = .low) :
    old = .low := by
  cases level with
  | low => exact absurd rfl hlevel
  | high =>
    cases old with
    | low => rfl
    | high => exact absurd rfl hold

theorem Door.Inv.step (h : door.Inv) {interrupt : Interrupt} (hapart : door.Apart interrupt) :
    (door.step interrupt).Inv := by
  obtain ⟨lower, hlower⟩ := h.lower
  obtain ⟨upper, hupper⟩ := h.upper
  have hboth : ¬(lower = .low ∧ upper = .low) := by
    rintro ⟨rfl, rfl⟩
    exact h.apart ⟨hlower, hupper⟩
  cases interrupt with
  | lower level =>
    rw [h.lower_eq level upper hupper]
    split
    · exact h
    · rename_i hchange
      rw [hlower] at hchange
      by_cases hlevel : level = .low
      · have hhigh : upper ≠ .low := fun hlow => hapart hlevel (hupper.trans (Level.value_eq_zero.2 hlow))
        rw [if_pos hlevel]
        exact h.enter (iff_of_true rfl hlevel) (iff_of_false (by decide) hhigh)
      · -- the lower sensor has been in contact until now, so the upper one is not
        have hold := Level.ne_low_of_change hchange hlevel
        rw [if_neg hlevel]
        exact h.enter (iff_of_false (by decide) hlevel) (iff_of_false (by decide) fun hlow => hboth ⟨hold, hlow⟩)
  | upper level =>
    rw [h.upper_eq level lower hlower]
    split
    · exact h
    · rename_i hchange
      rw [hupper] at hchange
      by_cases hlevel : level = .low
      · have hhigh : lower ≠ .low := fun hlow => hapart hlevel (hlower.trans (Level.value_eq_zero.2 hlow))
        rw [if_pos hlevel]
        exact h.enter (iff_of_false (by decide) hhigh) (iff_of_true rfl hlevel)
      · have hold := Level.ne_low_of_change hchange hlevel
        rw [if_neg hlevel]
        exact h.enter (iff_of_false (by decide) fun hlow => hboth ⟨hlow, hold⟩) (iff_of_false (by decide) hlevel)

end Step

theorem inv_start {upper : Level} (hupper : upper ≠ .low) : (Door.start .low upper).Inv where
  agrees := by
    cases upper with
    | low => exact absurd rfl hupper
    | high => exact ⟨by decide, by decide, fun h => nomatch h⟩
  lower := ⟨.low, rfl⟩
  upper := ⟨upper, rfl⟩
  isSet := fun _ => rfl

/-- From whatever readings the door is initialised with, its state agrees with the sensors in every run if and only if
the lower sensor has been in contact then. -/
theorem doorState_agrees_iff (lower upper : Level) (hapart : ¬(lower = .low ∧ upper = .low)) (l : List Interrupt)
    (hl : Guarded Door.step Door.Apart (.start lower upper) l) :
    (∀ l', l' <+: l → (runFrom Door.step (.start lower upper) l').Agrees) ↔ lower = .low := by
  constructor
  · intro hall
    -- `get_door_state` finds the door closed, whatever the reading is
    have hclosed : (Door.start lower upper).gpio.doorState = .closed := by cases lower <;> rfl
    exact Level.value_eq_zero.1 ((hall [] List.nil_prefix).closed.1 hclosed)
  · rintro rfl l' ⟨rest, rfl⟩
    have hstart := inv_start fun hlow => hapart ⟨rfl, hlow⟩
    have hkeep : ∀ (door : Door) (interrupt : Interrupt), door.Inv → door.Apart interrupt → (door.step interrupt).Inv :=
      fun _ _ h hinterrupt => h.step hinterrupt
    exact (run_invariant hkeep l' _ hstart hl.left).agrees

/-- The door is opened and closed again. -/
theorem doorState_agrees_closed :
    (runFrom Door.step (.start .low .high)
      [.lower .high, .upper .low, .upper .low, .upper .high, .lower .low]).Agrees :=
  have hrun : Guarded Door.step Door.Apart (.start .low .high)
      [.lower .high, .upper .low, .upper .low, .upper .high, .lower .low] := by decide
  (doorState_agrees_iff .low .high (by decide) _ hrun).2 rfl _ List.prefix_rfl

/-- The door is initialised while it stands open. -/
theorem doorState_open : ¬(Door.start .high .low).Agrees := fun h => absurd (h.opened.2 rfl) (by decide)

end SmartGarage.DoorState
