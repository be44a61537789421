/-
What a payload to `/oic/sec/pstat` says, read off it without the decoder's working copy: the states
its `dos` objects name, its target modes and its owners, and whether each property is allowed in the
state in force when the decoder comes to it. The decoder computes exactly that.
-/
import SmartGarage.Security.Pstat

namespace SmartGarage

/-! ## Reading a payload -/

/-- The value of a key `s` of a `dos` object. -/
def dosKeyState : OcRep → Option OcDostype
  | .int n v => if nameIs n "s" then some (OcDostype.ofInt v) else none
  | _ => none

/-- The states a property names. -/
def propertyStates : OcRep → List OcDostype
  | .object n entries => if nameIs n "dos" then entries.filterMap dosKeyState else []
  | _ => []

/-- The states the `dos` objects of a payload name, in order. -/
def dosStates (rep : List OcRep) : List OcDostype := rep.flatMap propertyStates

/-- The target mode a property gives. -/
def propertyTm : OcRep → Option Int
  | .int n v => if nameStarts n "tm" then some v else none
  | _ => none

/-- The target modes of a payload. -/
def tmValues (rep : List OcRep) : List Int := rep.filterMap propertyTm

/-- The owner a property gives. -/
def propertyOwner : OcRep → Option OcString
  | .string n v => if nameIs n "rowneruuid" then some v else none
  | _ => none

/-- The owner that is left when the owners of a payload are written over `uuid` one after the other. -/
def payloadOwner (uuid : OcUuid) (rep : List OcRep) : OcUuid :=
  (rep.filterMap propertyOwner).foldl (fun uuid v => ocStrToUuid v uuid) uuid

/-- The key of a `dos` object is one a client may send. -/
def dosKeyAllowed : OcRep → Bool
  | .int n _ => nameIs n "s"
  | r => !nameIs r.name "p"

/-- The property is one a client may send while `s` is the state in force. -/
def pstatPropertyAllowed (s : OcDostype) : OcRep → Bool
  | .object n entries => nameIs n "dos" && entries.all dosKeyAllowed
  | .bool _ _ => false
  | .int n _ => nameStarts n "tm" || nameStarts n "om"
  | .string n _ => s != .rfpro && s != .rfnop && nameIs n "rowneruuid"
  | r => nameIs r.name "rt" || nameIs r.name "if"

/-- Every property is allowed in the state that the `dos` objects before it have left in force. -/
def pstatAccepted (s : OcDostype) : List OcRep → Bool
  | [] => true
  | r :: l => pstatPropertyAllowed s r && pstatAccepted ((propertyStates r).getLastD s) l

/-! ## The decoder computes it -/

/-- What the decoder has made of the payload `rep`, starting from `d`. -/
structure Decoded (rep : List OcRep) (d d' : PstatDecoding) : Prop where
  s : d'.ps.s = (dosStates rep).getLastD d.ps.s
  tm : d'.ps.tm = ((tmValues rep).map (BitVec.ofInt 32)).getLastD d.ps.tm
  rowneruuid : d'.ps.rowneruuid = payloadOwner d.ps.rowneruuid rep
  isop : d'.ps.isop = d.ps.isop
  cm : d'.ps.cm = d.ps.cm
  transitionState : d'.transitionState = (d.transitionState || !(dosStates rep).isEmpty)

theorem getLastD_append {α : Type} (l m : List α) (a : α) : (l ++ m).getLastD a = m.getLastD (l.getLastD a) := by
  cases m with
  | nil => simp
  | cons b m => simp [List.getLastD_eq_getLast?, List.getLast?_append]

@[simp] theorem dosStates_append (l m : List OcRep) : dosStates (l ++ m) = dosStates l ++ dosStates m :=
  List.flatMap_append

@[simp] theorem tmValues_append (l m : List OcRep) : tmValues (l ++ m) = tmValues l ++ tmValues m :=
  List.filterMap_append

@[simp] theorem payloadOwner_append (uuid : OcUuid) (l m : List OcRep) :
    payloadOwner uuid (l ++ m) = payloadOwner (payloadOwner uuid l) m := by
  simp only [payloadOwner, List.filterMap_append, List.foldl_append]

theorem Decoded.refl (d : PstatDecoding) : Decoded [] d d :=
  ⟨rfl, rfl, rfl, rfl, rfl, by simp [dosStates]⟩

theorem Decoded.append {l m : List OcRep} {d d' d'' : PstatDecoding} (h₁ : Decoded l d d') (h₂ : Decoded m d' d'') :
    Decoded (l ++ m) d d'' := by
  constructor
  · rw [h₂.s, h₁.s, dosStates_append, getLastD_append]
  · rw [h₂.tm, h₁.tm, tmValues_append, List.map_append, getLastD_append]
  · rw [h₂.rowneruuid, h₁.rowneruuid, payloadOwner_append]
  · rw [h₂.isop, h₁.isop]
  · rw [h₂.cm, h₁.cm]
  · rw [h₂.transitionState, h₁.transitionState, dosStates_append, Bool.or_assoc]
    cases dosStates l <;> simp

theorem decodeDos_spec : ∀ (entries : List OcRep) (d : PstatDecoding),
    entries.foldlM (decodeDosKey false) d =
      if entries.all dosKeyAllowed then
        some ⟨{ d.ps with s := (entries.filterMap dosKeyState).getLastD d.ps.s },
          d.transitionState || !(entries.filterMap dosKeyState).isEmpty⟩
      else none
  | [], d => by simp [pure]
  | r :: l, d => by
    rw [List.foldlM_cons]
    cases r with
    | int n v =>
      by_cases hn : nameIs n "s" = true
      · rw [show decodeDosKey false d (.int n v) = some ⟨{ d.ps with s := OcDostype.ofInt v }, true⟩ by
          simp [decodeDosKey, hn]]
        have hstate : dosKeyState (.int n v) = some (OcDostype.ofInt v) := by simp [dosKeyState, hn]
        have hallow : dosKeyAllowed (.int n v) = true := hn
        simp only [Option.bind_eq_bind, Option.bind_some, decodeDos_spec l, List.filterMap_cons, hstate, List.all_cons,
          hallow, Bool.true_and, List.getLastD_cons, Bool.true_or, List.isEmpty_cons, Bool.not_false, Bool.or_true]
      · simp [decodeDosKey, dosKeyAllowed, hn]
    | _ n =>
      by_cases hp : nameIs n "p" = true
      · simp [decodeDosKey, dosKeyAllowed, OcRep.name, hp]
      · rw [Bool.not_eq_true] at hp
        simp only [decodeDosKey, OcRep.name, hp, Bool.not_false, Bool.and_false, Bool.false_eq_true, reduceIte,
          Option.bind_eq_bind, Option.bind_some, decodeDos_spec l, List.filterMap_cons, dosKeyState, List.all_cons,
          dosKeyAllowed, Bool.true_and]

theorem decodePstatProperty_spec (d : PstatDecoding) (r : OcRep) :
    if pstatPropertyAllowed d.ps.s r then ∃ d', decodePstatProperty false d r = some d' ∧ Decoded [r] d d'
    else decodePstatProperty false d r = none := by
  cases r with
  | object n entries =>
    by_cases hn : nameIs n "dos" = true
    · have hspec := decodeDos_spec entries d
      by_cases hall : entries.all dosKeyAllowed = true
      · rw [if_pos hall] at hspec
        simp only [pstatPropertyAllowed, hn, hall, Bool.and_self, reduceIte, decodePstatProperty]
        refine ⟨_, hspec, ?_⟩
        constructor <;> simp [dosStates, propertyStates, hn, tmValues, propertyTm, payloadOwner, propertyOwner, List.filterMap_cons]
      · rw [if_neg hall] at hspec
        simp [pstatPropertyAllowed, hn, hall, decodePstatProperty, hspec]
    · simp [pstatPropertyAllowed, hn, decodePstatProperty]
  | bool n v => simp [pstatPropertyAllowed, decodePstatProperty]
  | int n v =>
    by_cases ht : nameStarts n "tm" = true
    · simp only [pstatPropertyAllowed, decodePstatProperty, ht, Bool.true_or, Bool.false_and, Bool.false_eq_true, reduceIte]
      refine ⟨_, rfl, ?_⟩
      constructor <;> simp [dosStates, propertyStates, tmValues, propertyTm, ht, payloadOwner, propertyOwner, List.filterMap_cons]
    · by_cases ho : nameStarts n "om" = true
      · simp only [pstatPropertyAllowed, decodePstatProperty, ho, ht, Bool.or_true, Bool.false_and, Bool.false_eq_true,
          reduceIte]
        refine ⟨_, rfl, ?_⟩
        constructor <;> simp [dosStates, propertyStates, tmValues, propertyTm, ht, payloadOwner, propertyOwner, List.filterMap_cons]
      · simp [pstatPropertyAllowed, decodePstatProperty, ho, ht]
  | string n v =>
    by_cases hs : (d.ps.s != .rfpro && d.ps.s != .rfnop && nameIs n "rowneruuid") = true
    · have hn : nameIs n "rowneruuid" = true := ((Bool.and_eq_true _ _).mp hs).2
      simp only [pstatPropertyAllowed, decodePstatProperty, Bool.false_or, hs, reduceIte]
      refine ⟨_, rfl, ?_⟩
      constructor <;> simp [dosStates, propertyStates, tmValues, propertyTm, payloadOwner, propertyOwner, List.filterMap_cons, hn]
    · simp only [pstatPropertyAllowed, decodePstatProperty, Bool.false_or, hs, Bool.false_eq_true, reduceIte]
  | _ n =>
    by_cases hn : (nameIs n "rt" || nameIs n "if") = true
    · simp only [pstatPropertyAllowed, decodePstatProperty, OcRep.name, hn, reduceIte]
      refine ⟨_, rfl, ?_⟩
      constructor <;> simp [dosStates, propertyStates, tmValues, propertyTm, payloadOwner, propertyOwner, List.filterMap_cons]
    · simp only [pstatPropertyAllowed, decodePstatProperty, OcRep.name, hn, Bool.false_eq_true, reduceIte]

theorem decodePstat_spec : ∀ (rep : List OcRep) (d : PstatDecoding),
    if pstatAccepted d.ps.s rep then ∃ d', rep.foldlM (decodePstatProperty false) d = some d' ∧ Decoded rep d d'
    else rep.foldlM (decodePstatProperty false) d = none
  | [], d => ⟨d, rfl, .refl d⟩
  | r :: l, d => by
    have hr := decodePstatProperty_spec d r
    unfold pstatAccepted
    rw [List.foldlM_cons]
    by_cases hallow : pstatPropertyAllowed d.ps.s r = true
    · rw [if_pos hallow] at hr
      obtain ⟨d₁, hd₁, hdec⟩ := hr
      have hs : d₁.ps.s = (propertyStates r).getLastD d.ps.s := by
        simpa [dosStates] using hdec.s
      have hl := decodePstat_spec l d₁
      rw [hs] at hl
      simp only [hallow, Bool.true_and, hd₁, Option.bind_eq_bind, Option.bind_some]
      split
      · rename_i hacc
        rw [if_pos hacc] at hl
        obtain ⟨d', hd', hdec'⟩ := hl
        exact ⟨d', hd', hdec.append hdec'⟩
      · rename_i hacc
        rw [if_neg hacc] at hl
        exact hl
    · rw [if_neg hallow] at hr
      simp [hallow, hr]

end SmartGarage
