/-
`oc_list.c` on the pointers in memory: over any sequence of calls that link an item only where it is in no list, the
pointers hold the lists as the other modules have them, and every call ends and returns what it returns of these.
-/
import SmartGarage.Lib.Run
import Mathlib.Data.List.Nodup
import Mathlib.Logic.Function.Basic

namespace SmartGarage.OcList

open Runs Function

/-- The pointers by their addresses; 0 is `NULL`. An `oc_list_t` is the address of a pointer, and so is an item, which
begins with the pointer to the next one. -/
abbrev Pointers := Nat → Nat

/-! ## The functions -/

section Functions

-- a loop goes round `fuel` times at most, and is `none` if it has not come to its end
variable (fuel : Nat) (m : Pointers)

/-- The loop of `oc_list_tail`. -/
def tailFrom : Nat → Nat → Option Nat
  | 0, _ => none
  | fuel + 1, l => if m l = 0 then some l else tailFrom fuel (m l)

/-- `oc_list_tail` -/
def ocListTail (list : Nat) : Option Nat := if m list = 0 then some 0 else tailFrom m fuel (m list)

/-- `oc_list_add` -/
def ocListAdd (list item : Nat) : Option Pointers :=
  let m := update m item 0
  (ocListTail fuel m list).map fun l => update m (if l = 0 then list else l) item

/-- The loop of `oc_list_remove`, where `l` is the address of a pointer. -/
def removeFrom (item : Nat) : Nat → Nat → Option Pointers
  | 0, _ => none
  | fuel + 1, l =>
    if m l = 0 then some m
    else if m l = item then some (update m l (m (m l)))
    else removeFrom item fuel (m l)

/-- `oc_list_remove` -/
def ocListRemove (list item : Nat) : Option Pointers := removeFrom m item fuel list

/-- `oc_list_pop` -/
def ocListPop (list : Nat) : Nat × Pointers :=
  (m list, if m list ≠ 0 then update m list (m (m list)) else m)

/-- The loop of `oc_list_length`. -/
def lengthFrom : Nat → Nat → Option Nat
  | 0, _ => none
  | fuel + 1, l => if m l = 0 then some 0 else (lengthFrom fuel (m l)).map (· + 1)

/-- `oc_list_length` -/
def ocListLength (list : Nat) : Option Nat := lengthFrom m fuel list

end Functions

/-- A call with the list at a fixed address. -/
inductive Call
  | add (item : Nat)
  | pop
  | remove (item : Nat)
  | tail
  | length

/-- The value of a call, 0 for one without a value, and the pointers behind it. -/
def Call.exec (fuel list : Nat) (m : Pointers) : Call → Option (Nat × Pointers)
  | .add item => (ocListAdd fuel m list item).map (0, ·)
  | .pop => some (ocListPop m list)
  | .remove item => (ocListRemove fuel m list item).map (0, ·)
  | .tail => (ocListTail fuel m list).map (·, m)
  | .length => (ocListLength fuel m list).map (·, m)

/-- The values of some calls, and the pointers behind them. -/
def execAll (fuel list : Nat) : Pointers → List Call → Option (List Nat × Pointers)
  | m, [] => some ([], m)
  | m, c :: calls => do
    let (value, m) ← c.exec fuel list m
    let (values, m) ← execAll fuel list m calls
    return (value :: values, m)

/-! ## What the calls are for -/

/-- What a call makes of the items of the list. -/
def Call.step (l : List Nat) : Call → List Nat
  | .add item => l ++ [item]
  | .pop => l.tail
  | .remove item => l.erase item
  | .tail | .length => l

/-- The value of a call, of the items of the list. -/
def Call.value (l : List Nat) : Call → Nat
  | .add _ | .remove _ => 0
  | .pop => l.headD 0
  | .tail => l.getLastD 0
  | .length => l.length

/-- The values of some calls. -/
def values (l : List Nat) : List Call → List Nat
  | [] => []
  | c :: calls => c.value l :: values (c.step l) calls

/-- The item that a call links. -/
def Call.item : Call → Option Nat
  | .add item => some item
  | .pop | .remove _ | .tail | .length => none

/-- The condition on a call: an item is at an address of its own, and one that is added is not in the list. -/
def Call.Links (list : Nat) (l : List Nat) : Call → Prop
  | .add item => item ≠ 0 ∧ item ≠ list ∧ item ∉ l
  | .pop | .remove _ | .tail | .length => True

/-! ## Chains of pointers -/

/-- From the address on the pointers lead through the items to `NULL`. -/
def Chain (m : Pointers) : Nat → List Nat → Prop
  | p, [] => m p = 0
  | p, x :: l => m p = x ∧ x ≠ 0 ∧ Chain m x l

section Chain

variable {m m' : Pointers} {item fuel : Nat}

theorem Chain.frame : ∀ {l : List Nat} {p : Nat}, Chain m p l → (∀ q ∈ p :: l, m' q = m q) → Chain m' p l
  | [], _, h, hsame => (hsame _ List.mem_cons_self).trans h
  | _ :: _, _, ⟨hp, hx, h⟩, hsame =>
    ⟨(hsame _ List.mem_cons_self).trans hp, hx, h.frame fun q hq => hsame q (List.mem_cons_of_mem _ hq)⟩

variable {l : List Nat}

theorem Chain.update_ne {p q x : Nat} (h : Chain m p l) (hq : q ∉ p :: l) : Chain (update m q x) p l :=
  h.frame fun _ hr => update_of_ne (ne_of_mem_of_not_mem hr hq) _ _

theorem Chain.ne_zero : ∀ {l : List Nat} {p : Nat}, Chain m p l → ∀ x ∈ l, x ≠ 0
  | [], _, _ => List.forall_mem_nil _
  | _ :: _, _, ⟨_, hx, h⟩ => List.forall_mem_cons.2 ⟨hx, h.ne_zero⟩

theorem Chain.skip {p x : Nat} (h : Chain m x l) (hp : p ∉ l) : Chain (update m p (m x)) p l := by
  cases l with
  | nil => exact (update_self p _ _).trans h
  | cons y l => exact ⟨(update_self p _ _).trans h.1, h.2.1, h.2.2.update_ne hp⟩

theorem tailFrom_spec : ∀ {l : List Nat} {p fuel : Nat}, Chain m p l → l.length < fuel →
    tailFrom m fuel p = some (l.getLastD p)
  | [], _, _ + 1, h, _ => if_pos h
  | x :: l, p, fuel + 1, ⟨hp, hx, h⟩, hfuel => by
    rw [tailFrom, hp, if_neg hx, tailFrom_spec h (Nat.lt_of_succ_lt_succ hfuel), List.getLastD_cons]

theorem ocListTail_spec {p : Nat} (h : Chain m p l) (hfuel : l.length < fuel) :
    ocListTail fuel m p = some (l.getLastD 0) ∧ (if l.getLastD 0 = 0 then p else l.getLastD 0) = l.getLastD p := by
  cases l with
  | nil => exact ⟨if_pos h, rfl⟩
  | cons x l =>
    obtain ⟨hp, hx, h⟩ := h
    rw [ocListTail, hp, if_neg hx, List.getLastD_cons, List.getLastD_cons]
    refine ⟨tailFrom_spec h (Nat.lt_of_succ_lt hfuel), if_neg ?_⟩
    rcases List.mem_cons.1 (List.getLastD_mem_cons (l := l) (a := x)) with heq | hmem
    · rwa [heq]
    · exact h.ne_zero _ hmem

theorem lengthFrom_spec : ∀ {l : List Nat} {p fuel : Nat}, Chain m p l → l.length < fuel →
    lengthFrom m fuel p = some l.length
  | [], _, _ + 1, h, _ => if_pos h
  | x :: l, p, fuel + 1, ⟨hp, hx, h⟩, hfuel => by
    rw [lengthFrom, hp, if_neg hx, lengthFrom_spec h (Nat.lt_of_succ_lt_succ hfuel)]
    rfl

/-- Only the pointers of the list are written to. -/
def Within (m m' : Pointers) (p : Nat) (l : List Nat) : Prop := ∀ q ∉ p :: l, m' q = m q

theorem within_update {p q x : Nat} (hq : q ∈ p :: l) : Within m (update m q x) p l :=
  fun _ hr => update_of_ne (ne_of_mem_of_not_mem hq hr).symm _ _

theorem Within.cons {p x : Nat} (h : Within m m' x l) : Within m m' p (x :: l) :=
  fun q hq => h q fun hmem => hq (List.mem_cons_of_mem _ hmem)

variable (item) in
theorem removeFrom_spec : ∀ {l : List Nat} {p fuel : Nat}, Chain m p l → (p :: l).Nodup → l.length < fuel →
    ∃ m', removeFrom m item fuel p = some m' ∧ Chain m' p (l.erase item) ∧ Within m m' p l
  | [], _, _ + 1, h, _, _ => ⟨m, if_pos h, h, fun _ _ => rfl⟩
  | x :: l, p, fuel + 1, ⟨hp, hx, h⟩, hnodup, hfuel => by
    obtain ⟨hpl, hnodup⟩ := List.nodup_cons.1 hnodup
    rw [removeFrom, hp, if_neg hx]
    by_cases heq : x = item
    · rw [if_pos heq, heq, List.erase_cons_head, ← heq]
      exact ⟨_, rfl, h.skip fun hmem => hpl (List.mem_cons_of_mem _ hmem), within_update List.mem_cons_self⟩
    · obtain ⟨m', hm', hchain, hwithin⟩ := removeFrom_spec h hnodup (Nat.lt_of_succ_lt_succ hfuel)
      rw [if_neg heq, List.erase_cons_tail (by simpa using heq)]
      exact ⟨m', hm', ⟨(hwithin p hpl).trans hp, hx, hchain⟩, hwithin.cons⟩

theorem ocListPop_spec {p : Nat} (h : Chain m p l) (hnodup : (p :: l).Nodup) :
    (ocListPop m p).1 = l.headD 0 ∧ Chain (ocListPop m p).2 p l.tail ∧ Within m (ocListPop m p).2 p l := by
  unfold ocListPop
  cases l with
  | nil =>
    have hnull : m p = 0 := h
    rw [if_neg (not_not.2 hnull)]
    exact ⟨hnull, h, fun _ _ => rfl⟩
  | cons x l =>
    obtain ⟨hp, hx, h⟩ := h
    rw [hp, if_pos hx]
    exact ⟨rfl, h.skip fun hmem => (List.nodup_cons.1 hnodup).1 (List.mem_cons_of_mem _ hmem),
      within_update List.mem_cons_self⟩

theorem Chain.snoc : ∀ {l : List Nat} {p : Nat}, Chain m p l → (p :: l).Nodup → item ∉ p :: l → item ≠ 0 → m item = 0 →
    Chain (update m (l.getLastD p) item) p (l ++ [item])
  | [], p, _, _, hitem, hne, hnull => by
    refine ⟨update_self p _ _, hne, ?_⟩
    exact (update_of_ne (List.ne_of_not_mem_cons hitem) _ _).trans hnull
  | x :: l, p, ⟨hp, hx, h⟩, hnodup, hitem, hne, hnull => by
    obtain ⟨hpl, hnodup⟩ := List.nodup_cons.1 hnodup
    rw [List.getLastD_cons]
    have hlast : p ≠ l.getLastD x := fun heq => hpl (heq ▸ List.getLastD_mem_cons)
    exact ⟨(update_of_ne hlast _ _).trans hp, hx,
      h.snoc hnodup (fun hmem => hitem (List.mem_cons_of_mem _ hmem)) hne hnull⟩

end Chain

/-! ## Runs -/

section Runs

variable {list fuel : Nat} {m : Pointers} {l : List Nat}

variable (fuel) in
/-- A call that meets the condition ends, has its value of the items, and leaves what it makes of them; it writes to the
pointers of the list and of the item it links. -/
theorem Call.exec_spec (h : Chain m list l) (hnodup : (list :: l).Nodup) (hfuel : l.length < fuel) {c : Call}
    (hc : c.Links list l) : ∃ m', c.exec fuel list m = some (c.value l, m') ∧ Chain m' list (c.step l) ∧
      (list :: c.step l).Nodup ∧ ∀ q ∉ list :: l, c.item ≠ some q → m' q = m q := by
  cases c with
  | add item =>
    obtain ⟨hne, hnelist, hitem⟩ := hc
    have hnew : item ∉ list :: l := List.not_mem_cons_of_ne_of_not_mem hnelist hitem
    have hchain := h.update_ne (x := 0) hnew
    obtain ⟨htail, hlast⟩ := ocListTail_spec hchain hfuel
    refine ⟨_, by rw [Call.exec, ocListAdd, htail, Option.map_some, Option.map_some, hlast]; rfl, ?_, ?_, ?_⟩
    · exact hchain.snoc hnodup hnew hne (update_self _ _ _)
    · show (list :: l ++ [item]).Nodup
      rw [← List.concat_eq_append]
      exact hnodup.concat hnew
    · intro q hq hqi
      rw [within_update List.getLastD_mem_cons q hq, update_of_ne fun heq => hqi (congrArg some heq.symm)]
  | pop =>
    obtain ⟨hvalue, hchain, hwithin⟩ := ocListPop_spec h hnodup
    exact ⟨_, congrArg some (Prod.ext hvalue rfl), hchain, hnodup.sublist ((List.tail_sublist l).cons_cons list),
      fun q hq _ => hwithin q hq⟩
  | remove item =>
    obtain ⟨m', hm', hchain, hwithin⟩ := removeFrom_spec item h hnodup hfuel
    exact ⟨m', by rw [Call.exec, ocListRemove, hm']; rfl, hchain, hnodup.sublist (List.erase_sublist.cons_cons list),
      fun q hq _ => hwithin q hq⟩
  | tail => exact ⟨m, by rw [Call.exec, (ocListTail_spec h hfuel).1]; rfl, h, hnodup, fun _ _ _ => rfl⟩
  | length => exact ⟨m, by rw [Call.exec, ocListLength, lengthFrom_spec h hfuel]; rfl, h, hnodup, fun _ _ _ => rfl⟩

theorem Call.mem_step (l : List Nat) (c : Call) :
    (c.step l).length ≤ l.length + 1 ∧ ∀ x ∈ c.step l, x ∈ l ∨ c.item = some x := by
  have hsub : ∀ {k : List Nat}, k.Sublist l → k.length ≤ l.length + 1 ∧ ∀ x ∈ k, x ∈ l ∨ c.item = some x := fun hk =>
    ⟨Nat.le_succ_of_le hk.length_le, fun _ hx => .inl (hk.subset hx)⟩
  cases c with
  | add item => exact ⟨by simp [Call.step], fun x hx => by simpa [Call.step, Call.item, eq_comm] using hx⟩
  | pop => exact hsub (List.tail_sublist l)
  | remove item => exact hsub List.erase_sublist
  | tail | length => exact hsub (List.Sublist.refl l)

/-- Every run of calls of which none adds an item that is in the list: each call ends, with the value it has of the
items, and the pointers hold the items behind it. Nothing else is written to. -/
theorem execAll_spec : ∀ {calls : List Call} {m : Pointers} {l : List Nat}, Chain m list l → (list :: l).Nodup →
    Guarded Call.step (Call.Links list) l calls → l.length + calls.length < fuel →
    ∃ m', execAll fuel list m calls = some (values l calls, m') ∧ Chain m' list (runFrom Call.step l calls) ∧
      ∀ q ∉ list :: l, (∀ c ∈ calls, c.item ≠ some q) → m' q = m q
  | [], m, _, h, _, _, _ => ⟨m, rfl, h, fun _ _ _ => rfl⟩
  | c :: calls, m, l, h, hnodup, ⟨hc, hcalls⟩, hfuel => by
    rw [List.length_cons] at hfuel
    obtain ⟨m', hm', hchain, hnodup', hsame⟩ := Call.exec_spec fuel h hnodup (by omega) hc
    obtain ⟨hlength, hstep⟩ := c.mem_step l
    obtain ⟨m'', hm'', hchain', hsame'⟩ := execAll_spec hchain hnodup' hcalls (by omega)
    refine ⟨m'', ?_, hchain', fun q hq hitems => ?_⟩
    · rw [execAll, hm']
      show (do let (values, m) ← execAll fuel list m' calls; return (c.value l :: values, m)) = _
      rw [hm'']
      rfl
    · obtain ⟨hitem, hitems⟩ := List.forall_mem_cons.1 hitems
      rw [hsame' q (fun hmem => ?_) hitems, hsame q hq hitem]
      rcases List.mem_cons.1 hmem with rfl | hmem
      · exact hq List.mem_cons_self
      · exact (hstep q hmem).elim (fun hmem => hq (List.mem_cons_of_mem _ hmem)) hitem

theorem execAll_two_items : ∃ m', execAll 5 1 (fun _ => 0) [.add 2, .add 3, .length, .pop] = some ([0, 0, 2, 2], m') ∧
    Chain m' 1 [3] ∧ ∀ q ∉ [1], (∀ c ∈ [Call.add 2, .add 3, .length, .pop], c.item ≠ some q) → m' q = 0 :=
  execAll_spec (show Chain (fun _ => 0) 1 [] from rfl) (by decide) (by simp [Guarded, Call.Links, Call.step]) (by decide)

theorem not_chain_of_loop {x : Nat} (hx : x ≠ 0) (hloop : m x = x) : ∀ l, ¬Chain m x l
  | [], h => hx (hloop.symm.trans h)
  | y :: l, ⟨hy, _, h⟩ => not_chain_of_loop hx hloop l (by rwa [← hloop.symm.trans hy] at h)

theorem not_chain_of_next {p x : Nat} (hp : m p = x) (hx : x ≠ 0) (hnot : ∀ l, ¬Chain m x l) : ∀ l, ¬Chain m p l
  | [], h => hx (hp.symm.trans h)
  | _ :: l, ⟨hy, _, h⟩ => hnot l (by rwa [← hp.symm.trans hy] at h)

/-- The pointers up to an item that is in the list, behind the assignments of `oc_list_add`: the item is the last one and
leads to itself. -/
theorem Chain.loop {item : Nat} : ∀ {s t : List Nat} {p : Nat}, Chain m p (s ++ item :: t) → (p :: (s ++ item :: t)).Nodup →
    Chain (update m item 0) p (s ++ [item]) ∧ ∀ l, ¬Chain (update (update m item 0) item item) p l
  | [], t, p, ⟨hp, hx, _⟩, hnodup => by
    have hne : p ≠ item := List.ne_of_not_mem_cons (List.nodup_cons.1 hnodup).1
    have hsame : update (update m item 0) item item p = item := by rw [update_of_ne hne, update_of_ne hne, hp]
    exact ⟨⟨(update_of_ne hne _ _).trans hp, hx, update_self _ _ _⟩,
      not_chain_of_next hsame hx (not_chain_of_loop hx (update_self _ _ _))⟩
  | x :: s, t, p, ⟨hp, hx, h⟩, hnodup => by
    obtain ⟨hpl, hnodup⟩ := List.nodup_cons.1 hnodup
    have hne : p ≠ item := fun heq => hpl (heq ▸ List.mem_cons_of_mem _ (List.mem_append_right _ List.mem_cons_self))
    have hsame : update (update m item 0) item item p = x := by rw [update_of_ne hne, update_of_ne hne, hp]
    obtain ⟨hchain, hloop⟩ := h.loop hnodup
    exact ⟨⟨(update_of_ne hne _ _).trans hp, hx, hchain⟩, not_chain_of_next hsame hx hloop⟩

/-- `oc_list_add` always ends, and the list behind it has an end if and only if the item has not been in it: one that
has been leads to itself. -/
theorem ocListAdd_ends_iff (h : Chain m list l) (hnodup : (list :: l).Nodup) {item : Nat} (hne : item ≠ 0)
    (hlist : item ≠ list) (hfuel : l.length < fuel) :
    ∃ m', ocListAdd fuel m list item = some m' ∧ ((∃ l', Chain m' list l') ↔ item ∉ l) ∧ (item ∈ l → m' item = item) := by
  by_cases hitem : item ∈ l
  · obtain ⟨s, t, rfl⟩ := List.append_of_mem hitem
    obtain ⟨hchain, hloop⟩ := h.loop hnodup
    obtain ⟨htail, hlast⟩ := ocListTail_spec hchain (Nat.lt_of_le_of_lt (by simp) hfuel)
    refine ⟨_, by rw [ocListAdd, htail, Option.map_some, hlast, List.getLastD_concat], ?_, fun _ => update_self _ _ _⟩
    exact iff_of_false (fun ⟨l', h⟩ => hloop l' h) (not_not.2 hitem)
  · obtain ⟨m', hm', hchain, -⟩ := Call.exec_spec fuel h hnodup hfuel (c := .add item) ⟨hne, hlist, hitem⟩
    obtain ⟨m'', hadd, heq⟩ := Option.map_eq_some_iff.1 hm'
    cases heq
    exact ⟨m', hadd, iff_of_true ⟨_, hchain⟩ hitem, fun h => absurd h hitem⟩

/-- The first one of two items is added again. -/
theorem ocListAdd_ends_second : ∃ m', ocListAdd 3 (update (update (fun _ => 0) 1 3) 3 2) 1 3 = some m' ∧
    ((∃ l', Chain m' 1 l') ↔ 3 ∉ [3, 2]) ∧ (3 ∈ [3, 2] → m' 3 = 3) :=
  ocListAdd_ends_iff (m := update (update (fun _ => 0) 1 3) 3 2) (l := [3, 2]) ⟨rfl, by decide, rfl, by decide, rfl⟩
    (by decide) (by decide) (by decide) (by decide)

end Runs

end SmartGarage.OcList
