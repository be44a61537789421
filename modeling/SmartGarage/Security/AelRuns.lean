/-
The audit event log over every run: it holds the newest events that have been accepted, as many as are within `maxsize`,
and its counter is the sum of their sizes.
-/
import SmartGarage.Lib.Run
import SmartGarage.Security.Ael

namespace SmartGarage.Ael

open Runs BoundedLog

/-! ## Adding an event -/

section Add

variable {abi : Abi}

theorem Abi.sizes_lt (abi : Abi) {m n : Nat} (hm : m ≤ OC_SEC_AEL_MAX_SIZE) (hn : n ≤ OC_SEC_AEL_MAX_SIZE) :
    m + n < 2 ^ abi.sizeBits := by
  have hbits : 2 ^ 32 ≤ 2 ^ abi.sizeBits := Nat.pow_le_pow_right (by decide) abi.sizeBits_le
  unfold OC_SEC_AEL_MAX_SIZE at hm hn
  omega

theorem deleteOld_eq {maxsize : Nat} (hmax : maxsize ≤ OC_SEC_AEL_MAX_SIZE) {e : OcSecAelEvent} (he : e.size ≤ maxsize) :
    ∀ {events : List OcSecAelEvent}, total OcSecAelEvent.size events ≤ maxsize →
      deleteOld abi maxsize e.size events (total OcSecAelEvent.size events) =
        (evict OcSecAelEvent.size maxsize e events,
          total OcSecAelEvent.size (evict OcSecAelEvent.size maxsize e events))
  | [], _ => rfl
  | t :: rest, hfits => by
    have hsum := abi.sizes_lt (he.trans hmax) (hfits.trans hmax)
    have hsub : (total OcSecAelEvent.size (t :: rest) + (2 ^ abi.sizeBits - t.size)) % 2 ^ abi.sizeBits =
        total OcSecAelEvent.size rest := by
      rw [total_cons] at hsum ⊢
      rw [show t.size + total OcSecAelEvent.size rest + (2 ^ abi.sizeBits - t.size) =
        total OcSecAelEvent.size rest + 2 ^ abi.sizeBits by omega, Nat.add_mod_right, Nat.mod_eq_of_lt (by omega)]
    rw [deleteOld, evict, Nat.mod_eq_of_lt hsum, hsub]
    split
    · rw [total_cons] at hfits
      exact deleteOld_eq hmax he (by omega)
    · rfl

/-- The counter of a log is the sum of the sizes of its events, which are within `maxsize`. -/
structure OcSecAel.Counted (a : OcSecAel) : Prop where
  eventsSize : a.eventsSize = total OcSecAelEvent.size a.events
  fits : total OcSecAelEvent.size a.events ≤ a.maxsize
  maxsize : a.maxsize ≤ OC_SEC_AEL_MAX_SIZE

/-- The event that is made of the arguments. -/
def eventOf (abi : Abi) (args : AelArgs) : OcSecAelEvent := createEvent args (calcEventSize abi args)

/-- An event is accepted if it passes the filters and is within `maxsize` by itself. -/
def OcSecAel.Accepts (abi : Abi) (a : OcSecAel) (args : AelArgs) : Prop :=
  a.passes args.category args.priority = true ∧ calcEventSize abi args ≤ a.maxsize

instance (abi : Abi) (a : OcSecAel) (args : AelArgs) : Decidable (a.Accepts abi args) := inferInstanceAs (Decidable (_ ∧ _))

theorem addEvent_rejected {a : OcSecAel} {args : AelArgs} (h : ¬a.Accepts abi args) : addEvent abi a args = (false, a) := by
  unfold addEvent
  cases hpass : a.passes args.category args.priority with
  | false => rfl
  | true => exact if_pos (Nat.lt_of_not_le fun hle => h ⟨hpass, hle⟩)

/-- An accepted event is kept behind the events that there is still room for. -/
theorem addEvent_accepted {a : OcSecAel} (hcounted : a.Counted) {args : AelArgs} (h : a.Accepts abi args) :
    let events := evict OcSecAelEvent.size a.maxsize (eventOf abi args) a.events ++ [eventOf abi args]
    addEvent abi a args = (true, { a with events := events, eventsSize := total OcSecAelEvent.size events }) := by
  obtain ⟨hpass, hsize⟩ := h
  intro events
  have hkept : deleteOld abi a.maxsize (calcEventSize abi args) a.events a.eventsSize =
      (evict OcSecAelEvent.size a.maxsize (eventOf abi args) a.events,
        total OcSecAelEvent.size (evict OcSecAelEvent.size a.maxsize (eventOf abi args) a.events)) := by
    rw [hcounted.eventsSize]
    exact deleteOld_eq (e := eventOf abi args) hcounted.maxsize hsize hcounted.fits
  have hown : (eventOf abi args).size ≤ a.maxsize := hsize
  have hfits : (eventOf abi args).size + total OcSecAelEvent.size
      (evict OcSecAelEvent.size a.maxsize (eventOf abi args) a.events) ≤ a.maxsize := evict_fits hown a.events
  have hmod : (total OcSecAelEvent.size (evict OcSecAelEvent.size a.maxsize (eventOf abi args) a.events) +
      (eventOf abi args).size) % 2 ^ abi.sizeBits = total OcSecAelEvent.size events := by
    have hlt := abi.sizes_lt hcounted.maxsize (Nat.zero_le _)
    rw [Nat.mod_eq_of_lt (by omega), total_append, total_cons, total_nil]
    rfl
  unfold addEvent
  dsimp only
  rw [hpass, if_neg (by decide), if_neg (Nat.not_lt_of_le hsize), hkept, ← hmod]
  rfl

end Add

/-! ## Every run -/

/-- A call for the log of a device. -/
inductive AelCall
  | add (args : AelArgs)
  | post (s : OcDostype) (rep : List RepNode)
  | default

/-- The log, with the events that have been accepted since it was set to the defaults. -/
structure Log where
  ael : OcSecAel
  accepted : List OcSecAelEvent

namespace Log

variable (abi : Abi)

/-- The start. -/
def start : Log := ⟨.zero, []⟩

/-- One call: what is accepted is told by the log as the call finds it, not by what the call stores. -/
def step (log : Log) : AelCall → Log
  | .add args =>
    ⟨(addEvent abi log.ael args).2, if log.ael.Accepts abi args then log.accepted ++ [eventOf abi args] else log.accepted⟩
  | .post s rep => ⟨(postAel abi s log.ael rep).getD log.ael, log.accepted⟩
  | .default => ⟨ocSecAelDefault, []⟩

/-- The log keeps what it can of the accepted events. -/
structure Inv (log : Log) : Prop where
  retains : Retains OcSecAelEvent.size log.ael.maxsize log.accepted log.ael.events
  eventsSize : log.ael.eventsSize = total OcSecAelEvent.size log.ael.events
  maxsize : log.ael.maxsize ≤ OC_SEC_AEL_MAX_SIZE
  unit_eq : log.ael.unit = 0
  made : ∀ e ∈ log.accepted, ∃ args, e = eventOf abi args

end Log

section Step

variable {abi : Abi} {log : Log}

theorem Log.Inv.counted (h : log.Inv abi) : log.ael.Counted := ⟨h.eventsSize, h.retains.fits, h.maxsize⟩

theorem inv_start : Log.start.Inv abi := ⟨retains_nil, rfl, Nat.zero_le _, rfl, fun _ h => nomatch h⟩

theorem decodeFilter_request (abi : Abi) (a : OcSecAel) (node : RepNode) :
    ∃ categoryfilter priorityfilter, decodeFilter abi false a node =
      { a with categoryfilter := categoryfilter, priorityfilter := priorityfilter } := by
  unfold decodeFilter
  split
  · simp only [Bool.false_and, Bool.false_eq_true, if_false]
    split
    · exact ⟨_, _, rfl⟩
    · split
      · exact ⟨_, _, rfl⟩
      · exact ⟨_, _, rfl⟩
  · exact ⟨_, _, rfl⟩

theorem decodeFilters_request (abi : Abi) : ∀ (rep : List RepNode) (a : OcSecAel),
    ∃ categoryfilter priorityfilter, rep.foldl (decodeFilter abi false) a =
      { a with categoryfilter := categoryfilter, priorityfilter := priorityfilter }
  | [], _ => ⟨_, _, rfl⟩
  | node :: rest, a => by
    obtain ⟨c, p, hnode⟩ := decodeFilter_request abi a node
    obtain ⟨c', p', hrest⟩ := decodeFilters_request abi rest (decodeFilter abi false a node)
    rw [List.foldl_cons, hrest, hnode]
    exact ⟨c', p', rfl⟩

theorem decodeEvents_request (a : OcSecAel) : ∀ node : RepNode, decodeEvents abi false a node = some a
  | .leaf _ _ | .object _ _ | .array _ _ _ _ _ | .objectArray _ _ _ _ => rfl

theorem foldlM_request : ∀ (rep : List RepNode) (a : OcSecAel), rep.foldlM (decodeEvents abi false) a = some a
  | [], _ => rfl
  | node :: rest, a => by
    rw [List.foldlM_cons, decodeEvents_request]
    exact foldlM_request rest a

theorem postAel_eq (abi : Abi) (s : OcDostype) (a : OcSecAel) (rep : List RepNode) :
    ∃ categoryfilter priorityfilter, postAel abi s a rep =
      some { a with categoryfilter := categoryfilter, priorityfilter := priorityfilter } := by
  unfold postAel
  split
  · exact ⟨_, _, rfl⟩
  · obtain ⟨c, p, hfilters⟩ := decodeFilters_request abi rep a
    refine ⟨c, p, ?_⟩
    rw [ocSecAelDecode, foldlM_request, hfilters]

theorem Log.Inv.step (h : log.Inv abi) (call : AelCall) : (log.step abi call).Inv abi := by
  cases call with
  | add args =>
    by_cases haccepts : log.ael.Accepts abi args
    · have hpush := h.retains.push (a := eventOf abi args) haccepts.2
      simp only [Log.step, addEvent_accepted h.counted haccepts, if_pos haccepts]
      refine ⟨hpush, rfl, h.maxsize, h.unit_eq, fun e he => ?_⟩
      rcases List.mem_append.1 he with he | he
      · exact h.made e he
      · exact ⟨args, List.mem_singleton.1 he⟩
    · simp only [Log.step, addEvent_rejected haccepts, if_neg haccepts]
      exact h
  | post s rep =>
    obtain ⟨c, p, hpost⟩ := postAel_eq abi s log.ael rep
    simp only [Log.step, hpost, Option.getD_some]
    exact ⟨h.retains, h.eventsSize, h.maxsize, h.unit_eq, h.made⟩
  | default => exact ⟨retains_nil, rfl, Nat.le_refl _, rfl, fun _ h => nomatch h⟩

end Step

theorem log_inv (abi : Abi) (l : List AelCall) : (runFrom (Log.step abi) .start l).Inv abi := by
  have hstep : ∀ (log : Log) (call : AelCall), log.Inv abi → (log.step abi call).Inv abi := fun _ call h => h.step call
  exact run_always hstep l _ inv_start

end SmartGarage.Ael
