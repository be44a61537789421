/-
The event queue of `oc_process.c` in the build with dynamic allocation: a ring that doubles when it is full. Every run
of posts and deliveries delivers the events that have been posted, in order and each once.
-/
import SmartGarage.Lib.RingQueue
import SmartGarage.Lib.Run

namespace SmartGarage.Process

open Runs

/-! ## The queue -/

/-- `struct event_data`: the event number, the data, and the process it is for, `none` for all of them. -/
structure EventData where
  ev : UInt8
  data : Nat
  p : Option Nat
deriving DecidableEq

/-- A record that has been cleared. -/
def EventData.zero : EventData := ⟨0, 0, none⟩

/-- `events`, `OC_PROCESS_NUMEVENTS`, `nevents` and `fevent`. -/
structure EventQueue where
  events : List EventData
  numEvents : Nat
  nevents : Nat
  fevent : Nat

/-- `oc_process_init` -/
def ocProcessInit : EventQueue := ⟨List.replicate 10 .zero, 10, 0, 0⟩

/-- The loop that moves the events from `i` on to the cells from `limit + j` on, and clears the cells up to `limit`.
The first argument is the number of rounds that are left. -/
def relocate (nevents limit : Nat) : Nat → List EventData → (i j : Nat) → List EventData
  | 0, events, _, _ => events
  | rounds + 1, events, i, j =>
    if i < nevents then
      relocate nevents limit rounds ((events.set (limit + j) (events.getD i .zero)).set i .zero) (i + 1) (j + 1)
    else relocate nevents limit rounds (events.set i .zero) (i + 1) j

namespace EventQueue

variable (q : EventQueue)

/-- The queue is full: `events` is made twice as long. -/
def grow : EventQueue :=
  let numEvents := 2 * q.numEvents
  let events := q.events ++ List.replicate q.numEvents .zero
  let limit := numEvents - (q.nevents - q.fevent)
  { q with
    events := relocate q.nevents limit (limit - q.fevent) events q.fevent 0
    numEvents := numEvents
    fevent := limit }

/-- `oc_process_post` -/
def ocProcessPost (e : EventData) : EventQueue :=
  let q := if q.nevents = q.numEvents then q.grow else q
  { q with events := q.events.set ((q.fevent + q.nevents) % q.numEvents) e, nevents := q.nevents + 1 }

/-- What `do_event` takes from the queue, and what it leaves there. -/
def next : Option (EventData × EventQueue) :=
  if q.nevents > 0 then
    some (q.events.getD q.fevent .zero, { q with fevent := (q.fevent + 1) % q.numEvents, nevents := q.nevents - 1 })
  else none

end EventQueue

/-! ## Growth -/

section Relocate

variable {nevents limit : Nat}

theorem length_relocate : ∀ (rounds : Nat) (events : List EventData) (i j : Nat),
    (relocate nevents limit rounds events i j).length = events.length
  | 0, _, _, _ => rfl
  | rounds + 1, events, i, j => by
    unfold relocate
    split
    · rw [length_relocate rounds, List.length_set, List.length_set]
    · rw [length_relocate rounds, List.length_set]

/-- What the loop leaves: the cells in front of it and those that have been written stay, and the events from `i` on
stand behind those. -/
structure Relocated (nevents limit i j : Nat) (events events' : List EventData) : Prop where
  front : ∀ k < i, events'[k]? = events[k]?
  written : ∀ k, limit ≤ k → k < limit + j → events'[k]? = events[k]?
  moved : ∀ k < nevents - i, events'[limit + j + k]? = events[i + k]?

theorem relocate_spec (hsmall : nevents ≤ limit) : ∀ (rounds : Nat) (events : List EventData) (i j : Nat),
    i + rounds = limit → limit + j + (nevents - i) ≤ events.length →
      Relocated nevents limit i j events (relocate nevents limit rounds events i j)
  | 0, events, i, j, hrounds, _ => by
    refine ⟨fun _ _ => rfl, fun _ _ _ => rfl, fun k hk => ?_⟩
    omega
  | rounds + 1, events, i, j, hrounds, hfits => by
    unfold relocate
    split
    · rename_i hi
      have hrest := relocate_spec hsmall rounds ((events.set (limit + j) (events.getD i .zero)).set i .zero) (i + 1) (j + 1)
        (by omega) (by rw [List.length_set, List.length_set]; omega)
      refine ⟨fun k hk => ?_, fun k hlow hhigh => ?_, fun k hk => ?_⟩
      · rw [hrest.front k (by omega), List.getElem?_set_ne (by omega), List.getElem?_set_ne (by omega)]
      · rw [hrest.written k hlow (by omega), List.getElem?_set_ne (by omega), List.getElem?_set_ne (by omega)]
      · cases k with
        | zero =>
          -- the event that this round has moved
          show (relocate _ _ _ _ _ _)[limit + j]? = events[i]?
          rw [hrest.written (limit + j) (by omega) (by omega), List.getElem?_set_ne (by omega),
            List.getElem?_set_self (by omega), List.getD_eq_getElem?_getD,
            List.getElem?_eq_getElem (by omega : i < events.length)]
          rfl
        | succ k =>
          have hmoved := hrest.moved k (by omega)
          rw [List.getElem?_set_ne (by omega), List.getElem?_set_ne (by omega)] at hmoved
          rw [show limit + j + (k + 1) = limit + (j + 1) + k by omega, hmoved, show i + 1 + k = i + (k + 1) by omega]
    · rename_i hi
      have hrest := relocate_spec hsmall rounds (events.set i .zero) (i + 1) j (by omega)
        (by rw [List.length_set]; omega)
      refine ⟨fun k hk => ?_, fun k hlow hhigh => ?_, fun k hk => by omega⟩
      · rw [hrest.front k (by omega), List.getElem?_set_ne (by omega)]
      · rw [hrest.written k hlow hhigh, List.getElem?_set_ne (by omega)]

end Relocate

/-! ## The queue holds its events -/

/-- The queue holds events, in their order; there is always room for them. -/
structure EventQueue.Queues (q : EventQueue) (items : List EventData) : Prop where
  ring : RingQueue.Holds q.events q.fevent q.nevents items
  numEvents : q.numEvents = q.events.length
  fevent : q.fevent < q.numEvents

section Queues

variable {q : EventQueue} {items : List EventData}

theorem queues_init : ocProcessInit.Queues [] where
  ring := RingQueue.Holds.empty (by decide)
  numEvents := rfl
  fevent := by decide

theorem EventQueue.Queues.nevents_le (h : q.Queues items) : q.nevents ≤ q.numEvents := by
  rw [h.numEvents, h.ring.count]
  exact h.ring.fits

theorem EventQueue.Queues.grow (h : q.Queues items) (hfull : q.nevents = q.numEvents) :
    q.grow.Queues items ∧ q.grow.nevents < q.grow.numEvents := by
  have hnum := h.numEvents
  have hfevent := h.fevent
  have hpos := h.ring.pos
  have hdoubled : (q.events ++ List.replicate q.numEvents EventData.zero).length = 2 * q.numEvents := by
    rw [List.length_append, List.length_replicate, ← hnum, Nat.two_mul]
  have hlength : q.grow.events.length = 2 * q.numEvents := by
    show (relocate _ _ _ _ _ _).length = _
    rw [length_relocate, hdoubled]
  have hlimit : q.grow.fevent = 2 * q.numEvents - (q.nevents - q.fevent) := rfl
  have hmoved : Relocated q.nevents q.grow.fevent q.fevent 0 (q.events ++ List.replicate q.numEvents .zero) q.grow.events :=
    relocate_spec (by omega) _ _ _ _ (by omega) (by omega)
  refine ⟨⟨?_, hlength.symm, ?_⟩, ?_⟩
  · refine h.ring.grow (by omega) (by omega) (by omega) (by omega) (fun i hi => ?_) fun j hj => ?_
    · rw [hmoved.front i hi, List.getElem?_append_left (by omega)]
    · have hitem := hmoved.moved j (by omega)
      rw [Nat.add_zero, List.getElem?_append_left (by omega)] at hitem
      exact hitem
  · show q.grow.fevent < 2 * q.numEvents
    omega
  · show q.nevents < 2 * q.numEvents
    omega

theorem EventQueue.Queues.push (h : q.Queues items) (hroom : q.nevents < q.numEvents) (e : EventData) :
    EventQueue.Queues { q with events := q.events.set ((q.fevent + q.nevents) % q.numEvents) e, nevents := q.nevents + 1 }
      (items ++ [e]) where
  ring := by
    rw [h.numEvents] at hroom ⊢
    exact h.ring.push hroom e
  numEvents := by
    rw [List.length_set]
    exact h.numEvents
  fevent := h.fevent

theorem EventQueue.Queues.post (h : q.Queues items) (e : EventData) : (q.ocProcessPost e).Queues (items ++ [e]) := by
  unfold EventQueue.ocProcessPost
  dsimp only
  split
  · rename_i hfull
    obtain ⟨hgrown, hroom⟩ := h.grow hfull
    exact hgrown.push hroom e
  · rename_i hroom
    exact h.push (Nat.lt_of_le_of_ne h.nevents_le hroom) e

theorem EventQueue.Queues.next (h : q.Queues items) :
    (q.next = none ∧ items = []) ∨ ∃ e rest q', items = e :: rest ∧ q.next = some (e, q') ∧ q'.Queues rest := by
  have hcount := h.ring.count
  cases items with
  | nil => exact .inl ⟨if_neg (by rw [hcount]; exact Nat.lt_irrefl 0), rfl⟩
  | cons e rest =>
    obtain ⟨hhead, hrest⟩ := h.ring.pop
    rw [← h.numEvents] at hhead hrest
    rw [Nat.mod_eq_of_lt h.fevent] at hhead
    refine .inr ⟨e, rest, { q with fevent := (q.fevent + 1) % q.numEvents, nevents := q.nevents - 1 }, rfl, ?_, hrest,
      h.numEvents, Nat.mod_lt _ (Nat.zero_lt_of_lt h.fevent)⟩
    unfold EventQueue.next
    rw [if_pos (by rw [hcount]; exact Nat.zero_lt_succ _), List.getD_eq_getElem?_getD, hhead]
    rfl

end Queues

/-! ## Every run -/

/-- The queue, with the events that have been posted and those that have been delivered. -/
structure Traffic where
  queue : EventQueue
  posted : List EventData
  delivered : List EventData

/-- A call of `oc_process_post`, or of `do_event`; `handler` says what the processes post that are called with the
event. -/
inductive Call
  | post (e : EventData)
  | doEvent (handler : EventData → List EventData)

namespace Traffic

variable (t : Traffic)

def post (e : EventData) : Traffic := { t with queue := t.queue.ocProcessPost e, posted := t.posted ++ [e] }

/-- `do_event`: the event leaves the queue before the processes are called with it. -/
def doEvent (handler : EventData → List EventData) : Traffic :=
  match t.queue.next with
  | some (e, queue) => (handler e).foldl post { t with queue := queue, delivered := t.delivered ++ [e] }
  | none => t

def step : Call → Traffic
  | .post e => t.post e
  | .doEvent handler => t.doEvent handler

/-- The start. -/
def init : Traffic := ⟨ocProcessInit, [], []⟩

/-- The events that have been posted are those that have been delivered and, behind them, those in the queue. -/
def InOrder : Prop := ∃ waiting, t.queue.Queues waiting ∧ t.posted = t.delivered ++ waiting

end Traffic

theorem Traffic.InOrder.post {t : Traffic} (h : t.InOrder) (e : EventData) : (t.post e).InOrder := by
  obtain ⟨waiting, hqueues, hposted⟩ := h
  refine ⟨waiting ++ [e], hqueues.post e, ?_⟩
  show t.posted ++ [e] = t.delivered ++ (waiting ++ [e])
  rw [hposted, List.append_assoc]

theorem Traffic.InOrder.posts : ∀ (l : List EventData) {t : Traffic}, t.InOrder → (l.foldl Traffic.post t).InOrder
  | [], _, h => h
  | e :: l, _, h => Traffic.InOrder.posts l (h.post e)

theorem Traffic.InOrder.step {t : Traffic} (h : t.InOrder) (call : Call) : (t.step call).InOrder := by
  cases call with
  | post e => exact h.post e
  | doEvent handler =>
    obtain ⟨waiting, hqueues, hposted⟩ := h
    show (t.doEvent handler).InOrder
    unfold Traffic.doEvent
    rcases hqueues.next with ⟨hnone, -⟩ | ⟨e, rest, q', rfl, hnext, hrest⟩
    · rw [hnone]
      exact ⟨waiting, hqueues, hposted⟩
    · rw [hnext]
      refine Traffic.InOrder.posts (handler e) ⟨rest, hrest, ?_⟩
      show t.posted = t.delivered ++ [e] ++ rest
      rw [hposted, List.append_assoc]
      rfl

/-- A post delivers nothing. -/
theorem Traffic.posts_delivered : ∀ (l : List EventData) (t : Traffic), (l.foldl Traffic.post t).delivered = t.delivered
  | [], _ => rfl
  | e :: l, t => (Traffic.posts_delivered l (t.post e)).trans rfl

/-- `do_event` delivers the first event that waits, if there is one. -/
theorem Traffic.delivered_doEvent {t : Traffic} {waiting : List EventData} (h : t.queue.Queues waiting)
    (handler : EventData → List EventData) : (t.doEvent handler).delivered = t.delivered ++ waiting.take 1 := by
  unfold Traffic.doEvent
  rcases h.next with ⟨hnone, rfl⟩ | ⟨e, rest, q', rfl, hnext, -⟩
  · rw [hnone]
    exact (List.append_nil _).symm
  · rw [hnext]
    exact Traffic.posts_delivered (handler e) _

/-- In every run the events are delivered that have been posted, in order and each once: those that have not been
delivered are in the queue, which has room for them, and the next `do_event` delivers the first one of them. -/
theorem process_fifo (l : List Call) :
    let t := runFrom Traffic.step .init l
    (∃ waiting, t.queue.Queues waiting ∧ t.posted = t.delivered ++ waiting ∧
      ∀ handler, (t.doEvent handler).delivered = t.delivered ++ waiting.take 1) ∧
    t.queue.nevents ≤ t.queue.numEvents := by
  intro t
  have hinit : Traffic.init.InOrder := ⟨[], queues_init, rfl⟩
  have hstep : ∀ (t : Traffic) (call : Call), t.InOrder → (t.step call).InOrder := fun _ call h => h.step call
  obtain ⟨waiting, hqueues, hposted⟩ := run_always hstep l Traffic.init hinit
  exact ⟨⟨waiting, hqueues, hposted, Traffic.delivered_doEvent hqueues⟩, hqueues.nevents_le⟩

end SmartGarage.Process
