/-
Which entry of `timed_callbacks` a running callback removes. `poll_event_callback_timers` unlinks and frees the entry when
its callback has returned, so that the callback must not have done so itself.
-/
import SmartGarage.Cloud.Removals

namespace SmartGarage

/-! ## Entries -/

namespace Timers

/-- No two entries have one address, and the next address is none of theirs. -/
structure Distinct (timers : Timers) : Prop where
  nodup : (timers.entries.map TimedEntry.id).Nodup
  fresh : ∀ e ∈ timers.entries, e.id < timers.nextId

section Apply

variable {timers : Timers} {data : Nat} {e : TimedEntry}

theorem Distinct.apply (h : timers.Distinct) (op : TimerOp) : (timers.apply data op).Distinct := by
  cases op with
  | set callback delay =>
    constructor
    · refine List.map_append ▸ List.Nodup.append h.nodup (List.nodup_singleton _) fun id hmem hnew => ?_
      obtain ⟨e, he, rfl⟩ := List.mem_map.1 hmem
      exact absurd (List.mem_singleton.1 hnew) (h.fresh e he).ne
    · intro e he
      obtain he | he := List.mem_append.1 he
      · exact (h.fresh e he).trans (Nat.lt_succ_self _)
      · rw [List.mem_singleton.1 he]
        exact Nat.lt_succ_self _
  | remove callback =>
    have hsub : List.Sublist (timers.entries.eraseP fun e => e.isFor data callback) timers.entries :=
      List.eraseP_sublist
    exact ⟨h.nodup.sublist (hsub.map _), fun e he => h.fresh e (hsub.subset he)⟩

theorem Distinct.applyAll : ∀ {ops : List TimerOp} {timers : Timers}, timers.Distinct →
    (timers.applyAll data ops).Distinct
  | [], _, h => h
  | op :: _, _, h => by
    rw [applyAll_cons]
    exact (h.apply op).applyAll

theorem Distinct.drop (h : timers.Distinct) (id : Nat) : (timers.drop id).Distinct :=
  ⟨h.nodup.sublist (List.filter_sublist.map _), fun e he => h.fresh e (List.mem_filter.1 he).1⟩

theorem not_mem_applyAll : ∀ {ops : List TimerOp} {timers : Timers}, e ∉ timers.entries → e.id < timers.nextId →
    e ∉ (timers.applyAll data ops).entries
  | [], _, hnot, _ => hnot
  | .set callback delay :: _, timers, hnot, hid => by
    rw [applyAll_cons]
    refine not_mem_applyAll (fun he => ?_) (hid.trans (Nat.lt_succ_self _))
    obtain he | he := List.mem_append.1 he
    · exact hnot he
    · rw [List.mem_singleton.1 he] at hid
      exact absurd hid (Nat.lt_irrefl _)
  | .remove callback :: _, timers, hnot, hid => by
    rw [applyAll_cons]
    exact not_mem_applyAll (fun he => hnot (List.eraseP_subset he)) hid

/-- An entry stays just if its kind is removed at most as often as there are entries of its kind in front of it. -/
theorem mem_applyAll_iff : ∀ {ops : List TimerOp} {timers : Timers} {pre post : List TimedEntry},
    timers.entries = pre ++ e :: post → timers.Distinct →
    (e ∈ (timers.applyAll e.data ops).entries ↔
      ops.count (.remove e.callback) ≤ pre.countP fun e' => e'.isFor e.data e.callback)
  | [], timers, pre, post, h, _ => by
    have hmem : e ∈ timers.entries := h ▸ List.mem_append_right _ List.mem_cons_self
    exact iff_of_true hmem (Nat.zero_le _)
  | .set callback delay :: ops, timers, pre, post, h, hdistinct => by
    have hset : (timers.apply e.data (.set callback delay)).entries =
        pre ++ e :: (post ++ [⟨timers.nextId, e.data, callback, delay⟩]) := by
      rw [apply, h, List.append_assoc, List.cons_append]
    rw [applyAll_cons, List.count_cons_of_ne (by simp)]
    exact mem_applyAll_iff hset (hdistinct.apply _)
  | .remove callback :: ops, timers, pre, post, h, hdistinct => by
    have hremove : (timers.apply e.data (.remove callback)).entries =
        (pre ++ e :: post).eraseP fun e' => e'.isFor e.data callback := by rw [apply, h]
    rw [List.eraseP_append] at hremove
    rw [applyAll_cons]
    -- an entry in front is taken, and one removal less is left
    by_cases hahead : pre.any fun e' => e'.isFor e.data callback
    · rw [if_pos hahead] at hremove
      refine (mem_applyAll_iff hremove (hdistinct.apply _)).trans ?_
      obtain ⟨e', he', hfor⟩ := List.any_eq_true.1 hahead
      obtain ⟨e', l₁, l₂, -, hfor, hlist, herase⟩ := List.exists_of_eraseP he' hfor
      rw [herase, hlist, List.countP_append, List.countP_append, List.countP_cons]
      by_cases hkind : callback = e.callback
      · subst hkind
        rw [if_pos hfor, List.count_cons_self]
        omega
      · have hother : ¬ e'.isFor e.data e.callback = true := fun hboth =>
          hkind ((TimedEntry.isFor_iff.1 hfor).2.symm.trans (TimedEntry.isFor_iff.1 hboth).2)
        rw [if_neg hother, List.count_cons_of_ne (by simpa using hkind)]
        omega
    · rw [if_neg hahead] at hremove
      have hnone : ∀ e' ∈ pre, ¬ e'.isFor e.data callback = true := fun e' he' hfor =>
        hahead (List.any_eq_true.2 ⟨e', he', hfor⟩)
      by_cases hkind : callback = e.callback
      · -- nothing is queued in front: the entry itself goes, and its address is not used again
        subst hkind
        rw [List.eraseP_cons_of_pos (TimedEntry.isFor_iff.2 ⟨rfl, rfl⟩)] at hremove
        have hgone : e ∉ (timers.apply e.data (.remove e.callback)).entries := by
          have hnodup := (h ▸ hdistinct.nodup.of_map : (pre ++ e :: post).Nodup)
          rw [hremove]
          exact (List.nodup_middle.1 hnodup |> List.nodup_cons.1).1
        have hfresh : e.id < timers.nextId := hdistinct.fresh e (h ▸ List.mem_append_right _ List.mem_cons_self)
        rw [List.countP_eq_zero.2 hnone, List.count_cons_self]
        exact iff_of_false (not_mem_applyAll hgone hfresh) (Nat.not_succ_le_zero _)
      · rw [List.eraseP_cons_of_neg fun hfor => hkind (TimedEntry.isFor_iff.1 hfor).2.symm] at hremove
        rw [List.count_cons_of_ne (by simpa using hkind)]
        exact mem_applyAll_iff hremove (hdistinct.apply _)

variable (timers e) in
/-- How many entries for the callback and the context of an entry are in front of it. -/
def queuedAhead : Nat := (timers.entries.takeWhile fun e' => e'.id ≠ e.id).countP fun e' => e'.isFor e.data e.callback

theorem queuedAhead_eq {pre post : List TimedEntry} (h : timers.entries = pre ++ e :: post) (hdistinct : timers.Distinct) :
    timers.queuedAhead e = pre.countP fun e' => e'.isFor e.data e.callback := by
  have hahead : ∀ e' ∈ pre, decide (e'.id ≠ e.id) = true := fun e' he' => decide_eq_true fun hid => by
    have hnodup := hdistinct.nodup
    rw [h, List.map_append, List.map_cons] at hnodup
    exact (List.nodup_append.1 hnodup).2.2 _ (List.mem_map_of_mem he') _ List.mem_cons_self hid
  rw [queuedAhead, h, List.takeWhile_append_of_pos hahead, List.takeWhile_cons_of_neg (by simp), List.append_nil]

/-- What a function asks leaves an entry in the list just if it removes no more entries of its kind than are in front. -/
theorem mem_applyAll_iff_queuedAhead {ops : List TimerOp} (he : e ∈ timers.entries) (hdistinct : timers.Distinct) :
    e ∈ (timers.applyAll e.data ops).entries ↔ ops.count (.remove e.callback) ≤ timers.queuedAhead e := by
  obtain ⟨pre, post, h⟩ := List.append_of_mem he
  rw [queuedAhead_eq h hdistinct]
  exact mem_applyAll_iff h hdistinct

end Apply

end Timers

/-! ## Runs -/

namespace CloudSystem

variable (s : CloudSystem)

/-- The callback of a timer that expires leaves the entry in the list, which the loop then unlinks and frees. -/
def FreesOnce : CloudEvent → Prop
  | .expire id closing connects app =>
    ∀ e ∈ s.running id,
      e ∈ (s.timers.applyAll e.data
        (runCallback closing connects (appCallback app) e.callback (.enter (s.contexts e.data))).ops).entries
  | _ => True

/-- The callback of a timer that expires removes itself at most as often as it is queued in front of the entry. -/
def RemovalsCovered : CloudEvent → Prop
  | .expire id closing _ app =>
    ∀ e ∈ s.running id, ownRemovals closing (s.contexts e.data) app e.callback ≤ s.timers.queuedAhead e
  | _ => True

instance FreesOnce.decidable : ∀ event, Decidable (s.FreesOnce event)
  | .expire id closing connects app =>
    inferInstanceAs (Decidable (∀ e ∈ s.running id,
      e ∈ (s.timers.applyAll e.data
        (runCallback closing connects (appCallback app) e.callback (.enter (s.contexts e.data))).ops).entries))
  | .response .. | .api .. | .session .. | .interfaceUp .. | .dump .. | .reboot | .others .. => .isTrue trivial

instance RemovalsCovered.decidable : ∀ event, Decidable (s.RemovalsCovered event)
  | .expire id closing _ app =>
    inferInstanceAs (Decidable (∀ e ∈ s.running id,
      ownRemovals closing (s.contexts e.data) app e.callback ≤ s.timers.queuedAhead e))
  | .response .. | .api .. | .session .. | .interfaceUp .. | .dump .. | .reboot | .others .. => .isTrue trivial

variable {s}

theorem freesOnce_iff (hdistinct : s.timers.Distinct) (event : CloudEvent) : s.FreesOnce event ↔ s.RemovalsCovered event := by
  cases event with
  | expire id closing connects app =>
    refine forall₂_congr fun e he => ?_
    rw [Timers.mem_applyAll_iff_queuedAhead (List.mem_of_find?_eq_some he) hdistinct,
      ← runCallback_removals closing _ connects app]
    rfl
  | _ => exact Iff.rfl

theorem start_distinct (itemMax : Nat) : (start itemMax).timers.Distinct := ⟨List.nodup_nil, fun _ he => nomatch he⟩

theorem step_distinct (maxAppDataSize itemMax : Nat) (h : s.timers.Distinct) (event : CloudEvent) :
    (s.step maxAppDataSize itemMax event).timers.Distinct := by
  unfold step
  cases hrun : s.eventRun event with
  | some run =>
    cases hentry : event.entry with
    | none => exact h.applyAll
    | some id => exact h.applyAll.drop id
  | none =>
    cases event with
    | reboot => exact start_distinct itemMax
    | others timers =>
      dsimp only
      split
      · rename_i hothers
        exact ⟨hothers.2.1, hothers.2.2⟩
      · exact h
    | _ => exact h

end CloudSystem

section Runs

open CloudSystem

/-- In a run in which no callback removes itself more often than it is queued in front, every entry that is run is freed
once. In any state that such a run reaches, the next event frees its entry once just if it meets the condition too. -/
theorem poll_frees_once (maxAppDataSize itemMax : Nat) (events : List CloudEvent)
    (hcovered : Runs.Guarded (fun s event => s.step maxAppDataSize itemMax event) RemovalsCovered (start itemMax) events) :
    Runs.Guarded (fun s event => s.step maxAppDataSize itemMax event) FreesOnce (start itemMax) events ∧
      ∀ event : CloudEvent,
        let s := Runs.runFrom (fun s event => s.step maxAppDataSize itemMax event) (start itemMax) events
        s.FreesOnce event ↔ s.RemovalsCovered event := by
  have hstep : ∀ (s : CloudSystem) event, s.timers.Distinct → (s.step maxAppDataSize itemMax event).timers.Distinct :=
    fun s event h => step_distinct maxAppDataSize itemMax h event
  refine ⟨hcovered.imp hstep (fun s event h => (freesOnce_iff h event).2) (start_distinct itemMax), fun event => ?_⟩
  exact freesOnce_iff (Runs.run_always hstep events (start itemMax) (start_distinct itemMax)) event

/-- The device registers and logs in, and `callback_handler` tells the application twice. -/
theorem poll_frees_once_register :
    Runs.Guarded (fun s event => s.step 8192 256 event) FreesOnce (start 256) loggedIn ∧
      ∀ event : CloudEvent,
        let s := Runs.runFrom (fun s event => s.step 8192 256 event) (start 256) loggedIn
        s.FreesOnce event ↔ s.RemovalsCovered event :=
  poll_frees_once 8192 256 loggedIn (by decide)

/-- A registered device is refused the login, and four times its token is not refreshed. -/
def refreshRefused : List CloudEvent :=
  let refused := ⟨.status .notFound, []⟩
  registering ++ [.response 0 .register ⟨.status .changed, tokenTexts⟩ [] [], .expire 2 [] true [], .expire 3 [] true [],
    .response 0 .login ⟨.status .unauthorized, []⟩ [] [],
    .expire 5 [] true [], .response 0 .refresh refused [] [], .expire 8 [] true [], .response 0 .refresh refused [] [],
    .expire 11 [] true [], .response 0 .refresh refused [] [], .expire 14 [] true [], .response 0 .refresh refused [] []]

/-- The fifth attempt reaches the limit, and `reconnect` removes the entry that is running. -/
theorem refreshToken_removes_itself :
    let s := Runs.runFrom (fun s event => s.step 8192 256 event) (start 256) refreshRefused
    (s.running 17).map TimedEntry.callback = some .refreshToken ∧ ¬ s.FreesOnce (.expire 17 [] true []) := by
  decide

end Runs

end SmartGarage
