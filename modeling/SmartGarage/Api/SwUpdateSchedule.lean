/-
The schedule of software updates. An accepted request to `/sw` sets the time and the action of the update and adds a
timer for it, whose callback performs the action that is set when it expires. The timers of former requests stay.
-/
import SmartGarage.Api.SwUpdate
import SmartGarage.Lib.Run

namespace SmartGarage

variable {rep : List OcRep}

open Runs

/-! ## A request to the resource -/

/-- What the resource takes from elsewhere: `oc_clock_parse_time_rfc3339`, and `validate_purl` of the application where
it is implemented. -/
structure SwPlatform where
  parseTime : OcString → Nat
  validatePurl : Option (OcString → Int)

/-- `str_to_action` -/
def strToAction (action : OcString) : OcSwupdateAction :=
  let action := cstr action
  if action = ascii "idle" then .idle
  else if action = ascii "isac" then .isac
  else if action = ascii "isvv" then .isvv
  else if action = ascii "upgrade" then .upgrade
  else .unknown

/-- `str_to_state` -/
def strToState (state : OcString) : OcSwupdateState :=
  let state := cstr state
  if state = ascii "idle" then .idle
  else if state = ascii "nsa" then .nsa
  else if state = ascii "svv" then .svv
  else if state = ascii "sva" then .sva
  else if state = ascii "upgrading" then .upgrading
  else .unknown

/-- One round of the loop of `oc_swupdate_decode`, for a property of the type under which it is stored and accepted. -/
def decodeSwProperty (P : SwPlatform) (s : OcSwupdate) : OcRep → OcSwupdate
  | .string n v =>
    if nameIs n "lastupdate" then { s with lastupdate := P.parseTime v }
    else if nameIs n "nv" then { s with nv := v }
    else if nameIs n "purl" then { s with purl := v }
    else if nameIs n "signed" then { s with signage := v }
    else if nameIs n "swupdateaction" then { s with swupdateaction := strToAction v }
    else if nameIs n "swupdatestate" then { s with swupdatestate := strToState v }
    else if nameIs n "updatetime" then { s with updatetime := P.parseTime v }
    else s
  | .int n v => if nameIs n "swupdateresult" then { s with swupdateresult := castInt v } else s
  | _ => s

/-- `oc_swupdate_decode` at the time `now`; the entry goes to the end of `timed_callbacks`. -/
def swupdateDecode (P : SwPlatform) (now : Nat) (rep : List OcRep) (device : Nat) (st : SwState) : SwState :=
  let st := st.modifySw device fun s => rep.foldl (decodeSwProperty P) s
  let s := st.sw device
  if s.updatetime ≠ 0 ∧ s.swupdateaction ≠ .idle then
    let diff := if s.updatetime > now then s.updatetime - now else 0
    { st with timedCallbacks := st.timedCallbacks ++ [⟨device, now + diff⟩] }
  else st

/-- The variables of the loop of `post_sw`. -/
structure SwCheck where
  errorState : Bool
  purl : Option OcString
  action : OcSwupdateAction
  ut : Option OcString

def SwCheck.start : SwCheck := ⟨false, none, .unknown, none⟩

/-- The properties a client may not set. -/
def readOnlySwProperty (n : Option OcString) : Bool :=
  nameIs n "lastupdate" || nameIs n "nv" || nameIs n "signed" || nameIs n "swupdateresult" || nameIs n "swupdatestate"

/-- One round of the loop of `post_sw`. Behind an error the other variables are not read. -/
def checkSwProperty (P : SwPlatform) (now : Nat) (c : SwCheck) : OcRep → SwCheck
  | .string n v =>
    if readOnlySwProperty n then { c with errorState := true }
    else if nameIs n "purl" then { c with errorState := c.errorState || 63 ≤ v.length, purl := some v }
    else if nameIs n "swupdateaction" then
      { c with errorState := c.errorState || 63 ≤ v.length, action := strToAction v }
    else if nameIs n "updatetime" then
      let mytime := P.parseTime v
      { c with errorState := c.errorState || 63 ≤ v.length || mytime = 0 || mytime < now, ut := some v }
    else c
  | r =>
    if readOnlySwProperty r.name || nameIs r.name "purl" || nameIs r.name "swupdateaction" || nameIs r.name "updatetime"
    then { c with errorState := true }
    else c

/-- `error_state` in the end of `post_sw`. -/
def SwCheck.error (P : SwPlatform) (c : SwCheck) : Bool :=
  c.errorState || c.action = .upgrade || c.action = .unknown || c.purl = none || c.ut = none ||
    c.purl.any fun purl => match P.validatePurl with
      | none => true
      | some validate => validate purl < 0

/-- The time and the action that an accepted request asks for. -/
structure PostedUpdate where
  updatetime : Nat
  action : OcSwupdateAction
deriving DecidableEq

/-- What `post_sw` asks for if it accepts the request. -/
def postedUpdate (P : SwPlatform) (now : Nat) (rep : List OcRep) : Option PostedUpdate :=
  let c := rep.foldl (checkSwProperty P now) SwCheck.start
  if c.error P then none else c.ut.map fun ut => ⟨P.parseTime ut, c.action⟩

/-- `post_sw` -/
def postSw (P : SwPlatform) (now : Nat) (rep : List OcRep) (device : Nat) (st : SwState) : OcStatus × SwState :=
  let c := rep.foldl (checkSwProperty P now) SwCheck.start
  if c.error P then (.notAcceptable, st) else (.changed, swupdateDecode P now rep device st)

/-! ## Runs -/

/-- A run of `schedule_update`: its device, the time its timer expired, the action it performed, and what the last
accepted request had asked for. -/
structure UpdateRun where
  device : Nat
  time : Nat
  action : OcSwupdateAction
  posted : Option PostedUpdate
deriving DecidableEq

/-- The update, what the last accepted request to each device asked for, and the runs of `schedule_update`. -/
structure SwRuns where
  update : SwState
  lastPost : Nat → Option PostedUpdate
  performed : List UpdateRun

/-- A request to the resource of `device` at the time `now`, or the expiry of a timer, with the notifications that the
callback of its action makes before it returns. -/
inductive SwEvent
  | post (now : Nat) (rep : List OcRep) (device : Nat)
  | expire (index : Nat) (inside : List SwNotify)

/-- `schedule_update` for an entry, which is removed behind it. -/
def SwRuns.scheduleUpdate (s : SwRuns) (index : Nat) (e : ScheduleEntry) (inside : List SwNotify) : SwRuns :=
  let action := (s.update.sw e.device).swupdateaction
  let st := performAction action e.device (runNotifications inside) s.update
  { s with
    update := { st with timedCallbacks := st.timedCallbacks.eraseIdx index }
    performed := s.performed ++ [⟨e.device, e.due, action, s.lastPost e.device⟩] }

def SwRuns.step (P : SwPlatform) (s : SwRuns) : SwEvent → SwRuns
  | .post now rep device => { s with
      update := (postSw P now rep device s.update).2
      lastPost := match postedUpdate P now rep with
        | some posted => Function.update s.lastPost device (some posted)
        | none => s.lastPost }
  | .expire index inside =>
    match s.update.timedCallbacks[index]? with
    | some e => s.scheduleUpdate index e inside
    | none => s

/-- The entries for a device. -/
def SwRuns.pending (s : SwRuns) (device : Nat) : List ScheduleEntry :=
  s.update.timedCallbacks.filter (·.device = device)

/-- Before the first request: no update is scheduled, whatever the fields of the resources are. -/
def SwRuns.start (st : SwState) : SwRuns := ⟨{ st with timedCallbacks := [] }, fun _ => none, []⟩

/-- A device has one entry at most, which is due at the time of the last accepted request and would perform its action,
and so did every run of `schedule_update`. -/
structure SwRuns.OnTime (s : SwRuns) (device : Nat) : Prop where
  one : (s.pending device).length ≤ 1
  due : ∀ e ∈ s.pending device, s.lastPost device = some ⟨e.due, (s.update.sw device).swupdateaction⟩
  performed : ∀ r ∈ s.performed, r.device = device → r.posted = some ⟨r.time, r.action⟩

/-- The action leads to a callback of the application. -/
def OcSwupdateAction.callsBack : OcSwupdateAction → Bool
  | .isac | .isvv | .upgrade => true
  | .idle | .unknown => false

/-- An accepted request finds no scheduled update of its device, or it is idle and repeats the time of the one it finds;
and no notification inside the update of another device changes the action of a device whose update is scheduled. -/
def KeepsSchedule (P : SwPlatform) (device : Nat) (s : SwRuns) : SwEvent → Prop
  | .post now rep d => d = device → ∀ posted ∈ postedUpdate P now rep,
      s.pending device = [] ∨ (posted.action = .idle ∧ ∀ e ∈ s.pending device, e.due = posted.updatetime)
  | .expire index inside => ∀ e ∈ s.update.timedCallbacks[index]?, e.device ≠ device →
      (s.update.sw e.device).swupdateaction.callsBack = true → s.pending device ≠ [] →
        ∀ action ∈ lastAction device (notesOf inside), action = (s.update.sw device).swupdateaction

/-! ## What an accepted request leaves -/

/-- The loops of `post_sw` and of `oc_swupdate_decode` have read the same time and the same action. -/
structure SwCheck.Read (P : SwPlatform) (now : Nat) (c : SwCheck) (s : OcSwupdate) : Prop where
  action : c.action = .unknown ∨ s.swupdateaction = c.action
  time : ∀ ut ∈ c.ut, s.updatetime = P.parseTime ut ∧ P.parseTime ut ≠ 0 ∧ now ≤ P.parseTime ut

section Read

variable {P : SwPlatform} {now : Nat} {c : SwCheck} {s : OcSwupdate}

theorem SwCheck.Read.round (r : OcRep) (h : c.Read P now s) (herror : (checkSwProperty P now c r).errorState = false) :
    (checkSwProperty P now c r).Read P now (decodeSwProperty P s r) := by
  cases r with
  | string n v =>
    by_cases hread : readOnlySwProperty n = true
    · rw [checkSwProperty, if_pos hread] at herror
      cases herror
    have hnames := hread
    simp only [readOnlySwProperty, Bool.or_eq_true, not_or, Bool.not_eq_true] at hnames
    obtain ⟨⟨⟨⟨hlast, hnv⟩, hsigned⟩, -⟩, hstate⟩ := hnames
    rw [checkSwProperty, if_neg hread] at herror ⊢
    simp only [decodeSwProperty, hlast, hnv, hsigned, hstate, Bool.false_eq_true, if_false]
    by_cases hpurl : nameIs n "purl" = true
    · simp only [hpurl, if_true]
      exact ⟨h.action, h.time⟩
    simp only [hpurl, Bool.false_eq_true, if_false] at herror ⊢
    by_cases haction : nameIs n "swupdateaction" = true
    · simp only [haction, if_true]
      exact ⟨.inr rfl, h.time⟩
    simp only [haction, Bool.false_eq_true, if_false] at herror ⊢
    by_cases htime : nameIs n "updatetime" = true
    · simp only [htime, if_true, Bool.or_eq_false_iff, decide_eq_false_iff_not, not_lt] at herror ⊢
      refine ⟨h.action, fun ut hut => ?_⟩
      cases hut
      exact ⟨rfl, herror.1.2, herror.2⟩
    · simp only [htime, Bool.false_eq_true, if_false]
      exact h
  | int n v =>
    by_cases hresult : nameIs n "swupdateresult" = true
    · simp [checkSwProperty, readOnlySwProperty, OcRep.name, hresult] at herror
    · simp only [checkSwProperty] at herror ⊢
      rw [decodeSwProperty, if_neg hresult]
      split at herror
      · cases herror
      · rename_i hallowed
        rw [if_neg hallowed]
        exact h
  | _ =>
    simp only [checkSwProperty, decodeSwProperty] at herror ⊢
    split at herror
    · cases herror
    · rename_i hallowed
      rw [if_neg hallowed]
      exact h

theorem errorState_round (r : OcRep) (herror : c.errorState = true) :
    (checkSwProperty P now c r).errorState = true := by
  cases r with
  | string n v =>
    simp only [checkSwProperty, herror, Bool.true_or]
    repeat' split
    all_goals first | rfl | exact herror
  | _ =>
    simp only [checkSwProperty]
    split
    · rfl
    · exact herror

theorem errorState_foldl : ∀ (rep : List OcRep) {c : SwCheck}, c.errorState = true →
    (rep.foldl (checkSwProperty P now) c).errorState = true
  | [], _, h => h
  | r :: rest, _, h => errorState_foldl rest (errorState_round r h)

theorem SwCheck.Read.all : ∀ (rep : List OcRep) {c : SwCheck} {s : OcSwupdate}, c.Read P now s →
    (rep.foldl (checkSwProperty P now) c).errorState = false →
      (rep.foldl (checkSwProperty P now) c).Read P now (rep.foldl (decodeSwProperty P) s)
  | [], _, _, h, _ => h
  | r :: rest, c, s, h, herror => by
    have hround : (checkSwProperty P now c r).errorState = false := by
      by_contra hne
      rw [Bool.not_eq_false] at hne
      rw [List.foldl_cons, errorState_foldl rest hne] at herror
      cases herror
    exact SwCheck.Read.all rest (h.round r hround) herror

theorem postSw_refused {device : Nat} {st : SwState} (h : postedUpdate P now rep = none) :
    (postSw P now rep device st).2 = st := by
  simp only [postedUpdate] at h
  simp only [postSw]
  split at h
  · rename_i herror
    rw [if_pos herror]
  · rename_i herror
    refine absurd ?_ herror
    rw [Option.map_eq_none_iff] at h
    simp [SwCheck.error, h]

/-- An accepted request sets the time and the action it asks for, and adds an entry unless the action is idle. -/
theorem postSw_accepted {posted : PostedUpdate} (device : Nat) (st : SwState)
    (h : postedUpdate P now rep = some posted) :
    ∃ s : OcSwupdate, s.swupdateaction = posted.action ∧
      (postSw P now rep device st).2 = { st.modifySw device fun _ => s with
        timedCallbacks := st.timedCallbacks ++
          if posted.action = .idle then [] else [⟨device, posted.updatetime⟩] } := by
  simp only [postedUpdate] at h
  simp only [postSw]
  generalize hc : rep.foldl (checkSwProperty P now) SwCheck.start = c at h ⊢
  split at h
  · cases h
  · rename_i herror
    obtain ⟨ut, hut, rfl⟩ := Option.map_eq_some_iff.1 h
    have hstart : SwCheck.start.Read P now (st.sw device) := ⟨.inl rfl, fun _ hu => nomatch hu⟩
    have hchecks := herror
    simp only [SwCheck.error, Bool.or_eq_true, not_or, Bool.not_eq_true, decide_eq_false_iff_not] at hchecks
    have hread := SwCheck.Read.all rep hstart (hc ▸ hchecks.1.1.1.1.1)
    rw [hc] at hread
    have haction := hread.action.resolve_left hchecks.1.1.1.2
    obtain ⟨htime, hne, hle⟩ := hread.time ut hut
    refine ⟨rep.foldl (decodeSwProperty P) (st.sw device), haction, ?_⟩
    rw [if_neg herror]
    simp only [swupdateDecode, modifySw_sw]
    have hdue : now + (if P.parseTime ut > now then P.parseTime ut - now else 0) = P.parseTime ut := by
      split <;> omega
    rw [htime, haction]
    by_cases hidle : c.action = .idle
    · rw [if_neg (fun hc => hc.2 hidle), if_pos hidle, List.append_nil]
      rfl
    · rw [if_pos ⟨hne, hidle⟩, if_neg hidle, hdue]
      rfl

end Read

/-! ## One step -/

section Step

variable {P : SwPlatform} {device : Nat} {s : SwRuns}

/-- A request to the resource of the device keeps the schedule if and only if it finds none, or repeats its time without
an action. -/
theorem onTime_post_iff {now : Nat} {posted : PostedUpdate} (h : s.OnTime device)
    (hposted : postedUpdate P now rep = some posted) :
    (s.step P (.post now rep device)).OnTime device ↔
      s.pending device = [] ∨ (posted.action = .idle ∧ ∀ e ∈ s.pending device, e.due = posted.updatetime) := by
  obtain ⟨t, haction, hst⟩ := postSw_accepted device s.update hposted
  have hpending : (s.step P (.post now rep device)).pending device =
      s.pending device ++ if posted.action = .idle then [] else [⟨device, posted.updatetime⟩] := by
    rw [SwRuns.pending, SwRuns.step, hst, List.filter_append, ← SwRuns.pending]
    congr 1
    split <;> simp
  have hlast : (s.step P (.post now rep device)).lastPost device = some posted := by
    simp [SwRuns.step, hposted]
  have hsw : ((s.step P (.post now rep device)).update.sw device).swupdateaction = posted.action := by
    rw [SwRuns.step, hst]
    exact (congrArg _ (modifySw_sw fun _ => t)).trans haction
  constructor
  · intro hpost
    by_cases hidle : posted.action = .idle
    · refine .inr ⟨hidle, fun e he => ?_⟩
      have hdue := hpost.due e (by rw [hpending]; exact List.mem_append_left _ he)
      rw [hlast, Option.some.injEq] at hdue
      rw [hdue]
    · have hone := hpost.one
      rw [hpending, if_neg hidle, List.length_append, List.length_singleton] at hone
      exact .inl (List.length_eq_zero_iff.1 (by omega))
  · intro hkeeps
    have hdue : ∀ e ∈ s.pending device ++ (if posted.action = .idle then [] else [⟨device, posted.updatetime⟩]),
        e.due = posted.updatetime := by
      intro e he
      rcases List.mem_append.1 he with he | he
      · rcases hkeeps with hnil | ⟨-, hall⟩
        · rw [hnil] at he
          cases he
        · exact hall e he
      · split at he
        · cases he
        · rw [List.mem_singleton.1 he]
    refine ⟨?_, fun e he => ?_, h.performed⟩
    · rw [hpending]
      rcases hkeeps with hnil | ⟨hidle, -⟩
      · rw [hnil]
        split <;> simp
      · rw [if_pos hidle, List.append_nil]
        exact h.one
    · rw [hpending] at he
      rw [hlast, hsw, hdue e he]

theorem SwRuns.OnTime.of_same {s' : SwRuns} (h : s.OnTime device) (hpending : s'.pending device = s.pending device)
    (hlast : s'.lastPost device = s.lastPost device)
    (haction : (s'.update.sw device).swupdateaction = (s.update.sw device).swupdateaction)
    (hperformed : s'.performed = s.performed) : s'.OnTime device := by
  refine ⟨?_, ?_, ?_⟩
  · rw [hpending]
    exact h.one
  · rw [hpending, hlast, haction]
    exact h.due
  · rw [hperformed]
    exact h.performed

theorem onTime_post_refused {now d : Nat} (h : s.OnTime device)
    (hposted : postedUpdate P now rep = none) : (s.step P (.post now rep d)).OnTime device := by
  have hstep : s.step P (.post now rep d) = s := by
    simp only [SwRuns.step, postSw_refused hposted, hposted]
  rw [hstep]
  exact h

theorem onTime_post_other {now d : Nat} (h : s.OnTime device) (hd : d ≠ device) :
    (s.step P (.post now rep d)).OnTime device := by
  cases hposted : postedUpdate P now rep with
  | none => exact onTime_post_refused h hposted
  | some posted =>
    obtain ⟨t, -, hst⟩ := postSw_accepted d s.update hposted
    refine h.of_same ?_ ?_ ?_ rfl
    · rw [SwRuns.pending, SwRuns.step, hst, List.filter_append, ← SwRuns.pending]
      split <;> simp [hd]
    · simp only [SwRuns.step, hposted]
      exact Function.update_of_ne (Ne.symm hd) ..
    · rw [SwRuns.step, hst]
      exact congrArg _ (modifySw_sw_ne (fun _ => t) (Ne.symm hd))

theorem performAction_action (action : OcSwupdateAction) (device d : Nat) (inside : List SwNotify) (st : SwState) :
    (performAction action d (runNotifications inside) st).timedCallbacks = st.timedCallbacks ∧
      ((performAction action d (runNotifications inside) st).sw device).swupdateaction =
        (if action.callsBack then lastAction device (notesOf inside) else none).getD
          (if device = d then action else (st.sw device).swupdateaction) := by
  have hset : ((st.modifySw d fun s => { s with swupdateaction := action }).sw device).swupdateaction =
      if device = d then action else (st.sw device).swupdateaction := by
    split
    · rename_i hd
      rw [← hd, modifySw_sw]
    · rename_i hd
      rw [modifySw_sw_ne _ hd]
  have hnoted := runNotifications_noted device inside (st.modifySw d fun s => { s with swupdateaction := action })
  rw [← hset]
  cases action with
  | idle | unknown => exact ⟨rfl, rfl⟩
  | isac | isvv | upgrade => exact ⟨hnoted.timedCallbacks, hnoted.action⟩

theorem filter_eraseIdx {α : Type} (p : α → Bool) {l : List α} {index : Nat} {e : α} (he : l[index]? = some e) :
    ∃ before after, l.filter p = before ++ (if p e then [e] else []) ++ after ∧
      (l.eraseIdx index).filter p = before ++ after := by
  obtain ⟨hlt, rfl⟩ := List.getElem?_eq_some_iff.1 he
  refine ⟨(l.take index).filter p, (l.drop (index + 1)).filter p, ?_, ?_⟩
  · conv_lhs => rw [← List.take_append_drop index l, List.drop_eq_getElem_cons hlt, List.filter_append, List.filter_cons]
    split <;> simp
  · rw [List.eraseIdx_eq_take_drop_succ, List.filter_append]

/-- The expiry of an entry of another device keeps the schedule of the device if and only if its action stays the same
while an update is scheduled. -/
theorem onTime_expire_other_iff {index : Nat} {e : ScheduleEntry} {inside : List SwNotify} (h : s.OnTime device)
    (he : s.update.timedCallbacks[index]? = some e) (hd : e.device ≠ device) :
    (s.scheduleUpdate index e inside).OnTime device ↔
      ((s.update.sw e.device).swupdateaction.callsBack = true → s.pending device ≠ [] →
        ∀ action ∈ lastAction device (notesOf inside), action = (s.update.sw device).swupdateaction) := by
  obtain ⟨htimers, haction⟩ := performAction_action (s.update.sw e.device).swupdateaction device e.device
    inside s.update
  rw [if_neg (Ne.symm hd)] at haction
  have hpending : (s.scheduleUpdate index e inside).pending device = s.pending device := by
    obtain ⟨before, after, hfilter, herase⟩ := filter_eraseIdx (fun e : ScheduleEntry => decide (e.device = device)) he
    rw [decide_eq_false hd, if_neg Bool.false_ne_true, List.append_nil] at hfilter
    rw [SwRuns.pending, SwRuns.scheduleUpdate]
    simp only [htimers]
    rw [herase, SwRuns.pending, hfilter]
  have hperformed : ∀ r ∈ (s.scheduleUpdate index e inside).performed, r.device = device →
      r.posted = some ⟨r.time, r.action⟩ := by
    intro r hr hrd
    rcases List.mem_append.1 hr with hr | hr
    · exact h.performed r hr hrd
    · rw [List.mem_singleton.1 hr] at hrd
      exact absurd hrd hd
  constructor
  · intro hpost hcalls hne action hlast
    obtain ⟨x, hx⟩ := List.exists_mem_of_ne_nil _ hne
    have hafter := hpost.due x (hpending ▸ hx)
    rw [show (s.scheduleUpdate index e inside).lastPost device = s.lastPost device from rfl, h.due x hx] at hafter
    simp only [Option.some.injEq, PostedUpdate.mk.injEq, true_and] at hafter
    rw [hafter]
    refine Eq.symm (haction.trans ?_)
    rw [if_pos hcalls, hlast]
    rfl
  · intro hkeeps
    refine ⟨hpending ▸ h.one, fun x hx => ?_, hperformed⟩
    rw [hpending] at hx
    have hsame : ((s.scheduleUpdate index e inside).update.sw device).swupdateaction =
        (s.update.sw device).swupdateaction := by
      refine haction.trans ?_
      split
      · rename_i hcalls
        cases hlast : lastAction device (notesOf inside) with
        | none => rfl
        | some action => exact hkeeps hcalls (List.ne_nil_of_mem hx) action hlast
      · rfl
    rw [hsame]
    exact h.due x hx

/-- The expiry of the entry of the device performs what the last accepted request asked for, at its time, and leaves
no other entry. -/
theorem onTime_expire_own {index : Nat} {e : ScheduleEntry} {inside : List SwNotify} (h : s.OnTime device)
    (he : s.update.timedCallbacks[index]? = some e) (hd : e.device = device) :
    (s.scheduleUpdate index e inside).OnTime device := by
  obtain ⟨htimers, -⟩ := performAction_action (s.update.sw e.device).swupdateaction device e.device
    inside s.update
  have hmem : e ∈ s.pending device :=
    List.mem_filter.2 ⟨List.mem_of_getElem? he, decide_eq_true hd⟩
  have hpending : (s.scheduleUpdate index e inside).pending device = [] := by
    obtain ⟨before, after, hfilter, herase⟩ := filter_eraseIdx (fun e : ScheduleEntry => decide (e.device = device)) he
    rw [decide_eq_true hd, if_pos rfl] at hfilter
    have hone := h.one
    rw [SwRuns.pending, hfilter, List.length_append, List.length_append, List.length_singleton] at hone
    rw [SwRuns.pending, SwRuns.scheduleUpdate]
    simp only [htimers]
    rw [herase, List.eq_nil_of_length_eq_zero (l := before) (by omega),
      List.eq_nil_of_length_eq_zero (l := after) (by omega)]
    rfl
  refine ⟨?_, ?_, ?_⟩
  · rw [hpending]
    exact Nat.zero_le 1
  · rw [hpending]
    exact fun _ hx => nomatch hx
  · intro r hr hrd
    rcases List.mem_append.1 hr with hr | hr
    · exact h.performed r hr hrd
    · rw [List.mem_singleton.1 hr]
      show s.lastPost e.device = _
      rw [hd]
      exact h.due e hmem

theorem onTime_step_iff (e : SwEvent) (h : s.OnTime device) :
    (s.step P e).OnTime device ↔ KeepsSchedule P device s e := by
  cases e with
  | post now rep d =>
    by_cases hd : d = device
    · subst hd
      cases hposted : postedUpdate P now rep with
      | none => exact iff_of_true (onTime_post_refused h hposted) fun _ _ hp => by rw [hposted] at hp; cases hp
      | some posted =>
        rw [onTime_post_iff h hposted]
        simp only [KeepsSchedule, hposted, Option.mem_some_iff, forall_eq', true_implies]
    · exact iff_of_true (onTime_post_other h hd) fun hd' => absurd hd' hd
  | expire index inside =>
    cases he : s.update.timedCallbacks[index]? with
    | none =>
      have hstep : s.step P (.expire index inside) = s := by simp only [SwRuns.step, he]
      rw [hstep]
      exact iff_of_true h fun _ hx => by rw [he] at hx; cases hx
    | some e =>
      have hstep : s.step P (.expire index inside) = s.scheduleUpdate index e inside := by simp only [SwRuns.step, he]
      rw [hstep, KeepsSchedule]
      simp only [he, Option.mem_some_iff, forall_eq']
      by_cases hd : e.device = device
      · exact iff_of_true (onTime_expire_own h he hd) fun hne => absurd hd hne
      · rw [onTime_expire_other_iff h he hd]
        exact ⟨fun hk _ => hk, fun hk => hk hd⟩

end Step

theorem onTime_start (st : SwState) (device : Nat) : (SwRuns.start st).OnTime device :=
  ⟨Nat.zero_le 1, (fun _ h => nomatch h), fun _ h _ => nomatch h⟩

/-- A device has one scheduled update at most, which runs at the time of the last accepted request and performs its
action, if and only if each accepted request finds no scheduled update of the device, or is idle and repeats the time
of the one it finds, and no other device's update changes the action while one is scheduled. -/
theorem swupdate_schedule_iff (P : SwPlatform) (st : SwState) (device : Nat) (events : List SwEvent) :
    (∀ run, run <+: events → (runFrom (SwRuns.step P) (.start st) run).OnTime device) ↔
      Guarded (SwRuns.step P) (KeepsSchedule P device) (.start st) events := by
  have hholds : ∀ s : SwRuns, s.OnTime device → s.OnTime device := fun _ h => h
  exact always_iff_guarded hholds (fun _ e h hguard => (onTime_step_iff e h).2 hguard)
    (fun _ e h hguard hpost => hguard ((onTime_step_iff e h).1 hpost)) (onTime_start st device)

/-- A clock in seconds that knows two days, and an application that takes any URL. -/
def twoDays : SwPlatform where
  parseTime text :=
    if text = ascii "2030-01-01T00:00:00Z" then 1893456000
    else if text = ascii "2030-01-02T00:00:00Z" then 1893542400
    else 0
  validatePurl := some fun _ => 0

/-- A request for an action at a time. -/
def updateRequest (action updatetime : String) : List OcRep :=
  [.string (some (ascii "purl")) (ascii "coaps://update"), .string (some (ascii "swupdateaction")) (ascii action),
    .string (some (ascii "updatetime")) (ascii updatetime)]

/-- An update that is put off by a day: both timers are there, and the first one runs on the day before. -/
theorem swupdate_schedule_early :
    let first : SwEvent := .post 0 (updateRequest "isac" "2030-01-01T00:00:00Z") 0
    let second : SwEvent := .post 0 (updateRequest "isac" "2030-01-02T00:00:00Z") 0
    ((runFrom (SwRuns.step twoDays) (.start idleUpdate) [first, second]).pending 0).length = 2 ∧
      (runFrom (SwRuns.step twoDays) (.start idleUpdate) [first, second, .expire 0 []]).performed =
        [⟨0, 1893456000, .isac, some ⟨1893542400, .isac⟩⟩] := by
  decide

end SmartGarage
