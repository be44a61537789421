/-
The requests to `/sw` that `post_sw` (`oc_swupdate.c`) accepts, compared with the ones that are valid. The conditions are
gathered in a flag while the payload is gone through, and put together behind the loop.
-/
import SmartGarage.Api.SwUpdateSchedule

namespace SmartGarage

/-! ## Requests of text strings -/

/-- A payload whose values are text strings. -/
abbrev TextPayload := List (Option OcString × OcString)

def TextPayload.rep (payload : TextPayload) : List OcRep := payload.map fun p => .string p.1 p.2

/-- The update with what is stored of it for each device. -/
structure SwStored where
  update : SwState
  stored : Nat → Option OcSwupdate

/-- `post_sw` with `oc_dump_sw` behind a request that is accepted. -/
def postSwDump (P : SwPlatform) (now : Nat) (rep : List OcRep) (device : Nat) (st : SwStored) : OcStatus × SwStored :=
  let (status, update) := postSw P now rep device st.update
  if status = .changed then (status, ⟨update, Function.update st.stored device (some (update.sw device))⟩)
  else (status, { st with update := update })

/-- `validate_purl` is implemented and accepts a text. -/
def SwPlatform.Accepts (P : SwPlatform) (purl : OcString) : Prop := ∃ validate ∈ P.validatePurl, 0 ≤ validate purl

/-- A time parses and is not in the past. -/
def SwPlatform.InTime (P : SwPlatform) (now : Nat) (v : OcString) : Prop := P.parseTime v ≠ 0 ∧ now ≤ P.parseTime v

/-- A property has the name and a short value that is as it should be. -/
def Has (payload : TextPayload) (name : String) (good : OcString → Prop) : Prop :=
  ∃ p ∈ payload, nameIs p.1 name = true ∧ p.2.length < 63 ∧ good p.2

/-- A request is valid: it has no property that is read-only, a purl that is accepted, an action that is known, and a time
that parses and is not in the past. -/
structure ValidRequest (P : SwPlatform) (now : Nat) (payload : TextPayload) : Prop where
  writable : ∀ p ∈ payload, readOnlySwProperty p.1 = false
  purl : Has payload "purl" P.Accepts
  action : Has payload "swupdateaction" fun v => strToAction v ≠ .unknown
  updatetime : Has payload "updatetime" (P.InTime now)

/-- The last value under a name. -/
def lastText (name : String) (payload : TextPayload) : Option OcString :=
  ((payload.filter fun p => nameIs p.1 name).getLast?).map Prod.snd

/-- The last action is one of the first three, the last purl is accepted, and all that is repeated is short, and in time
if it is a time. -/
structure LastDecides (P : SwPlatform) (now : Nat) (payload : TextPayload) : Prop where
  action : ∀ v ∈ lastText "swupdateaction" payload, strToAction v ≠ .upgrade ∧ strToAction v ≠ .unknown
  purl : ∀ v ∈ lastText "purl" payload, P.Accepts v
  short : ∀ p ∈ payload, nameIs p.1 "purl" = true ∨ nameIs p.1 "swupdateaction" = true ∨ nameIs p.1 "updatetime" = true →
    p.2.length < 63
  inTime : ∀ p ∈ payload, nameIs p.1 "updatetime" = true → P.InTime now p.2

/-! ## The loop -/

/-- A property sets the flag. -/
def badSwProperty (P : SwPlatform) (now : Nat) (p : Option OcString × OcString) : Bool :=
  readOnlySwProperty p.1 || (nameIs p.1 "purl" && 63 ≤ p.2.length) || (nameIs p.1 "swupdateaction" && 63 ≤ p.2.length) ||
    (nameIs p.1 "updatetime" && (63 ≤ p.2.length || P.parseTime p.2 = 0 || P.parseTime p.2 < now))

section Loop

variable {P : SwPlatform} {now : Nat} {payload : TextPayload}

theorem lastText_cons (name : String) (p : Option OcString × OcString) (payload : TextPayload) :
    lastText name (p :: payload) = (lastText name payload).or (if nameIs p.1 name then some p.2 else none) := by
  unfold lastText
  by_cases h : nameIs p.1 name = true
  · rw [List.filter_cons_of_pos (by simpa using h), List.getLast?_cons, if_pos h]
    cases (payload.filter fun p => nameIs p.1 name).getLast? <;> rfl
  · rw [List.filter_cons_of_neg (by simpa using h), if_neg h, Option.or_none]

theorem nameIs_eq {n : Option OcString} {s : String} (h : nameIs n s = true) : n = some (ascii s) := of_decide_eq_true h

theorem checkSwProperty_string (c : SwCheck) (n : Option OcString) (v : OcString) :
    checkSwProperty P now c (.string n v) =
      { errorState := c.errorState || badSwProperty P now (n, v)
        purl := (if nameIs n "purl" then some v else none).or c.purl
        action := ((if nameIs n "swupdateaction" then some v else none).map strToAction).getD c.action
        ut := (if nameIs n "updatetime" then some v else none).or c.ut } := by
  rw [checkSwProperty]
  by_cases hpurl : nameIs n "purl" = true
  · obtain rfl := nameIs_eq hpurl
    have hother : readOnlySwProperty (some (ascii "purl")) = false ∧
        nameIs (some (ascii "purl")) "swupdateaction" = false ∧ nameIs (some (ascii "purl")) "updatetime" = false := by
      decide
    simp [badSwProperty, hpurl, hother]
  by_cases haction : nameIs n "swupdateaction" = true
  · obtain rfl := nameIs_eq haction
    have hother : readOnlySwProperty (some (ascii "swupdateaction")) = false ∧
        nameIs (some (ascii "swupdateaction")) "updatetime" = false := by
      decide
    simp [badSwProperty, hpurl, haction, hother]
  by_cases htime : nameIs n "updatetime" = true
  · obtain rfl := nameIs_eq htime
    have hother : readOnlySwProperty (some (ascii "updatetime")) = false := by decide
    simp [badSwProperty, hpurl, haction, htime, hother, Bool.or_assoc]
  · cases hread : readOnlySwProperty n <;> simp [badSwProperty, hpurl, haction, htime, hread]

theorem foldl_checkSwProperty (payload : TextPayload) (c : SwCheck) :
    payload.rep.foldl (checkSwProperty P now) c =
      { errorState := c.errorState || payload.any (badSwProperty P now)
        purl := (lastText "purl" payload).or c.purl
        action := ((lastText "swupdateaction" payload).map strToAction).getD c.action
        ut := (lastText "updatetime" payload).or c.ut } := by
  induction payload generalizing c with
  | nil => simp [TextPayload.rep, lastText]
  | cons p payload ih =>
    have hcons : TextPayload.rep (p :: payload) = .string p.1 p.2 :: TextPayload.rep payload := rfl
    rw [hcons, List.foldl_cons, ih, checkSwProperty_string]
    simp only [lastText_cons, List.any_cons, Bool.or_assoc, Option.or_assoc, SwCheck.mk.injEq, true_and, and_true]
    cases lastText "swupdateaction" payload <;> rfl

theorem badSwProperty_eq_false {p : Option OcString × OcString} : badSwProperty P now p = false ↔
    readOnlySwProperty p.1 = false ∧
      (nameIs p.1 "purl" = true ∨ nameIs p.1 "swupdateaction" = true ∨ nameIs p.1 "updatetime" = true → p.2.length < 63) ∧
      (nameIs p.1 "updatetime" = true → P.InTime now p.2) := by
  unfold badSwProperty SwPlatform.InTime
  simp only [Bool.or_eq_false_iff, Bool.and_eq_false_iff, decide_eq_false_iff_not, Nat.not_le, Nat.not_lt]
  cases nameIs p.1 "purl" <;> cases nameIs p.1 "swupdateaction" <;> cases nameIs p.1 "updatetime" <;> simp <;> tauto

theorem lastText_mem {name : String} {v : OcString} (h : lastText name payload = some v) :
    ∃ p ∈ payload, nameIs p.1 name = true ∧ p.2 = v := by
  obtain ⟨p, hlast, rfl⟩ := Option.map_eq_some_iff.1 h
  obtain ⟨hmem, hname⟩ := List.mem_filter.1 (List.mem_of_getLast? hlast)
  exact ⟨p, hmem, hname, rfl⟩

theorem lastText_isSome {name : String} {p : Option OcString × OcString} (hmem : p ∈ payload)
    (hname : nameIs p.1 name = true) : ∃ v, lastText name payload = some v := by
  have hne : payload.filter (fun p => nameIs p.1 name) ≠ [] := List.ne_nil_of_mem (List.mem_filter.2 ⟨hmem, hname⟩)
  exact ⟨_, by rw [lastText, List.getLast?_eq_some_getLast hne]; rfl⟩

theorem error_eq_false (c : SwCheck) : c.error P = false ↔ c.errorState = false ∧
    (c.action ≠ .upgrade ∧ c.action ≠ .unknown) ∧ (∃ purl ∈ c.purl, P.Accepts purl) ∧ c.ut.isSome := by
  unfold SwCheck.error SwPlatform.Accepts
  cases c.purl with
  | none => simp
  | some purl =>
    cases P.validatePurl <;> cases c.ut <;> simp [Bool.or_eq_false_iff, and_assoc]

theorem postSw_accepts_iff (device : Nat) (st : SwState) : (postSw P now payload.rep device st).1 = .changed ↔
    (∀ p ∈ payload, readOnlySwProperty p.1 = false) ∧ LastDecides P now payload ∧
      ((lastText "swupdateaction" payload).isSome ∧ (lastText "purl" payload).isSome ∧
        (lastText "updatetime" payload).isSome) := by
  have hstatus : (postSw P now payload.rep device st).1 = .changed ↔
      (payload.rep.foldl (checkSwProperty P now) SwCheck.start).error P = false := by
    unfold postSw
    cases herror : (payload.rep.foldl (checkSwProperty P now) SwCheck.start).error P <;> simp [herror]
  rw [hstatus, foldl_checkSwProperty, error_eq_false]
  simp only [SwCheck.start, Bool.false_or, Option.or_none, List.any_eq_false, Bool.not_eq_true, badSwProperty_eq_false]
  constructor
  · rintro ⟨hall, haction, ⟨purl, hpurl, haccepts⟩, htime⟩
    have hpurl : lastText "purl" payload = some purl := hpurl
    refine ⟨fun p hp => (hall p hp).1, ⟨?_, ?_, fun p hp => (hall p hp).2.1, fun p hp => (hall p hp).2.2⟩, ?_,
      by rw [hpurl]; rfl, htime⟩
    · intro v hv
      have hv : lastText "swupdateaction" payload = some v := hv
      rwa [hv] at haction
    · intro v hv
      cases hpurl.symm.trans hv
      exact haccepts
    · cases hlast : lastText "swupdateaction" payload with
      | none =>
        rw [hlast] at haction
        exact absurd rfl haction.2
      | some v => rfl
  · rintro ⟨hwritable, hlast, haction, hpurl, htime⟩
    obtain ⟨action, haction⟩ := Option.isSome_iff_exists.1 haction
    obtain ⟨purl, hpurl⟩ := Option.isSome_iff_exists.1 hpurl
    refine ⟨fun p hp => ⟨hwritable p hp, hlast.short p hp, hlast.inTime p hp⟩, ?_, ⟨purl, hpurl, hlast.purl purl hpurl⟩,
      htime⟩
    rw [haction]
    exact hlast.action action haction

/-- What is accepted is valid. -/
theorem validRequest_of_lastDecides (hwritable : ∀ p ∈ payload, readOnlySwProperty p.1 = false)
    (h : LastDecides P now payload) (haction : (lastText "swupdateaction" payload).isSome)
    (hpurl : (lastText "purl" payload).isSome) (htime : (lastText "updatetime" payload).isSome) :
    ValidRequest P now payload := by
  obtain ⟨action, haction⟩ := Option.isSome_iff_exists.1 haction
  obtain ⟨purl, hpurl⟩ := Option.isSome_iff_exists.1 hpurl
  obtain ⟨time, htime⟩ := Option.isSome_iff_exists.1 htime
  obtain ⟨p, hp, hpname, rfl⟩ := lastText_mem hpurl
  obtain ⟨q, hq, hqname, rfl⟩ := lastText_mem haction
  obtain ⟨r, hr, hrname, rfl⟩ := lastText_mem htime
  exact ⟨hwritable, ⟨p, hp, hpname, h.short p hp (.inl hpname), h.purl _ hpurl⟩,
    ⟨q, hq, hqname, h.short q hq (.inr (.inl hqname)), (h.action _ haction).2⟩,
    ⟨r, hr, hrname, h.short r hr (.inr (.inr hrname)), h.inTime r hr hrname⟩⟩

theorem ValidRequest.isSome (h : ValidRequest P now payload) : (lastText "swupdateaction" payload).isSome ∧
    (lastText "purl" payload).isSome ∧ (lastText "updatetime" payload).isSome := by
  obtain ⟨p, hp, hpname, -⟩ := h.purl
  obtain ⟨q, hq, hqname, -⟩ := h.action
  obtain ⟨r, hr, hrname, -⟩ := h.updatetime
  exact ⟨Option.isSome_iff_exists.2 (lastText_isSome hq hqname), Option.isSome_iff_exists.2 (lastText_isSome hp hpname),
    Option.isSome_iff_exists.2 (lastText_isSome hr hrname)⟩

theorem postSw_or (P : SwPlatform) (now : Nat) (rep : List OcRep) (device : Nat) (st : SwState) :
    (postSw P now rep device st).1 = .changed ∨ postSw P now rep device st = (.notAcceptable, st) := by
  unfold postSw
  cases herror : (rep.foldl (checkSwProperty P now) SwCheck.start).error P <;> simp [herror]

/-- A request that is not accepted changes nothing. -/
theorem postSwDump_rejected {rep : List OcRep} {device : Nat} {st : SwStored}
    (h : (postSwDump P now rep device st).1 ≠ .changed) : postSwDump P now rep device st = (.notAcceptable, st) := by
  unfold postSwDump at h ⊢
  rcases postSw_or P now rep device st.update with hchanged | hrejected
  · simp only [hchanged, if_true, ne_eq, not_true] at h
  · simp only [hrejected, reduceCtorEq, if_false]

end Loop

/-! ## The property -/

/-- A request is answered with 2.04 if and only if it is valid, and with 4.06 and without any change otherwise, if and
only if, should it be valid, its last properties decide so. -/
theorem postSw_valid_iff (P : SwPlatform) (now : Nat) (payload : TextPayload) (device : Nat) (st : SwStored) :
    (((postSwDump P now payload.rep device st).1 = .changed ↔ ValidRequest P now payload) ∧
      ((postSwDump P now payload.rep device st).1 ≠ .changed →
        postSwDump P now payload.rep device st = (.notAcceptable, st))) ↔
      (ValidRequest P now payload → LastDecides P now payload) := by
  have hstatus : (postSwDump P now payload.rep device st).1 = (postSw P now payload.rep device st.update).1 := by
    unfold postSwDump
    simp only
    split <;> rfl
  rw [hstatus, postSw_accepts_iff]
  constructor
  · rintro ⟨hiff, -⟩ hvalid
    exact (hiff.2 hvalid).2.1
  · intro h
    refine ⟨⟨?_, fun hvalid => ⟨hvalid.writable, h hvalid, hvalid.isSome⟩⟩, fun hne => ?_⟩
    · rintro ⟨hwritable, hlast, haction, hpurl, htime⟩
      exact validRequest_of_lastDecides hwritable hlast haction hpurl htime
    · exact postSwDump_rejected (hstatus ▸ hne)

/-- An application that accepts every purl, and a clock for which every text is the time 100. -/
def permissivePlatform : SwPlatform := ⟨fun _ => 100, some fun _ => 0⟩

/-- The request for an upgrade. -/
def upgradeRequest : TextPayload := [(some (ascii "purl"), ascii "http://a"), (some (ascii "swupdateaction"), ascii "upgrade"),
  (some (ascii "updatetime"), ascii "2030-01-01T00:00:00Z")]

/-- It is valid, and refused. -/
theorem postSw_upgrade : ValidRequest permissivePlatform 0 upgradeRequest ∧
    (postSwDump permissivePlatform 0 upgradeRequest.rep 0 ⟨idleUpdate, fun _ => none⟩).1 = .notAcceptable := by
  refine ⟨⟨by decide, ⟨_, List.mem_cons_self, rfl, by decide, ⟨_, rfl, by decide⟩⟩, ?_, ?_⟩, by decide⟩
  · exact ⟨_, List.mem_cons_of_mem _ List.mem_cons_self, rfl, by decide, by decide⟩
  · exact ⟨_, List.mem_cons_of_mem _ (List.mem_cons_of_mem _ List.mem_cons_self), rfl, by decide, by decide, by decide⟩

end SmartGarage
