/-
The access rule of `oc_ri_invoke_coap_entity_handler`: which requests reach a handler, and what becomes of all
others, whatever the combination of the flags; and that the outcome the messaging layer is given is that of the call.
-/
import SmartGarage.Api.Invoke

namespace SmartGarage.Invoke

open Observe

/-! ## The rule -/

/-- A resource of a device, or the platform resource, which all devices share. -/
def OnDevice (ocfD device : Nat) (r : Resource) : Prop :=
  match r.coreIndex with
  | some i => i = 0 ∨ ocfD * device + 1 ≤ i ∧ i ≤ ocfD * device + ocfD
  | none => r.device = device

/-- The conditions under which a request may reach the handler of a resource. -/
structure Admitted (env : InvokeEnv) (st : InvokeState) (rq : Request) (cur : Resource) : Prop where
  parsed : isParsed st rq = true → env.parse st.payload = none
  found : resourceOf env st rq = some cur
  onDevice : OnDevice env.platform.ocfD rq.endpoint.device cur
  interface : selectedInterface rq cur &&& ~~~cur.interfaces = 0
  supports : doesInterfaceSupportMethod (selectedInterface rq cur) rq.method = true
  allowed : (ocSecCheckAcl env.platform st.sec rq.method cur.toOcResource rq.endpoint).1 = true

/-- The statuses of the requests that reach no handler. -/
def refusals : List OcStatus :=
  [.forbidden, .requestEntityTooLarge, .badRequest, .notFound, .methodNotAllowed, .unauthorized]

/-- The client is told one of those statuses; a group is not answered. -/
def Refused (rq : Request) (r : Invoked) : Prop :=
  r.separate = none ∧
    if rq.endpoint.flags.multicast = true then r.cleared = true
    else r.cleared = false ∧ r.response.code ∈ refusals.map ocStatusCode

theorem findResource_onDevice {ocfD : Nat} {table : List Resource} {path : OcString} {device : Nat} {r : Resource}
    (h : findResource ocfD table path device = some r) : OnDevice ocfD device r := by
  unfold OnDevice
  obtain ⟨-, ⟨i, hi, hindex⟩ | ⟨hother, hdevice⟩⟩ := findResource_cases h
  · rw [hindex]
    show coreIndexOf ocfD device i = 0 ∨ _
    unfold coreIndexOf
    split
    · exact .inl rfl
    · right
      omega
  · have hcore : r.coreIndex = none := by
      rcases hother with ⟨happ, -⟩ | ⟨hcore, -⟩
      · simp only [Resource.isApp, Bool.and_eq_true, Option.isNone_iff_eq_none] at happ
        exact happ.1
      · exact hcore
    rw [hcore]
    exact hdevice

/-! ## The stages -/

section Stages

variable {env : InvokeEnv} {st : InvokeState} {rq : Request} {found : Found}

/-- The flags of a failed search include the one for a bad request. -/
def Consistent (found : Found) : Prop :=
  (found.forbidden = true → found.badRequest = true) ∧ (found.entityTooLarge = true → found.badRequest = true)

theorem search_consistent (env : InvokeEnv) (st : InvokeState) (rq : Request) : Consistent (search env st rq) := by
  unfold search
  split
  · exact ⟨fun _ => rfl, fun _ => rfl⟩
  · split
    · exact ⟨id, fun h => absurd h Bool.false_ne_true⟩
    · exact ⟨id, id⟩

theorem search_found {cur : Resource} (hcur : (search env st rq).cur = some cur)
    (hgood : (search env st rq).badRequest = false) :
    parseError env st rq = none ∧ resourceOf env st rq = some cur ∧ isUnsupported rq cur = false := by
  unfold search at hcur hgood
  split at hcur
  · cases hcur
  · rename_i hparse
    rw [hparse] at hgood
    split at hcur
    · rename_i r hfound
      rw [hfound] at hgood
      cases hcur
      exact ⟨hparse, hfound, hgood⟩
    · cases hcur

theorem prepare_cur (env : InvokeEnv) (st : InvokeState) (rq : Request) (found : Found) :
    (prepare env st rq found).1.cur = found.cur ∧
      ((prepare env st rq found).1.badRequest = false → found.badRequest = false) := by
  unfold prepare
  split
  · split
    · exact ⟨rfl, id⟩
    · split
      · exact ⟨rfl, id⟩
      · exact ⟨rfl, fun h => absurd h.symm Bool.false_ne_true⟩
  · exact ⟨rfl, id⟩

/-- Either a flag tells why no handler is called, or the call of the handler has passed every test. -/
theorem dispatch_cases (env : InvokeEnv) (st : InvokeState) (rq : Request) (found : Found) :
    ((dispatch env st rq found).calls = [] ∧ (found.cur = none ∨ found.badRequest = true ∨
      (dispatch env st rq found).methodImpl = false ∨ (dispatch env st rq found).authorized = false)) ∨
    ∃ call : HandlerCall, (dispatch env st rq found).calls = [call] ∧ found.cur = some call.resource ∧
      found.badRequest = false ∧ call.method = rq.method ∧
      (ocSecCheckAcl env.platform st.sec rq.method call.resource.toOcResource rq.endpoint).1 = true := by
  unfold dispatch
  split
  · rename_i hnone
    exact .inl ⟨rfl, .inl hnone⟩
  · rename_i cur hcur
    split
    · rename_i hbad
      exact .inl ⟨rfl, .inr (.inl hbad)⟩
    · rename_i hgood
      dsimp only
      split
      · exact .inl ⟨rfl, .inr (.inr (.inr rfl))⟩
      · rename_i hallowed
        split
        · exact .inr ⟨_, rfl, hcur, by simpa using hgood, rfl, by simpa using hallowed⟩
        · exact .inl ⟨rfl, .inr (.inr (.inl rfl))⟩

theorem failure_of_no_call (hnone : (dispatch env st rq found).calls = []) :
    ∃ status ∈ refusals, failure found (dispatch env st rq found) = some status := by
  rcases dispatch_cases env st rq found with ⟨-, hreason⟩ | ⟨call, hcall, -⟩
  · unfold failure
    split
    · exact ⟨.forbidden, by decide, rfl⟩
    · split
      · exact ⟨.requestEntityTooLarge, by decide, rfl⟩
      · split
        · exact ⟨.badRequest, by decide, rfl⟩
        · rename_i hgood
          split
          · exact ⟨.notFound, by decide, rfl⟩
          · rename_i hcur
            split
            · exact ⟨.methodNotAllowed, by decide, rfl⟩
            · rename_i himpl
              refine ⟨.unauthorized, by decide, if_pos ?_⟩
              rcases hreason with h | h | h | h
              · exact absurd (by rw [h]; rfl) hcur
              · exact absurd h hgood
              · exact absurd h himpl
              · exact h
  · rw [hcall] at hnone
    cases hnone

end Stages

theorem refusal_isError {status : OcStatus} (h : status ∈ refusals) : (ResponseCode.status status).isError = true := by
  have hall : ∀ s ∈ refusals, (ResponseCode.status s).isError = true := by decide
  exact hall status h

/-! ## The rule holds -/

section Rule

variable (env : InvokeEnv) (st : InvokeState) (rq : Request)

/-- What is known before the handler, with the response buffer. -/
def prepared : Found := (prepare env st rq (search env st rq)).1

theorem conclude_calls (state : InvokeState) (cur : Option Resource) (calls : List HandlerCall) (success : Bool)
    (response : CoapPacket) (observe : UInt32) (code : ResponseCode) (answer : Answer) :
    (conclude env rq state cur calls success response observe code answer).calls = calls := by
  unfold conclude
  dsimp only
  split
  · rfl
  · split <;> rfl

theorem invoke_calls :
    (ocRiInvokeCoapEntityHandler env st rq).calls = (dispatch env st rq (prepared env st rq)).calls := by
  unfold ocRiInvokeCoapEntityHandler
  dsimp only
  split <;> exact conclude_calls env rq _ _ _ _ _ _ _ _

theorem conclude_refused {status : OcStatus} (h : status ∈ refusals) (state : InvokeState) (cur : Option Resource)
    (calls : List HandlerCall) (response : CoapPacket) :
    (conclude env rq state cur calls false response 2 (sentCode rq (.status status)) noAnswer).state.server = state.server ∧
      Refused rq (conclude env rq state cur calls false response 2 (sentCode rq (.status status)) noAnswer) := by
  unfold conclude Refused sentCode
  simp only [noAnswer, refusal_isError h, Bool.and_true, Bool.false_eq_true, if_false]
  by_cases hmulticast : rq.endpoint.flags.multicast = true
  · simp only [hmulticast, if_true, and_self]
  · simp only [hmulticast, if_false, reduceCtorEq, Bool.false_eq_true, true_and]
    exact List.mem_map_of_mem h

theorem admitted_of_call {call : HandlerCall} (h : call ∈ (ocRiInvokeCoapEntityHandler env st rq).calls) :
    call.method = rq.method ∧ Admitted env st rq call.resource := by
  rw [invoke_calls] at h
  rcases dispatch_cases env st rq (prepared env st rq) with ⟨hnone, -⟩ | ⟨call', hcall, hcur, hgood, hmethod, hallowed⟩
  · rw [hnone] at h
    cases h
  · rw [hcall, List.mem_singleton] at h
    obtain rfl := h
    obtain ⟨hcurSame, hgoodSame⟩ := prepare_cur env st rq (search env st rq)
    obtain ⟨hparse, hfound, hsupported⟩ := search_found (hcurSame.symm.trans hcur) (hgoodSame hgood)
    simp only [isUnsupported, Bool.or_eq_false_iff, bne_eq_false_iff_eq, Bool.not_eq_false'] at hsupported
    refine ⟨hmethod, fun hparsed => ?_, hfound, findResource_onDevice hfound, hsupported.1, hsupported.2, hallowed⟩
    rwa [parseError, if_pos hparsed] at hparse

theorem refused_of_no_call (h : (ocRiInvokeCoapEntityHandler env st rq).calls = []) :
    (ocRiInvokeCoapEntityHandler env st rq).state.server = st.server ∧
      Refused rq (ocRiInvokeCoapEntityHandler env st rq) := by
  rw [invoke_calls] at h
  obtain ⟨status, hstatus, hfailed⟩ := failure_of_no_call h
  unfold ocRiInvokeCoapEntityHandler
  dsimp only
  rw [← prepared, hfailed]
  exact conclude_refused env rq hstatus _ _ _ _

/-- A request that is admitted reaches the handler where the resource has one for its method and there is a response
buffer. -/
theorem call_of_admitted {cur : Resource} (h : Admitted env st rq cur)
    (hhandles : (isCollection cur || cur.handles rq.method) = true)
    (hbuffer : st.responseState.isSome = true ∨ env.responseAvailable = true ∧ coapGetHeaderUriPath rq.packet ≠ []) :
    (ocRiInvokeCoapEntityHandler env st rq).calls =
      [⟨cur, isCollection cur, rq.method, selectedInterface rq cur, rq.query, st.payload⟩] := by
  have hparse : parseError env st rq = none := by
    unfold parseError
    split
    · rename_i hparsed
      exact h.parsed hparsed
    · rfl
  have hsupported : isUnsupported rq cur = false := by
    simp [isUnsupported, h.interface, h.supports]
  have hsearch : search env st rq = ⟨some cur, selectedInterface rq cur, false, false, false⟩ := by
    unfold search
    simp only [hparse, h.found, hsupported]
  have hprepared : prepared env st rq = search env st rq := by
    unfold prepared prepare
    simp only [hsearch, Option.isSome_some, Bool.not_false, Bool.and_self, if_true]
    split
    · rfl
    · rename_i hnone
      have hmake : (env.responseAvailable && !(coapGetHeaderUriPath rq.packet).isEmpty) = true := by
        rw [hnone] at hbuffer
        obtain hbad | ⟨hmemory, hpath⟩ := hbuffer
        · cases hbad
        · simp [hmemory, hpath]
      rw [if_pos hmake]
  rw [invoke_calls, hprepared, hsearch]
  unfold dispatch
  simp [h.allowed, hhandles]

end Rule

/-- A request reaches one handler at most, and only one it is admitted to: its payload has parsed, the resource is
on the device of its endpoint, has the selected interface, which supports the method, and the access check allows
it. A request that reaches no handler adds no observer, and is refused with one of six codes or, if it was sent to
a group, ignored. -/
theorem handler_admitted (env : InvokeEnv) (st : InvokeState) (rq : Request) :
    (ocRiInvokeCoapEntityHandler env st rq).calls.length ≤ 1 ∧
    (∀ call ∈ (ocRiInvokeCoapEntityHandler env st rq).calls, call.method = rq.method ∧ Admitted env st rq call.resource) ∧
    ((∀ cur, ¬ Admitted env st rq cur) → (ocRiInvokeCoapEntityHandler env st rq).calls = []) ∧
    ((ocRiInvokeCoapEntityHandler env st rq).calls = [] →
      (ocRiInvokeCoapEntityHandler env st rq).state.server = st.server ∧
        Refused rq (ocRiInvokeCoapEntityHandler env st rq)) := by
  refine ⟨?_, fun call => admitted_of_call env st rq, fun hnone => ?_, refused_of_no_call env st rq⟩
  · rw [invoke_calls]
    rcases dispatch_cases env st rq (prepared env st rq) with ⟨hnone, -⟩ | ⟨call, hcall, -⟩
    · rw [hnone]
      exact Nat.zero_le 1
    · rw [hcall]
      exact Nat.le_refl 1
  · refine List.eq_nil_iff_forall_not_mem.2 fun call hcall => ?_
    exact hnone call.resource (admitted_of_call env st rq hcall).2

/-! ## What the messaging layer is told -/

/-- The messaging layer goes on as the call leaves the request. -/
structure Agrees (r : HandlerResult) (i : Invoked) : Prop where
  response : r.response = i.response
  success : r.success = i.success
  clear : r.clear = (i.cleared || i.separate.isSome)

/-- An answer as the outcome of the resource layer. -/
def Answer.outcome (answer : Answer) (reached success observe : Bool) (h : answer.payload.length < 2 ^ 16) :
    HandlerOutcome where
  reached := reached
  success := success
  status := match answer.code with
    | .status status => some status
    | _ => none
  ignore := answer.code = .ignore
  separate := answer.separate
  observe := observe
  contentFormat := answer.contentFormat
  payload := answer.payload
  payload_lt := h

/-- The response of a call with an answer, where a handler has answered. -/
def observed (rq : Request) (answer : Answer) (success observe : Bool) : CoapPacket :=
  if success && !answer.code.isError && observe then rq.response.setHeaderObserve 0 else rq.response

section Outcome

variable {env : InvokeEnv} {rq : Request}

theorem code_tooLarge {status : OcStatus} :
    ocStatusCode status = requestEntityTooLarge413 ↔ status = .requestEntityTooLarge := by
  cases status <;> decide

theorem handlerResponse_eq {E : EngineEnv} {code : ResponseCode} {format : UInt16} (hsettings : E.settings = env.settings)
    (hformat : E.outcome.contentFormat = format) (hcode : code ≠ .ignore) (response : CoapPacket) (payload : OcString) :
    handlerResponse E response code.code payload = fillResponse env response code format payload := by
  have hlarge : code.code = requestEntityTooLarge413 ↔ code = .status .requestEntityTooLarge := by
    cases code with
    | unset => decide
    | status status => rw [ResponseCode.code, code_tooLarge, ResponseCode.status.injEq]
    | ignore => exact absurd rfl hcode
  unfold handlerResponse fillResponse
  by_cases h : code = .status .requestEntityTooLarge
  · simp only [if_pos (hlarge.2 h), if_pos h, hsettings, hformat]
  · simp only [if_neg (mt hlarge.1 h), if_neg h, hformat]

theorem conclude_agrees {E : EngineEnv} {csm : CsmState} {e : Engine} {requestBuffer responseBuffer : Option Nat}
    {answer : Answer} {reached success observe : Bool} {hlt : answer.payload.length < 2 ^ 16}
    (houtcome : E.outcome = answer.outcome reached success observe hlt) (hsettings : E.settings = env.settings)
    {allocated : Bool} (hallocated : (handlerBuffer E (freeParsedRequest e rq.packet requestBuffer).2 rq.packet rq.endpoint
      responseBuffer).1 = allocated)
    (hsuccess : success = true → reached = true ∧ allocated = true)
    (hrefused : success = false → answer.payload = [] ∧ answer.separate = false)
    (hfailed : allocated = false → answer.code = .status .badRequest) (state : InvokeState) (cur : Option Resource)
    (calls : List HandlerCall) (value : UInt32) :
    Agrees (SmartGarage.ocRiInvokeCoapEntityHandler E csm e rq.packet rq.endpoint rq.response requestBuffer responseBuffer)
      (conclude env rq state cur calls success (observed rq answer success observe) value (sentCode rq answer.code)
        answer) := by
  -- each field that the messaging layer reads is what `conclude` takes from the answer
  have hdone : (E.outcome.success && E.outcome.reached && allocated) = success := by
    rw [houtcome]
    cases success with
    | false => rfl
    | true => simp [Answer.outcome, hsuccess rfl]
  have hcode : answer.code ≠ .ignore → (if allocated then E.outcome.code else badRequest400) = answer.code.code := by
    intro hanswer
    cases allocated with
    | false => rw [hfailed rfl]; rfl
    | true =>
      rw [houtcome]
      cases h : answer.code with
      | unset => simp [HandlerOutcome.code, Answer.outcome, h, ResponseCode.code]
      | status status => simp [HandlerOutcome.code, Answer.outcome, h, ResponseCode.code]
      | ignore => exact absurd h hanswer
  have herror : decide (badRequest400 ≤ (if allocated then E.outcome.code else badRequest400)) = answer.code.isError := by
    by_cases h : answer.code = .ignore
    · cases allocated with
      | false => rw [hfailed rfl] at h; cases h
      | true => rw [houtcome]; simp [HandlerOutcome.code, Answer.outcome, h]; decide
    · rw [hcode h]
      rfl
  have hignored : (E.outcome.ignore || (rq.endpoint.flags.multicast && answer.code.isError)) =
      decide (sentCode rq answer.code = .ignore) := by
    rw [houtcome]
    unfold sentCode
    cases hgroup : rq.endpoint.flags.multicast && answer.code.isError with
    | false => simp [Answer.outcome]
    | true => simp
  have hpayload : (if success then E.outcome.payload else []) = answer.payload := by
    cases success with
    | false => exact (hrefused rfl).1.symm
    | true => rw [houtcome]; rfl
  have hseparate : (E.outcome.separate && success) = answer.separate := by
    rw [houtcome]
    cases success with
    | false => simp [(hrefused rfl).2]
    | true => exact Bool.and_true _
  have hobserved : (if success = true ∧ (if allocated then E.outcome.code else badRequest400) < badRequest400 ∧
      E.outcome.observe = true then rq.response.setHeaderObserve 0 else rq.response) =
        observed rq answer success observe := by
    have hbelow : (if allocated then E.outcome.code else badRequest400) < badRequest400 ↔ answer.code.isError = false := by
      rw [← herror, decide_eq_false_iff_not, UInt8.not_le]
    have hoption : E.outcome.observe = observe := by rw [houtcome]; rfl
    simp [observed, hbelow, hoption, and_assoc]
  -- with the buffers out of the way the two bodies branch alike
  unfold SmartGarage.ocRiInvokeCoapEntityHandler
  generalize freeParsedRequest e rq.packet requestBuffer = parsed at *
  obtain ⟨requestBuffer', e'⟩ := parsed
  dsimp only at hallocated ⊢
  generalize handlerBuffer E e' rq.packet rq.endpoint responseBuffer = made at *
  obtain ⟨made, responseBuffer', e''⟩ := made
  dsimp only at hallocated ⊢
  rw [hallocated, hdone]
  simp only [ge_iff_le, herror, hignored, hpayload]
  unfold finishHandler conclude
  simp only [hobserved, hseparate]
  cases answer.separate with
  | true => exact ⟨rfl, rfl, rfl⟩
  | false =>
    by_cases hsent : sentCode rq answer.code = .ignore
    · simp only [hsent]
      exact ⟨rfl, rfl, rfl⟩
    · have hsame : sentCode rq answer.code = answer.code := by
        unfold sentCode at hsent ⊢
        split
        · rename_i hgroup
          exact absurd (if_pos hgroup) hsent
        · rfl
      have hanswer : answer.code ≠ .ignore := hsame ▸ hsent
      simp only [hsame, hanswer, hcode hanswer, Bool.false_eq_true, if_false, decide_false]
      exact ⟨handlerResponse_eq hsettings (by rw [houtcome]; rfl) hanswer _ _, rfl, rfl⟩

variable (env rq) in
theorem readObserve_observed (cur : Option Resource) (server : Server) (answer : Answer) :
    ∃ observe, (readObserve env rq cur server answer.code).2.1 = observed rq answer true observe := by
  unfold readObserve
  cases cur with
  | none => exact ⟨false, by simp [observed]⟩
  | some cur =>
    dsimp only
    split
    · exact ⟨false, by simp [observed]⟩
    · rename_i hread
      rw [Bool.or_eq_true, not_or, Bool.not_eq_true] at hread
      generalize observeRequest _ _ _ _ _ = registered
      exact ⟨registered.2, by simp [observed, hread.1]⟩

theorem prepared_eq (env : InvokeEnv) (st : InvokeState) (rq : Request) :
    prepared env st rq = search env st rq ∨ prepared env st rq = { search env st rq with badRequest := true } := by
  unfold prepared prepare
  split
  · split
    · exact .inl rfl
    · split
      · exact .inl rfl
      · exact .inr rfl
  · exact .inl rfl

end Outcome

/-- For every call of the resource layer there is an outcome with which the messaging layer goes on as that call says: the
response so far, whether a handler has answered, and whether the transaction is cleared. The messaging layer has to make
the response buffer where the resource layer does. -/
theorem invoke_outcome (env : InvokeEnv) (st : InvokeState) (rq : Request)
    (hanswer : ∀ call, (env.answer call).payload.length < 2 ^ 16) :
    ∃ outcome : HandlerOutcome, ∀ (E : EngineEnv) (csm : CsmState) (e : Engine) (requestBuffer responseBuffer : Option Nat),
      E.outcome = outcome → E.settings = env.settings →
      (handlerBuffer E (freeParsedRequest e rq.packet requestBuffer).2 rq.packet rq.endpoint responseBuffer).1 =
        ((prepared env st rq).badRequest == (search env st rq).badRequest) →
      Agrees (SmartGarage.ocRiInvokeCoapEntityHandler E csm e rq.packet rq.endpoint rq.response requestBuffer responseBuffer)
        (ocRiInvokeCoapEntityHandler env st rq) := by
  unfold ocRiInvokeCoapEntityHandler
  dsimp only
  rw [← prepared]
  cases hfail : failure (prepared env st rq) (dispatch env st rq (prepared env st rq)) with
  | some status =>
    refine ⟨{ noAnswer with code := .status status }.outcome
      ((search env st rq).cur.isSome && !(search env st rq).badRequest) false false (Nat.two_pow_pos 16), ?_⟩
    intro E csm e requestBuffer responseBuffer houtcome hsettings hallocated
    refine conclude_agrees houtcome hsettings hallocated nofun (fun _ => ⟨rfl, rfl⟩) (fun hdiffer => ?_) _ _ _ _
    obtain ⟨hforbidden, hlarge⟩ := search_consistent env st rq
    rcases prepared_eq env st rq with hsame | hbad
    · simp [hsame] at hdiffer
    · have hgood : (search env st rq).badRequest = false := by simpa [hbad] using hdiffer
      have hflags : (search env st rq).forbidden = false ∧ (search env st rq).entityTooLarge = false := by
        rw [hgood] at hforbidden hlarge
        exact ⟨by simpa using hforbidden, by simpa using hlarge⟩
      rw [hbad] at hfail
      simp [failure, hflags] at hfail
      exact congrArg ResponseCode.status hfail.symm
  | none =>
    generalize hanswered : answerOf env (dispatch env st rq (prepared env st rq)).calls = answer
    have hlt : answer.payload.length < 2 ^ 16 := by
      rw [← hanswered]
      unfold answerOf
      split
      · exact hanswer _
      · exact Nat.two_pow_pos 16
    obtain ⟨observe, hobserve⟩ := readObserve_observed env rq (prepared env st rq).cur st.server answer
    refine ⟨answer.outcome true true observe hlt, ?_⟩
    intro E csm e requestBuffer responseBuffer houtcome hsettings hallocated
    have hgood : (prepared env st rq).badRequest = false := by
      cases h : (prepared env st rq).badRequest with
      | false => rfl
      | true =>
        unfold failure at hfail
        rw [h] at hfail
        split at hfail
        · cases hfail
        · split at hfail <;> cases hfail
    rw [hgood, (prepare_cur env st rq (search env st rq)).2 hgood] at hallocated
    dsimp only
    rw [hobserve]
    exact conclude_agrees houtcome hsettings hallocated (fun _ => ⟨rfl, rfl⟩) nofun nofun _ _ _ _

end SmartGarage.Invoke
