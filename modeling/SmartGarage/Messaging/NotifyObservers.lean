/-
The whole of `coap_notify_observers`: what it sends, or that the resource answers with a separate response, and the
loop over `observers_list`, in which an observer whose buffer is in use is looked at again and again.
-/
import SmartGarage.Api.Query
import SmartGarage.Messaging.Retransmissions
import SmartGarage.Messaging.SeparateAnswers

namespace SmartGarage.Notify

/-! ## The call -/

/-- An entry of `observers_list` in its turn. `entryAvailable` is for the memory of a `coap_separate_t`. -/
structure ListedObserver where
  turn : ObserverTurn
  resource : Nat
  ifaceMask : InterfaceMask
  entryAvailable : Bool

/-- How a GET handler answers: not at all, later, or with a status and a payload. -/
inductive GetAnswer
  | ignored
  | separate
  | answered (status : OcStatus) (payload : OcString)

/-- What `coap_notify_observers` is called with and meets: whether the device is in RFNOP, the resource, the endpoint
and the response if they are given, whether there is memory for a payload, what the handler of the resource answers,
and the collections that link the resource. -/
structure NotifyCall where
  rfnop : Bool
  resource : Resource
  endpoint : Option OcEndpoint
  given : Option (OcStatus × OcString)
  memory : Bool
  handler : GetAnswer
  collections : List (ObservedSend × List ObserverTurn)

/-- What has been done in the turn of an observer: what went out, and the transactions handed to
`coap_send_transaction`. -/
structure Round where
  observer : ListedObserver
  out : List Output
  handed : List Nat

/-- What a call leaves. -/
structure NotifyResult where
  sending : Sending
  separate : SeparateResponse
  rounds : List Round
  out : List Output

section Call

variable (call : NotifyCall)

/-- The response that is sent: the one that is given, or the one of the handler, which a collection may lack. -/
def NotifyCall.answer : GetAnswer :=
  match call.given with
  | some (status, payload) => .answered status payload
  | none => if call.resource.isCollection && !call.resource.handles .get then .ignored else call.handler

/-- `resource_is_collection`, which is looked at only when the handler is asked. -/
def NotifyCall.isCollection : Bool := call.given.isNone && call.resource.isCollection

/-- The observers that the loop does not skip. -/
def NotifyCall.isFor (o : ListedObserver) : Bool :=
  o.resource == call.resource.id && call.endpoint.all (ocEndpointCompare o.turn.endpoint) &&
    !(call.isCollection && o.ifaceMask != ifBaseline)

/-- The notification of an answer. -/
def NotifyCall.send (status : OcStatus) (payload : OcString) : ObservedSend where
  uri := call.resource.uri.drop 1
  code := ocStatusCode status
  payload := payload
  observed := call.resource.numObservers != 0

/-- The observer as the loop searches for its buffer: without a query. -/
def ListedObserver.plain (o : ListedObserver) : ObserverTurn := { o.turn with query := [] }

/-- The loop, for a number of rounds: behind a buffer that is in use it goes on with the same observer. -/
def notifyLoop (n : ObservedSend) : Nat → List ListedObserver → Sending → Option (Sending × List Round)
  | 0, _, _ => none
  | _ + 1, [], s => some (s, [])
  | fuel + 1, o :: rest, s =>
    if call.isFor o = false then notifyLoop n fuel rest s
    else
      match o.plain.notify n s with
      | .next s' out =>
        (notifyLoop n fuel rest s').map fun r => (r.1, ⟨o, out, s'.handed.drop s.handed.length⟩ :: r.2)
      | .leave s' => some (s', [])
      | .inUse => notifyLoop n fuel (o :: rest) s

/-- The request that stands for an observer of a resource that answers later. -/
def separateRequest (o : ListedObserver) : SeparateRequest where
  request :=
    ({ (if o.turn.endpoint.flags.tcp then coapTcpInitMessage coapGet else coapUdpInitMessage .non coapGet 0) with
      token := o.turn.token }).setHeaderUriPath call.resource.uri
  endpoint := o.turn.endpoint
  observe := 0
  block2Size := o.turn.block2Size
  entryAvailable := o.entryAvailable
  messageAvailable := o.turn.env.messageAvailable

/-- The loop where the resource answers later. -/
def separateLoop : List ListedObserver → SeparateResponse → SeparateResponse
  | [], r => r
  | o :: rest, r =>
    if call.isFor o then
      let a := coapSeparateAccept r (separateRequest call o)
      separateLoop rest (if a.accepted then { a.response with active := true } else a.response)
    else separateLoop rest r

/-- The part of `coap_notify_observers` for a resource with observers. -/
def notifyCounted (fuel : Nat) (observers : List ListedObserver) (s : Sending) (r : SeparateResponse) :
    Option (Sending × SeparateResponse × List Round) :=
  if call.memory = false then some (s, r, [])
  else
    match call.answer with
    | .ignored => some (s, r, [])
    | .separate => some (s, separateLoop call observers r, [])
    | .answered status payload =>
      (notifyLoop call (call.send status payload) fuel observers s).map fun x => (x.1, r, x.2)

/-- `coap_notify_observers` -/
def coapNotifyObservers (fuel : Nat) (observers : List ListedObserver) (s : Sending) (r : SeparateResponse) :
    Option NotifyResult :=
  if call.rfnop = false then some ⟨s, r, [], []⟩
  else
    (if call.resource.numObservers > 0 then notifyCounted call fuel observers s r else some (s, r, [])).map fun x =>
      let collections := notifyCollections call.collections x.1
      ⟨collections.1, x.2.1, x.2.2, x.2.2.flatMap (·.out) ++ collections.2⟩

end Call

/-! ## The loop -/

section Loop

variable {call : NotifyCall} {n : ObservedSend}

/-- The loop without a number of rounds: none where it does not end. -/
def notifyEach (call : NotifyCall) (n : ObservedSend) : List ListedObserver → Sending → Option (Sending × List Round)
  | [], s => some (s, [])
  | o :: rest, s =>
    if call.isFor o = false then notifyEach call n rest s
    else
      match o.plain.notify n s with
      | .next s' out =>
        (notifyEach call n rest s').map fun r => (r.1, ⟨o, out, s'.handed.drop s.handed.length⟩ :: r.2)
      | .leave s' => some (s', [])
      | .inUse => none

/-- At a buffer that is in use the loop comes back to where it was, whatever the number of rounds. -/
theorem notifyLoop_inUse {o : ListedObserver} {rest : List ListedObserver} {s : Sending} (hfor : call.isFor o = true)
    (hinUse : o.plain.notify n s = .inUse) : ∀ fuel, notifyLoop call n fuel (o :: rest) s = none
  | 0 => rfl
  | fuel + 1 => by
    rw [notifyLoop, if_neg (by simp [hfor])]
    simp only [hinUse]
    exact notifyLoop_inUse hfor hinUse fuel

/-- A number of rounds that is enough gives what the loop without one gives, and no number gives anything else. -/
theorem notifyLoop_iff : ∀ (observers : List ListedObserver) (s : Sending) (r : Sending × List Round),
    (∃ fuel, notifyLoop call n fuel observers s = some r) ↔ notifyEach call n observers s = some r
  | [], s, r => by
    rw [notifyEach]
    refine ⟨?_, fun h => ⟨1, h⟩⟩
    rintro ⟨_ | fuel, h⟩
    · cases h
    · exact h
  | o :: rest, s, r => by
    have hsucc : (∃ fuel, notifyLoop call n fuel (o :: rest) s = some r) ↔
        ∃ fuel, notifyLoop call n (fuel + 1) (o :: rest) s = some r := by
      refine ⟨?_, ?_⟩
      · rintro ⟨_ | fuel, h⟩
        · cases h
        · exact ⟨fuel, h⟩
      · rintro ⟨fuel, h⟩
        exact ⟨fuel + 1, h⟩
    by_cases hfor : call.isFor o = false
    · rw [hsucc, notifyEach, if_pos hfor, ← notifyLoop_iff rest s r]
      simp only [notifyLoop, if_pos hfor]
    · cases hround : o.plain.notify n s with
      | next s' out =>
        rw [hsucc, notifyEach, if_neg hfor]
        simp only [notifyLoop, if_neg hfor, hround, Option.map_eq_some_iff, ← notifyLoop_iff rest s']
        refine ⟨?_, ?_⟩
        · rintro ⟨fuel, x, hx, rfl⟩
          exact ⟨x, ⟨fuel, hx⟩, rfl⟩
        · rintro ⟨x, ⟨fuel, hx⟩, rfl⟩
          exact ⟨fuel, x, hx, rfl⟩
      | leave s' =>
        rw [hsucc, notifyEach, if_neg hfor]
        simp only [notifyLoop, if_neg hfor, hround, exists_const]
      | inUse =>
        rw [notifyEach, if_neg hfor]
        simp only [hround, notifyLoop_inUse (Bool.not_eq_false _ ▸ hfor) hround, reduceCtorEq, exists_const]

/-- What is sent is what the loop of the messaging layer sends to the observers that are meant. -/
theorem notifyEach_out : ∀ (observers : List ListedObserver) (s : Sending),
    (notifyEach call n observers s).map (fun r => (r.1, r.2.flatMap (·.out))) =
      notifyObservers n ((observers.filter call.isFor).map ListedObserver.plain) s
  | [], s => rfl
  | o :: rest, s => by
    rw [notifyEach]
    by_cases hfor : call.isFor o = false
    · rw [if_pos hfor, List.filter_cons_of_neg (by simp [hfor]), notifyEach_out rest s]
    · rw [if_neg hfor, List.filter_cons_of_pos (by simpa using hfor), List.map_cons, notifyObservers]
      cases hround : o.plain.notify n s with
      | next s' out =>
        dsimp only
        rw [← notifyEach_out rest s', Option.map_map, Option.map_map]
        rfl
      | leave s' => rfl
      | inUse => rfl

end Loop

/-! ## A response that is given -/

section Given

variable {call : NotifyCall} {status : OcStatus} {payload : OcString}

/-- What the call finds, as the end of a separate response has it. -/
def NotifyCall.input (call : NotifyCall) (observers : List ListedObserver) : NotifyInput where
  rfnop := call.rfnop
  uri := call.resource.uri.drop 1
  observed := call.resource.numObservers != 0
  observers := (observers.filter call.isFor).map ListedObserver.plain
  collections := call.collections

/-- For a response that is given the call is the one at the end of a separate response. -/
theorem coapNotifyObservers_given (hgiven : call.given = some (status, payload)) (hmemory : call.memory = true)
    (observers : List ListedObserver) (s : Sending) (r : SeparateResponse) (result : Sending × List Output) :
    (∃ fuel x, coapNotifyObservers call fuel observers s r = some x ∧ (x.sending, x.out) = result) ↔
      SmartGarage.coapNotifyObservers (call.input observers) (ocStatusCode status) payload s = some result := by
  unfold coapNotifyObservers SmartGarage.coapNotifyObservers NotifyCall.input
  dsimp only
  by_cases hrfnop : call.rfnop = false
  · simp only [if_pos hrfnop]
    simp
  · simp only [if_neg hrfnop]
    by_cases hobserved : call.resource.numObservers = 0
    · simp [hobserved, notifyObservers]
    · have hpos : call.resource.numObservers > 0 := UInt8.pos_iff_ne_zero.2 hobserved
      have hanswer : call.answer = .answered status payload := by
        unfold NotifyCall.answer
        rw [hgiven]
      have hcounted (fuel : Nat) : notifyCounted call fuel observers s r =
          (notifyLoop call (call.send status payload) fuel observers s).map fun x => (x.1, r, x.2) := by
        unfold notifyCounted
        rw [hmemory, hanswer]
        rfl
      have hobserved : (call.resource.numObservers != 0) = true := by simpa using hobserved
      have hsend : call.send status payload = ⟨call.resource.uri.drop 1, ocStatusCode status, payload, true⟩ := by
        rw [NotifyCall.send, hobserved]
      simp only [if_pos hpos, hcounted, hobserved, if_true, ← hsend, ← notifyEach_out, Option.map_map,
        Option.map_eq_some_iff]
      refine ⟨?_, ?_⟩
      · rintro ⟨fuel, _, ⟨y, hy, rfl⟩, rfl⟩
        exact ⟨y, (notifyLoop_iff observers s y).1 ⟨fuel, hy⟩, rfl⟩
      · rintro ⟨y, hy, rfl⟩
        obtain ⟨fuel, hy⟩ := (notifyLoop_iff observers s y).2 hy
        exact ⟨fuel, _, ⟨y, hy, rfl⟩, rfl⟩

end Given

end SmartGarage.Notify
