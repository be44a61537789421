/-
`separate.c`: the requests of a slow resource that wait for their separate response. An entry is found by
token and observe value alone, while tokens are chosen by each client for itself.
-/
import SmartGarage.Lib.Run
import SmartGarage.Lib.Search
import SmartGarage.Messaging.Framing

namespace SmartGarage

open Runs

/-! ## Entries -/

/-- `coap_separate_t`; the observe value is an `int32_t`, so that a large one of a request is below zero. -/
structure SeparateEntry where
  type : CoapMessageType
  token : OcString
  block2Size : UInt16
  observe : Int32
  endpoint : OcEndpoint
  method : UInt8
  uri : OcString

/-- `oc_separate_response_t`, without its buffer. -/
structure SeparateResponse where
  active : Bool
  requests : List SeparateEntry

/-- What an entry is found by. -/
def SeparateEntry.key (e : SeparateEntry) : OcString × Int32 := (e.token, e.observe)

/-- The inputs of one call of `coap_separate_accept`: the request, where it came from, and which allocations
succeed. -/
structure SeparateRequest where
  request : CoapPacket
  endpoint : OcEndpoint
  observe : Int32
  block2Size : UInt16
  entryAvailable : Bool
  messageAvailable : Bool

section Accept

variable (s : SeparateResponse) (r : SeparateRequest)

/-- An entry is the one for a request. -/
def isEntryOf (e : SeparateEntry) : Bool := e.key == (r.request.token, r.observe)

/-- The entry that is made for a request. -/
def newSeparateEntry : SeparateEntry where
  type := .non
  token := r.request.token
  block2Size := r.block2Size
  observe := r.observe
  endpoint := r.endpoint
  method := r.request.code
  uri := r.request.uriPath

/-- The list of entries, which an inactive response begins anew. -/
def SeparateResponse.entries : List SeparateEntry := if s.active then s.requests else []

/-- The entries behind the search for the one of a request: it gets the endpoint of the request, whether it was
there or has been made; there is none when it cannot be made. -/
def enterRequest : Option (List SeparateEntry) :=
  match s.entries.find? (isEntryOf r) with
  | some _ =>
    some (Search.modify (isEntryOf r) (fun e => { e with endpoint := r.endpoint, observe := r.observe }) s.entries)
  | none => if r.entryAvailable then some (s.entries ++ [newSeparateEntry r]) else none

/-- The empty ACK of a confirmable request. -/
def separateAck : OcString := coapSerializeMessage (coapUdpInitMessage .ack 0 r.request.mid)

/-- What `coap_separate_accept` leaves: the response, what it sends, and whether the request is accepted. -/
structure Acceptance where
  response : SeparateResponse
  out : List Output
  accepted : Bool

/-- `coap_separate_accept` -/
def coapSeparateAccept : Acceptance :=
  match enterRequest s r with
  | none => ⟨{ s with requests := s.entries }, [], false⟩
  | some requests =>
    if r.request.type = .con then
      if r.messageAvailable = true ∧ (separateAck r).length > 0 then
        ⟨{ s with requests := requests }, [.send r.endpoint (separateAck r)], true⟩
      else ⟨{ s with requests := requests.eraseP (isEntryOf r) }, [], false⟩
    else ⟨{ s with requests := requests }, [], true⟩

end Accept

/-! ## Runs -/

/-- A request that waits for its response. -/
structure Accepted where
  endpoint : OcEndpoint
  token : OcString
  observe : Int32
  uri : OcString
  method : UInt8

/-- What an entry holds of its request. -/
def SeparateEntry.accepted (e : SeparateEntry) : Accepted := ⟨e.endpoint, e.token, e.observe, e.uri, e.method⟩

/-- The request as it is accepted. -/
def SeparateRequest.accepted (r : SeparateRequest) : Accepted :=
  ⟨r.endpoint, r.request.token, r.observe, r.request.uriPath, r.request.code⟩

/-- A request comes, or the responses are sent. -/
inductive SeparateEvent
  | accept (r : SeparateRequest)
  | send

/-- The response, and the requests that have been accepted and not been answered. -/
structure Separate where
  response : SeparateResponse
  pending : List Accepted

/-- One event, with what the callers of `coap_separate_accept` do; `oc_send_separate_response` answers each entry
and clears it. -/
def Separate.step (s : Separate) : SeparateEvent → Separate
  | .accept r =>
    let a := coapSeparateAccept s.response r
    if a.accepted then ⟨{ a.response with active := true }, s.pending ++ [r.accepted]⟩ else ⟨a.response, s.pending⟩
  | .send => ⟨⟨false, []⟩, []⟩

/-- A new handle. -/
def Separate.init : Separate := ⟨⟨false, []⟩, []⟩

/-- Every request that waits has an entry that holds its endpoint, token, observe value, path and method; requests
that differ in one of them have different entries. -/
def Served (s : Separate) : Prop := ∀ r ∈ s.pending, ∃ e ∈ s.response.requests, e.accepted = r

/-- The request that comes can be told from those that wait: where token and observe value are the same it is the
same request, and it can be acknowledged. -/
def Distinct (s : Separate) : SeparateEvent → Prop
  | .accept r => ∀ p ∈ s.pending, p.token = r.request.token → p.observe = r.observe →
      p = r.accepted ∧ (r.request.type = .con → r.messageAvailable = true)
  | .send => True

/-! ## One request -/

theorem separateAck_length (r : SeparateRequest) : (separateAck r).length > 0 := by
  have hne : separateAck r ≠ [] := (shortReply_init .ack 0 r.request.mid).fits rfl (Nat.zero_le _)
  exact List.length_pos_iff.2 hne

/-- The invariant: an inactive response has no entries, no key is there twice, and entries and waiting requests are
the same. -/
structure Tracked (s : Separate) : Prop where
  keys : (s.response.requests.map (·.key)).Nodup
  inactive : s.response.active = false → s.response.requests = []
  served : Served s
  waiting : ∀ e ∈ s.response.requests, e.accepted ∈ s.pending

theorem tracked_init : Tracked .init :=
  ⟨.nil, fun _ => rfl, fun _ hr => absurd hr List.not_mem_nil, fun _ he => absurd he List.not_mem_nil⟩

section Step

variable {s : Separate} (r : SeparateRequest)

theorem Tracked.entries (h : Tracked s) : s.response.entries = s.response.requests := by
  unfold SeparateResponse.entries
  split
  · rfl
  · rename_i hinactive
    exact (h.inactive (Bool.eq_false_iff.2 hinactive)).symm

/-- The request can be acknowledged, or needs no acknowledgement. -/
def Acknowledged : Prop := r.request.type = .con → r.messageAvailable = true

theorem coapSeparateAccept_some (response : SeparateResponse) {requests : List SeparateEntry}
    (henter : enterRequest response r = some requests) :
    (Acknowledged r ∧ (coapSeparateAccept response r).accepted = true ∧
      (coapSeparateAccept response r).response = { response with requests := requests }) ∨
    (¬Acknowledged r ∧ (coapSeparateAccept response r).accepted = false ∧
      (coapSeparateAccept response r).response = { response with requests := requests.eraseP (isEntryOf r) }) := by
  unfold coapSeparateAccept Acknowledged
  rw [henter]
  dsimp only
  by_cases hcon : r.request.type = .con
  · rw [if_pos hcon]
    by_cases havailable : r.messageAvailable = true
    · rw [if_pos ⟨havailable, separateAck_length r⟩]
      exact .inl ⟨fun _ => havailable, rfl, rfl⟩
    · rw [if_neg fun h => havailable h.1]
      exact .inr ⟨fun h => havailable (h hcon), rfl, rfl⟩
  · rw [if_neg hcon]
    exact .inl ⟨fun h => absurd h hcon, rfl, rfl⟩

theorem isEntryOf_iff {e : SeparateEntry} : isEntryOf r e = true ↔ e.key = (r.request.token, r.observe) := beq_iff_eq

theorem key_ne_of_erased {l : List SeparateEntry} (hkeys : (l.map (·.key)).Nodup) {e : SeparateEntry}
    (he : e ∈ l.eraseP (isEntryOf r)) : e.key ≠ (r.request.token, r.observe) := by
  have hsame : isEntryOf r = fun e => instBEqOfDecidableEq.beq e.key (r.request.token, r.observe) :=
    funext fun e => Bool.eq_iff_iff.2 ((isEntryOf_iff r).trans decide_eq_true_iff.symm)
  rw [hsame] at he
  exact Search.key_ne_of_mem_eraseP hkeys he

theorem accept_found (h : Tracked s) {e : SeparateEntry} (hfound : s.response.requests.find? (isEntryOf r) = some e) :
    (Served (s.step (.accept r)) ↔ Distinct s (.accept r)) ∧ (Distinct s (.accept r) → Tracked (s.step (.accept r))) := by
  have hmem := List.mem_of_find?_eq_some hfound
  have hkey : e.key = (r.request.token, r.observe) := (isEntryOf_iff r).1 (List.find?_some hfound)
  have hwaits := h.waiting e hmem
  obtain ⟨pre, post, hsplit, hmodify, -⟩ := Search.modify_of_find? (isEntryOf r)
    (fun e => { e with endpoint := r.endpoint, observe := r.observe }) _ hfound
  let e' : SeparateEntry := { e with endpoint := r.endpoint, observe := r.observe }
  have henter : enterRequest s.response r = some (pre ++ e' :: post) := by
    unfold enterRequest
    rw [h.entries, hfound]
    exact congrArg some hmodify
  have hkey' : e'.key = e.key := Prod.ext rfl (congrArg Prod.snd hkey).symm
  have hkeys : ((pre ++ e' :: post).map (·.key)).Nodup := by
    have hold := h.keys
    rw [hsplit, List.map_append, List.map_cons] at hold
    rw [List.map_append, List.map_cons, hkey']
    exact hold
  rcases coapSeparateAccept_some r s.response henter with ⟨hack, haccepted, hresponse⟩ | ⟨hack, haccepted, hresponse⟩
  · have hstep : s.step (.accept r) =
        ⟨⟨true, pre ++ e' :: post⟩, s.pending ++ [r.accepted]⟩ := by
      unfold Separate.step
      dsimp only
      rw [haccepted, if_pos rfl, hresponse]
    -- the entry of the same request stays as it is
    have hsame (hdistinct : Distinct s (.accept r)) : e' = e ∧ e.accepted = r.accepted := by
      obtain ⟨heq, -⟩ := hdistinct e.accepted hwaits (congrArg Prod.fst hkey) (congrArg Prod.snd hkey)
      have hendpoint : e.endpoint = r.endpoint := congrArg Accepted.endpoint heq
      have hobserve : e.observe = r.observe := congrArg Prod.snd hkey
      refine ⟨?_, heq⟩
      show ({ e with endpoint := r.endpoint, observe := r.observe } : SeparateEntry) = e
      rw [← hendpoint, ← hobserve]
    have hserved (hdistinct : Distinct s (.accept r)) : Served (s.step (.accept r)) := by
      obtain ⟨he, heq⟩ := hsame hdistinct
      rw [hstep, he, ← hsplit]
      intro p hp
      rcases List.mem_append.1 hp with hp | hp
      · exact h.served p hp
      · rw [List.mem_singleton.1 hp]
        exact ⟨e, hmem, heq⟩
    refine ⟨⟨fun hserved p hp htoken hobserve => ⟨?_, hack⟩, hserved⟩, fun hdistinct => ?_⟩
    · -- both requests have the one entry with their key
      rw [hstep] at hserved
      obtain ⟨e₁, he₁, rfl⟩ := hserved p (List.mem_append_left _ hp)
      obtain ⟨e₂, he₂, heq⟩ := hserved r.accepted (List.mem_append_right _ List.mem_cons_self)
      have hkey₁ : e₁.key = (r.request.token, r.observe) := Prod.ext htoken hobserve
      have hkey₂ : e₂.key = (r.request.token, r.observe) :=
        Prod.ext (congrArg Accepted.token heq) (congrArg Accepted.observe heq)
      rw [List.inj_on_of_nodup_map hkeys he₁ he₂ (hkey₁.trans hkey₂.symm)]
      exact heq
    · obtain ⟨he, heq⟩ := hsame hdistinct
      have hserved' := hserved hdistinct
      rw [hstep] at hserved' ⊢
      rw [he, ← hsplit] at hserved' ⊢
      exact ⟨h.keys, nofun, hserved', fun c hc => List.mem_append_left _ (h.waiting c hc)⟩
  · have hstep : s.step (.accept r) =
        ⟨{ s.response with requests := (pre ++ e' :: post).eraseP (isEntryOf r) }, s.pending⟩ := by
      unfold Separate.step
      dsimp only
      rw [haccepted, if_neg Bool.false_ne_true, hresponse]
    have hdistinct : ¬Distinct s (.accept r) := fun hdistinct =>
      hack (hdistinct e.accepted hwaits (congrArg Prod.fst hkey) (congrArg Prod.snd hkey)).2
    have hserved : ¬Served (s.step (.accept r)) := by
      rw [hstep]
      intro hserved
      obtain ⟨c, hc, heq⟩ := hserved e.accepted hwaits
      have hne := key_ne_of_erased r hkeys hc
      exact hne ((Prod.ext (congrArg Accepted.token heq) (congrArg Accepted.observe heq) : c.key = e.key).trans hkey)
    exact ⟨iff_of_false hserved hdistinct, fun hd => absurd hd hdistinct⟩

theorem accept_new (h : Tracked s) (hfound : s.response.requests.find? (isEntryOf r) = none) :
    Served (s.step (.accept r)) ∧ Distinct s (.accept r) ∧ Tracked (s.step (.accept r)) := by
  have hnew {e : SeparateEntry} (he : e ∈ s.response.requests) : e.key ≠ (r.request.token, r.observe) := fun hkey =>
    List.find?_eq_none.1 hfound e he ((isEntryOf_iff r).2 hkey)
  have hdistinct : Distinct s (.accept r) := by
    intro p hp htoken hobserve
    obtain ⟨e, he, rfl⟩ := h.served p hp
    exact absurd (Prod.ext htoken hobserve) (hnew he)
  have hkeys : ((s.response.requests ++ [newSeparateEntry r]).map (·.key)).Nodup := by
    refine Search.nodup_append_new h.keys fun hmem => ?_
    obtain ⟨e, he, hkey⟩ := List.mem_map.1 hmem
    exact hnew he hkey
  suffices htracked : Tracked (s.step (.accept r)) from ⟨htracked.served, hdistinct, htracked⟩
  have henter : enterRequest s.response r =
      if r.entryAvailable then some (s.response.requests ++ [newSeparateEntry r]) else none := by
    unfold enterRequest
    rw [h.entries, hfound]
  have hunchanged {requests : List SeparateEntry} (hrequests : requests = s.response.requests) :
      Tracked ⟨{ s.response with requests := requests }, s.pending⟩ := by
    rw [hrequests]
    exact h
  cases hentry : r.entryAvailable with
  | false =>
    -- no memory for an entry
    rw [hentry, if_neg Bool.false_ne_true] at henter
    have hstep : s.step (.accept r) = ⟨{ s.response with requests := s.response.entries }, s.pending⟩ := by
      have hrefused : coapSeparateAccept s.response r = ⟨{ s.response with requests := s.response.entries }, [], false⟩ := by
        unfold coapSeparateAccept
        rw [henter]
      unfold Separate.step
      dsimp only
      rw [hrefused]
      rfl
    rw [hstep]
    exact hunchanged h.entries
  | true =>
    rw [hentry, if_pos rfl] at henter
    rcases coapSeparateAccept_some r s.response henter with ⟨-, haccepted, hresponse⟩ | ⟨-, haccepted, hresponse⟩
    · have hstep : s.step (.accept r) =
          ⟨⟨true, s.response.requests ++ [newSeparateEntry r]⟩, s.pending ++ [r.accepted]⟩ := by
        unfold Separate.step
        dsimp only
        rw [haccepted, if_pos rfl, hresponse]
      rw [hstep]
      refine ⟨hkeys, nofun, fun p hp => ?_, fun e he => ?_⟩
      · rcases List.mem_append.1 hp with hp | hp
        · obtain ⟨e, he, heq⟩ := h.served p hp
          exact ⟨e, List.mem_append_left _ he, heq⟩
        · rw [List.mem_singleton.1 hp]
          exact ⟨newSeparateEntry r, List.mem_append_right _ List.mem_cons_self, rfl⟩
      · rcases List.mem_append.1 he with he | he
        · exact List.mem_append_left _ (h.waiting e he)
        · rw [List.mem_singleton.1 he]
          exact List.mem_append_right _ List.mem_cons_self
    · -- the acknowledgement cannot be sent, and the entry goes again
      have herase : (s.response.requests ++ [newSeparateEntry r]).eraseP (isEntryOf r) = s.response.requests := by
        rw [List.eraseP_append_right _ fun e he hentryOf => hnew he ((isEntryOf_iff r).1 hentryOf),
          List.eraseP_cons_of_pos ((isEntryOf_iff r).2 rfl), List.append_nil]
      have hstep : s.step (.accept r) = ⟨{ s.response with
          requests := (s.response.requests ++ [newSeparateEntry r]).eraseP (isEntryOf r) }, s.pending⟩ := by
        unfold Separate.step
        dsimp only
        rw [haccepted, if_neg Bool.false_ne_true, hresponse]
      rw [hstep]
      exact hunchanged herase

end Step

/-! ## Every sequence -/

theorem step_served_iff {s : Separate} (h : Tracked s) (e : SeparateEvent) :
    (Served (s.step e) ↔ Distinct s e) ∧ (Distinct s e → Tracked (s.step e)) := by
  cases e with
  | accept r =>
    cases hfound : s.response.requests.find? (isEntryOf r) with
    | none =>
      obtain ⟨hserved, hdistinct, htracked⟩ := accept_new r h hfound
      exact ⟨iff_of_true hserved hdistinct, fun _ => htracked⟩
    | some e => exact accept_found r h hfound
  | send => exact ⟨iff_of_true (fun _ hr => absurd hr List.not_mem_nil) trivial, fun _ => tracked_init⟩

theorem guarded_served_iff : ∀ (l : List SeparateEvent) (s : Separate), Tracked s →
    (Guarded Separate.step (fun s e => Served (s.step e)) s l ↔ Guarded Separate.step Distinct s l)
  | [], _, _ => Iff.rfl
  | e :: l, s, h => by
    obtain ⟨hiff, htracked⟩ := step_served_iff h e
    constructor
    · rintro ⟨hserved, hrest⟩
      have hdistinct := hiff.1 hserved
      exact ⟨hdistinct, (guarded_served_iff l _ (htracked hdistinct)).1 hrest⟩
    · rintro ⟨hdistinct, hrest⟩
      exact ⟨hiff.2 hdistinct, (guarded_served_iff l _ (htracked hdistinct)).2 hrest⟩

/-- For every sequence of requests that come to one separate response, and of responses that are sent: each request
that has been accepted has its own entry with its endpoint, token, path and method until it is answered, if and only
if a request with the token and the observe value of one that waits is always the same request, and can be
acknowledged. -/
theorem separate_served_iff (l : List SeparateEvent) :
    Guarded Separate.step (fun s e => Served (s.step e)) .init l ↔ Guarded Separate.step Distinct .init l :=
  guarded_served_iff l _ tracked_init

/-- A non-confirmable GET of "a" with the token 1. -/
def sampleSeparate (endpoint : OcEndpoint) : SeparateRequest where
  request := { coapUdpInitMessage .non coapGet 1 with token := [1], uriPath := ascii "a" }
  endpoint := endpoint
  observe := 2
  block2Size := 1024
  entryAvailable := true
  messageAvailable := true

/-- Two clients choose the same token: the entry of the first one gets the endpoint of the second one. -/
theorem separate_misdirected :
    ¬∀ l : List SeparateEvent, Guarded Separate.step (fun s e => Served (s.step e)) .init l := by
  intro h
  obtain ⟨-, hserved, -⟩ := h [.accept (sampleSeparate (peer false)),
    .accept (sampleSeparate { peer false with address := [2] })]
  obtain ⟨e, he, heq⟩ := hserved (sampleSeparate (peer false)).accepted List.mem_cons_self
  have hendpoint : e.endpoint = peer false := congrArg Accepted.endpoint heq
  rw [List.mem_singleton.1 he] at hendpoint
  exact absurd hendpoint (by decide)

end SmartGarage
