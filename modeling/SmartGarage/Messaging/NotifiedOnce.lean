/-
When every observer of a resource gets exactly one notification of `coap_notify_observers`: the loop over them does
not end where the buffer of an earlier notification is in use, be it one of this very call, and goes no further
where a new buffer cannot be had.
-/
import SmartGarage.Messaging.NotifyObservers
import SmartGarage.Messaging.ObserveCount

namespace SmartGarage.Notify

/-! ## Buffers that are found -/

section Buffers

theorem filter_eraseP_self {α : Type} (p : α → Bool) : ∀ l : List α, (l.eraseP p).filter p = (l.filter p).tail
  | [] => rfl
  | a :: l => by
    by_cases ha : p a = true
    · rw [List.eraseP_cons_of_pos ha, List.filter_cons_of_pos ha, List.tail_cons]
    · rw [List.eraseP_cons_of_neg ha, List.filter_cons_of_neg ha, List.filter_cons_of_neg ha, filter_eraseP_self p l]

theorem filter_eraseP_apart {α : Type} {p q : α → Bool} (h : ∀ a, p a = true → q a = false) :
    ∀ l : List α, (l.eraseP p).filter q = l.filter q
  | [] => rfl
  | a :: l => by
    by_cases ha : p a = true
    · rw [List.eraseP_cons_of_pos ha, List.filter_cons_of_neg (by simp [h a ha])]
    · rw [List.eraseP_cons_of_neg ha, List.filter_cons, List.filter_cons, filter_eraseP_apart h l]

/-- The buffer has been read to its end. -/
def Done (b : BlockwiseState) : Prop := b.payloadSize = b.nextBlockOffset

/-- Of the buffers that are found, the one behind the first `e` has been read to its end; there may be none only for
the first search. -/
def FreeBehind (found : List BlockwiseState) (e : Nat) : Prop :=
  match found[e]? with
  | some b => Done b
  | none => e = 0

theorem freeBehind_zero (l : List BlockwiseState) (p : BlockwiseState → Bool) :
    FreeBehind (l.filter p) 0 ↔ ∀ b ∈ l.find? p, Done b := by
  unfold FreeBehind
  rw [← List.head?_eq_getElem?, List.head?_filter]
  cases l.find? p with
  | none => exact iff_of_true rfl fun _ hb => absurd hb (by simp)
  | some b => simp

theorem freeBehind_succ {found : List BlockwiseState} {b : BlockwiseState} (hb : ¬Done b) (e : Nat) :
    FreeBehind (found.tail ++ [b]) e ↔ FreeBehind found (e + 1) := by
  unfold FreeBehind
  rw [← List.getElem?_tail]
  rcases Nat.lt_trichotomy e found.tail.length with hlt | heq | hgt
  · rw [List.getElem?_append_left hlt]
    obtain ⟨c, hc⟩ : ∃ c, found.tail[e]? = some c := ⟨_, List.getElem?_eq_getElem hlt⟩
    rw [hc]
  · have hnew : (found.tail ++ [b])[e]? = some b := by simp [heq]
    rw [hnew, List.getElem?_eq_none (Nat.le_of_eq heq.symm)]
    exact iff_of_false hb (Nat.succ_ne_zero e)
  · have hnone : (found.tail ++ [b])[e]? = none := List.getElem?_eq_none (by rw [List.length_append]; exact hgt)
    rw [hnone, List.getElem?_eq_none (Nat.le_of_lt hgt)]
    exact iff_of_false (by omega) (Nat.succ_ne_zero e)

end Buffers

/-! ## The buffers of the observers -/

section Observers

variable {n : ObservedSend} {o o' : ListedObserver} {b : BlockwiseState} {l : List BlockwiseState}

/-- The notification of an observer goes block by block. -/
def needs (n : ObservedSend) (o : ListedObserver) : Bool := needsBlocks o.turn.endpoint n.payload o.turn.block2Size

/-- The buffers of two observers are found for each other. -/
def sharesBuffer (o o' : ListedObserver) : Bool := ocEndpointCompare o.turn.endpoint o'.turn.endpoint

/-- The buffers that are found for an observer. -/
def finds (n : ObservedSend) (o : ListedObserver) : BlockwiseState → Bool := (o.plain.key n).finds

/-- A buffer with the path of the resource, for a client. -/
structure BufferOf (n : ObservedSend) (o : ListedObserver) (b : BlockwiseState) : Prop where
  href : b.href = n.uri
  endpoint : b.endpoint = o.turn.endpoint
  method : b.method = coapGet
  role : b.role = .server
  query : b.uriQuery = []

theorem finds_endpoint (h : finds n o b = true) : ocEndpointCompare b.endpoint o.turn.endpoint = true := by
  simp only [finds, BlockwiseKey.finds, Bool.and_eq_true] at h
  exact h.1.1.1.2

theorem finds_of_shares (hshares : sharesBuffer o o' = true) : finds n o = finds n o' := by
  funext b
  have hsame : ocEndpointCompare b.endpoint o.turn.endpoint = ocEndpointCompare b.endpoint o'.turn.endpoint :=
    Bool.eq_iff_iff.2 ⟨fun h => ocEndpointCompare_trans h hshares,
      fun h => ocEndpointCompare_trans h (ocEndpointCompare_symm hshares)⟩
  show (o.plain.key n).finds b = (o'.plain.key n).finds b
  unfold BlockwiseKey.finds
  show (strncmpEq n.uri b.href && ocEndpointCompare b.endpoint o.turn.endpoint && b.method == coapGet &&
      b.role == .server && b.uriQuery == []) =
    (strncmpEq n.uri b.href && ocEndpointCompare b.endpoint o'.turn.endpoint && b.method == coapGet &&
      b.role == .server && b.uriQuery == [])
  rw [hsame]

theorem finds_apart (hapart : ¬sharesBuffer o o' = true) (h : finds n o b = true) : finds n o' b = false := by
  by_contra h'
  rw [Bool.not_eq_false] at h'
  exact hapart (ocEndpointCompare_trans (ocEndpointCompare_symm (finds_endpoint h)) (finds_endpoint h'))

theorem BufferOf.finds (h : BufferOf n o b) : Notify.finds n o' b = sharesBuffer o o' := by
  unfold Notify.finds BlockwiseKey.finds sharesBuffer ObserverTurn.key
  simp only [h.href, h.endpoint, h.method, h.role, h.query, strncmpEq_self, ListedObserver.plain, beq_self_eq_true,
    Bool.true_and, Bool.and_true]

theorem filter_behind (hb : BufferOf n o b) :
    (l.eraseP (Notify.finds n o) ++ [b]).filter (Notify.finds n o') =
      if sharesBuffer o o' = true then (l.filter (Notify.finds n o')).tail ++ [b]
      else l.filter (Notify.finds n o') := by
  rw [List.filter_append]
  by_cases hshares : sharesBuffer o o' = true
  · rw [if_pos hshares, finds_of_shares hshares, filter_eraseP_self,
      List.filter_cons_of_pos (hb.finds.trans hshares), List.filter_nil]
  · rw [if_neg hshares, filter_eraseP_apart fun b => finds_apart hshares,
      List.filter_cons_of_neg (by rw [hb.finds]; exact hshares), List.filter_nil, List.append_nil]

/-- How many of the observers take the buffer of another one. -/
def taken (n : ObservedSend) (before : List ListedObserver) (o : ListedObserver) : Nat :=
  before.countP fun o' => needs n o' && sharesBuffer o' o

/-- Each observer whose notification goes block by block finds no buffer in use: as many buffers as there are
observers of the same endpoint have been read to their end, or there are none, and it is the only one. -/
def BuffersFree (n : ObservedSend) (observers : List ListedObserver) (l : List BlockwiseState) : Prop :=
  ∀ before o after, observers = before ++ o :: after → needs n o = true →
    FreeBehind (l.filter (Notify.finds n o)) (taken n before o)

variable {rest : List ListedObserver}

theorem buffersFree_cons :
    BuffersFree n (o :: rest) l ↔ (needs n o = true → FreeBehind (l.filter (Notify.finds n o)) 0) ∧
      ∀ before o' after, rest = before ++ o' :: after → needs n o' = true →
        FreeBehind (l.filter (Notify.finds n o')) (taken n (o :: before) o') := by
  refine ⟨fun h => ⟨fun hneeds => h [] o rest rfl hneeds, fun before o' after hrest hneeds => ?_⟩, fun h => ?_⟩
  · exact h (o :: before) o' after (congrArg (o :: ·) hrest) hneeds
  · rintro (_ | ⟨o'', before⟩) o' after hsplit hneeds
    · obtain ⟨rfl, rfl⟩ := List.cons.inj hsplit
      exact h.1 hneeds
    · obtain ⟨rfl, hrest⟩ := List.cons.inj hsplit
      exact h.2 before o' after hrest hneeds

theorem buffersFree_short (hneeds : ¬needs n o = true) :
    BuffersFree n (o :: rest) l ↔ BuffersFree n rest l := by
  have htaken (before : List ListedObserver) (o' : ListedObserver) : taken n (o :: before) o' = taken n before o' :=
    List.countP_cons_of_neg (by simp [hneeds])
  simp only [buffersFree_cons, htaken]
  exact and_iff_right fun h => absurd h hneeds

theorem buffersFree_long (hneeds : needs n o = true) (hb : BufferOf n o b) (hused : ¬Done b) :
    BuffersFree n (o :: rest) l ↔ (∀ b ∈ l.find? (Notify.finds n o), Done b) ∧
      BuffersFree n rest (l.eraseP (Notify.finds n o) ++ [b]) := by
  rw [buffersFree_cons, freeBehind_zero]
  refine and_congr (forall_prop_of_true hneeds) ?_
  refine forall_congr' fun before => forall_congr' fun o' => forall_congr' fun after => imp_congr_right fun _ =>
    imp_congr_right fun _ => ?_
  rw [filter_behind hb]
  by_cases hshares : sharesBuffer o o' = true
  · rw [if_pos hshares, freeBehind_succ hused]
    have htaken : taken n (o :: before) o' = taken n before o' + 1 :=
      List.countP_cons_of_pos (by simp [hneeds, hshares])
    rw [htaken]
  · rw [if_neg hshares]
    have htaken : taken n (o :: before) o' = taken n before o' := List.countP_cons_of_neg (by simp [hshares])
    rw [htaken]

end Observers

/-! ## One notification -/

section Sending

variable {n : ObservedSend} {o : ObserverTurn} {s : Sending} {p : CoapPacket}

/-- A transaction for the notification could be allocated. -/
def HasTransaction (o : ObserverTurn) : Prop := o.env.transactionAvailable = true ∧ o.env.messageAvailable = true

/-- The message is a notification for an observer: with its token, the code that is given, and the observe option. -/
structure NotificationFor (n : ObservedSend) (o : ObserverTurn) (p : CoapPacket) : Prop where
  token : p.token = o.token
  code : p.code = n.code
  option : p.isOption coapOptionObserve = true
  written : coapSerializeMessage p ≠ []

/-- What the turn of an observer with a transaction hands over and sends. -/
def Hands (n : ObservedSend) (o : ObserverTurn) (s s' : Sending) (out : List Output) : Prop :=
  ∃ id p, s'.handed = s.handed ++ [id] ∧ NotificationFor n o p ∧
    out = if o.env.mainInitialized then coapSendMessage o.env o.env.csmState o.endpoint (coapSerializeMessage p)
      else []

/-- The packet of a notification behind its payload. -/
def notificationPacket (n : ObservedSend) (o : ObserverTurn) (p : CoapPacket) (mid : UInt16) : CoapPacket :=
  let p := { p with code := n.code }
  let p := if n.code < badRequest400 ∧ n.observed = true then p.setHeaderObserve o.obsCounter
    else p.setHeaderObserve 1
  { (p.setHeaderContentFormat 10000).setToken o.token with mid := mid }

theorem notificationPacket_for (hshort : ShortReply p) (hcode : ∃ status, n.code = ocStatusCode status)
    (htoken : o.token.length ≤ coapTokenLen) (mid : UInt16) : NotificationFor n o (notificationPacket n o p mid) := by
  obtain ⟨status, hstatus⟩ := hcode
  have hcoded : ShortReply { p with code := n.code } := ⟨hshort.uriPath, hshort.uriQuery, hshort.etag⟩
  obtain ⟨v, hv⟩ : ∃ v, (if n.code < badRequest400 ∧ n.observed = true then
      ({ p with code := n.code } : CoapPacket).setHeaderObserve o.obsCounter
      else ({ p with code := n.code } : CoapPacket).setHeaderObserve 1) =
        ({ p with code := n.code } : CoapPacket).setHeaderObserve v := by
    split
    · exact ⟨_, rfl⟩
    · exact ⟨_, rfl⟩
  have hobserved : ShortReply (({ p with code := n.code } : CoapPacket).setHeaderObserve v) :=
    hcoded.apply defaultSettings (.observe v) nofun nofun
  have hformat := hobserved.apply defaultSettings (.contentFormat 10000) nofun nofun
  have hshort' := hformat.apply defaultSettings (.token o.token) nofun nofun
  unfold notificationPacket
  dsimp only
  rw [hv]
  have htake : o.token.take coapTokenLen = o.token := List.take_of_length_le htoken
  refine ⟨htake, rfl, ?_, ?_⟩
  · show (CoapPacket.setHeaderContentFormat (CoapPacket.setHeaderObserve { p with code := n.code } v) 10000).isOption _ =
      true
    unfold CoapPacket.setHeaderContentFormat CoapPacket.setHeaderObserve
    rw [isOption_setOption _ _ (by decide)]
    have hset := isOption_setOption { { p with code := n.code } with observe := v } coapOptionObserve
      (n := coapOptionObserve) (by decide)
    rw [decide_eq_true rfl, Bool.or_true] at hset
    exact Bool.or_eq_true_iff.2 (.inl hset)
  · refine ShortReply.fits ⟨hshort'.uriPath, hshort'.uriQuery, hshort'.etag⟩ ?_ ?_
    · exact ocStatusCode_noSignal status _ hstatus
    · show (o.token.take coapTokenLen).length ≤ coapTokenLen
      rw [htake]
      exact htoken

theorem sendPacket_eq (n : ObservedSend) (o : ObserverTurn) (s : Sending) (p : CoapPacket) :
    o.sendPacket n s p =
      match coapNewTransaction o.env s.engine o.endpoint with
      | (some t, st) => (s.setEngine st).finish o.env t (notificationPacket n o p t.mid)
      | (none, st) => (s.setEngine st, []) := rfl

theorem finish_spec (env : EngineEnv) (s : Sending) (t : Transaction) (hwritten : coapSerializeMessage p ≠ []) :
    (s.finish env t p).1.engine.responses = s.engine.responses ∧
      (s.finish env t p).1.engine.nextId = s.engine.nextId ∧
      (s.finish env t p).1.handed = s.handed ++ [t.id] ∧ (s.finish env t p).2 =
        if env.mainInitialized then coapSendMessage env env.csmState t.endpoint (coapSerializeMessage p) else [] := by
  unfold Sending.finish Sending.send
  dsimp only
  rw [if_pos (List.length_pos_iff.2 hwritten)]
  cases env.mainInitialized with
  | false => exact ⟨rfl, rfl, rfl, rfl⟩
  | true =>
    rw [if_neg (by decide)]
    split <;> exact ⟨rfl, rfl, rfl, rfl⟩

theorem sendPacket_spec (hshort : ShortReply p) (hcode : ∃ status, n.code = ocStatusCode status)
    (htoken : o.token.length ≤ coapTokenLen) :
    (o.sendPacket n s p).1.engine.responses = s.engine.responses ∧
      (o.sendPacket n s p).1.engine.nextId = s.engine.nextId ∧
      (HasTransaction o → Hands n o s (o.sendPacket n s p).1 (o.sendPacket n s p).2) ∧
      (¬HasTransaction o → (o.sendPacket n s p).1.handed = s.handed) := by
  have hpacket := notificationPacket_for hshort hcode htoken
  rw [sendPacket_eq]
  unfold coapNewTransaction HasTransaction
  dsimp only [Engine.getMid]
  by_cases htransaction : o.env.transactionAvailable = true ∧ o.env.messageAvailable = true
  · rw [if_pos htransaction]
    dsimp only
    have hfor := hpacket (s.engine.currentMid + 1)
    obtain ⟨hresponses, hnext, hhanded, hout⟩ := finish_spec o.env (s.setEngine _) _ hfor.written
    exact ⟨hresponses, hnext, fun _ => ⟨_, _, hhanded, hfor, hout⟩, fun h => absurd htransaction h⟩
  · rw [if_neg htransaction]
    exact ⟨rfl, rfl, fun h => absurd h htransaction, fun _ => rfl⟩

end Sending

/-! ## One round -/

section Rounds

variable {n : ObservedSend} {o : ListedObserver} {s : Sending}

/-- The response buffers are at addresses of their own, which have been handed out. -/
structure Addresses (st : Engine) : Prop where
  nodup : (st.responses.map (·.id)).Nodup
  below : ∀ b ∈ st.responses, b.id < st.nextId

theorem Addresses.renewed {st st' : Engine} (h : Addresses st) {p : BlockwiseState → Bool} {b : BlockwiseState}
    (hid : b.id = st.nextId) (hresponses : st'.responses = st.responses.eraseP p ++ [b])
    (hnext : st'.nextId = st.nextId + 1) : Addresses st' := by
  have hold : ∀ a ∈ st.responses.eraseP p, a.id < st.nextId := fun a ha => h.below a (List.mem_of_mem_eraseP ha)
  refine ⟨?_, fun a ha => ?_⟩
  · rw [hresponses, List.map_append, List.nodup_append]
    refine ⟨h.nodup.sublist ((List.eraseP_sublist).map _), List.nodup_singleton _, fun i hi j hj => ?_⟩
    obtain ⟨a, ha, rfl⟩ := List.mem_map.1 hi
    rw [List.map_singleton, List.mem_singleton] at hj
    rw [hj, hid]
    exact (hold a ha).ne
  · rw [hnext]
    rw [hresponses] at ha
    rcases List.mem_append.1 ha with ha | ha
    · exact Nat.lt_succ_of_lt (hold a ha)
    · rw [List.mem_singleton.1 ha, hid]
      exact Nat.lt_succ_self _

theorem shortReply_packet (o : ObserverTurn) (con : Bool) : ShortReply (o.packet con) := by
  unfold ObserverTurn.packet
  split
  · exact ⟨BitVec.getLsbD_zero, BitVec.getLsbD_zero, Nat.zero_le _⟩
  · exact shortReply_init _ _ _

theorem shortReply_dispatchFirst (B : BufferSettings) (b : BlockwiseState) (payload : OcString) (size : UInt16)
    {p : CoapPacket} (h : ShortReply p) : ShortReply (dispatchFirst B b payload size p).2 := by
  unfold dispatchFirst
  dsimp only
  split
  · rename_i b' block _
    have hpayload := h.apply B (.payload block) nofun nofun
    have hblock := hpayload.apply B (.block2 0 1 size) nofun nofun
    have hsize := hblock.apply B (.size2 b'.payloadSize) nofun nofun
    exact hsize.apply B (.etag b'.etag) nofun nofun
  · exact h

/-- A buffer with the first block of a payload longer than a block is in use, and keeps its key and its address. -/
theorem dispatchFirst_buffer (B : BufferSettings) (b : BlockwiseState) {payload : OcString} {size : UInt16}
    (hlt : payload.length < 2 ^ 16) (hlong : size.toNat < payload.length) (p : CoapPacket) :
    ¬Done (dispatchFirst B b payload size p).1 ∧ (dispatchFirst B b payload size p).1.id = b.id ∧
      (BufferOf n o b → BufferOf n o (dispatchFirst B b payload size p).1) := by
  have hpayload : (UInt32.ofNat payload.length).toNat = payload.length := by
    rw [UInt32.toNat_ofNat', Nat.mod_eq_of_lt (by omega)]
  have hpos : (0 : UInt32) < UInt32.ofNat payload.length := by
    rw [UInt32.lt_iff_toNat_lt, hpayload]
    exact Nat.zero_lt_of_lt hlong
  unfold dispatchFirst ocBlockwiseDispatchBlock
  dsimp only
  rw [dispatchLength_first b hlt hlong, if_pos hpos]
  refine ⟨fun hdone => ?_, rfl, fun h => ⟨h.href, h.endpoint, h.method, h.role, h.query⟩⟩
  have hsizes : UInt32.ofNat payload.length = 0 + size.toUInt32 := hdone
  have hnat := congrArg UInt32.toNat hsizes
  rw [hpayload, UInt32.zero_add, UInt16.toNat_toUInt32] at hnat
  omega

theorem filter_id_eq_eraseP {p : BlockwiseState → Bool} {b : BlockwiseState} :
    ∀ {l : List BlockwiseState}, (l.map (·.id)).Nodup → l.find? p = some b → l.filter (·.id ≠ b.id) = l.eraseP p
  | a :: l, hn, h => by
    rw [List.map_cons, List.nodup_cons] at hn
    rw [List.find?_cons] at h
    split at h
    · rename_i ha
      obtain rfl := Option.some.inj h
      rw [List.eraseP_cons_of_pos ha, List.filter_cons_of_neg (by simp), List.filter_eq_self]
      intro c hc
      have hne : c.id ≠ a.id := fun heq => hn.1 (List.mem_map.2 ⟨c, hc, heq⟩)
      simpa using hne
    · rename_i ha
      have hne : a.id ≠ b.id := fun heq => hn.1 (List.mem_map.2 ⟨b, List.mem_of_find?_eq_some h, heq.symm⟩)
      rw [List.eraseP_cons_of_neg (by simp [ha]), List.filter_cons_of_pos (by simpa using hne),
        filter_id_eq_eraseP hn.2 h]

theorem takeResponseBuffer_free (env : EngineEnv) {st : Engine} (haddresses : Addresses st)
    (hfree : ∀ b ∈ st.responses.find? (Notify.finds n o), Done b) :
    if env.bufferAvailable = true ∧ n.uri ≠ [] then
      ∃ b st', takeResponseBuffer env st (o.plain.key n) = .allocated b st' ∧ BufferOf n o b ∧ b.id = st.nextId ∧
        st'.responses = st.responses.eraseP (Notify.finds n o) ++ [b] ∧ st'.nextId = st.nextId + 1
    else ∃ st', takeResponseBuffer env st (o.plain.key n) = .unavailable st' := by
  have halloc (st₀ : Engine) (hnext : st₀.nextId = st.nextId)
      (hresponses : st₀.responses = st.responses.eraseP (Notify.finds n o)) :
      if env.bufferAvailable = true ∧ n.uri ≠ [] then
        ∃ b st', allocResponseBuffer env st₀ (o.plain.key n) = .allocated b st' ∧ BufferOf n o b ∧ b.id = st.nextId ∧
          st'.responses = st.responses.eraseP (Notify.finds n o) ++ [b] ∧ st'.nextId = st.nextId + 1
      else ∃ st', allocResponseBuffer env st₀ (o.plain.key n) = .unavailable st' := by
    unfold allocResponseBuffer ocBlockwiseAllocResponseBuffer
    by_cases hroom : env.bufferAvailable = true ∧ n.uri ≠ []
    · have hno : ¬((o.plain.key n).href = [] ∨ env.bufferAvailable = false) := by
        rintro (h | h)
        · exact hroom.2 h
        · exact Bool.false_ne_true (h.symm.trans hroom.1)
      rw [if_pos hroom, if_neg hno]
      exact ⟨_, _, rfl, ⟨rfl, rfl, rfl, rfl, rfl⟩, hnext, congrArg (· ++ [_]) hresponses, congrArg (· + 1) hnext⟩
    · have hno : (o.plain.key n).href = [] ∨ env.bufferAvailable = false := by
        by_cases huri : n.uri = []
        · exact .inl huri
        · exact .inr (Bool.not_eq_true _ ▸ fun h => hroom ⟨h, huri⟩)
      rw [if_neg hroom, if_pos hno]
      exact ⟨_, rfl⟩
  unfold takeResponseBuffer
  cases hfind : st.responses.find? (Notify.finds n o) with
  | none =>
    have hsame : st.responses.eraseP (Notify.finds n o) = st.responses :=
      List.eraseP_of_forall_not (List.find?_eq_none.1 hfind)
    rw [show st.responses.find? (o.plain.key n).finds = none from hfind]
    exact halloc st rfl hsame.symm
  | some b =>
    rw [show st.responses.find? (o.plain.key n).finds = some b from hfind]
    have hdone : b.payloadSize = b.nextBlockOffset := hfree b hfind
    dsimp only
    rw [if_pos hdone]
    exact halloc (st.freeResponse b.id) rfl (filter_id_eq_eraseP haddresses.nodup hfind)

theorem replaceBuffer_last {l : List BlockwiseState} {b b' : BlockwiseState} (hl : ∀ a ∈ l, a.id ≠ b'.id)
    (hid : b.id = b'.id) : replaceBuffer (l ++ [b]) b' = l ++ [b'] := by
  unfold replaceBuffer
  rw [List.map_append, List.map_singleton, if_pos hid]
  refine congrArg (· ++ [b']) ?_
  exact (List.map_congr_left fun a ha => if_neg (hl a ha)).trans (List.map_id _)

theorem notify_short (hneeds : ¬needs n o = true) (hcode : ∃ status, n.code = ocStatusCode status)
    (htoken : o.turn.token.length ≤ coapTokenLen) :
    ∃ s' out, o.plain.notify n s = .next s' out ∧ s'.engine.responses = s.engine.responses ∧
      s'.engine.nextId = s.engine.nextId ∧ (HasTransaction o.plain → Hands n o.plain s s' out) ∧
      (¬HasTransaction o.plain → s'.handed = s.handed) := by
  unfold ObserverTurn.notify
  rw [if_neg (show ¬needsBlocks o.plain.endpoint n.payload o.plain.block2Size = true from hneeds)]
  have hshort (con : Bool) : ShortReply ((o.plain.packet con).setPayload o.plain.env.settings n.payload) :=
    (shortReply_packet o.plain con).apply o.plain.env.settings (.payload n.payload) nofun nofun
  exact ⟨_, _, rfl, sendPacket_spec (hshort _) hcode htoken⟩

theorem notify_long (hneeds : needs n o = true) (hcode : ∃ status, n.code = ocStatusCode status)
    (htoken : o.turn.token.length ≤ coapTokenLen) (hlen : n.payload.length < 2 ^ 16) (haddresses : Addresses s.engine)
    (hfree : ∀ b ∈ s.engine.responses.find? (Notify.finds n o), Done b) :
    if o.turn.env.bufferAvailable = true ∧ n.uri ≠ [] then
      ∃ s' out b, o.plain.notify n s = .next s' out ∧ BufferOf n o b ∧ ¬Done b ∧ Addresses s'.engine ∧
        s'.engine.responses = s.engine.responses.eraseP (Notify.finds n o) ++ [b] ∧
        (HasTransaction o.plain → Hands n o.plain s s' out) ∧ (¬HasTransaction o.plain → s'.handed = s.handed)
    else ∃ s', o.plain.notify n s = .leave s' := by
  have hsearch := takeResponseBuffer_free o.plain.env haddresses hfree
  unfold ObserverTurn.notify
  rw [if_pos (show needsBlocks o.plain.endpoint n.payload o.plain.block2Size = true from hneeds)]
  by_cases hroom : o.turn.env.bufferAvailable = true ∧ n.uri ≠ []
  · rw [if_pos (show o.plain.env.bufferAvailable = true ∧ n.uri ≠ [] from hroom)] at hsearch
    rw [if_pos hroom]
    obtain ⟨b, st, hallocated, hb, hid, hresponses, hnext⟩ := hsearch
    rw [hallocated]
    dsimp only
    have hlong : o.plain.block2Size.toNat < n.payload.length := by
      unfold needs needsBlocks at hneeds
      rw [Bool.and_eq_true, decide_eq_true_eq] at hneeds
      exact hneeds.2
    obtain ⟨hused, hid', hb'⟩ :=
      dispatchFirst_buffer (n := n) (o := o) o.plain.env.settings b hlen hlong (o.plain.packet true)
    have hshort := shortReply_dispatchFirst o.plain.env.settings b n.payload o.plain.block2Size
      (shortReply_packet o.plain true)
    generalize dispatchFirst o.plain.env.settings b n.payload o.plain.block2Size (o.plain.packet true) = r
      at hused hid' hb' hshort ⊢
    obtain ⟨b', p⟩ := r
    dsimp only at hused hid' hb' hshort ⊢
    have hset : (st.setResponse b').responses = s.engine.responses.eraseP (Notify.finds n o) ++ [b'] := by
      show replaceBuffer st.responses b' = _
      rw [hresponses]
      refine replaceBuffer_last (fun a ha => ?_) hid'.symm
      have hlt := haddresses.below a (List.mem_of_mem_eraseP ha)
      rw [hid', hid]
      exact hlt.ne
    have hsent := sendPacket_spec (o := o.plain) (s := s.setEngine (st.setResponse b')) hshort hcode htoken
    have hresponses' := hsent.1.trans hset
    refine ⟨_, _, b', rfl, hb' hb, hused, ?_, hresponses', hsent.2.2.1, hsent.2.2.2⟩
    exact haddresses.renewed (hid'.trans hid) hresponses' (hsent.2.1.trans hnext)
  · rw [if_neg (show ¬(o.plain.env.bufferAvailable = true ∧ n.uri ≠ []) from hroom)] at hsearch
    rw [if_neg hroom]
    obtain ⟨st, hunavailable⟩ := hsearch
    rw [hunavailable]
    exact ⟨_, rfl⟩

/-! ## The whole loop -/

/-- The turn of an observer has sent one notification for it. -/
def Round.Notified (code : UInt8) (r : Round) : Prop :=
  ∃ id p, r.handed = [id] ∧ p.token = r.observer.turn.token ∧ p.code = code ∧
    p.isOption coapOptionObserve = true ∧ r.out = coapSendMessage r.observer.turn.env r.observer.turn.env.csmState
      r.observer.turn.endpoint (coapSerializeMessage p)

/-- What the notification of an observer needs: a transaction, a stack that runs, and, where it goes block by block,
the memory for a buffer. -/
structure Available (n : ObservedSend) (o : ListedObserver) : Prop where
  transaction : HasTransaction o.turn
  running : o.turn.env.mainInitialized = true
  buffer : needs n o = true → o.turn.env.bufferAvailable = true ∧ n.uri ≠ []

/-- The loop has come to its end, and each observer that it does not skip has got one notification. -/
def AllNotified (call : NotifyCall) (n : ObservedSend) (observers : List ListedObserver) (s : Sending) : Prop :=
  ∃ r, notifyEach call n observers s = some r ∧ r.2.map (·.observer) = observers.filter call.isFor ∧
    ∀ round ∈ r.2, round.Notified n.code

theorem notified_iff {s' : Sending} {out : List Output} (hhands : HasTransaction o.plain → Hands n o.plain s s' out)
    (hnone : ¬HasTransaction o.plain → s'.handed = s.handed) :
    (⟨o, out, s'.handed.drop s.handed.length⟩ : Round).Notified n.code ↔
      HasTransaction o.turn ∧ o.turn.env.mainInitialized = true := by
  by_cases htransaction : HasTransaction o.turn
  · obtain ⟨id, p, hhanded, hfor, hout⟩ := hhands htransaction
    have hdrop : s'.handed.drop s.handed.length = [id] := by
      rw [hhanded, List.drop_left]
    rw [and_iff_right htransaction, hdrop]
    cases hmain : o.turn.env.mainInitialized with
    | true =>
      rw [show o.plain.env.mainInitialized = true from hmain, if_pos rfl] at hout
      exact iff_of_true ⟨id, p, rfl, hfor.token, hfor.code, hfor.option, hout⟩ rfl
    | false =>
      rw [show o.plain.env.mainInitialized = false from hmain, if_neg Bool.false_ne_true] at hout
      refine iff_of_false ?_ Bool.false_ne_true
      rintro ⟨_, q, -, -, -, -, hsent⟩
      rw [hout] at hsent
      exact List.append_ne_nil_of_right_ne_nil _ (List.cons_ne_nil _ _) hsent.symm
  · refine iff_of_false ?_ fun h => htransaction h.1
    rintro ⟨id, p, hhanded, -⟩
    rw [hnone htransaction, List.drop_length] at hhanded
    cases hhanded

theorem allNotified_next {call : NotifyCall} {rest : List ListedObserver} {s' : Sending} {out : List Output}
    (hfor : call.isFor o = true) (hround : o.plain.notify n s = .next s' out)
    (hhands : HasTransaction o.plain → Hands n o.plain s s' out)
    (hnone : ¬HasTransaction o.plain → s'.handed = s.handed) :
    AllNotified call n (o :: rest) s ↔
      (HasTransaction o.turn ∧ o.turn.env.mainInitialized = true) ∧ AllNotified call n rest s' := by
  rw [← notified_iff hhands hnone]
  unfold AllNotified
  rw [notifyEach, if_neg (by simp [hfor]), List.filter_cons_of_pos hfor]
  simp only [hround, Option.map_eq_some_iff]
  refine ⟨?_, ?_⟩
  · rintro ⟨_, ⟨r, hr, rfl⟩, hall, hnotified⟩
    refine ⟨hnotified _ List.mem_cons_self, r, hr, ?_, fun round h => hnotified round (List.mem_cons_of_mem _ h)⟩
    exact (List.cons.inj hall).2
  · rintro ⟨hfirst, r, hr, hall, hnotified⟩
    refine ⟨_, ⟨r, hr, rfl⟩, congrArg (o :: ·) hall, fun round h => ?_⟩
    rcases List.mem_cons.1 h with rfl | h
    · exact hfirst
    · exact hnotified round h

/-- Every observer that is not skipped is notified iff each of them has what it needs, and finds no buffer in use. -/
theorem allNotified_iff {call : NotifyCall} (hcode : ∃ status, n.code = ocStatusCode status)
    (hlen : n.payload.length < 2 ^ 16) : ∀ (observers : List ListedObserver) {s : Sending}, Addresses s.engine →
      (∀ o ∈ observers, o.turn.token.length ≤ coapTokenLen) →
      (AllNotified call n observers s ↔ (∀ o ∈ observers.filter call.isFor, Available n o) ∧
        BuffersFree n (observers.filter call.isFor) s.engine.responses)
  | [], s, _, _ => by
    refine iff_of_true ⟨(s, []), rfl, rfl, fun _ h => absurd h List.not_mem_nil⟩ ?_
    refine ⟨fun _ h => absurd h List.not_mem_nil, ?_⟩
    intro before o after h
    cases before <;> cases h
  | o :: rest, s, haddresses, htokens => by
    have htoken := htokens o List.mem_cons_self
    have htokens' : ∀ o ∈ rest, o.turn.token.length ≤ coapTokenLen :=
      fun o ho => htokens o (List.mem_cons_of_mem _ ho)
    by_cases hfor : call.isFor o = true
    · rw [List.filter_cons_of_pos hfor, List.forall_mem_cons]
      by_cases hneeds : needs n o = true
      · by_cases hfree : ∀ b ∈ s.engine.responses.find? (Notify.finds n o), Done b
        · have hround := notify_long hneeds hcode htoken hlen haddresses hfree
          by_cases hroom : o.turn.env.bufferAvailable = true ∧ n.uri ≠ []
          · rw [if_pos hroom] at hround
            obtain ⟨s', out, b, hnext, hb, hused, haddresses', hresponses, hhands, hnone⟩ := hround
            rw [allNotified_next hfor hnext hhands hnone, allNotified_iff hcode hlen rest haddresses' htokens',
              hresponses, buffersFree_long hneeds hb hused]
            constructor
            · rintro ⟨⟨htransaction, hrunning⟩, hrest, hbuffers⟩
              exact ⟨⟨⟨htransaction, hrunning, fun _ => hroom⟩, hrest⟩, hfree, hbuffers⟩
            · rintro ⟨⟨havailable, hrest⟩, -, hbuffers⟩
              exact ⟨⟨havailable.transaction, havailable.running⟩, hrest, hbuffers⟩
          · rw [if_neg hroom] at hround
            obtain ⟨s', hleave⟩ := hround
            refine iff_of_false ?_ fun h => hroom (h.1.1.buffer hneeds)
            rintro ⟨r, hr, hall, -⟩
            rw [notifyEach, if_neg (by simp [hfor])] at hr
            simp only [hleave, Option.some.injEq] at hr
            rw [← hr, List.filter_cons_of_pos hfor] at hall
            cases hall
        · -- a buffer in use stops the search
          have hinUse : o.plain.notify n s = .inUse := by
            obtain ⟨b, hb, hused⟩ : ∃ b ∈ s.engine.responses.find? (Notify.finds n o), ¬Done b := by
              simpa only [not_forall, exists_prop] using hfree
            exact notify_inUse_iff.2 ⟨hneeds, b, hb, hused⟩
          refine iff_of_false ?_ fun h => hfree ((freeBehind_zero _ _).1 ((buffersFree_cons.1 h.2).1 hneeds))
          rintro ⟨r, hr, -, -⟩
          rw [notifyEach, if_neg (by simp [hfor])] at hr
          simp only [hinUse, reduceCtorEq] at hr
      · obtain ⟨s', out, hnext, hresponses, hid, hhands, hnone⟩ := notify_short (s := s) hneeds hcode htoken
        have haddresses' : Addresses s'.engine := ⟨hresponses ▸ haddresses.nodup, hresponses ▸ hid ▸ haddresses.below⟩
        rw [allNotified_next hfor hnext hhands hnone, allNotified_iff hcode hlen rest haddresses' htokens',
          hresponses, buffersFree_short hneeds]
        constructor
        · rintro ⟨⟨htransaction, hrunning⟩, hrest, hbuffers⟩
          exact ⟨⟨⟨htransaction, hrunning, fun h => absurd h hneeds⟩, hrest⟩, hbuffers⟩
        · rintro ⟨⟨havailable, hrest⟩, hbuffers⟩
          exact ⟨⟨havailable.transaction, havailable.running⟩, hrest, hbuffers⟩
    · rw [List.filter_cons_of_neg hfor, ← allNotified_iff hcode hlen rest haddresses htokens']
      unfold AllNotified
      rw [notifyEach, if_pos (by simpa using hfor), List.filter_cons_of_neg hfor]

end Rounds

/-! ## The call -/

section Call

variable {call : NotifyCall} {observers : List ListedObserver} {s : Sending} {r : SeparateResponse}

/-- The call ends, and each observer of the resource that it is for has got one notification. -/
def NotifiedOnce (call : NotifyCall) (observers : List ListedObserver) (s : Sending) (r : SeparateResponse) : Prop :=
  ∃ fuel result, coapNotifyObservers call fuel observers s r = some result ∧
    result.rounds.map (·.observer) = observers.filter call.isFor ∧
    ∀ status payload, call.answer = .answered status payload →
      ∀ round ∈ result.rounds, round.Notified (ocStatusCode status)

/-- When each observer gets its notification: there is none, or the device is in RFNOP, the resource counts its
observers, there is memory for the payload and an answer that is sent now, and each observer has what its
notification needs, and finds no buffer in use. -/
def Notifies (call : NotifyCall) (observers : List ListedObserver) (s : Sending) : Prop :=
  observers.filter call.isFor = [] ∨
    call.rfnop = true ∧ call.resource.numObservers > 0 ∧ call.memory = true ∧
      ∃ status payload, call.answer = .answered status payload ∧
        (∀ o ∈ observers.filter call.isFor, Available (call.send status payload) o) ∧
        BuffersFree (call.send status payload) (observers.filter call.isFor) s.engine.responses

theorem notifiedOnce_nobody {result : NotifyResult}
    (h : ∀ fuel, coapNotifyObservers call fuel observers s r = some result) (hrounds : result.rounds = []) :
    NotifiedOnce call observers s r ↔ observers.filter call.isFor = [] := by
  unfold NotifiedOnce
  refine ⟨?_, fun hnobody => ⟨0, result, h 0, ?_, ?_⟩⟩
  · rintro ⟨fuel, x, hx, hall, -⟩
    rw [h fuel, Option.some.injEq] at hx
    rw [← hall, ← hx, hrounds]
    rfl
  · rw [hrounds, hnobody]
    rfl
  · intro status payload _ round hround
    rw [hrounds] at hround
    cases hround

theorem notifyCounted_nobody (r' : SeparateResponse) (hrfnop : call.rfnop = true)
    (hcounted : call.resource.numObservers > 0)
    (h : ∀ fuel, notifyCounted call fuel observers s r = some (s, r', [])) :
    NotifiedOnce call observers s r ↔ observers.filter call.isFor = [] := by
  have hcall (fuel : Nat) : coapNotifyObservers call fuel observers s r =
      some ⟨(notifyCollections call.collections s).1, r', [], (notifyCollections call.collections s).2⟩ := by
    unfold coapNotifyObservers
    rw [if_neg (by simp [hrfnop]), if_pos hcounted, h fuel]
    rfl
  exact notifiedOnce_nobody hcall rfl

theorem notifiedOnce_answered {status : OcStatus} {payload : OcString} (hrfnop : call.rfnop = true)
    (hcounted : call.resource.numObservers > 0) (hmemory : call.memory = true)
    (hanswer : call.answer = .answered status payload) :
    NotifiedOnce call observers s r ↔ AllNotified call (call.send status payload) observers s := by
  have hcall (fuel : Nat) : coapNotifyObservers call fuel observers s r =
      (notifyLoop call (call.send status payload) fuel observers s).map fun x =>
        ⟨(notifyCollections call.collections x.1).1, r, x.2,
          x.2.flatMap (·.out) ++ (notifyCollections call.collections x.1).2⟩ := by
    unfold coapNotifyObservers notifyCounted
    rw [if_neg (by simp [hrfnop]), if_pos hcounted, if_neg (by simp [hmemory]), hanswer]
    simp only [Option.map_map]
    rfl
  unfold NotifiedOnce AllNotified
  simp only [hcall, hanswer, Option.map_eq_some_iff]
  refine ⟨?_, ?_⟩
  · rintro ⟨fuel, _, ⟨x, hx, rfl⟩, hall, hnotified⟩
    exact ⟨x, (notifyLoop_iff observers s x).1 ⟨fuel, hx⟩, hall, hnotified status payload rfl⟩
  · rintro ⟨x, hx, hall, hnotified⟩
    obtain ⟨fuel, hfuel⟩ := (notifyLoop_iff observers s x).2 hx
    refine ⟨fuel, _, ⟨x, hfuel, rfl⟩, hall, fun status' payload' heq => ?_⟩
    obtain ⟨rfl, rfl⟩ := GetAnswer.answered.inj heq
    exact hnotified

/-- The call ends and each observer of the resource gets exactly one notification, if and only if the condition
holds. -/
theorem notifiedOnce_iff (call : NotifyCall) (observers : List ListedObserver) (s : Sending) (r : SeparateResponse)
    (haddresses : Addresses s.engine) (htokens : ∀ o ∈ observers, o.turn.token.length ≤ coapTokenLen)
    (hlen : ∀ status payload, call.answer = .answered status payload → payload.length < 2 ^ 16) :
    NotifiedOnce call observers s r ↔ Notifies call observers s := by
  unfold Notifies
  by_cases hrfnop : call.rfnop = true
  · by_cases hcounted : call.resource.numObservers > 0
    · by_cases hmemory : call.memory = true
      · cases hanswer : call.answer with
        | ignored =>
          rw [notifyCounted_nobody r hrfnop hcounted fun fuel => by
            rw [notifyCounted, if_neg (by simp [hmemory]), hanswer]]
          simp
        | separate =>
          rw [notifyCounted_nobody (separateLoop call observers r) hrfnop hcounted fun fuel => by
            rw [notifyCounted, if_neg (by simp [hmemory]), hanswer]]
          simp
        | answered status payload =>
          rw [notifiedOnce_answered hrfnop hcounted hmemory hanswer,
            allNotified_iff ⟨status, rfl⟩ (hlen status payload hanswer) observers haddresses htokens]
          refine ⟨fun h => .inr ⟨hrfnop, hcounted, hmemory, status, payload, rfl, h⟩, ?_⟩
          rintro (hnobody | ⟨-, -, -, status', payload', heq, h⟩)
          · rw [hnobody]
            refine ⟨fun _ ho => absurd ho List.not_mem_nil, fun before o after h => ?_⟩
            cases before <;> cases h
          · obtain ⟨rfl, rfl⟩ := GetAnswer.answered.inj heq
            exact h
      · rw [notifyCounted_nobody r hrfnop hcounted fun fuel => by
          rw [notifyCounted, if_pos (by simpa using hmemory)]]
        simp [hmemory]
    · have hcall (fuel : Nat) : coapNotifyObservers call fuel observers s r =
          some ⟨(notifyCollections call.collections s).1, r, [], (notifyCollections call.collections s).2⟩ := by
        unfold coapNotifyObservers
        rw [if_neg (by simp [hrfnop]), if_neg hcounted]
        rfl
      rw [notifiedOnce_nobody hcall rfl]
      simp [hcounted]
  · have hcall (fuel : Nat) : coapNotifyObservers call fuel observers s r = some ⟨s, r, [], []⟩ := by
      unfold coapNotifyObservers
      rw [if_pos (by simpa using hrfnop)]
    rw [notifiedOnce_nobody hcall rfl]
    simp [hrfnop]

end Call

/-! ## Two notifications -/

/-- A call for the observers of the resource at "/a", with a response of 20 bytes. -/
def sampleCall : NotifyCall where
  rfnop := true
  resource := { Observe.sampleResource with numObservers := 1 }
  endpoint := none
  given := none
  memory := true
  handler := .answered .ok (List.replicate 20 7)
  collections := []

/-- Its observer over UDP, for blocks of some size. -/
def sampleObserver (block2Size : UInt16) : ListedObserver where
  turn := ⟨sampleEnv, peer false, [1], block2Size, 3, []⟩
  resource := 0
  ifaceMask := 0
  entryAvailable := true

theorem notifiedOnce_iff_sample :
    NotifiedOnce sampleCall [sampleObserver 64] ⟨Engine.init 7, []⟩ ⟨false, []⟩ ↔
      Notifies sampleCall [sampleObserver 64] ⟨Engine.init 7, []⟩ := by
  refine notifiedOnce_iff sampleCall [sampleObserver 64] ⟨Engine.init 7, []⟩ ⟨false, []⟩
    ⟨List.nodup_nil, fun _ h => absurd h List.not_mem_nil⟩ (fun o ho => ?_) fun status payload h => ?_
  · rw [List.mem_singleton.1 ho]
    decide
  · have hsame : GetAnswer.answered .ok (List.replicate 20 7) = .answered status payload := h
    obtain ⟨-, rfl⟩ := GetAnswer.answered.inj hsame
    decide

/-- What the first of two notifications in blocks of 16 bytes leaves. -/
def sampleFirst : Option NotifyResult :=
  coapNotifyObservers sampleCall 2 [sampleObserver 16] ⟨Engine.init 7, []⟩ ⟨false, []⟩

/-- The first one is sent, the second one does not end. -/
theorem second_notification_hangs :
    ∃ result, sampleFirst = some result ∧ result.rounds.length = 1 ∧
      ∀ fuel, coapNotifyObservers sampleCall fuel [sampleObserver 16] result.sending result.separate = none := by
  have hsent : sampleFirst.map (fun x => (x.rounds.length,
      (x.sending.engine.responses.find? (finds (sampleCall.send .ok (List.replicate 20 7)) (sampleObserver 16))).map
        fun b => decide (b.payloadSize = b.nextBlockOffset))) = some (1, some false) := by
    decide
  obtain ⟨result, hresult, hpair⟩ := Option.map_eq_some_iff.1 hsent
  obtain ⟨hrounds, hfound⟩ := Prod.mk.inj hpair
  obtain ⟨b, hb, hused⟩ := Option.map_eq_some_iff.1 hfound
  refine ⟨result, hresult, hrounds, fun fuel => ?_⟩
  have hinUse : (sampleObserver 16).plain.notify (sampleCall.send .ok (List.replicate 20 7)) result.sending =
      .inUse :=
    notify_inUse_iff.2 ⟨by decide, b, hb, of_decide_eq_false hused⟩
  have hfor : sampleCall.isFor (sampleObserver 16) = true := by decide
  have hloop : notifyLoop sampleCall (sampleCall.send .ok (List.replicate 20 7)) fuel [sampleObserver 16]
      result.sending = none := notifyLoop_inUse hfor hinUse fuel
  unfold coapNotifyObservers notifyCounted
  rw [if_neg (by decide), if_pos (by decide), if_neg (by decide)]
  show (((notifyLoop sampleCall (sampleCall.send .ok (List.replicate 20 7)) fuel [sampleObserver 16]
    result.sending).map _).map _ : Option NotifyResult) = none
  rw [hloop]
  rfl

end SmartGarage.Notify
