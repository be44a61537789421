/-
What `oc_send_separate_response` leaves of its requests: a transaction that is opened is sent or cleared, unless the
response needs a buffer and there is none to be had, for then the transaction stays in the list.
-/
import SmartGarage.Messaging.SeparateSend

namespace SmartGarage

/-! ## What sending does to the transactions -/

/-- The address of the next transaction is a new one. -/
structure Sending.Fresh (s : Sending) : Prop where
  transactions : ∀ t ∈ s.engine.transactions, t.id < s.engine.nextTransaction
  handed : ∀ id ∈ s.handed, id < s.engine.nextTransaction

/-- The transactions there were, and whether they have been handed over, are as before. -/
structure Sending.Grows (s s' : Sending) : Prop where
  fresh : s'.Fresh
  next : s.engine.nextTransaction ≤ s'.engine.nextTransaction
  old : ∀ t, t.id < s.engine.nextTransaction → (t ∈ s'.engine.transactions ↔ t ∈ s.engine.transactions)
  handed : ∀ id ∈ s.handed, id ∈ s'.handed
  handed_old : ∀ id ∈ s'.handed, id < s.engine.nextTransaction → id ∈ s.handed

/-- Every new transaction that is left has been handed over. -/
structure Sending.Clean (s s' : Sending) : Prop extends s.Grows s' where
  new : ∀ t ∈ s'.engine.transactions, s.engine.nextTransaction ≤ t.id → t.id ∈ s'.handed

/-- Only the buffers and the message number have changed. -/
structure Sending.SameTransactions (s s' : Sending) : Prop where
  transactions : s'.engine.transactions = s.engine.transactions
  next : s'.engine.nextTransaction = s.engine.nextTransaction
  handed : s'.handed = s.handed

/-- The transaction `t` has been opened, and nothing has happened to it. -/
structure Sending.Opens (s : Sending) (t : Transaction) (s' : Sending) : Prop where
  transactions : s'.engine.transactions = s.engine.transactions ++ [t]
  id : t.id = s.engine.nextTransaction
  next : s'.engine.nextTransaction = s.engine.nextTransaction + 1
  handed : s'.handed = s.handed

namespace Sending

variable {s s' s'' : Sending} {t : Transaction} {env : EngineEnv}

theorem Grows.trans (h : s.Grows s') (h' : s'.Grows s'') : s.Grows s'' where
  fresh := h'.fresh
  next := h.next.trans h'.next
  old t ht := (h'.old t (ht.trans_le h.next)).trans (h.old t ht)
  handed id hid := h'.handed id (h.handed id hid)
  handed_old id hid hlt := h.handed_old id (h'.handed_old id hid (hlt.trans_le h.next)) hlt

theorem Clean.trans (h : s.Clean s') (h' : s'.Clean s'') : s.Clean s'' := by
  refine ⟨h.toGrows.trans h'.toGrows, fun t ht hle => ?_⟩
  by_cases hold : t.id < s'.engine.nextTransaction
  · exact h'.handed t.id (h.new t ((h'.old t hold).1 ht) hle)
  · exact h'.new t ht (Nat.le_of_not_lt hold)

theorem SameTransactions.clean (h : s.SameTransactions s') (hfresh : s.Fresh) : s.Clean s' where
  fresh := by
    refine ⟨fun t ht => ?_, fun id hid => ?_⟩
    · rw [h.next]
      exact hfresh.transactions t (h.transactions ▸ ht)
    · rw [h.next]
      exact hfresh.handed id (h.handed ▸ hid)
  next := h.next.ge
  old t _ := by rw [h.transactions]
  handed id hid := h.handed ▸ hid
  handed_old id hid _ := h.handed ▸ hid
  new t ht hle := absurd (hfresh.transactions t (h.transactions ▸ ht)) (Nat.not_lt.2 hle)

theorem Opens.same (h : s.Opens t s') (hsame : s'.SameTransactions s'') : s.Opens t s'' :=
  ⟨hsame.transactions.trans h.transactions, h.id, hsame.next.trans h.next, hsame.handed.trans h.handed⟩

theorem Opens.mem_iff (h : s.Opens t s') {x : Transaction} :
    x ∈ s'.engine.transactions ↔ x ∈ s.engine.transactions ∨ x = t := by
  rw [h.transactions, List.mem_append, List.mem_singleton]

theorem Opens.grows (h : s.Opens t s') (hfresh : s.Fresh) : s.Grows s' where
  fresh := by
    refine ⟨fun x hx => ?_, fun id hid => ?_⟩
    · rw [h.next]
      rcases h.mem_iff.1 hx with hx | rfl
      · exact Nat.lt_succ_of_lt (hfresh.transactions x hx)
      · rw [h.id]
        exact Nat.lt_succ_self _
    · rw [h.next]
      exact Nat.lt_succ_of_lt (hfresh.handed id (h.handed ▸ hid))
  next := by
    rw [h.next]
    exact Nat.le_succ _
  old x hx := h.mem_iff.trans (or_iff_left fun heq => Nat.lt_irrefl t.id (by rw [heq] at hx; rwa [h.id] at hx ⊢))
  handed id hid := h.handed ▸ hid
  handed_old id hid _ := h.handed ▸ hid

theorem Opens.left (h : s.Opens t s') (hfresh : s.Fresh) :
    t ∈ s'.engine.transactions ∧ s.engine.nextTransaction ≤ t.id ∧ t.id ∉ s'.handed := by
  refine ⟨h.mem_iff.2 (.inr rfl), h.id.ge, fun hmem => ?_⟩
  rw [h.handed] at hmem
  exact Nat.lt_irrefl _ (h.id ▸ hfresh.handed _ hmem)

/-- The transaction is taken out of the list, or stays under its address and is handed over. -/
theorem Opens.closed (h : s.Opens t s') (hfresh : s.Fresh)
    (hnext : s''.engine.nextTransaction = s'.engine.nextTransaction)
    (hold : ∀ x, x.id < s.engine.nextTransaction → (x ∈ s''.engine.transactions ↔ x ∈ s'.engine.transactions))
    (hnew : ∀ x ∈ s''.engine.transactions, s.engine.nextTransaction ≤ x.id → x.id = t.id ∧ t.id ∈ s''.handed)
    (hhanded : s''.handed = s'.handed ∨ s''.handed = s'.handed ++ [t.id]) : s.Clean s'' := by
  have hgrows := h.grows hfresh
  have hlt : t.id < s''.engine.nextTransaction := by
    rw [hnext, h.next, h.id]
    exact Nat.lt_succ_self _
  have hmem : ∀ id ∈ s''.handed, id ∈ s'.handed ∨ id = t.id := by
    intro id hid
    rcases hhanded with heq | heq <;> rw [heq] at hid
    · exact .inl hid
    · exact (List.mem_append.1 hid).imp_right List.mem_singleton.1
  refine ⟨⟨⟨fun x hx => ?_, fun id hid => ?_⟩, hgrows.next.trans hnext.ge, fun x hx => ?_, fun id hid => ?_,
    fun id hid hlt' => ?_⟩, fun x hx hle => ?_⟩
  · by_cases hxold : x.id < s.engine.nextTransaction
    · rw [hnext]
      exact hgrows.fresh.transactions x ((hold x hxold).1 hx)
    · rw [(hnew x hx (Nat.le_of_not_lt hxold)).1]
      exact hlt
  · rcases hmem id hid with hid | rfl
    · rw [hnext]
      exact hgrows.fresh.handed id hid
    · exact hlt
  · exact (hold x hx).trans (hgrows.old x hx)
  · have hid' := hgrows.handed id hid
    rcases hhanded with heq | heq <;> rw [heq]
    · exact hid'
    · exact List.mem_append_left _ hid'
  · rcases hmem id hid with hid | rfl
    · exact hgrows.handed_old id hid hlt'
    · exact absurd hlt' (Nat.not_lt.2 h.id.ge)
  · obtain ⟨hid, hhand⟩ := hnew x hx hle
    rw [hid]
    exact hhand

theorem Opens.clear (h : s.Opens t s') (hfresh : s.Fresh) :
    s.Clean (s'.setEngine { s'.engine with transactions := s'.engine.transactions.filter (·.id ≠ t.id) }) := by
  refine h.closed hfresh rfl (fun x hx => ?_) (fun x hx hle => ?_) (.inl rfl)
  · refine List.mem_filter.trans (and_iff_left ?_)
    rw [decide_eq_true_eq]
    exact fun heq => Nat.lt_irrefl _ (h.id ▸ heq ▸ hx)
  · obtain ⟨hmem, hne⟩ := List.mem_filter.1 hx
    rw [decide_eq_true_eq] at hne
    rcases h.mem_iff.1 hmem with hmem | rfl
    · exact absurd (hfresh.transactions x hmem) (Nat.not_lt.2 hle)
    · exact absurd rfl hne

theorem mem_replaceTransaction {l : List Transaction} {t x : Transaction} :
    x ∈ replaceTransaction l t ↔ (x ∈ l ∧ x.id ≠ t.id) ∨ (x = t ∧ ∃ y ∈ l, y.id = t.id) := by
  unfold replaceTransaction
  rw [List.mem_map]
  constructor
  · rintro ⟨y, hy, rfl⟩
    by_cases hid : y.id = t.id
    · rw [if_pos hid]
      exact .inr ⟨rfl, y, hy, hid⟩
    · rw [if_neg hid]
      exact .inl ⟨hy, hid⟩
  · rintro (⟨hx, hid⟩ | ⟨rfl, y, hy, hid⟩)
    · exact ⟨x, hx, if_neg hid⟩
    · exact ⟨y, hy, if_pos hid⟩

/-- Sending the transaction, whether it is kept or cleared behind that. -/
theorem Opens.send (h : s.Opens t s') (hfresh : s.Fresh) (data : OcString) : s.Clean (s'.send env t data).1 := by
  have hkept : s.Clean ⟨{ s'.engine with
      transactions := replaceTransaction s'.engine.transactions { t with data := data } }, s'.handed ++ [t.id]⟩ := by
    refine h.closed hfresh rfl (fun x hx => ?_) (fun x hx hle => ?_) (.inr rfl)
    · have hne : x.id ≠ t.id := fun heq => Nat.lt_irrefl _ (h.id ▸ heq ▸ hx)
      refine mem_replaceTransaction.trans ?_
      constructor
      · rintro (⟨hmem, -⟩ | ⟨rfl, -⟩)
        · exact hmem
        · exact absurd rfl hne
      · exact fun hmem => .inl ⟨hmem, hne⟩
    · refine ⟨?_, List.mem_append_right _ List.mem_cons_self⟩
      rcases mem_replaceTransaction.1 hx with ⟨hmem, hne⟩ | ⟨rfl, -⟩
      · rcases h.mem_iff.1 hmem with hmem | rfl
        · exact absurd (hfresh.transactions x hmem) (Nat.not_lt.2 hle)
        · rfl
      · rfl
  have hcleared : s.Clean ⟨{ s'.engine with transactions := s'.engine.transactions.filter (·.id ≠ t.id) },
      s'.handed ++ [t.id]⟩ := by
    have hclear := h.clear hfresh
    refine h.closed hfresh rfl (fun x hx => ?_) (fun x hx hle => ?_) (.inr rfl)
    · exact (hclear.old x hx).trans (h.grows hfresh |>.old x hx).symm
    · obtain ⟨hmem, hne⟩ := List.mem_filter.1 hx
      rw [decide_eq_true_eq] at hne
      rcases h.mem_iff.1 hmem with hmem | rfl
      · exact absurd (hfresh.transactions x hmem) (Nat.not_lt.2 hle)
      · exact absurd rfl hne
  unfold Sending.send
  dsimp only
  split
  · exact hkept
  · split
    · exact hkept
    · exact hcleared

/-- A transaction that has been opened is gone or handed over in the end. -/
theorem Opens.finish (h : s.Opens t s') (hfresh : s.Fresh) (p : CoapPacket) : s.Clean (s'.finish env t p).1 := by
  unfold Sending.finish
  dsimp only
  split
  · exact h.send hfresh _
  · exact h.clear hfresh

end Sending

section Parts

variable {s s' : Sending} {env : EngineEnv} {st : Engine} {endpoint : OcEndpoint} {t : Transaction}

theorem coapNewTransaction_some (h : coapNewTransaction env s.engine endpoint = (some t, st)) :
    s.Opens t (s.setEngine st) ∧ t.endpoint = endpoint ∧ st.responses = s.engine.responses := by
  unfold coapNewTransaction at h
  dsimp only [Engine.getMid] at h
  split at h
  · cases h
    exact ⟨⟨rfl, rfl, rfl, rfl⟩, rfl, rfl⟩
  · cases h

theorem coapNewTransaction_none (h : coapNewTransaction env s.engine endpoint = (none, st)) :
    s.SameTransactions (s.setEngine st) := by
  unfold coapNewTransaction at h
  dsimp only [Engine.getMid] at h
  split at h
  · cases h
  · cases h
    exact ⟨rfl, rfl, rfl⟩

theorem coapNewTransaction_isSome (env : EngineEnv) (st : Engine) (endpoint : OcEndpoint) :
    (coapNewTransaction env st endpoint).1.isSome ↔ env.transactionAvailable = true ∧ env.messageAvailable = true := by
  unfold coapNewTransaction
  dsimp only [Engine.getMid]
  split
  · rename_i h
    exact iff_of_true rfl h
  · rename_i h
    exact iff_of_false Bool.false_ne_true h

/-- The engine behind the search for a buffer. -/
def BufferSearch.engine? : BufferSearch → Option Engine
  | inUse => none
  | unavailable st | allocated _ st => some st

theorem allocResponseBuffer_same {key : BlockwiseKey} {st' : Engine}
    (h : (allocResponseBuffer env st key).engine? = some st') :
    st'.transactions = st.transactions ∧ st'.nextTransaction = st.nextTransaction := by
  unfold allocResponseBuffer ocBlockwiseAllocResponseBuffer at h
  by_cases hnone : key.href = [] ∨ env.bufferAvailable = false
  · rw [if_pos hnone] at h
    cases h
    exact ⟨rfl, rfl⟩
  · rw [if_neg hnone] at h
    cases h
    exact ⟨rfl, rfl⟩

theorem takeResponseBuffer_same {key : BlockwiseKey} (h : (takeResponseBuffer env s.engine key).engine? = some st) :
    s.SameTransactions (s.setEngine st) := by
  unfold takeResponseBuffer at h
  split at h
  · split at h
    · obtain ⟨htransactions, hnext⟩ := allocResponseBuffer_same h
      exact ⟨htransactions, hnext, rfl⟩
    · cases h
  · obtain ⟨htransactions, hnext⟩ := allocResponseBuffer_same h
    exact ⟨htransactions, hnext, rfl⟩

theorem setResponse_same (b : BlockwiseState) (h : s.SameTransactions (s.setEngine st)) :
    s.SameTransactions (s.setEngine (st.setResponse b)) := ⟨h.transactions, h.next, h.handed⟩

/-! ## Notifications leave nothing behind -/

theorem sendPacket_clean (n : ObservedSend) (o : ObserverTurn) (p : CoapPacket) (hsame : s.SameTransactions s')
    (hfresh : s.Fresh) : s.Clean (o.sendPacket n s' p).1 := by
  have hfresh' : s'.Fresh := (hsame.clean hfresh).fresh
  unfold ObserverTurn.sendPacket
  dsimp only
  split
  · rename_i hnew
    exact (hsame.clean hfresh).trans ((coapNewTransaction_some hnew).1.finish hfresh' _)
  · rename_i hnew
    exact (hsame.clean hfresh).trans ((coapNewTransaction_none hnew).clean hfresh')

/-- The state behind a round of a loop over observers. -/
def NotifyRound.sending? : NotifyRound → Option Sending
  | next s _ | leave s => some s
  | inUse => none

theorem notify_clean (n : ObservedSend) (o : ObserverTurn) (hfresh : s.Fresh)
    (h : (o.notify n s).sending? = some s') : s.Clean s' := by
  unfold ObserverTurn.notify at h
  split at h
  · split at h
    · cases h
    · rename_i st hsearch
      cases h
      exact (takeResponseBuffer_same (by rw [hsearch]; rfl)).clean hfresh
    · rename_i b st hsearch
      cases h
      exact sendPacket_clean n o _ (setResponse_same _ (takeResponseBuffer_same (by rw [hsearch]; rfl))) hfresh
  · cases h
    exact sendPacket_clean n o _ ⟨rfl, rfl, rfl⟩ hfresh

theorem notifyObservers_clean (n : ObservedSend) : ∀ (observers : List ObserverTurn) {s : Sending}
    {r : Sending × List Output}, s.Fresh → notifyObservers n observers s = some r → s.Clean r.1
  | [], s, _, hfresh, h => by
    cases h
    exact Sending.SameTransactions.clean ⟨rfl, rfl, rfl⟩ hfresh
  | o :: rest, s, r, hfresh, h => by
    rw [notifyObservers] at h
    split at h
    · rename_i s' out hround
      obtain ⟨r', hr', rfl⟩ := Option.map_eq_some_iff.1 h
      have hclean : s.Clean s' := notify_clean n o hfresh (by rw [hround]; rfl)
      have hrest : s'.Clean r'.1 := notifyObservers_clean n rest hclean.fresh hr'
      exact hclean.trans hrest
    · rename_i s' hround
      cases h
      exact notify_clean n o hfresh (by rw [hround]; rfl)
    · cases h

theorem notifyCollectionObservers_clean (n : ObservedSend) : ∀ (observers : List ObserverTurn) {s : Sending},
    s.Fresh → s.Clean (notifyCollectionObservers n observers s).1
  | [], s, hfresh => Sending.SameTransactions.clean ⟨rfl, rfl, rfl⟩ hfresh
  | o :: rest, s, hfresh => by
    rw [notifyCollectionObservers]
    split
    · rename_i s' out hround
      have hclean : s.Clean s' := notify_clean n o hfresh (by rw [hround]; rfl)
      exact hclean.trans (notifyCollectionObservers_clean n rest hclean.fresh)
    · rename_i s' hround
      exact notify_clean n o hfresh (by rw [hround]; rfl)
    · exact notifyCollectionObservers_clean n rest hfresh

theorem notifyCollections_clean : ∀ (collections : List (ObservedSend × List ObserverTurn)) {s : Sending},
    s.Fresh → s.Clean (notifyCollections collections s).1
  | [], s, hfresh => Sending.SameTransactions.clean ⟨rfl, rfl, rfl⟩ hfresh
  | (n, observers) :: rest, s, hfresh => by
    rw [notifyCollections]
    have hclean := notifyCollectionObservers_clean n observers hfresh
    exact hclean.trans (notifyCollections_clean rest hclean.fresh)

theorem coapNotifyObservers_clean {input : NotifyInput} {code : UInt8} {payload : OcString}
    {r : Sending × List Output} (hfresh : s.Fresh) (h : coapNotifyObservers input code payload s = some r) :
    s.Clean r.1 := by
  unfold coapNotifyObservers at h
  split at h
  · cases h
    exact Sending.SameTransactions.clean ⟨rfl, rfl, rfl⟩ hfresh
  · obtain ⟨r', hr', rfl⟩ := Option.map_eq_some_iff.1 h
    have hclean := notifyObservers_clean _ _ hfresh hr'
    exact hclean.trans (notifyCollections_clean input.collections hclean.fresh)

end Parts

/-! ## The response to a plain request -/

section Plain

variable {B : BufferSettings} {reply : SeparateReply} {turn : SeparateTurn} {s : Sending} {e : SeparateEntry}
  {p : CoapPacket} {payload : OcString} {block2Size : UInt16}

/-- The message is the response to the request: its token, the code that is given, and the payload, or the first block
of a payload that goes block by block. -/
structure SeparateReply.Answers (reply : SeparateReply) (e : SeparateEntry) (p : CoapPacket) : Prop where
  token : p.token = e.token
  code : p.code = ocStatusCode reply.status
  payload : p.payload =
    if needsBlocks e.endpoint reply.payload e.block2Size then reply.payload.take e.block2Size.toNat else reply.payload
  written : coapSerializeMessage p ≠ []

/-- The bounds of an entry that `coap_separate_accept` makes: the token fits its array, and the block size is not above
`OC_BLOCK_SIZE`. -/
structure SeparateTurn.Fits (turn : SeparateTurn) : Prop where
  token : turn.entry.token.length ≤ coapTokenLen
  block2Size : turn.entry.block2Size.toNat ≤ turn.env.settings.blockSize

/-- What all packets on the way to a response have in common. -/
structure ResponsePacket (e : SeparateEntry) (p : CoapPacket) : Prop extends ShortReply p where
  transportType : p.transportType = if e.endpoint.flags.tcp then .tcp else .udp
  token : p.token = e.token

theorem ocStatusCode_noSignal (status : OcStatus) (p : CoapPacket) (h : p.code = ocStatusCode status) :
    coapCheckSignalMessage p = false := by
  unfold coapCheckSignalMessage
  rw [h]
  cases status <;> simp [ocStatusCode, csm701, ping702, pong703, release704, abort705]

theorem ResponsePacket.apply (B : BufferSettings) (h : ResponsePacket e p) (c : CoapSetter)
    (h1 : ∀ v, c ≠ .uriPath v) (h2 : ∀ v, c ≠ .uriQuery v) (h3 : ∀ v, c ≠ .token v) :
    ResponsePacket e (c.apply B p) := by
  refine ⟨h.toShortReply.apply B c h1 h2, (sameFrame_apply B p c).transportType.trans h.transportType, ?_⟩
  cases c with
  | token t => exact absurd rfl (h3 t)
  | payload b =>
    simp only [CoapSetter.apply, CoapPacket.setPayload]
    split <;> exact h.token
  | block1 num more size =>
    simp only [CoapSetter.apply, CoapPacket.setHeaderBlock1]
    split <;> exact h.token
  | block2 num more size =>
    simp only [CoapSetter.apply, CoapPacket.setHeaderBlock2]
    split <;> exact h.token
  | _ => exact h.token

theorem responsePacket_resume (B : BufferSettings) (htoken : e.token.length ≤ coapTokenLen) (code : UInt8)
    (mid : UInt16) :
    ResponsePacket e ((coapSeparateResume e code mid).setHeaderContentFormat 10000) ∧
      ((coapSeparateResume e code mid).setHeaderContentFormat 10000).payload = [] := by
  have hinit : ∀ p,
      p = (if e.endpoint.flags.tcp then coapTcpInitMessage code else coapUdpInitMessage e.type code mid) →
      ResponsePacket e { p with token := e.token } ∧ p.payload = [] ∧ p.token = [] := by
    rintro p rfl
    refine ⟨⟨⟨?_, ?_, ?_⟩, ?_, rfl⟩, ?_, ?_⟩
    all_goals
      by_cases htcp : e.endpoint.flags.tcp = true
      · simp only [htcp, if_true]
        first
        | exact BitVec.getLsbD_zero
        | rfl
        | exact Nat.zero_le _
      · simp only [htcp, Bool.false_eq_true, if_false]
        first
        | exact BitVec.getLsbD_zero
        | rfl
        | exact Nat.zero_le _
  obtain ⟨hpacket, hpayload, hempty⟩ := hinit _ rfl
  have htok : (if e.token.length ≠ 0 then
      (if e.endpoint.flags.tcp then coapTcpInitMessage code else coapUdpInitMessage e.type code mid).setToken e.token
      else if e.endpoint.flags.tcp then coapTcpInitMessage code else coapUdpInitMessage e.type code mid) =
      { (if e.endpoint.flags.tcp then coapTcpInitMessage code else coapUdpInitMessage e.type code mid) with
        token := e.token } := by
    split
    · rw [CoapPacket.setToken, List.take_of_length_le htoken]
    · rename_i hnil
      rw [not_not, List.length_eq_zero_iff] at hnil
      rw [hnil, ← hempty]
  have hobserve : ∀ p, ResponsePacket e p ∧ p.payload = [] →
      ResponsePacket e (if e.observe = 0 then p.setHeaderObserve 0 else p) ∧
        (if e.observe = 0 then p.setHeaderObserve 0 else p).payload = [] := by
    intro p hp
    split
    · exact ⟨hp.1.apply B (.observe 0) nofun nofun nofun, hp.2⟩
    · exact hp
  unfold coapSeparateResume
  dsimp only
  rw [htok]
  obtain ⟨hp, hnil⟩ := hobserve _ ⟨hpacket, hpayload⟩
  exact ⟨hp.apply B (.contentFormat 10000) nofun nofun nofun, hnil⟩

theorem ResponsePacket.setPayload (h : ResponsePacket e p) (payload : OcString)
    (hlt : payload.length < 2 ^ 16) (hudp : e.endpoint.flags.tcp = false → payload.length ≤ B.blockSize) :
    ResponsePacket e (p.setPayload B payload) ∧ (p.setPayload B payload).payload = payload := by
  refine ⟨h.apply B (.payload payload) nofun nofun nofun, ?_⟩
  have htype := h.transportType
  unfold CoapPacket.setPayload
  by_cases htcp : e.endpoint.flags.tcp = true
  · rw [htcp, if_pos rfl] at htype
    simp only [htype]
    rw [Nat.mod_eq_of_lt (by omega), List.take_length]
  · rw [Bool.not_eq_true] at htcp
    rw [htcp, if_neg Bool.false_ne_true] at htype
    simp only [htype]
    rw [Nat.min_eq_right (hudp htcp), Nat.mod_eq_of_lt hlt, List.take_length]

/-- The packet of a response that carries `payload`, with its code. -/
theorem ResponsePacket.answers (h : ResponsePacket e p) (htoken : e.token.length ≤ coapTokenLen)
    (hpayload : p.payload = if needsBlocks e.endpoint reply.payload e.block2Size
      then reply.payload.take e.block2Size.toNat else reply.payload) :
    reply.Answers e { p with code := ocStatusCode reply.status } where
  token := h.token
  code := rfl
  payload := hpayload
  written := by
    have hshort : ShortReply { p with code := ocStatusCode reply.status } := ⟨h.uriPath, h.uriQuery, h.etag⟩
    refine hshort.fits (ocStatusCode_noSignal reply.status _ rfl) ?_
    rw [show ({ p with code := ocStatusCode reply.status } : CoapPacket).token = p.token from rfl, h.token]
    exact htoken

theorem allocResponseBuffer_allocated_iff (env : EngineEnv) (st : Engine) (key : BlockwiseKey) :
    (∃ b st', allocResponseBuffer env st key = .allocated b st') ↔ env.bufferAvailable = true ∧ key.href ≠ [] := by
  unfold allocResponseBuffer ocBlockwiseAllocResponseBuffer
  by_cases hnone : key.href = [] ∨ env.bufferAvailable = false
  · rw [if_pos hnone]
    refine iff_of_false (fun ⟨_, _, h⟩ => by cases h) fun h => ?_
    rcases hnone with hnone | hnone
    · exact h.2 hnone
    · exact absurd h.1 (by rw [hnone]; exact Bool.false_ne_true)
  · rw [if_neg hnone]
    rw [not_or, Bool.not_eq_false] at hnone
    exact iff_of_true ⟨_, _, rfl⟩ hnone.symm

/-- The first block of a payload longer than a block has its full length. -/
theorem dispatchLength_first (b : BlockwiseState)
    (hlt : payload.length < 2 ^ 16) (hlong : block2Size.toNat < payload.length) :
    dispatchLength { b with buffer := writeAt b.buffer 0 payload, payloadSize := UInt32.ofNat payload.length } 0
      block2Size.toUInt32 = block2Size.toUInt32 := by
  have hpayload : (UInt32.ofNat payload.length).toNat = payload.length := by
    rw [UInt32.toNat_ofNat', Nat.mod_eq_of_lt (by omega)]
  have hrequested : block2Size.toUInt32.toNat = block2Size.toNat := UInt16.toNat_toUInt32 block2Size
  unfold dispatchLength
  dsimp only
  rw [if_neg (by rw [UInt32.lt_iff_toNat_lt, hpayload, hrequested]; omega), UInt32.sub_zero]
  refine if_pos ?_
  rw [UInt32.le_iff_toNat_le, hpayload, hrequested]
  omega

theorem dispatch_first (b : BlockwiseState) (hlt : payload.length < 2 ^ 16)
    (hlong : block2Size.toNat < payload.length) :
    ∃ b', ocBlockwiseDispatchBlock
      { b with buffer := writeAt b.buffer 0 payload, payloadSize := UInt32.ofNat payload.length } 0 block2Size.toUInt32 =
        some (b', payload.take block2Size.toNat) := by
  have hpayload : (UInt32.ofNat payload.length).toNat = payload.length := by
    rw [UInt32.toNat_ofNat', Nat.mod_eq_of_lt (by omega)]
  unfold ocBlockwiseDispatchBlock
  rw [dispatchLength_first b hlt hlong]
  dsimp only
  have hpos : (0 : UInt32) < UInt32.ofNat payload.length := by
    rw [UInt32.lt_iff_toNat_lt, hpayload]
    exact Nat.zero_lt_of_lt hlong
  rw [if_pos hpos, UInt16.toNat_toUInt32]
  refine ⟨_, congrArg (fun block => some (_, block)) ?_⟩
  simp only [writeAt, List.take_zero, List.nil_append, UInt32.toNat_zero, List.drop_zero]
  exact List.take_append_of_le_length (by omega)

theorem dispatchFirst_packet (b : BlockwiseState) (h : ResponsePacket e p)
    (hblocks : needsBlocks e.endpoint reply.payload e.block2Size = true) (hsize : e.block2Size.toNat ≤ B.blockSize) :
    ResponsePacket e (dispatchFirst B b reply.payload e.block2Size p).2 ∧
      (dispatchFirst B b reply.payload e.block2Size p).2.payload = reply.payload.take e.block2Size.toNat := by
  have hlong : e.block2Size.toNat < reply.payload.length := by
    rw [needsBlocks, Bool.and_eq_true, decide_eq_true_eq] at hblocks
    exact hblocks.2
  obtain ⟨b', hdispatch⟩ := dispatch_first b reply.payload_lt hlong
  have hblock : (reply.payload.take e.block2Size.toNat).length = e.block2Size.toNat := by
    rw [List.length_take]
    omega
  have hlt : (reply.payload.take e.block2Size.toNat).length < 2 ^ 16 := by
    rw [hblock]
    exact e.block2Size.toNat_lt
  obtain ⟨hp, hpayload⟩ := h.setPayload (B := B) _ hlt fun _ => by rw [hblock]; exact hsize
  unfold dispatchFirst
  dsimp only
  rw [hdispatch]
  have hp₂ := hp.apply B (.block2 0 1 e.block2Size) nofun nofun nofun
  have hp₃ := hp₂.apply B (.size2 b'.payloadSize) nofun nofun nofun
  refine ⟨hp₃.apply B (.etag b'.etag) nofun nofun nofun, ?_⟩
  refine Eq.trans ?_ hpayload
  dsimp only [CoapPacket.setHeaderBlock2, CoapPacket.setHeaderSize2, CoapPacket.setHeaderEtag, CoapPacket.setOption]
  split <;> rfl

/-- The buffer that a response needs is to be had: none is in use, and one can be allocated. -/
def SeparateTurn.BufferFree (turn : SeparateTurn) (st : Engine) : Prop :=
  (∀ b ∈ st.responses.find? turn.entry.bufferKey.finds, b.payloadSize = b.nextBlockOffset) ∧
    turn.env.bufferAvailable = true ∧ turn.entry.uri ≠ []

theorem takeResponseBuffer_allocated_iff {st : Engine} :
    (∃ b st', takeResponseBuffer turn.env st turn.entry.bufferKey = .allocated b st') ↔ turn.BufferFree st := by
  unfold takeResponseBuffer SeparateTurn.BufferFree
  cases hfind : st.responses.find? turn.entry.bufferKey.finds with
  | none =>
    rw [show turn.entry.uri = turn.entry.bufferKey.href from rfl, ← allocResponseBuffer_allocated_iff _ st]
    exact (and_iff_right fun _ hb => nomatch hb).symm
  | some b =>
    simp only [Option.mem_some_iff, forall_eq']
    by_cases hdone : b.payloadSize = b.nextBlockOffset
    · rw [if_pos hdone, and_iff_right hdone, show turn.entry.uri = turn.entry.bufferKey.href from rfl]
      exact allocResponseBuffer_allocated_iff _ _ _
    · rw [if_neg hdone]
      exact iff_of_false (fun ⟨_, _, h⟩ => by cases h) fun h => hdone h.1

/-- A transaction for the response could be allocated. -/
def SeparateTurn.HasTransaction (turn : SeparateTurn) : Prop :=
  turn.env.transactionAvailable = true ∧ turn.env.messageAvailable = true

/-- The response needs a buffer. -/
def SeparateTurn.needsBuffer (turn : SeparateTurn) (reply : SeparateReply) : Bool :=
  needsBlocks turn.entry.endpoint reply.payload turn.entry.block2Size

/-- The request gets one response with its token, the code and the payload. -/
def SeparateTurn.Answered (turn : SeparateTurn) (reply : SeparateReply) (out : List Output) : Prop :=
  ∃ p, reply.Answers turn.entry p ∧
    out = coapSendMessage turn.env turn.env.csmState turn.entry.endpoint (coapSerializeMessage p)

theorem sendPlain_none (hnone : ¬turn.HasTransaction) (hfresh : s.Fresh) : s.Clean (sendPlain reply turn s).1 := by
  unfold sendPlain
  dsimp only
  split
  · rename_i st hnew
    exact (coapNewTransaction_none hnew).clean hfresh
  · rename_i t st hnew
    exact absurd ((coapNewTransaction_isSome _ _ _).1 (by rw [hnew]; rfl)) hnone

theorem exists_newTransaction (htransaction : turn.HasTransaction) (s : Sending) :
    ∃ t st, coapNewTransaction turn.env s.engine turn.entry.endpoint = (some t, st) := by
  obtain ⟨t, ht⟩ := Option.isSome_iff_exists.1
    ((coapNewTransaction_isSome turn.env s.engine turn.entry.endpoint).2 htransaction)
  exact ⟨t, _, Prod.ext ht rfl⟩

theorem sendPlain_left (htransaction : turn.HasTransaction) (hbuffer : turn.needsBuffer reply = true)
    (hfree : ¬turn.BufferFree s.engine) (hfresh : s.Fresh) :
    s.Grows (sendPlain reply turn s).1 ∧ ∃ t ∈ (sendPlain reply turn s).1.engine.transactions,
      s.engine.nextTransaction ≤ t.id ∧ t.id ∉ (sendPlain reply turn s).1.handed := by
  obtain ⟨t, st, hnew⟩ := exists_newTransaction htransaction s
  obtain ⟨hopens, -, hresponses⟩ := coapNewTransaction_some hnew
  have hfree' : ¬turn.BufferFree st := by
    rw [SeparateTurn.BufferFree, hresponses]
    exact hfree
  rw [SeparateTurn.needsBuffer] at hbuffer
  unfold sendPlain
  simp only [hnew]
  rw [if_pos hbuffer]
  split
  · exact ⟨hopens.grows hfresh, t, hopens.left hfresh⟩
  · rename_i st' hsearch
    have hopens' : s.Opens t (s.setEngine st') :=
      hopens.same (takeResponseBuffer_same (s := s.setEngine st) (congrArg BufferSearch.engine? hsearch))
    exact ⟨hopens'.grows hfresh, t, hopens'.left hfresh⟩
  · rename_i b st' hsearch
    exact absurd (takeResponseBuffer_allocated_iff.1 ⟨b, st', hsearch⟩) hfree'

theorem finish_answers {s' : Sending} {t : Transaction} (hp : reply.Answers turn.entry p)
    (hendpoint : t.endpoint = turn.entry.endpoint) :
    if turn.env.mainInitialized = true then turn.Answered reply (s'.finish turn.env t p).2
      else (s'.finish turn.env t p).2 = [] := by
  unfold Sending.finish Sending.send
  dsimp only
  rw [if_pos (List.length_pos_iff.2 hp.written)]
  by_cases hmain : turn.env.mainInitialized = true
  · rw [if_pos hmain, if_neg (by simp [hmain])]
    exact ⟨p, hp, by rw [hendpoint]⟩
  · rw [if_neg hmain, if_pos (Bool.not_eq_true _ ▸ hmain)]

theorem sendPlain_answered (hfits : turn.Fits) (htransaction : turn.HasTransaction)
    (hfree : turn.needsBuffer reply = true → turn.BufferFree s.engine) (hfresh : s.Fresh) :
    s.Clean (sendPlain reply turn s).1 ∧ (if turn.env.mainInitialized = true
      then turn.Answered reply (sendPlain reply turn s).2 else (sendPlain reply turn s).2 = []) := by
  obtain ⟨t, st, hnew⟩ := exists_newTransaction htransaction s
  obtain ⟨hopens, hendpoint, hresponses⟩ := coapNewTransaction_some hnew
  obtain ⟨hpacket, hnil⟩ := responsePacket_resume turn.env.settings hfits.token (ocStatusCode reply.status) t.mid
  unfold sendPlain
  simp only [hnew]
  by_cases hbuffer : turn.needsBuffer reply = true
  · have hfree' : turn.BufferFree st := by
      rw [SeparateTurn.BufferFree, hresponses]
      exact hfree hbuffer
    obtain ⟨b, st', hsearch⟩ := takeResponseBuffer_allocated_iff.2 hfree'
    have hsame := takeResponseBuffer_same (s := s.setEngine st) (congrArg BufferSearch.engine? hsearch)
    rw [SeparateTurn.needsBuffer] at hbuffer
    rw [if_pos hbuffer]
    simp only [hsearch]
    obtain ⟨hfirst, hblock⟩ := dispatchFirst_packet b hpacket hbuffer hfits.block2Size
    have hanswers : reply.Answers turn.entry _ := hfirst.answers hfits.token (by rw [hblock, if_pos hbuffer])
    exact ⟨(hopens.same (setResponse_same _ hsame)).finish hfresh _, finish_answers hanswers hendpoint⟩
  · rw [SeparateTurn.needsBuffer] at hbuffer
    rw [if_neg hbuffer]
    refine ⟨hopens.finish hfresh _, finish_answers ?_ hendpoint⟩
    have hshort : turn.entry.endpoint.flags.tcp = false →
        reply.payload.length ≤ turn.env.settings.blockSize := by
      intro htcp
      rw [needsBlocks, htcp, Bool.not_false, Bool.true_and, decide_eq_true_eq, not_lt] at hbuffer
      exact hbuffer.trans hfits.block2Size
    split
    · obtain ⟨hwhole, hpayload⟩ := hpacket.setPayload reply.payload reply.payload_lt hshort
      exact hwhole.answers hfits.token (by rw [hpayload, if_neg hbuffer])
    · rename_i hempty
      have hempty' : reply.payload = [] := List.length_eq_zero_iff.1 (Nat.eq_zero_of_not_pos hempty)
      exact hpacket.answers hfits.token (by rw [hnil, if_neg hbuffer, hempty'])

end Plain

/-! ## All requests -/

/-- An observer's buffer is in use when its turn comes, at the next round of the loop or at a later one. -/
def StuckAt (n : ObservedSend) : List ObserverTurn → Sending → Prop
  | [], _ => False
  | o :: rest, s =>
    (needsBlocks o.endpoint n.payload o.block2Size = true ∧
      ∃ b ∈ s.engine.responses.find? (o.key n).finds, b.payloadSize ≠ b.nextBlockOffset) ∨
    match o.notify n s with
    | .next s _ => StuckAt n rest s
    | _ => False

/-- The condition on a request in its turn: one that is left to `coap_notify_observers` finds no observer whose buffer
is in use; a plain one that gets a transaction finds the stack initialised, and the buffer that its response needs. -/
def SeparateTurn.Served (turn : SeparateTurn) (reply : SeparateReply) (s : Sending) : Prop :=
  if turn.entry.observe < 3 then
    turn.HasTransaction → turn.env.mainInitialized = true ∧ (turn.needsBuffer reply = true → turn.BufferFree s.engine)
  else ∀ input ∈ turn.resource, input.rfnop = true → input.observed = true →
    ¬StuckAt ⟨input.uri, ocStatusCode reply.status, reply.payload, input.observed⟩ input.observers s

/-- Every request meets its condition in its turn. -/
def AllServed (reply : SeparateReply) : List SeparateTurn → Sending → Prop
  | [], _ => True
  | turn :: rest, s => turn.Served reply s ∧ ∀ r ∈ sendTurn reply turn s, AllServed reply rest r.1

/-- Each plain request whose transaction and buffer could be allocated is answered in its turn. -/
def AllAnswered (reply : SeparateReply) : List SeparateTurn → Sending → Prop
  | [], _ => True
  | turn :: rest, s => ∀ r ∈ sendTurn reply turn s,
    (turn.entry.observe < 3 → turn.HasTransaction → (turn.needsBuffer reply = true → turn.BufferFree s.engine) →
      turn.Answered reply r.2) ∧ AllAnswered reply rest r.1

section Runs

variable {reply : SeparateReply} {turn : SeparateTurn} {s s' : Sending} {n : ObservedSend}

theorem takeResponseBuffer_inUse_iff (env : EngineEnv) (st : Engine) (key : BlockwiseKey) :
    takeResponseBuffer env st key = .inUse ↔ ∃ b ∈ st.responses.find? key.finds, b.payloadSize ≠ b.nextBlockOffset := by
  have halloc : ∀ st, allocResponseBuffer env st key ≠ .inUse := by
    intro st h
    unfold allocResponseBuffer at h
    split at h <;> cases h
  unfold takeResponseBuffer
  cases hfind : st.responses.find? key.finds with
  | none => exact iff_of_false (halloc st) fun ⟨_, hb, _⟩ => nomatch hb
  | some b =>
    simp only [Option.mem_some_iff, exists_eq_left']
    by_cases hdone : b.payloadSize = b.nextBlockOffset
    · rw [if_pos hdone]
      exact iff_of_false (halloc _) (not_not_intro hdone)
    · rw [if_neg hdone]
      exact iff_of_true rfl hdone

theorem notify_inUse_iff {o : ObserverTurn} : o.notify n s = .inUse ↔
    needsBlocks o.endpoint n.payload o.block2Size = true ∧
      ∃ b ∈ s.engine.responses.find? (o.key n).finds, b.payloadSize ≠ b.nextBlockOffset := by
  rw [← takeResponseBuffer_inUse_iff o.env]
  unfold ObserverTurn.notify
  split
  · rename_i hblocks
    rw [and_iff_right hblocks]
    split
    · rename_i hsearch
      exact iff_of_true rfl hsearch
    · rename_i hsearch
      exact iff_of_false nofun (by rw [hsearch]; nofun)
    · rename_i hsearch
      exact iff_of_false nofun (by rw [hsearch]; nofun)
  · rename_i hblocks
    exact iff_of_false nofun fun h => hblocks h.1

theorem notifyObservers_eq_none : ∀ (observers : List ObserverTurn) (s : Sending),
    notifyObservers n observers s = none ↔ StuckAt n observers s
  | [], s => iff_of_false nofun id
  | o :: rest, s => by
    rw [notifyObservers, StuckAt, ← notify_inUse_iff]
    cases hround : o.notify n s with
    | next s' out =>
      simp only [reduceCtorEq, false_or, Option.map_eq_none_iff]
      exact notifyObservers_eq_none rest s'
    | leave s' => simp
    | inUse => simp

theorem coapNotifyObservers_eq_none {input : NotifyInput} {code : UInt8} :
    coapNotifyObservers input code payload s = none ↔ input.rfnop = true ∧ input.observed = true ∧
      StuckAt ⟨input.uri, code, payload, input.observed⟩ input.observers s := by
  unfold coapNotifyObservers
  by_cases hrfnop : input.rfnop = false
  · rw [if_pos hrfnop]
    exact iff_of_false nofun fun h => absurd (hrfnop.symm.trans h.1) Bool.false_ne_true
  · rw [if_neg hrfnop, Option.map_eq_none_iff, notifyObservers_eq_none, and_iff_right (Bool.not_eq_false _ ▸ hrfnop)]
    by_cases hobserved : input.observed = true
    · rw [if_pos hobserved, and_iff_right hobserved]
    · rw [if_neg hobserved]
      exact iff_of_false id fun h => hobserved h.1

theorem answered_ne_nil {out : List Output} (h : turn.Answered reply out) : out ≠ [] := by
  obtain ⟨p, -, rfl⟩ := h
  unfold coapSendMessage
  exact List.append_ne_nil_of_right_ne_nil _ (List.cons_ne_nil _ _)

theorem sendTurn_served (hfits : turn.Fits) (hserved : turn.Served reply s) (hfresh : s.Fresh) :
    ∃ r, sendTurn reply turn s = some r ∧ s.Clean r.1 ∧
      (turn.entry.observe < 3 → turn.HasTransaction → turn.Answered reply r.2) := by
  unfold SeparateTurn.Served at hserved
  unfold sendTurn
  by_cases hplain : turn.entry.observe < 3
  · rw [if_pos hplain] at hserved ⊢
    refine ⟨_, rfl, ?_⟩
    by_cases htransaction : turn.HasTransaction
    · obtain ⟨hmain, hfree⟩ := hserved htransaction
      obtain ⟨hclean, hanswered⟩ := sendPlain_answered hfits htransaction hfree hfresh
      rw [if_pos hmain] at hanswered
      exact ⟨hclean, fun _ _ => hanswered⟩
    · exact ⟨sendPlain_none htransaction hfresh, fun _ h => absurd h htransaction⟩
  · rw [if_neg hplain] at hserved ⊢
    cases hresource : turn.resource with
    | none => exact ⟨_, rfl, Sending.SameTransactions.clean ⟨rfl, rfl, rfl⟩ hfresh, fun h => absurd h hplain⟩
    | some input =>
      cases hnotify : coapNotifyObservers input (ocStatusCode reply.status) reply.payload s with
      | none =>
        obtain ⟨hrfnop, hobserved, hstuck⟩ := coapNotifyObservers_eq_none.1 hnotify
        exact absurd hstuck (hserved input hresource hrfnop hobserved)
      | some r => exact ⟨r, hnotify, coapNotifyObservers_clean hfresh hnotify, fun h => absurd h hplain⟩

/-- A transaction that has been opened in this turn and is left behind. -/
def Sending.Leaves (s s' : Sending) : Prop :=
  ∃ t ∈ s'.engine.transactions, s.engine.nextTransaction ≤ t.id ∧ t.id ∉ s'.handed

theorem sendTurn_unserved (hfits : turn.Fits) (hserved : ¬turn.Served reply s) (hfresh : s.Fresh)
    {r : Sending × List Output} (h : sendTurn reply turn s = some r) :
    s.Leaves r.1 ∨ (turn.entry.observe < 3 ∧ turn.HasTransaction ∧
      (turn.needsBuffer reply = true → turn.BufferFree s.engine) ∧ ¬turn.Answered reply r.2) := by
  unfold SeparateTurn.Served at hserved
  unfold sendTurn at h
  by_cases hplain : turn.entry.observe < 3
  · rw [if_pos hplain] at hserved h
    rw [Classical.not_imp] at hserved
    obtain ⟨htransaction, hnot⟩ := hserved
    cases h
    by_cases hfree : turn.needsBuffer reply = true → turn.BufferFree s.engine
    · have hmain : ¬turn.env.mainInitialized = true := fun hmain => hnot ⟨hmain, hfree⟩
      obtain ⟨-, hsilent⟩ := sendPlain_answered hfits htransaction hfree hfresh
      rw [if_neg hmain] at hsilent
      exact .inr ⟨hplain, htransaction, hfree, fun hanswered => answered_ne_nil hanswered hsilent⟩
    · rw [Classical.not_imp] at hfree
      exact .inl (sendPlain_left htransaction hfree.1 hfree.2 hfresh).2
  · rw [if_neg hplain] at hserved h
    simp only [not_forall, not_not] at hserved
    obtain ⟨input, hresource, hrfnop, hobserved, hstuck⟩ := hserved
    rw [hresource] at h
    have hnone := coapNotifyObservers_eq_none.2 ⟨hrfnop, hobserved, hstuck⟩
    exact absurd (hnone.symm.trans h) nofun

theorem sendTurn_grows (hfits : turn.Fits) (hfresh : s.Fresh) {r : Sending × List Output}
    (h : sendTurn reply turn s = some r) : s.Grows r.1 := by
  unfold sendTurn at h
  split at h
  · cases h
    by_cases htransaction : turn.HasTransaction
    · by_cases hfree : turn.needsBuffer reply = true → turn.BufferFree s.engine
      · exact (sendPlain_answered hfits htransaction hfree hfresh).1.toGrows
      · rw [Classical.not_imp] at hfree
        exact (sendPlain_left htransaction hfree.1 hfree.2 hfresh).1
    · exact (sendPlain_none htransaction hfresh).toGrows
  · split at h
    · exact (coapNotifyObservers_clean hfresh h).toGrows
    · cases h
      exact (Sending.SameTransactions.clean ⟨rfl, rfl, rfl⟩ hfresh).toGrows

theorem ocSendSeparateResponse_grows : ∀ (turns : List SeparateTurn) {s : Sending}
    {r : Sending × List (List Output)}, (∀ turn ∈ turns, turn.Fits) → s.Fresh →
    ocSendSeparateResponse reply turns s = some r → s.Grows r.1
  | [], s, _, _, hfresh, h => by
    cases h
    exact (Sending.SameTransactions.clean ⟨rfl, rfl, rfl⟩ hfresh).toGrows
  | turn :: rest, s, r, hfits, hfresh, h => by
    rw [ocSendSeparateResponse] at h
    split at h
    · rename_i s' out hturn
      obtain ⟨r', hr', rfl⟩ := Option.map_eq_some_iff.1 h
      have hgrows : s.Grows s' := sendTurn_grows (hfits turn List.mem_cons_self) hfresh hturn
      have hrest : s'.Grows r'.1 :=
        ocSendSeparateResponse_grows rest (fun t ht => hfits t (List.mem_cons_of_mem _ ht)) hgrows.fresh hr'
      exact hgrows.trans hrest
    · cases h

/-- No transaction from the address `first` on is left that has not been handed over. -/
def Sending.NothingLeft (first : Nat) (s : Sending) : Prop :=
  ∀ t ∈ s.engine.transactions, first ≤ t.id → t.id ∈ s.handed

/-- What is left behind once is left in the end. -/
theorem Sending.Grows.nothingLeft {first : Nat} (h : s.Grows s') (hfresh : s.Fresh) (hnone : s'.NothingLeft first) :
    s.NothingLeft first := by
  intro t ht hle
  have hlt := hfresh.transactions t ht
  exact h.handed_old t.id (hnone t ((h.old t hlt).2 ht) hle) hlt

theorem Sending.Clean.nothingLeft {first : Nat} (h : s.Clean s') (hnone : s.NothingLeft first) :
    s'.NothingLeft first := by
  intro t ht hle
  by_cases hold : t.id < s.engine.nextTransaction
  · exact h.handed t.id (hnone t ((h.old t hold).1 ht) hle)
  · exact h.new t ht (Nat.le_of_not_lt hold)

theorem sendSeparate_iff {first : Nat} : ∀ (turns : List SeparateTurn) {s : Sending}, (∀ turn ∈ turns, turn.Fits) →
    s.Fresh → first ≤ s.engine.nextTransaction → s.NothingLeft first →
    ((∃ r, ocSendSeparateResponse reply turns s = some r ∧ r.1.NothingLeft first) ∧ AllAnswered reply turns s ↔
      AllServed reply turns s)
  | [], s, _, _, _, hnone => iff_of_true ⟨⟨_, rfl, hnone⟩, trivial⟩ trivial
  | turn :: rest, s, hfits, hfresh, hfirst, hnone => by
    have hturn : turn.Fits := hfits turn List.mem_cons_self
    have hrest : ∀ t ∈ rest, t.Fits := fun t ht => hfits t (List.mem_cons_of_mem _ ht)
    rw [ocSendSeparateResponse, AllAnswered, AllServed]
    by_cases hserved : turn.Served reply s
    · obtain ⟨r, hr, hclean, hanswered⟩ := sendTurn_served hturn hserved hfresh
      have ih := sendSeparate_iff rest hrest hclean.fresh (hfirst.trans hclean.next) (hclean.nothingLeft hnone)
      simp only [hr, Option.mem_some_iff, forall_eq', Option.map_eq_some_iff, and_iff_right hserved]
      rw [← ih]
      constructor
      · rintro ⟨⟨_, ⟨r', hr', rfl⟩, hleft⟩, -, hall⟩
        exact ⟨⟨r', hr', hleft⟩, hall⟩
      · rintro ⟨⟨r', hr', hleft⟩, hall⟩
        exact ⟨⟨_, ⟨r', hr', rfl⟩, hleft⟩, fun hplain htransaction _ => hanswered hplain htransaction, hall⟩
    · refine iff_of_false ?_ fun h => hserved h.1
      rintro ⟨⟨r, hr, hleft⟩, hanswered⟩
      cases hsend : sendTurn reply turn s with
      | none =>
        rw [hsend] at hr
        cases hr
      | some r₁ =>
        rw [hsend] at hr
        obtain ⟨r', hr', rfl⟩ := Option.map_eq_some_iff.1 hr
        have hgrows := sendTurn_grows hturn hfresh hsend
        have hleft' : r₁.1.NothingLeft first :=
          (ocSendSeparateResponse_grows rest hrest hgrows.fresh hr').nothingLeft hgrows.fresh hleft
        rcases sendTurn_unserved hturn hserved hfresh hsend with
          ⟨t, ht, hle, hnot⟩ | ⟨hplain, htransaction, hfree, hnot⟩
        · exact hnot (hleft' t ht (hfirst.trans hle))
        · exact hnot ((hanswered r₁ hsend).1 hplain htransaction hfree)

end Runs

/-- `oc_send_separate_response` returns, leaves no transaction behind that it has opened and neither sent nor cleared,
and answers each plain request whose transaction and buffer could be allocated, if and only if every request meets its
condition in its turn. -/
theorem separate_answered_iff (reply : SeparateReply) (turns : List SeparateTurn) (st : Engine)
    (hfits : ∀ turn ∈ turns, turn.Fits) (hfresh : ∀ t ∈ st.transactions, t.id < st.nextTransaction) :
    (∃ r, ocSendSeparateResponse reply turns ⟨st, []⟩ = some r ∧ r.1.NothingLeft st.nextTransaction) ∧
        AllAnswered reply turns ⟨st, []⟩ ↔
      AllServed reply turns ⟨st, []⟩ :=
  sendSeparate_iff turns hfits ⟨hfresh, nofun⟩ (Nat.le_refl _)
    fun t ht hle => absurd (hfresh t ht) (Nat.not_lt.2 hle)

/-- A request without an observe option, from one client and for one path. -/
def plainTurn (token : UInt8) (block2Size : UInt16) : SeparateTurn where
  entry := ⟨.non, [token], block2Size, 2, peer false, coapGet, ascii "slow"⟩
  env := sampleEnv
  resource := none

/-- A payload of 20 bytes. -/
def twentyBytes : SeparateReply := ⟨.ok, List.replicate 20 7, by decide⟩

/-- Two requests whose response fits a block. -/
theorem separate_answered_two :
    (∃ r, ocSendSeparateResponse twentyBytes [plainTurn 1 64, plainTurn 2 64] ⟨Engine.init 7, []⟩ = some r ∧
        r.1.NothingLeft 0) ∧
      AllAnswered twentyBytes [plainTurn 1 64, plainTurn 2 64] ⟨Engine.init 7, []⟩ := by
  have hfits : ∀ turn ∈ [plainTurn 1 64, plainTurn 2 64], turn.Fits := by
    intro turn hturn
    rcases List.mem_pair.1 hturn with rfl | rfl <;> exact ⟨by decide, by decide⟩
  have hserved : ∀ (token : UInt8) (s : Sending), (plainTurn token 64).Served twentyBytes s := by
    intro token s
    unfold SeparateTurn.Served
    rw [if_pos (show (plainTurn token 64).entry.observe < 3 from by simp only [plainTurn]; decide)]
    refine fun _ => ⟨rfl, fun hneeds => ?_⟩
    simp [SeparateTurn.needsBuffer, plainTurn, needsBlocks, twentyBytes] at hneeds
  exact (separate_answered_iff twentyBytes _ (Engine.init 7) hfits nofun).2
    ⟨hserved 1 _, fun _ _ => ⟨hserved 2 _, fun _ _ => trivial⟩⟩

/-- Two requests of one client whose response takes two blocks: the buffer of the first one is in use when the second
one comes, and its transaction is left in the list. -/
theorem separate_left :
    (ocSendSeparateResponse twentyBytes [plainTurn 1 16, plainTurn 2 16] ⟨Engine.init 7, []⟩).map
      (fun r => (r.1.engine.transactions.map fun t => (t.id, t.data), r.1.handed)) = some ([(1, [])], [0]) := by
  decide

end SmartGarage
