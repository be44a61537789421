/-
What the timers do to the transactions: each of them is sent again, times out, or goes with its session,
and one that has timed out is gone as long as a secured one still has its session.
-/
import SmartGarage.Messaging.Events

namespace SmartGarage

/-! ## Lists of transactions -/

/-- The transactions stand in the order of their addresses. -/
def Sorted (l : List Transaction) : Prop := l.Pairwise (·.id < ·.id)

section

variable {l : List Transaction}

theorem Sorted.eq_of_id (h : Sorted l) {s t : Transaction} (hs : s ∈ l) (ht : t ∈ l) (hid : s.id = t.id) : s = t := by
  induction h with
  | nil => cases hs
  | cons hhead hrest ih =>
    rename_i a rest
    rcases List.mem_cons.1 hs with rfl | hs'
    · rcases List.mem_cons.1 ht with rfl | ht'
      · rfl
      · have hlt := hhead t ht'
        omega
    · rcases List.mem_cons.1 ht with rfl | ht'
      · have hlt := hhead s hs'
        omega
      · exact ih hs' ht'

theorem Sorted.filter (h : Sorted l) (p : Transaction → Bool) : Sorted (l.filter p) :=
  List.Pairwise.filter p h

theorem Sorted.replace (h : Sorted l) (t : Transaction) : Sorted (replaceTransaction l t) := by
  refine List.pairwise_map.2 (h.imp ?_)
  intro a b hab
  split <;> split <;> omega

theorem mem_replaceTransaction {s t : Transaction} (hs : s ∈ replaceTransaction l t) :
    s = t ∨ (s ∈ l ∧ s.id ≠ t.id) := by
  obtain ⟨a, ha, rfl⟩ := List.mem_map.1 hs
  split
  · exact .inl rfl
  · rename_i hne
    exact .inr ⟨ha, hne⟩

theorem mem_replaceTransaction_of_ne {s t : Transaction} (hs : s ∈ l) (hne : s.id ≠ t.id) :
    s ∈ replaceTransaction l t := List.mem_map.2 ⟨s, hs, if_neg hne⟩

theorem mem_replaceTransaction_self {s t : Transaction} (hs : s ∈ l) (hid : s.id = t.id) :
    t ∈ replaceTransaction l t := List.mem_map.2 ⟨s, hs, if_pos hid⟩

theorem filter_replaceTransaction {t : Transaction} {q : Transaction → Bool} (ht : q t = false) :
    ∀ {l : List Transaction}, (∀ s ∈ l, s.id = t.id → q s = false) → (replaceTransaction l t).filter q = l.filter q
  | [], _ => rfl
  | a :: l, h => by
    have ih := filter_replaceTransaction (t := t) ht (l := l) fun s hs => h s (List.mem_cons_of_mem _ hs)
    unfold replaceTransaction at ih ⊢
    rw [List.map_cons, List.filter_cons, List.filter_cons, ih]
    by_cases hid : a.id = t.id
    · simp [hid, ht, h a List.mem_cons_self hid]
    · simp [hid]

theorem mem_filter_of_length {p : Transaction → Bool} {s t : Transaction} (ht : t ∈ l)
    (hpt : p t = false) (hs : s ∈ l) (hne : s ≠ t) (hlen : l.length ≤ (l.filter p).length + 1) : s ∈ l.filter p := by
  refine List.mem_filter.2 ⟨hs, ?_⟩
  by_contra hps
  have hsplit := List.length_eq_length_filter_add (l := l) p
  have hs' : s ∈ l.filter fun x => !p x := List.mem_filter.2 ⟨hs, by simp [Bool.eq_false_iff.2 hps]⟩
  have ht' : t ∈ l.filter fun x => !p x := List.mem_filter.2 ⟨ht, by simp [hpt]⟩
  match hl : l.filter fun x => !p x with
  | [] => rw [hl] at hs'; cases hs'
  | [a] =>
    rw [hl] at hs' ht'
    exact hne ((List.mem_singleton.1 hs').trans (List.mem_singleton.1 ht').symm)
  | a :: b :: rest =>
    rw [hl] at hsplit
    simp only [List.length_cons] at hsplit
    omega

end

theorem ocEndpointCompare_symm {ep ep' : OcEndpoint} (h : ocEndpointCompare ep ep' = true) :
    ocEndpointCompare ep' ep = true := by
  unfold ocEndpointCompare at h ⊢
  simp only [decide_eq_true_eq] at h ⊢
  obtain ⟨hflags, hdevice, hip, haddress, hport⟩ := h
  obtain ⟨h6, h4⟩ : ep.flags.ipv6 = ep'.flags.ipv6 ∧ ep.flags.ipv4 = ep'.flags.ipv4 := by
    simp only [TransportFlags.mk.injEq] at hflags
    simp only [hflags, and_self]
  exact ⟨hflags.symm, hdevice.symm, h6 ▸ h4 ▸ hip, haddress.symm, hport.symm⟩

theorem ocEndpointCompare_trans {a b c : OcEndpoint} (h : ocEndpointCompare a b = true) (h' : ocEndpointCompare b c = true) :
    ocEndpointCompare a c = true := by
  unfold ocEndpointCompare at h h' ⊢
  rw [decide_eq_true_eq] at h h' ⊢
  obtain ⟨hflags, hdevice, hip, haddress, hport⟩ := h
  obtain ⟨hflags', hdevice', -, haddress', hport'⟩ := h'
  exact ⟨hflags.trans hflags', hdevice.trans hdevice', hip, haddress.trans haddress', hport.trans hport'⟩

/-! ## One expired timer -/

/-- The transaction with one expiry more. -/
def Transaction.bump (t : Transaction) : Transaction := { t with retransCounter := t.retransCounter + 1 }

/-- The next expiry is the last one. -/
def Transaction.lastExpiry (t : Transaction) : Bool := !decide (t.retransCounter + 1 < coapMaxRetransmit)

/-- A secured transaction that is about to time out has a session. -/
def HasSession (sys : System) (t : Transaction) : Prop :=
  t.confirmable = true → t.lastExpiry = true → t.endpoint.flags.secured = true →
    ∃ peer ∈ sys.peers, ocEndpointCompare peer t.endpoint = true

/-- A session with an endpoint has ended. -/
def SessionEnded (sys sys' : System) (endpoint : OcEndpoint) : Prop :=
  ∃ peer ∈ sys.peers, ocEndpointCompare endpoint peer = true ∧ sys'.peers.count peer < sys.peers.count peer

section

variable {sys : System} {endpoint peer : OcEndpoint}

theorem ocTlsGetPeer_spec (h : sys.ocTlsGetPeer endpoint = some peer) :
    peer ∈ sys.peers ∧ ocEndpointCompare endpoint peer = true := by
  have hfound : ocEndpointCompare peer endpoint = true := List.find?_some (p := fun p => ocEndpointCompare p endpoint) h
  exact ⟨List.mem_of_find?_eq_some h, ocEndpointCompare_symm hfound⟩

theorem ocTlsGetPeer_isSome (hpeer : peer ∈ sys.peers)
    (h : ocEndpointCompare peer endpoint = true) : ∃ p, sys.ocTlsGetPeer endpoint = some p :=
  Option.isSome_iff_exists.1 (List.find?_isSome.2 ⟨peer, hpeer, h⟩)

theorem ocTlsCloseConnection_some (h : sys.ocTlsGetPeer endpoint = some peer) :
    (sys.ocTlsCloseConnection endpoint).1.peers = sys.peers.erase peer ∧
      (sys.ocTlsCloseConnection endpoint).1.transactions =
        sys.transactions.filter fun s => !ocEndpointCompare s.endpoint peer := by
  unfold System.ocTlsCloseConnection
  rw [h]
  exact ⟨rfl, ocTlsFreePeer_transactions sys peer⟩

end

theorem timeOut_peers (sys : System) (t : Transaction) :
    (timeOut sys t).1.peers =
      if t.endpoint.flags.secured then
        match sys.ocTlsGetPeer t.endpoint with
        | some peer => sys.peers.erase peer
        | none => sys.peers
      else sys.peers := by
  unfold timeOut
  dsimp only
  split
  · unfold System.ocTlsCloseConnection System.ocTlsGetPeer
    dsimp only
    cases hfound : sys.peers.find? fun peer => ocEndpointCompare peer t.endpoint with
    | some peer => rfl
    | none => rfl
  · rfl

/-- A transaction times out: without a session it goes alone, and with one it goes together with the session. -/
theorem timeOut_cases {sys : System} {t : Transaction} (hsession : t.endpoint.flags.secured = true →
      ∃ peer ∈ sys.peers, ocEndpointCompare peer t.endpoint = true) :
    ((timeOut sys t).1.peers = sys.peers ∧ (timeOut sys t).1.transactions = sys.transactions.filter (·.id ≠ t.id)) ∨
    ∃ peer ∈ sys.peers, ocEndpointCompare t.endpoint peer = true ∧ (timeOut sys t).1.peers = sys.peers.erase peer ∧
      (timeOut sys t).1.transactions = sys.transactions.filter fun s => !ocEndpointCompare s.endpoint peer := by
  rw [timeOut_peers, timeOut_transactions]
  cases hsecured : t.endpoint.flags.secured with
  | false => exact .inl ⟨rfl, rfl⟩
  | true =>
    obtain ⟨p, hp, hcompare⟩ := hsession hsecured
    obtain ⟨peer, hpeer⟩ := ocTlsGetPeer_isSome hp hcompare
    obtain ⟨hmem, hsame⟩ := ocTlsGetPeer_spec hpeer
    refine .inr ⟨peer, hmem, hsame, ?_⟩
    rw [hpeer]
    exact ⟨rfl, rfl⟩

theorem expire_eq (sys : System) (t : Transaction) :
    let set := sys.setTransactions (replaceTransaction sys.transactions t.bump)
    expire true sys t =
      if t.confirmable then
        if t.lastExpiry then ⟨(timeOut set t.bump).1, [], false, (timeOut set t.bump).2⟩ else ⟨set, [t.bump], true, []⟩
      else ⟨set.clear t.id, [t.bump], true, []⟩ := by
  intro set
  have hexpire : expire true sys t =
      if t.bump.confirmable = true then
        if t.bump.retransCounter < coapMaxRetransmit then ⟨set, [t.bump], true, []⟩
        else ⟨(timeOut set t.bump).1, [], false, (timeOut set t.bump).2⟩
      else ⟨set.clear t.id, [t.bump], true, []⟩ := rfl
  have hconfirmable : t.bump.confirmable = t.confirmable := rfl
  have hlast : t.lastExpiry = !decide (t.bump.retransCounter < coapMaxRetransmit) := rfl
  rw [hexpire, hconfirmable, hlast]
  by_cases hlt : t.bump.retransCounter < coapMaxRetransmit
  · rw [if_pos hlt, decide_eq_true hlt]
    rfl
  · rw [if_neg hlt, decide_eq_false hlt]
    rfl

/-- Everything that an expired timer can do while the main loop is up, as long as a secured transaction has its
session: the message is sent again, the transaction goes, or a session ends. -/
theorem expire_cases {sys : System} {t : Transaction} (hsorted : Sorted sys.transactions) (ht : t ∈ sys.transactions)
    (hsession : HasSession sys t) :
    let r := expire true sys t
    (t.confirmable = true ∧ t.lastExpiry = false ∧ r.restarted = true ∧ r.resent = [t.bump] ∧
      r.sys.peers = sys.peers ∧ r.sys.transactions = replaceTransaction sys.transactions t.bump) ∨
    ((t.confirmable = true → t.lastExpiry = true) ∧ (∀ s ∈ r.resent, t.confirmable = false ∧ s.id = t.id) ∧
      r.sys.peers = sys.peers ∧ r.sys.transactions = sys.transactions.filter (·.id ≠ t.id)) ∨
    (t.lastExpiry = true ∧ r.resent = [] ∧
      ∃ peer ∈ sys.peers, ocEndpointCompare t.endpoint peer = true ∧ r.sys.peers = sys.peers.erase peer ∧
        r.sys.transactions = sys.transactions.filter fun s => !ocEndpointCompare s.endpoint peer) := by
  -- a transaction that goes was counted up before
  have hgone : (replaceTransaction sys.transactions t.bump).filter (·.id ≠ t.id) =
      sys.transactions.filter (·.id ≠ t.id) := by
    refine filter_replaceTransaction (by simp [Transaction.bump]) fun s _ hid => ?_
    have hid' : s.id = t.id := hid
    simp [hid']
  have hclosed (peer : OcEndpoint) (hpeer : ocEndpointCompare t.endpoint peer = true) :
      (replaceTransaction sys.transactions t.bump).filter (fun s => !ocEndpointCompare s.endpoint peer) =
        sys.transactions.filter fun s => !ocEndpointCompare s.endpoint peer := by
    refine filter_replaceTransaction (by simp [Transaction.bump, hpeer]) fun s hs hid => ?_
    rw [hsorted.eq_of_id hs ht hid]
    simp [hpeer]
  intro r
  have hr := expire_eq sys t
  dsimp only at hr
  cases hconfirmable : t.confirmable with
  | false =>
    rw [hconfirmable, if_neg Bool.false_ne_true] at hr
    refine .inr (.inl ⟨nofun, fun s hs => ⟨rfl, ?_⟩, ?_, ?_⟩)
    · rw [show r = _ from hr, List.mem_singleton] at hs
      rw [hs]
      rfl
    · rw [show r = _ from hr]
      rfl
    · rw [show r = _ from hr]
      exact hgone
  | true =>
    rw [hconfirmable, if_pos rfl] at hr
    cases hlast : t.lastExpiry with
    | false =>
      rw [hlast, if_neg Bool.false_ne_true] at hr
      rw [show r = _ from hr]
      exact .inl ⟨rfl, rfl, rfl, rfl, rfl, rfl⟩
    | true =>
      rw [hlast, if_pos rfl] at hr
      rw [show r = _ from hr]
      have hsession' : t.bump.endpoint.flags.secured = true →
          ∃ peer ∈ (sys.setTransactions (replaceTransaction sys.transactions t.bump)).peers,
            ocEndpointCompare peer t.bump.endpoint = true := hsession hconfirmable hlast
      rcases timeOut_cases hsession' with ⟨hpeers, htransactions⟩ | ⟨peer, hmem, hsame, hpeers, htransactions⟩
      · exact .inr (.inl ⟨fun _ => rfl, by simp, hpeers, htransactions.trans hgone⟩)
      · exact .inr (.inr ⟨rfl, rfl, peer, hmem, hsame, hpeers, htransactions.trans (hclosed peer hsame)⟩)

/-! ## The loop over the timers -/

/-- A message that is sent again: the timer has expired, but not for the last time. -/
def Renewed (expired : List Nat) (t s : Transaction) : Prop :=
  s = t.bump ∧ t.id ∈ expired ∧ t.confirmable = true ∧ t.lastExpiry = false

/-- What is true in the loop, in relation to the state it began with: `expired` are the timers that are still
expired, and `todo` is the rest of the list. -/
structure Loop (sys₀ : System) (expired₀ : List Nat) (sys : System) (expired : List Nat) (todo : List Transaction) :
    Prop where
  sorted : Sorted sys.transactions
  todoSorted : Sorted todo
  listed : todo ⊆ sys.transactions
  pending : ∀ s ∈ sys.transactions, s.id ∈ expired → s ∈ todo
  origin : ∀ s ∈ sys.transactions, (s ∈ sys₀.transactions ∧ (s.id ∈ expired₀ → s.id ∈ expired)) ∨
    ∃ t ∈ sys₀.transactions, Renewed expired₀ t s ∧ s.id ∉ expired
  timers : expired ⊆ expired₀
  peers : ∀ s ∈ sys.transactions, ∀ p ∈ sys₀.peers, ocEndpointCompare p s.endpoint = true → p ∈ sys.peers
  counts : ∀ p, sys.peers.count p ≤ sys₀.peers.count p
  fate : ∀ t ∈ sys₀.transactions, t.confirmable = true → (∃ s ∈ sys.transactions, s.id = t.id) ∨
    (t.id ∈ expired₀ ∧ t.lastExpiry = true) ∨ SessionEnded sys₀ sys t.endpoint

section Loop

variable {sys₀ sys sys' : System} {expired₀ expired expired' : List Nat} {t : Transaction} {rest : List Transaction}

theorem Loop.start (hsorted : Sorted sys.transactions) : Loop sys expired sys expired sys.transactions where
  sorted := hsorted
  todoSorted := hsorted
  listed := fun _ h => h
  pending := fun _ h _ => h
  origin := fun _ hs => .inl ⟨hs, fun h => h⟩
  timers := fun _ h => h
  peers := fun _ _ _ hp _ => hp
  counts := fun _ => Nat.le_refl _
  fate := fun t ht _ => .inl ⟨t, ht, rfl⟩

theorem Loop.skip (h : Loop sys₀ expired₀ sys expired (t :: rest)) (ht : t.id ∉ expired) :
    Loop sys₀ expired₀ sys expired rest where
  sorted := h.sorted
  todoSorted := (List.pairwise_cons.1 h.todoSorted).2
  listed := fun _ hs => h.listed (List.mem_cons_of_mem _ hs)
  pending := by
    intro s hs hexpired
    rcases List.mem_cons.1 (h.pending s hs hexpired) with rfl | hrest
    · exact absurd hexpired ht
    · exact hrest
  origin := h.origin
  timers := h.timers
  peers := h.peers
  counts := h.counts
  fate := h.fate

theorem Loop.head_mem (h : Loop sys₀ expired₀ sys expired (t :: rest)) (ht : t.id ∈ expired) : t ∈ sys₀.transactions := by
  rcases h.origin t (h.listed List.mem_cons_self) with ⟨hmem, -⟩ | ⟨-, -, -, hnot⟩
  · exact hmem
  · exact absurd ht hnot

theorem Loop.head_session (h : Loop sys₀ expired₀ sys expired (t :: rest)) (hsession : HasSession sys₀ t) :
    HasSession sys t := by
  intro hconfirmable hlast hsecured
  obtain ⟨p, hp, hsame⟩ := hsession hconfirmable hlast hsecured
  exact ⟨p, h.peers t (h.listed List.mem_cons_self) p hp hsame, hsame⟩

theorem Loop.rest_ne (h : Loop sys₀ expired₀ sys expired (t :: rest)) {s : Transaction} (hs : s ∈ rest) : s.id ≠ t.id := by
  have hlt := (List.pairwise_cons.1 h.todoSorted).1 s hs
  omega

theorem Loop.renew (h : Loop sys₀ expired₀ sys expired (t :: rest)) (ht : t.id ∈ expired)
    (hconfirmable : t.confirmable = true) (hlast : t.lastExpiry = false) (hpeers : sys'.peers = sys.peers)
    (htransactions : sys'.transactions = replaceTransaction sys.transactions t.bump) :
    Loop sys₀ expired₀ sys' (expired.filter (· ≠ t.id)) rest where
  sorted := htransactions ▸ h.sorted.replace t.bump
  todoSorted := (List.pairwise_cons.1 h.todoSorted).2
  listed := by
    intro s hs
    rw [htransactions]
    exact mem_replaceTransaction_of_ne (h.listed (List.mem_cons_of_mem _ hs)) (h.rest_ne hs)
  pending := by
    intro s hs hexpired
    rw [htransactions] at hs
    have hexpired' := List.mem_filter.1 hexpired
    rcases mem_replaceTransaction hs with rfl | ⟨hs', -⟩
    · exact absurd hexpired'.2 (by simp [Transaction.bump])
    · rcases List.mem_cons.1 (h.pending s hs' hexpired'.1) with rfl | hrest
      · exact absurd hexpired'.2 (by simp)
      · exact hrest
  origin := by
    intro s hs
    rw [htransactions] at hs
    rcases mem_replaceTransaction hs with rfl | ⟨hs', hne⟩
    · -- what is sent again is the head with one retransmission more
      refine .inr ⟨t, h.head_mem ht, ⟨rfl, h.timers ht, hconfirmable, hlast⟩, ?_⟩
      simp [Transaction.bump]
    · rcases h.origin s hs' with ⟨hmem, hexpired⟩ | ⟨t', ht', hrenewed, hnot⟩
      · exact .inl ⟨hmem, fun hid => List.mem_filter.2 ⟨hexpired hid, decide_eq_true hne⟩⟩
      · exact .inr ⟨t', ht', hrenewed, fun hid => hnot (List.mem_of_mem_filter hid)⟩
  timers := fun _ hid => h.timers (List.mem_of_mem_filter hid)
  peers := by
    intro s hs p hp hsame
    rw [htransactions] at hs
    rw [hpeers]
    rcases mem_replaceTransaction hs with rfl | ⟨hs', -⟩
    · exact h.peers t (h.listed List.mem_cons_self) p hp hsame
    · exact h.peers s hs' p hp hsame
  counts := hpeers ▸ h.counts
  fate := by
    intro t' ht' hconfirmable'
    rcases h.fate t' ht' hconfirmable' with ⟨s, hs, hid⟩ | htimeout | hended
    · left
      rw [htransactions]
      by_cases hne : s.id = t.id
      · exact ⟨t.bump, mem_replaceTransaction_self hs hne, hne.symm.trans hid⟩
      · exact ⟨s, mem_replaceTransaction_of_ne hs hne, hid⟩
    · exact .inr (.inl htimeout)
    · refine .inr (.inr ?_)
      unfold SessionEnded at hended ⊢
      rw [hpeers]
      exact hended

theorem Loop.endpoint (h : Loop sys₀ expired₀ sys expired rest) (hsorted : Sorted sys₀.transactions) {s : Transaction}
    (ht : t ∈ sys₀.transactions) (hs : s ∈ sys.transactions) (hid : s.id = t.id) : s.endpoint = t.endpoint := by
  rcases h.origin s hs with ⟨hmem, -⟩ | ⟨t', ht', ⟨rfl, -⟩, -⟩
  · rw [hsorted.eq_of_id hmem ht hid]
  · rw [← hsorted.eq_of_id ht' ht hid]
    rfl

/-- Transactions go: the one whose timer has expired, which was confirmable only if that was for the last time, and
any other one only with its session. -/
theorem Loop.drop (h : Loop sys₀ expired₀ sys expired (t :: rest)) (hsorted : Sorted sys₀.transactions)
    (ht : t.id ∈ expired) {p : Transaction → Bool} (htransactions : sys'.transactions = sys.transactions.filter p)
    (hpt : p t = false) (hremaining : expired' ⊆ expired) (hothers : ∀ id ∈ expired, id ≠ t.id → id ∈ expired')
    (hlast : t.confirmable = true → t.lastExpiry = true)
    (hpeers : ∀ s ∈ sys'.transactions, ∀ q ∈ sys.peers, ocEndpointCompare q s.endpoint = true → q ∈ sys'.peers)
    (hcounts : ∀ q, sys'.peers.count q ≤ sys.peers.count q)
    (hfate : ∀ s ∈ sys.transactions, p s = false → s.id = t.id ∨ SessionEnded sys sys' s.endpoint) {todo : List Transaction}
    (htodo : todo = if sys'.transactions.length + 1 < sys.transactions.length then sys'.transactions else rest) :
    Loop sys₀ expired₀ sys' expired' todo := by
  have ht' := h.listed List.mem_cons_self
  have hsorted' : Sorted sys'.transactions := htransactions ▸ h.sorted.filter p
  have hmem {s : Transaction} (hs : s ∈ sys'.transactions) : s ∈ sys.transactions ∧ s.id ≠ t.id := by
    rw [htransactions] at hs
    obtain ⟨hs, hps⟩ := List.mem_filter.1 hs
    refine ⟨hs, fun hid => ?_⟩
    rw [h.sorted.eq_of_id hs ht' hid, hpt] at hps
    cases hps
  -- an end of a session that was seen before is still seen
  have hended {endpoint : OcEndpoint} (he : SessionEnded sys₀ sys endpoint) : SessionEnded sys₀ sys' endpoint := by
    obtain ⟨q, hq, hsame, hlt⟩ := he
    exact ⟨q, hq, hsame, (hcounts q).trans_lt hlt⟩
  have hended' {endpoint : OcEndpoint} (he : SessionEnded sys sys' endpoint) : SessionEnded sys₀ sys' endpoint := by
    obtain ⟨q, hq, hsame, hlt⟩ := he
    have hle := h.counts q
    have hpos := List.count_pos_iff.2 hq
    exact ⟨q, List.count_pos_iff.1 (by omega), hsame, by omega⟩
  constructor
  · exact hsorted'
  · rw [htodo]
    split
    · exact hsorted'
    · exact (List.pairwise_cons.1 h.todoSorted).2
  · rw [htodo]
    split
    · exact fun _ hs => hs
    · rename_i hlen
      intro s hs
      have hne : s ≠ t := fun heq => h.rest_ne hs (congrArg Transaction.id heq)
      rw [htransactions] at hlen ⊢
      exact mem_filter_of_length ht' hpt (h.listed (List.mem_cons_of_mem _ hs)) hne (by omega)
  · intro s hs hexpired
    rw [htodo]
    split
    · exact hs
    · obtain ⟨hs', hne⟩ := hmem hs
      rcases List.mem_cons.1 (h.pending s hs' (hremaining hexpired)) with rfl | hrest
      · exact absurd rfl hne
      · exact hrest
  · intro s hs
    obtain ⟨hs', hne⟩ := hmem hs
    rcases h.origin s hs' with ⟨horigin, hexpired⟩ | ⟨u, hu, hrenewed, hnot⟩
    · exact .inl ⟨horigin, fun hid => hothers _ (hexpired hid) hne⟩
    · exact .inr ⟨u, hu, hrenewed, fun hid => hnot (hremaining hid)⟩
  · exact fun _ hid => h.timers (hremaining hid)
  · exact fun s hs q hq hsame => hpeers s hs q (h.peers s (hmem hs).1 q hq hsame) hsame
  · exact fun q => (hcounts q).trans (h.counts q)
  · intro u hu hconfirmable
    rcases h.fate u hu hconfirmable with ⟨s, hs, hid⟩ | htimeout | he
    · cases hps : p s with
      | true => exact .inl ⟨s, htransactions ▸ List.mem_filter.2 ⟨hs, hps⟩, hid⟩
      | false =>
        rcases hfate s hs hps with hsame | he
        · -- the transaction of the expired timer itself
          have hut : u = t := hsorted.eq_of_id hu (h.head_mem ht) (hid.symm.trans hsame)
          rw [hut] at hconfirmable ⊢
          exact .inr (.inl ⟨h.timers ht, hlast hconfirmable⟩)
        · rw [h.endpoint hsorted hu hs hid] at he
          exact .inr (.inr (hended' he))
    · exact .inr (.inl htimeout)
    · exact .inr (.inr (hended he))

theorem remaining_subset (r : Expiry) (t : Transaction) (expired : List Nat) : r.remaining t expired ⊆ expired := by
  unfold Expiry.remaining
  split
  · exact fun _ hid => List.mem_of_mem_filter hid
  · exact fun _ hid => hid

theorem mem_remaining (r : Expiry) {t : Transaction} {expired : List Nat} {id : Nat} (hid : id ∈ expired)
    (hne : id ≠ t.id) : id ∈ r.remaining t expired := by
  unfold Expiry.remaining
  split
  · exact List.mem_filter.2 ⟨hid, decide_eq_true hne⟩
  · exact hid

theorem Loop.expire (h : Loop sys₀ expired₀ sys expired (t :: rest)) (hsorted : Sorted sys₀.transactions)
    (hsession : ∀ t ∈ sys₀.transactions, t.id ∈ expired₀ → HasSession sys₀ t) (ht : t.id ∈ expired) :
    let r := SmartGarage.expire true sys t
    Loop sys₀ expired₀ r.sys (r.remaining t expired) (r.following sys rest) ∧
      ∀ s ∈ r.resent, s.id = t.id ∧ (t.confirmable = true → t.lastExpiry = false) := by
  intro r
  have ht₀ := h.head_mem ht
  have hcases := expire_cases h.sorted (h.listed List.mem_cons_self)
    (h.head_session (hsession t ht₀ (h.timers ht)))
  have hremaining := remaining_subset r t expired
  have hothers (id : Nat) (hid : id ∈ expired) (hne : id ≠ t.id) := mem_remaining r hid hne
  rcases hcases with ⟨hconfirmable, hlast, hrestarted, hresent, hpeers, htransactions⟩ |
    ⟨hlast, hresent, hpeers, htransactions⟩ | ⟨hlast, hresent, peer, hpeer, hsame, hpeers, htransactions⟩
  · -- sent again, gone, or gone with its session
    have hrem : r.remaining t expired = expired.filter (· ≠ t.id) := if_pos hrestarted
    have hfollowing : r.following sys rest = rest := by
      refine if_neg ?_
      show ¬r.sys.transactions.length + 1 < sys.transactions.length
      rw [htransactions, length_replaceTransaction]
      omega
    rw [hrem, hfollowing]
    refine ⟨h.renew ht hconfirmable hlast hpeers htransactions, fun s hs => ?_⟩
    rw [show r.resent = _ from hresent, List.mem_singleton] at hs
    rw [hs]
    exact ⟨rfl, fun _ => hlast⟩
  · refine ⟨h.drop hsorted ht htransactions (by simp) hremaining hothers hlast ?_ ?_ ?_ rfl, fun s hs => ?_⟩
    · intro s _ q hq _
      rw [show r.sys.peers = _ from hpeers]
      exact hq
    · intro q
      rw [show r.sys.peers = _ from hpeers]
    · intro s _ hps
      exact .inl (by simpa using hps)
    · obtain ⟨hplain, hid⟩ := hresent s hs
      exact ⟨hid, fun hc => absurd hc (by simp [hplain])⟩
  · refine ⟨h.drop hsorted ht htransactions (by simp [hsame]) hremaining hothers (fun _ => hlast) ?_ ?_ ?_ rfl,
      fun s hs => ?_⟩
    · intro s hs q hq hcompare
      rw [show r.sys.transactions = _ from htransactions] at hs
      have hother := (List.mem_filter.1 hs).2
      rw [show r.sys.peers = _ from hpeers]
      refine (List.mem_erase_of_ne ?_).2 hq
      rintro rfl
      rw [ocEndpointCompare_symm hcompare] at hother
      cases hother
    · intro q
      rw [show r.sys.peers = _ from hpeers]
      exact List.erase_sublist.count_le q
    · intro s _ hps
      refine .inr ⟨peer, hpeer, by simpa using hps, ?_⟩
      rw [show r.sys.peers = _ from hpeers, List.count_erase_self]
      have hpos := List.count_pos_iff.2 hpeer
      omega
    · rw [show r.resent = _ from hresent] at hs
      cases hs

/-- The loop comes to its end, and a message that it has sent again was one that had not timed out. -/
theorem Loop.checkFrom {todo : List Transaction} (h : Loop sys₀ expired₀ sys expired todo)
    (hsorted : Sorted sys₀.transactions)
    (hsession : ∀ t ∈ sys₀.transactions, t.id ∈ expired₀ → HasSession sys₀ t) :
    (∃ expired', Loop sys₀ expired₀ (SmartGarage.checkFrom true sys expired todo).sys expired' []) ∧
      ∀ s ∈ (SmartGarage.checkFrom true sys expired todo).resent,
        ∃ t ∈ sys₀.transactions, s.id = t.id ∧ (t.confirmable = true → t.lastExpiry = false) := by
  fun_induction SmartGarage.checkFrom true sys expired todo with
  | case1 sys expired => exact ⟨⟨expired, h⟩, by simp⟩
  | case2 sys expired t rest hmem r c ih =>
    obtain ⟨hloop, hresent⟩ := h.expire hsorted hsession hmem
    obtain ⟨hend, hagain⟩ := ih hloop
    refine ⟨hend, fun s hs => ?_⟩
    rcases List.mem_append.1 hs with hs | hs
    · exact ⟨t, h.head_mem hmem, hresent s hs⟩
    · exact hagain s hs
  | case3 sys expired t rest hmem ih => exact ih (h.skip hmem)

end Loop

/-- What `coap_check_transactions` does while the main loop is up, as long as every secured transaction that is
about to time out has a session. -/
theorem coapCheckTransactions_spec {sys : System} {expired : List Nat} (hsorted : Sorted sys.transactions)
    (hsession : ∀ t ∈ sys.transactions, t.id ∈ expired → HasSession sys t) :
    let c := coapCheckTransactions true sys expired
    Sorted c.sys.transactions ∧
    (∀ s ∈ c.sys.transactions, (s ∈ sys.transactions ∧ s.id ∉ expired) ∨ ∃ t ∈ sys.transactions, Renewed expired t s) ∧
    (∀ t ∈ sys.transactions, t.confirmable = true → (∃ s ∈ c.sys.transactions, s.id = t.id) ∨
      (t.id ∈ expired ∧ t.lastExpiry = true) ∨ SessionEnded sys c.sys t.endpoint) ∧
    ∀ s ∈ c.resent, ∃ t ∈ sys.transactions, s.id = t.id ∧ (t.confirmable = true → t.lastExpiry = false) := by
  obtain ⟨⟨expired', hend⟩, hresent⟩ := (Loop.start hsorted).checkFrom hsorted hsession
  refine ⟨hend.sorted, fun s hs => ?_, hend.fate, hresent⟩
  rcases hend.origin s hs with ⟨hmem, hexpired⟩ | ⟨t, ht, hrenewed, -⟩
  · refine .inl ⟨hmem, fun hid => ?_⟩
    cases hend.pending s hs (hexpired hid)
  · exact .inr ⟨t, ht, hrenewed⟩

end SmartGarage
