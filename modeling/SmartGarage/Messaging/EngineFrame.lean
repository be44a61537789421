/-
What a message may change of the engine: a buffer keeps its address and its key from the moment on at
which it is made, a request makes buffers for its own key only, the request history is written in one
place, a transaction that is there stays there, and the write position of a buffer is moved by the calls only.
-/
import SmartGarage.Messaging.BlockCalls

namespace SmartGarage

/-! ## Buffers and their keys -/

/-- What a buffer is found by. -/
def BlockwiseState.key (b : BlockwiseState) : BlockwiseKey := ⟨b.href, b.endpoint, b.method, b.uriQuery, b.role⟩

/-- A buffer that was in the list before, with the same key, or one that has been made since; of those, the
ones of the server have a given key. -/
def Derived (k : BlockwiseKey) (l : List BlockwiseState) (lo hi : Nat) (b : BlockwiseState) : Prop :=
  (∃ a ∈ l, a.id = b.id ∧ a.key = b.key) ∨ (lo ≤ b.id ∧ b.id < hi ∧ (b.role = .server → b.key = k))

/-- New transactions stand at the end of the list, in the order of their addresses. -/
def Appended (l : List Transaction) (lo : Nat) (l' : List Transaction) (hi : Nat) : Prop :=
  lo ≤ hi ∧ ∃ new, l' = l ++ new ∧ (∀ t ∈ new, lo ≤ t.id ∧ t.id < hi ∧ t.retransCounter = 0) ∧
    new.Pairwise (·.id < ·.id)

theorem Appended.refl (l : List Transaction) (n : Nat) : Appended l n l n :=
  ⟨Nat.le_refl n, [], (List.append_nil l).symm, by simp, .nil⟩

theorem Appended.trans {l l' l'' : List Transaction} {a b c : Nat} (h : Appended l a l' b) (h' : Appended l' b l'' c) :
    Appended l a l'' c := by
  obtain ⟨hab, new, rfl, hnew, hsorted⟩ := h
  obtain ⟨hbc, new', rfl, hnew', hsorted'⟩ := h'
  refine ⟨hab.trans hbc, new ++ new', List.append_assoc _ _ _, fun t ht => ?_, ?_⟩
  · rcases List.mem_append.1 ht with ht | ht
    · have hbound := hnew t ht
      exact ⟨hbound.1, by omega, hbound.2.2⟩
    · have hbound := hnew' t ht
      exact ⟨by omega, hbound.2⟩
  · refine List.pairwise_append.2 ⟨hsorted, hsorted', fun t ht t' ht' => ?_⟩
    have hbound := hnew t ht
    have hbound' := hnew' t' ht'
    omega

/-- What a part of `coap_receive` may do to the engine. -/
structure Kept (k : BlockwiseKey) (st st' : Engine) : Prop where
  nextId : st.nextId ≤ st'.nextId
  requests : ∀ b ∈ st'.requests, Derived k st.requests st.nextId st'.nextId b
  responses : ∀ b ∈ st'.responses, Derived k st.responses st.nextId st'.nextId b
  history : st'.history = st.history
  idx : st'.idx = st.idx
  transactions : Appended st.transactions st.nextTransaction st'.transactions st'.nextTransaction

theorem Derived.self {k : BlockwiseKey} {l : List BlockwiseState} {lo hi : Nat} {b : BlockwiseState} (hb : b ∈ l) :
    Derived k l lo hi b := .inl ⟨b, hb, rfl, rfl⟩

theorem Derived.trans {k : BlockwiseKey} {l l' : List BlockwiseState} {a b c : Nat} {x : BlockwiseState} (hab : a ≤ b)
    (hbc : b ≤ c) (h : ∀ y ∈ l', Derived k l a b y) (hx : Derived k l' b c x) : Derived k l a c x := by
  rcases hx with ⟨y, hy, hid, hkey⟩ | ⟨hlo, hhi, hrole⟩
  · rcases h y hy with ⟨z, hz, hid', hkey'⟩ | ⟨hlo, hhi, hrole⟩
    · exact .inl ⟨z, hz, hid'.trans hid, hkey'.trans hkey⟩
    · refine .inr ⟨by omega, by omega, fun hserver => ?_⟩
      rw [← hkey]
      refine hrole ?_
      have hsame : y.role = x.role := congrArg BlockwiseKey.role hkey
      exact hsame.trans hserver
  · exact .inr ⟨by omega, hhi, hrole⟩

variable {k : BlockwiseKey}

variable {l : List BlockwiseState} {b b' : BlockwiseState} {r : BlockwiseState × OcString}
  {offset requested : UInt32} {block : OcString}

theorem Kept.refl (st : Engine) : Kept k st st :=
  ⟨Nat.le_refl _, fun _ hb => .self hb, fun _ hb => .self hb, rfl, rfl, .refl _ _⟩

theorem Kept.trans {st st' st'' : Engine} (h : Kept k st st') (h' : Kept k st' st'') : Kept k st st'' :=
  ⟨h.nextId.trans h'.nextId, fun b hb => .trans h.nextId h'.nextId h.requests (h'.requests b hb),
    fun b hb => .trans h.nextId h'.nextId h.responses (h'.responses b hb), h'.history.trans h.history,
    h'.idx.trans h.idx, h.transactions.trans h'.transactions⟩

/-- Two states of one buffer with the same write position. -/
structure SamePlace (a b : BlockwiseState) : Prop where
  id : a.id = b.id
  role : a.role = b.role
  offset : a.nextBlockOffset = b.nextBlockOffset

theorem SamePlace.refl (b : BlockwiseState) : SamePlace b b := ⟨rfl, rfl, rfl⟩

theorem SamePlace.trans {a b c : BlockwiseState} (h : SamePlace a b) (h' : SamePlace b c) : SamePlace a c :=
  ⟨h.id.trans h'.id, h.role.trans h'.role, h.offset.trans h'.offset⟩

/-- A buffer that is where it was in the list, or at its start. -/
def StaysPut (l : List BlockwiseState) (b : BlockwiseState) : Prop :=
  (∃ a ∈ l, SamePlace a b) ∨ b.nextBlockOffset = 0

theorem StaysPut.self (hb : b ∈ l) : StaysPut l b :=
  .inl ⟨b, hb, .refl b⟩

theorem StaysPut.trans {l l' : List BlockwiseState} (h : ∀ a ∈ l', StaysPut l a) (hb : StaysPut l' b) :
    StaysPut l b := by
  rcases hb with ⟨a, ha, hplace⟩ | hstart
  · exact (h a ha).imp (fun ⟨c, hc, hca⟩ => ⟨c, hc, hca.trans hplace⟩) fun hstart => hplace.offset.symm.trans hstart
  · exact .inr hstart

/-- What a part of `coap_receive` may do that neither stores nor dispatches a block. -/
structure Quiet (k : BlockwiseKey) (st st' : Engine) : Prop extends Kept k st st' where
  requestsPut : ∀ b ∈ st'.requests, StaysPut st.requests b
  responsesPut : ∀ b ∈ st'.responses, StaysPut st.responses b

theorem Quiet.of_subset {st st' : Engine} (hrequests : st'.requests ⊆ st.requests)
    (hresponses : st'.responses ⊆ st.responses) (hid : st'.nextId = st.nextId) (hhistory : st'.history = st.history)
    (hidx : st'.idx = st.idx) (ht : Appended st.transactions st.nextTransaction st'.transactions st'.nextTransaction) :
    Quiet k st st' :=
  ⟨⟨hid.ge, fun _ hb => .self (hrequests hb), fun _ hb => .self (hresponses hb), hhistory, hidx, ht⟩,
    fun _ hb => .self (hrequests hb), fun _ hb => .self (hresponses hb)⟩

theorem Quiet.refl (st : Engine) : Quiet k st st :=
  .of_subset (List.Subset.refl _) (List.Subset.refl _) rfl rfl rfl (.refl _ _)

theorem Quiet.trans {st st' st'' : Engine} (h : Quiet k st st') (h' : Quiet k st' st'') : Quiet k st st'' :=
  ⟨h.toKept.trans h'.toKept, fun b hb => .trans h.requestsPut (h'.requestsPut b hb),
    fun b hb => .trans h.responsesPut (h'.responsesPut b hb)⟩

/-! ## Positions -/

/-- Where the write position of a buffer of a list comes from. -/
def PlacedBy (B : BufferSettings) (list : BufferList) (calls : List BlockCall) (l : List BlockwiseState)
    (b : BlockwiseState) : Prop :=
  (∃ a ∈ l, SamePlace a b) ∨ b.nextBlockOffset = 0 ∨ ∃ c ∈ calls, c.list = list ∧ SamePlace (c.after B) b

/-- Between two states of the engine the write positions are moved by the calls only. -/
structure Moved (B : BufferSettings) (calls : List BlockCall) (st st' : Engine) : Prop where
  requests : ∀ b ∈ st'.requests, PlacedBy B .requests calls st.requests b
  responses : ∀ b ∈ st'.responses, PlacedBy B .responses calls st.responses b

theorem mem_replaceBuffer {b c : BlockwiseState} (hc : c ∈ replaceBuffer l b) : c = b ∨ c ∈ l := by
  obtain ⟨a, ha, rfl⟩ := List.mem_map.1 hc
  split
  · exact .inl rfl
  · exact .inr ha

theorem mem_replaceBuffer_self {a b : BlockwiseState} (ha : a ∈ l) (hid : b.id = a.id) :
    b ∈ replaceBuffer l b := List.mem_map.2 ⟨a, ha, if_pos hid.symm⟩

section PlacedBy

variable {B : BufferSettings} {list : BufferList} {calls calls' : List BlockCall} {l l' : List BlockwiseState}
  {b : BlockwiseState}

theorem PlacedBy.self (hb : b ∈ l) : PlacedBy B list calls l b := .inl ⟨b, hb, .refl b⟩

theorem PlacedBy.by_call {c : BlockCall} (hc : c ∈ calls) (hlist : c.list = list) (h : SamePlace (c.after B) b) :
    PlacedBy B list calls l b := .inr (.inr ⟨c, hc, hlist, h⟩)

theorem PlacedBy.mono (hsub : calls ⊆ calls') (h : PlacedBy B list calls l b) : PlacedBy B list calls' l b := by
  rcases h with hold | hnew | ⟨c, hc, hlist, hplace⟩
  · exact .inl hold
  · exact .inr (.inl hnew)
  · exact .by_call (hsub hc) hlist hplace

theorem PlacedBy.same {a : BlockwiseState} (h : PlacedBy B list calls l a) (hplace : SamePlace a b) :
    PlacedBy B list calls l b := by
  rcases h with ⟨d, hd, hda⟩ | hnew | ⟨c, hc, hlist, hca⟩
  · exact .inl ⟨d, hd, hda.trans hplace⟩
  · exact .inr (.inl (hplace.offset.symm.trans hnew))
  · exact .by_call hc hlist (hca.trans hplace)

theorem PlacedBy.trans (h : ∀ a ∈ l', PlacedBy B list calls l a) (hb : PlacedBy B list calls' l' b) :
    PlacedBy B list (calls ++ calls') l b := by
  rcases hb with ⟨a, ha, hplace⟩ | hnew | ⟨c, hc, hlist, hplace⟩
  · exact ((h a ha).same hplace).mono (List.subset_append_left _ _)
  · exact .inr (.inl hnew)
  · exact .by_call (List.mem_append_right _ hc) hlist hplace

theorem PlacedBy.replaced {d : BlockwiseState} (hd : PlacedBy B list calls l d) (hb : b ∈ replaceBuffer l d) :
    PlacedBy B list calls l b := by
  rcases mem_replaceBuffer hb with rfl | hb
  · exact hd
  · exact .self hb

end PlacedBy

section Moved

variable {B : BufferSettings} {calls calls' : List BlockCall} {st st' st'' : Engine}

theorem Moved.of_subset (hrequests : st'.requests ⊆ st.requests) (hresponses : st'.responses ⊆ st.responses) :
    Moved B calls st st' :=
  ⟨fun _ hb => .self (hrequests hb), fun _ hb => .self (hresponses hb)⟩

theorem Moved.refl (st : Engine) : Moved B calls st st := .of_subset (fun _ h => h) (fun _ h => h)

theorem Moved.mono (hsub : calls ⊆ calls') (h : Moved B calls st st') : Moved B calls' st st' :=
  ⟨fun b hb => (h.requests b hb).mono hsub, fun b hb => (h.responses b hb).mono hsub⟩

theorem Moved.trans (h : Moved B calls st st') (h' : Moved B calls' st' st'') : Moved B (calls ++ calls') st st'' :=
  ⟨fun b hb => .trans h.requests (h'.requests b hb), fun b hb => .trans h.responses (h'.responses b hb)⟩

theorem Moved.after (h : Moved B [] st st') (h' : Moved B calls st' st'') : Moved B calls st st'' := h.trans h'

theorem Moved.next (h : Moved B calls st st') (h' : Moved B [] st' st'') : Moved B calls st st'' :=
  List.append_nil calls ▸ h.trans h'

theorem Moved.setRequest (hb : PlacedBy B .requests calls st.requests b) : Moved B calls st (st.setRequest b) :=
  ⟨fun _ hc => hb.replaced hc, fun _ hc => .self hc⟩

theorem Moved.setResponse (hb : PlacedBy B .responses calls st.responses b) : Moved B calls st (st.setResponse b) :=
  ⟨fun _ hc => .self hc, fun _ hc => hb.replaced hc⟩

theorem Moved.of_quiet {k : BlockwiseKey} (h : Quiet k st st') : Moved B [] st st' :=
  ⟨fun b hb => (h.requestsPut b hb).imp id .inl, fun b hb => (h.responsesPut b hb).imp id .inl⟩

theorem Moved.quiet {k : BlockwiseKey} (h : Moved B calls st st') (h' : Quiet k st' st'') : Moved B calls st st'' :=
  h.next (.of_quiet h')

end Moved

/-! ## Operations on buffers -/

variable (st : Engine)

section

variable {b b' : BlockwiseState}

/-- A buffer that has been written to keeps its address and its key. -/
theorem derived_replace {lo hi : Nat} (hb : b ∈ l) (hid : b'.id = b.id) (hkey : b'.key = b.key) :
    ∀ c ∈ replaceBuffer l b', Derived k l lo hi c := by
  intro c hc
  rcases mem_replaceBuffer hc with rfl | hc
  · exact .inl ⟨b, hb, hid.symm, hkey.symm⟩
  · exact .self hc

theorem staysPut_replace (hb : b ∈ l) (hid : b'.id = b.id) (hkey : b'.key = b.key)
    (hoffset : b'.nextBlockOffset = b.nextBlockOffset) : ∀ c ∈ replaceBuffer l b', StaysPut l c := by
  intro c hc
  rcases mem_replaceBuffer hc with rfl | hc
  · exact .inl ⟨b, hb, hid.symm, (congrArg BlockwiseKey.role hkey).symm, hoffset.symm⟩
  · exact .self hc

theorem kept_setRequest (hb : b ∈ st.requests) (hid : b'.id = b.id) (hkey : b'.key = b.key) :
    Kept k st (st.setRequest b') :=
  ⟨Nat.le_refl _, derived_replace hb hid hkey, fun _ hc => .self hc, rfl, rfl, .refl _ _⟩

theorem kept_setResponse (hb : b ∈ st.responses) (hid : b'.id = b.id) (hkey : b'.key = b.key) :
    Kept k st (st.setResponse b') :=
  ⟨Nat.le_refl _, fun _ hc => .self hc, derived_replace hb hid hkey, rfl, rfl, .refl _ _⟩

theorem quiet_setRequest (hb : b ∈ st.requests) (hid : b'.id = b.id) (hkey : b'.key = b.key)
    (hoffset : b'.nextBlockOffset = b.nextBlockOffset) : Quiet k st (st.setRequest b') :=
  ⟨kept_setRequest st hb hid hkey, staysPut_replace hb hid hkey hoffset, fun _ hc => .self hc⟩

theorem quiet_setResponse (hb : b ∈ st.responses) (hid : b'.id = b.id) (hkey : b'.key = b.key)
    (hoffset : b'.nextBlockOffset = b.nextBlockOffset) : Quiet k st (st.setResponse b') :=
  ⟨kept_setResponse st hb hid hkey, fun _ hc => .self hc, staysPut_replace hb hid hkey hoffset⟩

end

theorem quiet_freeRequest (id : Nat) : Quiet k st (st.freeRequest id) :=
  .of_subset (fun _ => List.mem_of_mem_filter) (List.Subset.refl _) rfl rfl rfl (.refl _ _)

theorem quiet_freeResponse (id : Nat) : Quiet k st (st.freeResponse id) :=
  .of_subset (List.Subset.refl _) (fun _ => List.mem_of_mem_filter) rfl rfl rfl (.refl _ _)

theorem quiet_scrubBuffers : Quiet k st st.scrubBuffers :=
  .of_subset (fun _ => List.mem_of_mem_filter) (fun _ => List.mem_of_mem_filter) rfl rfl rfl (.refl _ _)

theorem quiet_getMid : Quiet k st st.getMid.2 :=
  .of_subset (List.Subset.refl _) (List.Subset.refl _) rfl rfl rfl (.refl _ _)

theorem mem_of_bind_request {id : Option Nat} (h : id.bind st.request = some b) : b ∈ st.requests := by
  obtain ⟨i, -, hi⟩ := Option.bind_eq_some_iff.1 h
  exact List.mem_of_find?_eq_some hi

theorem mem_of_bind_response {id : Option Nat} (h : id.bind st.response = some b) : b ∈ st.responses := by
  obtain ⟨i, -, hi⟩ := Option.bind_eq_some_iff.1 h
  exact List.mem_of_find?_eq_some hi

theorem quiet_releaseRequest (id : Option Nat) : Quiet k st (st.releaseRequest id) := by
  unfold Engine.releaseRequest
  split
  · rename_i b hb
    exact quiet_setRequest st (mem_of_bind_request st hb) rfl rfl rfl
  · exact .refl st

theorem quiet_releaseResponse (id : Option Nat) : Quiet k st (st.releaseResponse id) := by
  unfold Engine.releaseResponse
  split
  · rename_i b hb
    exact quiet_setResponse st (mem_of_bind_response st hb) rfl rfl rfl
  · exact .refl st

/-- A new buffer is at its start. -/
structure NewBuffer (role : BlockwiseRole) (l : List BlockwiseState) (n : Nat) (b : BlockwiseState) : Prop where
  mem : b ∈ l
  role : b.role = role
  offset : b.nextBlockOffset = 0
  id : b.id = n

theorem derived_append (hk : b.role = .server → b.key = k) : ∀ c ∈ l ++ [b], Derived k l b.id (b.id + 1) c := by
  intro c hc
  rcases List.mem_append.1 hc with hc | hc
  · exact .self hc
  · cases List.mem_singleton.1 hc
    exact .inr ⟨Nat.le_refl _, Nat.lt_succ_self _, hk⟩

theorem staysPut_append (hstart : b.nextBlockOffset = 0) : ∀ c ∈ l ++ [b], StaysPut l c := by
  intro c hc
  rcases List.mem_append.1 hc with hc | hc
  · exact .self hc
  · cases List.mem_singleton.1 hc
    exact .inr hstart

/-- A new request buffer has the key of the request that it is made for. -/
theorem quiet_allocRequest {env : EngineEnv} {href : OcString} {endpoint : OcEndpoint} {method : UInt8}
    {role : BlockwiseRole} {query : OcString} {st' : Engine}
    (h : ocBlockwiseAllocRequestBuffer env st href endpoint method role query = some (b, st'))
    (hk : role = .server → k = ⟨href, endpoint, method, query, .server⟩) :
    Quiet k st st' ∧ NewBuffer role st'.requests st.nextId b := by
  unfold ocBlockwiseAllocRequestBuffer at h
  split at h
  · cases h
  · cases h
    refine ⟨⟨⟨Nat.le_succ _, derived_append ?_, fun _ hc => .self hc, rfl, rfl, .refl _ _⟩, staysPut_append rfl,
      fun _ hc => .self hc⟩, List.mem_append_right _ List.mem_cons_self, rfl, rfl, rfl⟩
    rintro rfl
    exact (hk rfl).symm

theorem quiet_allocResponse {env : EngineEnv} {href : OcString} {endpoint : OcEndpoint} {method : UInt8}
    {role : BlockwiseRole} {query : OcString} {cb : Option Nat} {st' : Engine}
    (h : ocBlockwiseAllocResponseBuffer env st href endpoint method role query cb = some (b, st'))
    (hk : role = .server → k = ⟨href, endpoint, method, query, .server⟩) :
    Quiet k st st' ∧ NewBuffer role st'.responses st.nextId b := by
  unfold ocBlockwiseAllocResponseBuffer at h
  split at h
  · cases h
  · cases h
    refine ⟨⟨⟨Nat.le_succ _, fun _ hc => .self hc, derived_append ?_, rfl, rfl, .refl _ _⟩, fun _ hc => .self hc,
      staysPut_append rfl⟩, List.mem_append_right _ List.mem_cons_self, rfl, rfl, rfl⟩
    rintro rfl
    exact (hk rfl).symm

/-- Storing and dispatching a block change neither address nor key. -/
theorem handleBlock_key {B : BufferSettings} (h : ocBlockwiseHandleBlock B b offset block = some b') :
    b'.id = b.id ∧ b'.key = b.key := by
  unfold ocBlockwiseHandleBlock at h
  split at h
  · cases h
  · split at h <;> cases h <;> exact ⟨rfl, rfl⟩

theorem dispatchBlock_key (h : ocBlockwiseDispatchBlock b offset requested = some r) :
    r.1.id = b.id ∧ r.1.key = b.key := by
  unfold ocBlockwiseDispatchBlock at h
  split at h
  · cases h
    exact ⟨rfl, rfl⟩
  · cases h

section Operations

variable {B : BufferSettings} {list : BufferList}

theorem after_handle (h : ocBlockwiseHandleBlock B b offset block = some b') :
    (BlockCall.handle list b offset block).after B = b' := by
  rw [BlockCall.after, h]
  rfl

theorem after_dispatch (h : ocBlockwiseDispatchBlock b offset requested = some r) :
    (BlockCall.dispatch list b offset requested).after B = r.1 := by
  rw [BlockCall.after, h]

theorem after_role (c : BlockCall) : (c.after B).role = c.buffer.role := by
  cases c with
  | dispatch list b offset requested =>
    cases hdispatch : ocBlockwiseDispatchBlock b offset requested with
    | none =>
      rw [BlockCall.after, hdispatch]
      rfl
    | some r =>
      rw [after_dispatch hdispatch]
      exact congrArg BlockwiseKey.role (dispatchBlock_key hdispatch).2
  | handle list b offset block =>
    cases hhandle : ocBlockwiseHandleBlock B b offset block with
    | none =>
      rw [BlockCall.after, hhandle]
      rfl
    | some b' =>
      rw [after_handle hhandle]
      exact congrArg BlockwiseKey.role (handleBlock_key hhandle).2

theorem PlacedBy.handled (h : ocBlockwiseHandleBlock B b offset block = some b') :
    PlacedBy B list [.handle list b offset block] l b' :=
  .by_call List.mem_cons_self rfl (after_handle h ▸ .refl _)

theorem PlacedBy.dispatched (h : ocBlockwiseDispatchBlock b offset requested = some r) :
    PlacedBy B list [.dispatch list b offset requested] l r.1 :=
  .by_call List.mem_cons_self rfl (after_dispatch h ▸ .refl _)

/-- A buffer that is put back to its list, behind the calls. -/
structure Put (B : BufferSettings) (list : BufferList) (calls : List BlockCall) (l : List BlockwiseState)
    (b : BlockwiseState) : Prop where
  mem : ∃ a ∈ l, b.id = a.id ∧ b.key = a.key
  placed : PlacedBy B list calls l b

variable {calls calls' : List BlockCall} {l : List BlockwiseState} {b c : BlockwiseState}

theorem Put.self (hb : b ∈ l) : Put B list calls l b := ⟨⟨b, hb, rfl, rfl⟩, .self hb⟩

theorem Put.same (h : Put B list calls l b) (hid : c.id = b.id) (hkey : c.key = b.key)
    (hoffset : b.nextBlockOffset = c.nextBlockOffset) : Put B list calls l c := by
  obtain ⟨⟨a, ha, hba, hkeys⟩, hplaced⟩ := h
  exact ⟨⟨a, ha, hid.trans hba, hkey.trans hkeys⟩,
    hplaced.same ⟨hid.symm, (congrArg BlockwiseKey.role hkey).symm, hoffset⟩⟩

theorem Put.handled (h : Put B list [] l b) (hhandle : ocBlockwiseHandleBlock B b offset block = some c) :
    Put B list [.handle list b offset block] l c := by
  obtain ⟨⟨a, ha, hba, hkeys⟩, -⟩ := h
  obtain ⟨hid, hkey⟩ := handleBlock_key hhandle
  exact ⟨⟨a, ha, hid.trans hba, hkey.trans hkeys⟩, .handled hhandle⟩

theorem Put.dispatched (h : Put B list [] l b) (hdispatch : ocBlockwiseDispatchBlock b offset requested = some r) :
    Put B list [.dispatch list b offset requested] l r.1 := by
  obtain ⟨⟨a, ha, hba, hkeys⟩, -⟩ := h
  obtain ⟨hid, hkey⟩ := dispatchBlock_key hdispatch
  exact ⟨⟨a, ha, hid.trans hba, hkey.trans hkeys⟩, .dispatched hdispatch⟩

/-- What a part of `coap_receive` with the calls `calls` may do to the engine. -/
structure Performed (B : BufferSettings) (k : BlockwiseKey) (calls : List BlockCall) (st st' : Engine) : Prop where
  kept : Kept k st st'
  moved : Moved B calls st st'

variable {st} {st' st'' : Engine}

theorem Performed.of_quiet (h : Quiet k st st') : Performed B k [] st st' := ⟨h.toKept, .of_quiet h⟩

theorem Performed.refl (st : Engine) : Performed B k calls st st := ⟨.refl st, .refl st⟩

theorem Performed.mono (hsub : calls ⊆ calls') (h : Performed B k calls st st') : Performed B k calls' st st' :=
  ⟨h.kept, h.moved.mono hsub⟩

theorem Performed.trans (h : Performed B k calls st st') (h' : Performed B k calls' st' st'') :
    Performed B k (calls ++ calls') st st'' :=
  ⟨h.kept.trans h'.kept, h.moved.trans h'.moved⟩

theorem Quiet.performed (h : Quiet k st st') (h' : Performed B k calls st' st'') : Performed B k calls st st'' :=
  (Performed.of_quiet h).trans h'

theorem Performed.quiet (h : Performed B k calls st st') (h' : Quiet k st' st'') : Performed B k calls st st'' :=
  ⟨h.kept.trans h'.toKept, h.moved.quiet h'⟩

theorem Performed.setRequest (h : Put B .requests calls st.requests b) : Performed B k calls st (st.setRequest b) := by
  obtain ⟨⟨a, ha, hid, hkey⟩, hplaced⟩ := h
  exact ⟨kept_setRequest st ha hid hkey, .setRequest hplaced⟩

theorem Performed.setResponse (h : Put B .responses calls st.responses b) : Performed B k calls st (st.setResponse b) := by
  obtain ⟨⟨a, ha, hid, hkey⟩, hplaced⟩ := h
  exact ⟨kept_setResponse st ha hid hkey, .setResponse hplaced⟩

end Operations

/-! ## Sending -/

theorem quiet_coapSendTransaction (env : EngineEnv) (csm : CsmState) (mid : UInt16) (endpoint : OcEndpoint)
    (data : OcString) : Quiet k st (coapSendTransaction env csm st mid endpoint data).1 := by
  have hquiet : Quiet k st { st with
      transactions := st.transactions ++ [⟨st.nextTransaction, mid, endpoint, data, 0⟩]
      nextTransaction := st.nextTransaction + 1 } := by
    refine .of_subset (List.Subset.refl _) (List.Subset.refl _) rfl rfl rfl ⟨Nat.le_succ _, _, rfl, ?_,
      List.pairwise_singleton _ _⟩
    intro t ht
    cases List.mem_singleton.1 ht
    exact ⟨Nat.le_refl _, Nat.lt_succ_self _, rfl⟩
  unfold coapSendTransaction
  dsimp only
  split
  · exact hquiet
  · dsimp only
    split
    · exact hquiet
    · exact .refl st

theorem coapSendTransaction_buffers (env : EngineEnv) (csm : CsmState) (st : Engine) (mid : UInt16)
    (endpoint : OcEndpoint) (data : OcString) :
    (coapSendTransaction env csm st mid endpoint data).1.requests = st.requests ∧
      (coapSendTransaction env csm st mid endpoint data).1.clientCbs = st.clientCbs ∧
      (coapSendTransaction env csm st mid endpoint data).1.nextId = st.nextId := by
  unfold coapSendTransaction
  dsimp only
  split
  · exact ⟨rfl, rfl, rfl⟩
  · split <;> exact ⟨rfl, rfl, rfl⟩

theorem releaseRequest_unused (id : Nat) :
    ∀ b ∈ (st.releaseRequest (some id)).requests, b.id = id → b.refCount = 0 := by
  unfold Engine.releaseRequest
  dsimp only [Option.bind_some]
  cases hfound : st.request id with
  | none =>
    intro b hb hid
    have hno := List.find?_eq_none.1 hfound b hb
    simp [hid] at hno
  | some a =>
    intro b hb hid
    have ha : a.id = id := by simpa using List.find?_some hfound
    obtain ⟨c, -, rfl⟩ := List.mem_map.1 hb
    by_cases hc : c.id = a.id
    · rw [if_pos hc]
    · rw [if_neg hc] at hid
      exact absurd (hid.trans ha.symm) hc

/-! ## Requests -/

section Requests

variable (env : EngineEnv) (csm : CsmState) (message : CoapPacket) (endpoint : OcEndpoint) (response : CoapPacket)

theorem quiet_sendResponse : Quiet k st (sendResponse env csm message endpoint st response).1 := by
  unfold sendResponse
  dsimp only
  generalize (if response.type ≠ .rst ∧ message.token.length > 0 then response.setToken message.token else response) = p
  split
  · exact quiet_coapSendTransaction st env csm _ endpoint _
  · exact .refl st

variable (rq rs : Option Nat)

theorem quiet_sendReset : Quiet k st (sendReset env csm message endpoint st rq rs).1 := by
  unfold sendReset
  have hrelease := (quiet_releaseRequest (k := k) st rq).trans (quiet_releaseResponse _ rs)
  exact hrelease.trans (quiet_sendResponse _ env csm message endpoint _)

theorem quiet_findBlock1Buffer :
    Quiet k st (findBlock1Buffer st message endpoint).2 ∧ ∀ b, (findBlock1Buffer st message endpoint).1 = some b →
      b ∈ (findBlock1Buffer st message endpoint).2.requests := by
  unfold findBlock1Buffer
  split
  · rename_i b hb
    split
    · exact ⟨quiet_freeRequest st b.id, by simp⟩
    · refine ⟨.refl st, fun c hc => ?_⟩
      rw [← Option.some.inj hc]
      exact List.mem_of_find?_eq_some hb
  · exact ⟨.refl st, by simp⟩

theorem quiet_block1Buffer :
    Quiet (requestKey message endpoint) st (block1Buffer env st message endpoint).2 ∧
      ∀ b, (block1Buffer env st message endpoint).1 = some b → b ∈ (block1Buffer env st message endpoint).2.requests := by
  obtain ⟨hquiet, hmem⟩ := quiet_findBlock1Buffer (k := requestKey message endpoint) st message endpoint
  unfold block1Buffer
  split
  · rename_i b st' hfound
    rw [hfound] at hquiet hmem
    exact ⟨hquiet, hmem⟩
  · rename_i st' hfound
    rw [hfound] at hquiet
    split
    · split
      · rename_i b st'' halloc
        obtain ⟨hnew, hb⟩ := quiet_allocRequest (k := requestKey message endpoint) st' halloc fun _ => rfl
        refine ⟨hquiet.trans hnew, fun c hc => ?_⟩
        rw [← Option.some.inj hc]
        exact hb.mem
      · exact ⟨hquiet, by simp⟩
    · exact ⟨hquiet, by simp⟩

theorem performed_receiveBlock1 :
    Performed env.settings (requestKey message endpoint) (block1Calls env message endpoint st) st
      (receiveBlock1 env csm st message endpoint response).st := by
  obtain ⟨hquiet, hmem⟩ := quiet_block1Buffer st env message endpoint
  unfold receiveBlock1 block1Calls
  generalize block1Buffer env st message endpoint = r at *
  obtain ⟨found, st'⟩ := r
  cases found with
  | none => exact .of_quiet hquiet
  | some b =>
    have hb : b ∈ st'.requests := hmem b rfl
    dsimp only
    split
    · exact hquiet.performed (.refl st')
    · rename_i b' hhandle
      split
      · exact hquiet.performed (.setRequest ((Put.handled (.self hb) hhandle).same rfl rfl rfl))
      · have hput : Put env.settings .requests _ st'.getMid.2.requests _ := Put.handled (.self hb) hhandle
        exact (hquiet.trans (quiet_getMid st')).performed (.setRequest (hput.same rfl rfl rfl))

theorem quiet_findBlock2Buffer :
    Quiet k st (findBlock2Buffer env st message endpoint).2 ∧ ∀ b, (findBlock2Buffer env st message endpoint).1 = some b →
      b ∈ (findBlock2Buffer env st message endpoint).2.responses := by
  unfold findBlock2Buffer
  split
  · rename_i b hb
    split
    · exact ⟨quiet_freeResponse st b.id, by simp⟩
    · refine ⟨.refl st, fun c hc => ?_⟩
      rw [← Option.some.inj hc]
      exact List.mem_of_find?_eq_some hb
  · exact ⟨.refl st, by simp⟩

theorem performed_storeRequest :
    Quiet (requestKey message endpoint) st (storeRequest env st message endpoint).2.2 ∧
      ∀ b, (storeRequest env st message endpoint).1 = some b →
        Put env.settings .requests (storeCalls env message endpoint st)
          (storeRequest env st message endpoint).2.2.requests b := by
  unfold storeRequest storeCalls
  cases halloc : ocBlockwiseAllocRequestBuffer env st (coapGetHeaderUriPath message) endpoint message.code .server
    message.uriQuery with
  | none => exact ⟨.refl st, by simp⟩
  | some r =>
    obtain ⟨a, st'⟩ := r
    obtain ⟨hnew, ha⟩ := quiet_allocRequest (k := requestKey message endpoint) st halloc fun _ => rfl
    dsimp only
    split
    · exact ⟨hnew, by simp⟩
    · rename_i b hhandle
      refine ⟨hnew, fun c hc => ?_⟩
      rw [← Option.some.inj hc]
      exact (Put.handled (.self ha.mem) hhandle).same rfl rfl rfl

theorem performed_receiveBlock2 :
    Performed env.settings (requestKey message endpoint) (block2Calls env message endpoint st) st
      (receiveBlock2 env csm st message endpoint response).st := by
  obtain ⟨hquiet, hmem⟩ := quiet_findBlock2Buffer (k := requestKey message endpoint) st env message endpoint
  unfold receiveBlock2 block2Calls
  generalize findBlock2Buffer env st message endpoint = r at *
  obtain ⟨found, st'⟩ := r
  cases found with
  | some b =>
    have hb : b ∈ st'.responses := hmem b rfl
    dsimp only
    split
    · rename_i b' payload hdispatch
      by_cases hlast : b'.nextBlockOffset < b'.payloadSize
      · simp only [if_pos hlast]
        exact hquiet.performed (.setResponse (.dispatched (.self hb) hdispatch))
      · have hput : Put env.settings .responses _ st'.getMid.2.responses _ := .dispatched (.self hb) hdispatch
        simp only [if_neg hlast]
        exact (hquiet.trans (quiet_getMid st')).performed (.setResponse hput)
    · exact hquiet.performed (.refl st')
  | none =>
    dsimp only
    have hmoved : Performed env.settings (requestKey message endpoint) [] st st' := .of_quiet hquiet
    by_cases hnum : message.block2.num = 0
    · by_cases hpayload : message.payload.length > 0
      · cases hfind : st'.requests.find? (requestKey message endpoint).finds with
        | some b => simpa [hnum, hpayload, hfind] using hmoved
        | none =>
          obtain ⟨hstore, hput⟩ := performed_storeRequest st' env message endpoint
          simp only [hnum, hpayload, Option.isNone_none, and_self, reduceIte]
          generalize storeRequest env st' message endpoint = s at hstore hput ⊢
          obtain ⟨stored, id, st''⟩ := s
          cases stored with
          | none => exact (hquiet.trans hstore).performed (.refl st'')
          | some b => exact (hquiet.trans hstore).performed (.setRequest (hput b rfl))
      · simpa [hnum, hpayload] using hmoved
    · simpa [hnum] using hmoved

theorem quiet_dropRequestBuffer : Quiet k st (dropRequestBuffer st message endpoint) := by
  unfold dropRequestBuffer
  split
  · exact quiet_freeRequest st _
  · exact .refl st

theorem performed_plainRequestBuffer (hfits : plainRequestFits env message endpoint = true) :
    Performed env.settings (requestKey message endpoint) (plainCalls env message endpoint st) st
      (plainRequestBuffer env st message endpoint).2.2 := by
  unfold plainCalls plainRequestBuffer
  by_cases hpayload : message.payload.length > 0
  · have hdrop := quiet_dropRequestBuffer (k := requestKey message endpoint) st message endpoint
    obtain ⟨hstore, hput⟩ := performed_storeRequest (dropRequestBuffer st message endpoint) env message endpoint
    rw [if_pos ⟨hfits, hpayload⟩, if_pos hpayload]
    generalize storeRequest env (dropRequestBuffer st message endpoint) message endpoint = s at hstore hput ⊢
    obtain ⟨stored, id, st''⟩ := s
    cases stored with
    | none => exact (hdrop.trans hstore).performed (.refl st'')
    | some b => exact (hdrop.trans hstore).performed (.setRequest ((hput b rfl).same rfl rfl rfl))
  · rw [if_neg fun h => hpayload h.2, if_neg hpayload]
    exact .refl st

theorem performed_receivePlain :
    Performed env.settings (requestKey message endpoint) (plainCalls env message endpoint st) st
      (receivePlain env st message endpoint response).st := by
  unfold receivePlain
  split
  · rename_i hfits
    have hplain := performed_plainRequestBuffer st env message endpoint hfits
    generalize plainRequestBuffer env st message endpoint = r at hplain ⊢
    obtain ⟨rq, id, st'⟩ := r
    cases rq with
    | none => exact hplain
    | some rq =>
      dsimp only
      split
      · split
        · exact hplain
        · exact hplain.quiet (quiet_freeResponse st' _)
      · exact hplain
  · exact .refl st

theorem quiet_freeParsedRequest (rq : Option Nat) : Quiet k st (freeParsedRequest st message rq).2 := by
  unfold freeParsedRequest
  split
  · split
    · exact quiet_freeRequest st _
    · exact .refl st
  · exact .refl st

theorem quiet_handlerBuffer (rs : Option Nat) :
    Quiet (requestKey message endpoint) st (handlerBuffer env st message endpoint rs).2.2 := by
  unfold handlerBuffer
  split
  · split
    · exact .refl st
    · split
      · rename_i b st' halloc
        exact (quiet_allocResponse (k := requestKey message endpoint) st halloc fun _ => rfl).1
      · exact .refl st
  · exact .refl st

theorem finishHandler_st (success ignore : Bool) (code : UInt8) (payload answer : OcString) :
    (finishHandler env csm st message endpoint response rq rs success ignore code payload answer).st = st := by
  unfold finishHandler
  dsimp only
  split
  · rfl
  · split <;> rfl

theorem quiet_invoke :
    Quiet (requestKey message endpoint) st
      (ocRiInvokeCoapEntityHandler env csm st message endpoint response rq rs).st := by
  have hfree := quiet_freeParsedRequest (k := requestKey message endpoint) st message rq
  have hbuffer := quiet_handlerBuffer (freeParsedRequest st message rq).2 env message endpoint rs
  unfold ocRiInvokeCoapEntityHandler
  rw [finishHandler_st]
  refine (hfree.trans hbuffer).trans ?_
  split
  · rename_i b hb
    exact quiet_setResponse _ (mem_of_bind_response _ hb) rfl rfl rfl
  · exact .refl _

theorem performed_firstBlock (hb : b ∈ st.responses) : Performed env.settings k
      (if endpoint.flags.tcp then [.dispatch .responses b 0 (b.payloadSize + 1)]
        else [.dispatch .responses b 0 (block2Size env.settings message).toUInt32])
      st (firstBlock env st message endpoint response b).1 := by
  unfold firstBlock
  dsimp only
  split
  · split
    · rename_i b' payload hdispatch
      exact .setResponse ((Put.dispatched (.self hb) hdispatch).same rfl rfl rfl)
    · exact .setResponse ((Put.self hb).same rfl rfl rfl)
  · cases hdispatch : ocBlockwiseDispatchBlock b 0 (block2Size env.settings message).toUInt32 with
    | some r =>
      dsimp only
      split
      · exact .setResponse (.dispatched (.self hb) hdispatch)
      · exact .setResponse ((Put.dispatched (.self hb) hdispatch).same rfl rfl rfl)
    | none =>
      dsimp only
      split
      · exact .setResponse (.self hb)
      · exact .setResponse ((Put.self hb).same rfl rfl rfl)

theorem performed_respond (r : HandlerResult) :
    Performed env.settings k (respondCalls env message endpoint r) r.st (respond env message endpoint r).1 := by
  unfold respond respondCalls
  split
  · cases hb : r.responseBuffer.bind r.st.response with
    | some b => exact performed_firstBlock r.st env message endpoint r.response (mem_of_bind_response r.st hb)
    | none => exact .refl _
  · exact .of_quiet ((quiet_releaseRequest r.st _).trans (quiet_releaseResponse _ _))

theorem performed_handleRequest :
    Performed env.settings (requestKey message endpoint)
      (respondCalls env message endpoint (ocRiInvokeCoapEntityHandler env csm st message endpoint response rq rs)) st
      (handleRequest env csm message endpoint st response rq rs).1 := by
  have hinvoke := quiet_invoke st env csm message endpoint response rq rs
  unfold handleRequest
  generalize ocRiInvokeCoapEntityHandler env csm st message endpoint response rq rs = r at *
  have hrespond := hinvoke.performed (performed_respond env message endpoint r)
  dsimp only
  split
  · exact hrespond
  · split
    · exact hrespond.quiet (quiet_sendResponse _ env csm message endpoint _)
    · exact hrespond.quiet (quiet_sendReset _ env csm message endpoint _ _)

theorem performed_serverStep :
    Performed env.settings (requestKey message endpoint) (serverCalls env message endpoint st) st
      (serverStep env csm message endpoint st response).st := by
  unfold serverStep serverCalls
  split
  · exact performed_receiveBlock1 st env csm message endpoint response
  · split
    · exact performed_receiveBlock2 st env csm message endpoint response
    · exact performed_receivePlain st env message endpoint response

theorem performed_goOn (step : ServerStep) :
    Performed env.settings (requestKey message endpoint) (goOnCalls env csm message endpoint step) step.st
      (goOn env csm message endpoint step).1 := by
  obtain ⟨st, out, next⟩ := step
  cases next with
  | send response => exact .of_quiet (quiet_sendResponse st env csm message endpoint response)
  | clear => exact .refl st
  | handle response rq rs => exact performed_handleRequest st env csm message endpoint response rq rs
  | reset rq rs => exact .of_quiet (quiet_sendReset st env csm message endpoint rq rs)

theorem performed_receiveRequest :
    Performed env.settings (requestKey message endpoint) (requestCalls env csm message endpoint st)
      (initResponse message endpoint st).2 (receiveRequest env csm message endpoint st).1 := by
  unfold receiveRequest requestCalls
  generalize initResponse message endpoint st = r
  obtain ⟨response, st'⟩ := r
  cases response with
  | none => exact .refl st'
  | some response =>
    dsimp only
    split
    · exact .of_quiet (quiet_scrubBuffers st')
    · have hstep := performed_serverStep st' env csm message endpoint response
      exact (hstep.trans (performed_goOn env csm message endpoint _)).quiet (quiet_scrubBuffers _)

end Requests

/-! ## Responses -/

theorem quiet_setCb (cb : ClientCb) : Quiet k st (st.setCb cb) :=
  .of_subset (List.Subset.refl _) (List.Subset.refl _) rfl rfl rfl (.refl _ _)

theorem quiet_freeClientCb (id : Nat) : Quiet k st (st.freeClientCb id) :=
  .of_subset (fun _ => List.mem_of_mem_filter) (fun _ => List.mem_of_mem_filter) rfl rfl rfl (.refl _ _)

theorem quiet_freeClientCbs : ∀ (cbs : List ClientCb) (st : Engine),
    Quiet k st (cbs.foldl (fun st cb => st.freeClientCb cb.id) st)
  | [], st => .refl st
  | cb :: cbs, st => (quiet_freeClientCb st cb.id).trans (quiet_freeClientCbs cbs _)

theorem quiet_freeClientCbsByMid (mid : UInt16) : Quiet k st (st.freeClientCbsByMid mid).1 := quiet_freeClientCbs _ st

section Responses

variable (env : EngineEnv) (csm : CsmState) (message : CoapPacket) (endpoint : OcEndpoint)

theorem quiet_settleClientCb (cb : ClientCb) (observe : UInt32) (separate : Bool) (rs : Option Nat) :
    Quiet k st (settleClientCb st endpoint cb observe separate rs).1 := by
  unfold settleClientCb
  dsimp only
  generalize hcb : ({ cb with refCount := 0, separate := cb.separate || separate } : ClientCb) = cb'
  have hset := quiet_setCb (k := k) st cb'
  split
  · split
    · split
      · exact hset.trans (quiet_freeClientCbsByMid _ _)
      · exact hset
    · exact hset.trans (quiet_freeClientCb _ _)
  · have hset' := hset.trans (quiet_setCb (k := k) (st.setCb cb')
      { cb with refCount := 0, separate := cb.separate || separate, observeSeq := observe })
    split
    · split
      · exact hset'.trans (quiet_freeClientCb _ _)
      · exact hset'
    · exact hset'

theorem quiet_ocRiInvokeClientCb (cb : ClientCb) (rs : Option Nat) :
    Quiet k st (ocRiInvokeClientCb env st message endpoint cb rs).1 := by
  unfold ocRiInvokeClientCb
  generalize responseData st rs = d
  obtain ⟨observe, payload⟩ := d
  dsimp only
  split
  · split
    · split
      · exact (quiet_setCb st _).trans (quiet_freeClientCbsByMid _ _)
      · exact quiet_settleClientCb st endpoint cb observe false rs
    · exact quiet_settleClientCb st endpoint cb observe false rs
  · exact quiet_settleClientCb st endpoint cb observe _ rs

variable (cb : Option ClientCb)

theorem quiet_finishClient (rq rs : Option Nat) : Quiet k st (finishClient env st message endpoint cb rq rs).1 := by
  unfold finishClient
  cases cb with
  | none => exact ((quiet_releaseRequest st rq).trans (quiet_releaseResponse _ rs)).trans (quiet_scrubBuffers _)
  | some cb =>
    have hinvoke := (quiet_releaseRequest (k := k) st rq).trans
      (quiet_ocRiInvokeClientCb (st.releaseRequest rq) env message endpoint cb rs)
    generalize hr : ocRiInvokeClientCb env (st.releaseRequest rq) message endpoint cb rs = r at hinvoke
    obtain ⟨st', rs', out⟩ := r
    dsimp only
    rw [hr]
    refine (hinvoke.trans ?_).trans (quiet_scrubBuffers _)
    dsimp only
    split
    · split
      · exact quiet_setCb st' _
      · exact quiet_releaseResponse st' rs'
    · exact .refl st'

theorem quiet_renewTokens {rq rs : Option BlockwiseState} (hrq : ∀ b, rq = some b → b ∈ st.requests)
    (hrs : ∀ b, rs = some b → b ∈ st.responses) : Quiet k st (renewTokens env st message rq rs) := by
  unfold renewTokens
  split
  · cases rq with
    | none =>
      cases rs with
      | none => exact .refl st
      | some b => exact quiet_setResponse st (hrs b rfl) rfl rfl rfl
    | some c =>
      have hset : Quiet k st (st.setRequest { c with token := env.randomToken.toList }) :=
        quiet_setRequest st (hrq c rfl) rfl rfl rfl
      cases rs with
      | none => exact hset
      | some b => exact hset.trans (quiet_setResponse _ (b := b) (hrs b rfl) rfl rfl rfl)
  · exact .refl st

theorem quiet_sendBlockRequest (request : CoapPacket) {rq rs : Option BlockwiseState}
    (hrq : ∀ b, rq = some b → b ∈ st.requests) (hrs : ∀ b, rs = some b → b ∈ st.responses) :
    Quiet k st (sendBlockRequest env st message endpoint csm request rq rs).1 := by
  have hrenew := quiet_renewTokens (k := k) st env message hrq hrs
  unfold sendBlockRequest
  dsimp only
  split
  · exact hrenew.trans (quiet_coapSendTransaction _ env csm _ endpoint _)
  · exact hrenew

theorem findDownloadBuffer_requests : (findDownloadBuffer env st message endpoint cb).2.requests = st.requests := by
  unfold findDownloadBuffer ocBlockwiseAllocResponseBuffer
  split
  · split
    · rfl
    · split
      · rename_i halloc
        split at halloc
        · cases halloc
        · cases halloc
          rfl
      · rfl
  · rfl

theorem quiet_findDownloadBuffer : Quiet k st (findDownloadBuffer env st message endpoint cb).2 := by
  unfold findDownloadBuffer
  split
  · split
    · exact .refl st
    · split
      · rename_i b st' halloc
        exact (quiet_allocResponse st halloc nofun).1
      · exact .refl st
  · exact .refl st

theorem find_by_clientCb {cb : Nat} (h : l.find? (findsByClientCb endpoint cb) = some b) :
    b ∈ l ∧ b.role = .client := by
  have hfinds : findsByClientCb endpoint cb b = true := List.find?_some h
  simp only [findsByClientCb, Bool.and_eq_true, beq_iff_eq] at hfinds
  exact ⟨List.mem_of_find?_eq_some h, hfinds.1.1⟩

theorem find_by_mid_or_token {mid : UInt16} {token : OcString}
    (h : (l.find? (findsByMid mid)).or (l.find? (findsByToken token)) = some b) : b ∈ l ∧ b.role = .client := by
  rcases Option.or_eq_some_iff.1 h with h | ⟨-, h⟩
  · have hfinds : findsByMid mid b = true := List.find?_some h
    simp only [findsByMid, Bool.and_eq_true, beq_iff_eq] at hfinds
    exact ⟨List.mem_of_find?_eq_some h, hfinds.2⟩
  · have hfinds : findsByToken token b = true := List.find?_some h
    simp only [findsByToken, Bool.and_eq_true, beq_iff_eq] at hfinds
    exact ⟨List.mem_of_find?_eq_some h, hfinds.1.2⟩

/-- The buffer that is found for a response is one of the list, and one of the client. -/
theorem findDownloadBuffer_client (h : (findDownloadBuffer env st message endpoint cb).1 = some b) :
    b ∈ (findDownloadBuffer env st message endpoint cb).2.responses ∧ b.role = .client := by
  unfold findDownloadBuffer at h ⊢
  cases cb with
  | some cb =>
    dsimp only at h ⊢
    cases hfind : st.responses.find? (findsByClientCb endpoint cb.id) with
    | some c =>
      rw [hfind] at h
      dsimp only at h ⊢
      cases h
      exact find_by_clientCb endpoint hfind
    | none =>
      rw [hfind] at h
      dsimp only at h ⊢
      split at h
      · rename_i c st' halloc
        cases h
        obtain ⟨-, hnew⟩ := quiet_allocResponse (k := requestKey message endpoint) st halloc nofun
        exact ⟨hnew.mem, hnew.role⟩
      · cases h
  | none => exact find_by_mid_or_token h

/-- The buffer that is found for an upload is one of the list, and one of the client. -/
theorem findUploadBuffer_client {cb : Option ClientCb} (h : findUploadBuffer st message endpoint cb = some b) :
    b ∈ st.requests ∧ b.role = .client := by
  cases cb with
  | some cb => exact find_by_clientCb endpoint h
  | none => exact find_by_mid_or_token h

theorem performed_receiveDownload (mid : UInt16) (cb : Option ClientCb) {rq : Option BlockwiseState}
    (hrq : ∀ b, rq = some b → b ∈ st.requests) :
    Performed env.settings k (downloadCalls env message endpoint st cb) st
      (receiveDownload env st message endpoint csm mid cb rq).1 := by
  have hquiet := quiet_findDownloadBuffer (k := k) st env message endpoint cb
  have hclient {b : BlockwiseState} := findDownloadBuffer_client st env message endpoint cb (b := b)
  have hrequests := findDownloadBuffer_requests st env message endpoint cb
  unfold receiveDownload downloadCalls
  generalize findDownloadBuffer env st message endpoint cb = found at *
  obtain ⟨found, st'⟩ := found
  dsimp only at hquiet hclient hrequests ⊢
  have hfinish (st : Engine) (cb : Option ClientCb) (rq rs : Option Nat) :=
    quiet_finishClient (k := k) st env message endpoint cb rq rs
  rw [← hrequests] at hrq
  cases found with
  | none => exact .of_quiet (hquiet.trans (hfinish st' _ _ _))
  | some b =>
    have hb : b ∈ st'.responses := (hclient rfl).1
    dsimp only
    cases herror : errorResponse message with
    | true => exact .of_quiet (hquiet.trans (hfinish st' _ _ _))
    | false =>
      generalize hb' : (if message.isOption coapOptionObserve = true then { b with observeSeq := message.observe }
        else b) = b'
      -- noting the observe number is no call, and moves nothing
      have hput (calls : List BlockCall) : Put env.settings .responses calls st'.responses b' := by
        rw [← hb']
        split
        · exact (Put.self hb).same rfl rfl rfl
        · exact .self hb
      by_cases hpayload : message.payload.length > 0
      · simp only [Bool.false_eq_true, if_false, hpayload, and_self, if_true]
        cases hhandle : ocBlockwiseHandleBlock env.settings b' message.block2.offset message.payload with
        | none => exact hquiet.performed ((Performed.setResponse (hput _)).quiet (hfinish _ _ _ _))
        | some c =>
          have hcall := (hput []).handled hhandle
          dsimp only
          split
          · split
            · rename_i cb' _
              have hset : Performed env.settings k [.handle .responses b' message.block2.offset message.payload] st'
                  (st'.setResponse { c with mid := mid }) := .setResponse (hcall.same rfl rfl rfl)
              have hmem : { c with mid := mid } ∈ (st'.setResponse { c with mid := mid }).responses := by
                obtain ⟨a, ha, hid, -⟩ := hcall.mem
                exact mem_replaceBuffer_self ha hid
              have hsend := quiet_sendBlockRequest (k := k) (st'.setResponse { c with mid := mid })
                env csm message endpoint (downloadMessage env message cb' mid) hrq fun _ heq => Option.some.inj heq ▸ hmem
              exact hquiet.performed (hset.quiet (hsend.trans (quiet_scrubBuffers _)))
            · exact hquiet.performed ((Performed.refl st').quiet (quiet_scrubBuffers st'))
          · have hset : Performed env.settings k [.handle .responses b' message.block2.offset message.payload] st'
                (st'.setResponse { c with payloadSize := c.nextBlockOffset }) := .setResponse (hcall.same rfl rfl rfl)
            exact hquiet.performed (hset.quiet (hfinish _ _ _ _))
      · simp only [Bool.false_eq_true, if_false, hpayload, and_false]
        exact hquiet.performed ((Performed.setResponse (hput _)).quiet (hfinish _ _ _ _))

theorem quiet_dropUploadBuffer (hb : b ∈ st.requests) : Quiet k st (dropUploadBuffer st message b).2 ∧
      ∀ c, (dropUploadBuffer st message b).1 = some c → c ∈ (dropUploadBuffer st message b).2.requests := by
  unfold dropUploadBuffer
  split
  · exact ⟨quiet_freeRequest st _, by simp⟩
  · exact ⟨.refl st, fun c hc => Option.some.inj hc ▸ hb⟩

theorem put_nextUploadBlock {size : UInt16} (h : nextUploadBlock env message b = (some r, size)) (hb : b ∈ l) :
    Put env.settings .requests [uploadCall env message b] l r.1 := by
  unfold uploadCall
  rw [h]
  unfold nextUploadBlock at h
  split at h
  · rename_i hblock
    rw [if_pos hblock]
    exact .dispatched (.self hb) (congrArg Prod.fst h)
  · rename_i hblock
    dsimp only at h
    generalize (if message.isOption coapOptionSize1 = true then
      min message.size1.toUInt16 (UInt16.ofNat env.settings.blockSize) else UInt16.ofNat env.settings.blockSize) = m at h
    obtain ⟨r', hr', rfl⟩ := Option.map_eq_some_iff.1 (congrArg Prod.fst h)
    rw [if_neg hblock]
    have hsize : m = size := congrArg Prod.snd h
    rw [hsize] at hr'
    exact (Put.dispatched (.self hb) hr').same rfl rfl rfl

theorem performed_receiveUpload (mid : UInt16) (hb : b ∈ st.requests) (cb : Option ClientCb) :
    Performed env.settings k (uploadCalls env message endpoint st b cb) st
      (receiveUpload env st message endpoint csm mid b cb).1 := by
  unfold receiveUpload uploadCalls
  cases hnext : nextUploadBlock env message b with
  | mk found size =>
    cases found with
    | none =>
      exact ((quiet_freeRequest st b.id).performed
        (performed_receiveDownload _ env csm message endpoint mid cb (by simp))).mono (List.subset_cons_self _ _)
    | some r =>
      obtain ⟨b', payload⟩ := r
      have hcall := put_nextUploadBlock env message hnext hb
      obtain ⟨a, ha, hid, -⟩ := hcall.mem
      cases cb with
      | none => exact (Performed.refl st).quiet (quiet_scrubBuffers st)
      | some cb =>
        dsimp only
        split
        · have hset : Performed env.settings k [uploadCall env message b] st (st.setRequest { b' with mid := mid }) :=
            .setRequest (hcall.same rfl rfl rfl)
          have hmem : { b' with mid := mid } ∈ (st.setRequest { b' with mid := mid }).requests :=
            mem_replaceBuffer_self ha hid
          have hsend := quiet_sendBlockRequest (k := k) (st.setRequest { b' with mid := mid })
            env csm message endpoint (uploadMessage env message b' cb mid payload size)
            (fun _ heq => Option.some.inj heq ▸ hmem) fun (c : BlockwiseState) (hc : none = some c) => by cases hc
          exact hset.quiet (hsend.trans (quiet_scrubBuffers _))
        · have hset : Performed env.settings k [uploadCall env message b] st (st.setRequest b') := .setRequest hcall
          obtain ⟨hdrop, hhand⟩ := quiet_dropUploadBuffer (k := k) (st.setRequest b') message (mem_replaceBuffer_self ha hid)
          exact (hset.quiet hdrop).trans (performed_receiveDownload _ env csm message endpoint mid (some cb) hhand)

theorem performed_receiveResponse :
    Performed env.settings k (responseCalls env message endpoint st) st
      (receiveResponse env st message endpoint csm).1 := by
  unfold receiveResponse responseCalls
  refine (quiet_getMid st).performed ?_
  generalize st.getMid = m
  obtain ⟨mid, st'⟩ := m
  dsimp only
  cases hfound : findUploadBuffer st' message endpoint (responseCb st' message) with
  | none => exact performed_receiveDownload st' env csm message endpoint mid _ (by simp)
  | some b =>
    have hb := (findUploadBuffer_client st' message endpoint hfound).1
    dsimp only
    split
    · exact performed_receiveUpload st' env csm message endpoint mid hb _
    · obtain ⟨hdrop, hhand⟩ := quiet_dropUploadBuffer (k := k) st' message hb
      exact hdrop.performed (performed_receiveDownload _ env csm message endpoint mid _ hhand)

end Responses

/-! ## Messages -/

section Messages

variable (env : EngineEnv) (data : OcString) (endpoint : OcEndpoint)

/-- The three ways of a message: it is refused, it is a request, or it is anything else. -/
theorem coapReceive_kept :
    let message := (parseMessage env data endpoint).2
    let st₀ := clearTransaction st message endpoint
    ((parseMessage env data endpoint).1 ≠ coapNoError ∧ (coapReceive env st data endpoint).1 = st) ∨
      ((parseMessage env data endpoint).1 = coapNoError ∧ isRequest message = true ∧
        Kept (requestKey message endpoint) (initResponse message endpoint st₀).2 (coapReceive env st data endpoint).1) ∨
      ((parseMessage env data endpoint).1 = coapNoError ∧ isRequest message = false ∧
        ∀ k, Kept k st₀ (coapReceive env st data endpoint).1) := by
  unfold coapReceive
  generalize parseMessage env data endpoint = r
  obtain ⟨status, message⟩ := r
  dsimp only
  by_cases hstatus : status = coapNoError
  · rw [if_pos hstatus]
    cases hrequest : isRequest message with
    | true => exact .inr (.inl ⟨hstatus, rfl, (performed_receiveRequest _ env _ message endpoint).kept⟩)
    | false => exact .inr (.inr ⟨hstatus, rfl, fun k => (performed_receiveResponse _ env _ message endpoint).kept⟩)
  · rw [if_neg hstatus]
    exact .inl ⟨hstatus, rfl⟩

end Messages

end SmartGarage
