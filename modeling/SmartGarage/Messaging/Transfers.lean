/-
Which transfer a buffer belongs to: a buffer is made for the key of one message, keeps that key, and is
found again by key. The search compares only a part of the path and of the endpoint, so that it can find the
buffer of another transfer; where no open transfer has such a key, it does not.
-/
import SmartGarage.Messaging.Events

namespace SmartGarage

open Runs

variable {b : BlockwiseState} {k : BlockwiseKey} {l : List BlockwiseState} {st st' : Engine}

/-! ## Transfers -/

/-- The system, and for each buffer that has been made the key of the event that made it. -/
structure Owned where
  sys : System
  owner : Nat → Option BlockwiseKey

/-- One event: the buffers that it makes are its own. -/
def Owned.step (s : Owned) (e : Event) : Owned where
  sys := s.sys.step e
  owner := fun id => if id < s.sys.engine.nextId then s.owner id else e.key

/-- The start. -/
def Owned.init (mid : UInt16) : Owned := ⟨.init mid, fun _ => none⟩

/-- Two endpoints are one: `oc_endpoint_compare`, and the same scope. -/
def SameEndpoint (ep ep' : OcEndpoint) : Prop := ocEndpointCompare ep ep' = true ∧ ep.scope = ep'.scope

/-- Two keys are those of one transfer. -/
structure SameTransfer (k k' : BlockwiseKey) : Prop where
  href : k.href = k'.href
  endpoint : SameEndpoint k.endpoint k'.endpoint
  method : k.method = k'.method
  query : k.query = k'.query
  role : k.role = k'.role

/-- A path that the search by `k` takes for its own, at an endpoint that it takes for its own, is its own. -/
def Unmistakable (k k' : BlockwiseKey) : Prop :=
  k.method = k'.method → k.query = k'.query → ocEndpointCompare k.endpoint k'.endpoint = true →
    strncmpEq k'.href k.href = true → k.href = k'.href ∧ k.endpoint.scope = k'.endpoint.scope

/-- The buffers of both lists. -/
def Engine.buffers (st : Engine) : List BlockwiseState := st.requests ++ st.responses

/-- No transfer that is open has a key that can be taken for the one of the event. -/
def KeysApart (s : Owned) (e : Event) : Prop :=
  ∀ k' ∈ e.key, ∀ b ∈ s.sys.engine.buffers, ∀ k ∈ s.owner b.id, Unmistakable k k'

instance (k k' : BlockwiseKey) : Decidable (Unmistakable k k') :=
  inferInstanceAs (Decidable (_ → _ → _ → _ → _))

instance (s : Owned) (e : Event) : Decidable (KeysApart s e) :=
  inferInstanceAs (Decidable (∀ k' ∈ e.key, ∀ b ∈ s.sys.engine.buffers, ∀ k ∈ s.owner b.id, Unmistakable k k'))

/-! ## One event -/

/-- A buffer that was there before, or one that has been made for a key. -/
def Made (k : Option BlockwiseKey) (l : List BlockwiseState) (lo hi : Nat) (b : BlockwiseState) : Prop :=
  (∃ a ∈ l, a.id = b.id ∧ a.key = b.key) ∨ (lo ≤ b.id ∧ b.id < hi ∧ (b.role = .server → k = some b.key))

/-- What an event does to the buffers. -/
structure MadeFor (k : Option BlockwiseKey) (st st' : Engine) : Prop where
  nextId : st.nextId ≤ st'.nextId
  requests : ∀ b ∈ st'.requests, Made k st.requests st.nextId st'.nextId b
  responses : ∀ b ∈ st'.responses, Made k st.responses st.nextId st'.nextId b

theorem Derived.made {lo hi : Nat}
    (h : Derived k l lo hi b) : Made (some k) l lo hi b := by
  rcases h with hold | ⟨hlo, hhi, hkey⟩
  · exact .inl hold
  · exact .inr ⟨hlo, hhi, fun hrole => congrArg some (hkey hrole).symm⟩

theorem Kept.madeFor (h : Kept k st st') : MadeFor (some k) st st' :=
  ⟨h.nextId, fun b hb => (h.requests b hb).made, fun b hb => (h.responses b hb).made⟩

theorem Derived.made_none {lo hi : Nat} (k : Option BlockwiseKey)
    (h : ∀ k, Derived k l lo hi b) : Made k l lo hi b := by
  -- a new buffer of a server would have two keys
  rcases h ⟨[], b.endpoint, 0, [], .server⟩ with hold | ⟨hlo, hhi, hkey⟩
  · exact .inl hold
  · rcases h ⟨[], b.endpoint, 1, [], .server⟩ with hold | ⟨-, -, hkey'⟩
    · exact .inl hold
    · refine .inr ⟨hlo, hhi, fun hrole => ?_⟩
      have hmethod : (0 : UInt8) = 1 := congrArg BlockwiseKey.method ((hkey hrole).symm.trans (hkey' hrole))
      exact absurd hmethod (by decide)

theorem madeFor_none (k : Option BlockwiseKey) (h : ∀ k, Kept k st st') : MadeFor k st st' :=
  ⟨(h ⟨[], OcEndpoint.zero, 0, [], .server⟩).nextId, fun b hb => Derived.made_none k fun k => (h k).requests b hb,
    fun b hb => Derived.made_none k fun k => (h k).responses b hb⟩

theorem Dropped.madeFor (k : Option BlockwiseKey) (h : Dropped st st') : MadeFor k st st' :=
  ⟨Nat.le_of_eq h.nextId.symm, fun b hb => .inl ⟨b, h.requests hb, rfl, rfl⟩,
    fun b hb => .inl ⟨b, h.responses hb, rfl, rfl⟩⟩

theorem clearTransaction_buffers (st : Engine) (message : CoapPacket) (endpoint : OcEndpoint) :
    (clearTransaction st message endpoint).requests = st.requests ∧
      (clearTransaction st message endpoint).responses = st.responses ∧
      (clearTransaction st message endpoint).nextId = st.nextId := by
  unfold clearTransaction
  split
  · exact ⟨rfl, rfl, rfl⟩
  · exact ⟨rfl, rfl, rfl⟩

theorem initResponse_buffers (st : Engine) (message : CoapPacket) (endpoint : OcEndpoint) :
    (initResponse message endpoint st).2.requests = st.requests ∧
      (initResponse message endpoint st).2.responses = st.responses ∧
      (initResponse message endpoint st).2.nextId = st.nextId := by
  unfold initResponse
  dsimp only
  repeat' split
  all_goals exact ⟨rfl, rfl, rfl⟩

/-- The buffers that an engine starts from may be those of another engine. -/
theorem MadeFor.of_same {k : Option BlockwiseKey} {st₀ st st' : Engine} (h : MadeFor k st st')
    (hsame : st.requests = st₀.requests ∧ st.responses = st₀.responses ∧ st.nextId = st₀.nextId) : MadeFor k st₀ st' := by
  obtain ⟨hrequests, hresponses, hnextId⟩ := hsame
  refine ⟨hnextId ▸ h.nextId, fun b hb => ?_, fun b hb => ?_⟩
  · rw [← hrequests, ← hnextId]
    exact h.requests b hb
  · rw [← hresponses, ← hnextId]
    exact h.responses b hb

theorem madeFor_coapReceive (st : Engine) (env : EngineEnv) (data : OcString) (endpoint : OcEndpoint) :
    MadeFor (Event.receive env data endpoint).key st (coapReceive env st data endpoint).1 := by
  have hkept := coapReceive_kept st env data endpoint
  have hkey : (Event.receive env data endpoint).key =
      if (parseMessage env data endpoint).1 = coapNoError ∧
          isRequest (parseMessage env data endpoint).2 = true then
        some (requestKey (parseMessage env data endpoint).2 endpoint) else none := rfl
  rw [hkey]
  generalize parseMessage env data endpoint = r at hkept ⊢
  obtain ⟨status, message⟩ := r
  have hclear := clearTransaction_buffers st message endpoint
  dsimp only at hkept ⊢
  rcases hkept with ⟨-, hst⟩ | ⟨hstatus, hrequest, hkept⟩ | ⟨-, -, hkept⟩
  · rw [hst]
    exact (Dropped.refl st).madeFor _
  · obtain ⟨hrequests, hresponses, hnextId⟩ := initResponse_buffers (clearTransaction st message endpoint) message endpoint
    rw [if_pos ⟨hstatus, hrequest⟩]
    exact hkept.madeFor.of_same ⟨hrequests.trans hclear.1, hresponses.trans hclear.2.1, hnextId.trans hclear.2.2⟩
  · exact (madeFor_none _ hkept).of_same hclear

theorem madeFor_step (sys : System) (e : Event) : MadeFor e.key sys.engine (sys.step e).engine := by
  by_cases hreceive : ∃ env data endpoint, e = .receive env data endpoint
  · obtain ⟨env, data, endpoint, rfl⟩ := hreceive
    exact madeFor_coapReceive sys.engine env data endpoint
  · obtain ⟨B, hbuild⟩ := e.exists_build
    obtain hdropped | hperformed :=
      step_performed sys (fun env data endpoint he => hreceive ⟨env, data, endpoint, he⟩) hbuild
    · exact hdropped.madeFor _
    · cases hkey : e.key with
      | none => exact madeFor_none _ fun k => (hperformed k (by simp [hkey])).kept
      | some k => exact (hperformed k (by simp [hkey])).kept.madeFor

/-! ## Every run -/

/-- Every buffer has been made, and one of a server is owned by the transfer that it has the key of. -/
def OwnsKeys (s : Owned) : Prop :=
  ∀ b ∈ s.sys.engine.buffers, b.id < s.sys.engine.nextId ∧ (b.role = .server → s.owner b.id = some b.key)

theorem ownsKeys_init (mid : UInt16) : OwnsKeys (.init mid) := fun _ hb => absurd hb List.not_mem_nil

theorem Made.owned {s : Owned} {e : Event}
    (hnext : s.sys.engine.nextId ≤ (s.sys.step e).engine.nextId) (hl : l ⊆ s.sys.engine.buffers) (h : OwnsKeys s)
    (hb : Made e.key l s.sys.engine.nextId (s.sys.step e).engine.nextId b) :
    b.id < (s.sys.step e).engine.nextId ∧ (b.role = .server → (s.step e).owner b.id = some b.key) := by
  rcases hb with ⟨a, ha, hid, hkey⟩ | ⟨hlo, hhi, hkey⟩
  · obtain ⟨hlt, howner⟩ := h a (hl ha)
    rw [hid] at hlt
    refine ⟨hlt.trans_le hnext, fun hrole => ?_⟩
    have hrole' : a.role = .server := (congrArg BlockwiseKey.role hkey).trans hrole
    unfold Owned.step
    dsimp only
    rw [if_pos hlt, ← hid, howner hrole', hkey]
  · refine ⟨hhi, fun hrole => ?_⟩
    unfold Owned.step
    dsimp only
    rw [if_neg (Nat.not_lt.2 hlo), hkey hrole]

theorem ownsKeys_step (s : Owned) (e : Event) (h : OwnsKeys s) : OwnsKeys (s.step e) := by
  have hmade := madeFor_step s.sys e
  intro b hb
  rcases List.mem_append.1 hb with hb | hb
  · exact (hmade.requests b hb).owned hmade.nextId (List.subset_append_left _ _) h
  · exact (hmade.responses b hb).owned hmade.nextId (List.subset_append_right _ _) h

/-- A buffer that is found has the method, the query and the role of the key, an endpoint that compares equal and
a path that begins with the one of the key. -/
theorem finds_spec (h : k.finds b = true) :
    b.method = k.method ∧ b.uriQuery = k.query ∧ b.role = k.role ∧ ocEndpointCompare b.endpoint k.endpoint = true ∧
      strncmpEq k.href b.href = true := by
  unfold BlockwiseKey.finds at h
  simp only [Bool.and_eq_true, beq_iff_eq] at h
  obtain ⟨⟨⟨⟨hhref, hendpoint⟩, hmethod⟩, hrole⟩, hquery⟩ := h
  exact ⟨hmethod, hquery, hrole, hendpoint, hhref⟩

theorem Event.key_role {e : Event} (h : e.key = some k) : k.role = .server := by
  unfold Event.key at h
  split at h
  · dsimp only at h
    split at h
    · cases h
      rfl
    · cases h
  · cases h
    rfl
  · cases h
    rfl
  · cases h

/-- In every run in which no message comes while a transfer is open that the search takes for the one of the
message, the buffer that is found for a message, in either list, belongs to the transfer of that message. -/
theorem found_buffer_own (mid : UInt16) (events : List Event) (hrun : Guarded Owned.step KeysApart (.init mid) events)
    (before : List Event) (e : Event) (after : List Event) (hevents : events = before ++ e :: after)
    (k : BlockwiseKey) (hk : e.key = some k) (b : BlockwiseState)
    (hfound : (runFrom System.step (.init mid) before).engine.requests.find? k.finds = some b ∨
      (runFrom System.step (.init mid) before).engine.responses.find? k.finds = some b) :
    ∃ k', (runFrom Owned.step (.init mid) before).owner b.id = some k' ∧ SameTransfer k' k := by
  rw [hevents] at hrun
  obtain ⟨-, hguard⟩ := hrun.at_step
  have hsys : (runFrom Owned.step (.init mid) before).sys = runFrom System.step (.init mid) before :=
    runFrom_map (f := Owned.sys) (fun _ _ => rfl) before _
  have howns : OwnsKeys (runFrom Owned.step (.init mid) before) :=
    run_always ownsKeys_step before _ (ownsKeys_init mid)
  rw [← hsys] at hfound
  generalize runFrom Owned.step (.init mid) before = s at hguard howns hfound ⊢
  obtain ⟨hmem, hfinds⟩ : b ∈ s.sys.engine.buffers ∧ k.finds b = true := by
    rcases hfound with h | h
    · exact ⟨List.mem_append_left _ (List.mem_of_find?_eq_some h), List.find?_some h⟩
    · exact ⟨List.mem_append_right _ (List.mem_of_find?_eq_some h), List.find?_some h⟩
  obtain ⟨hmethod, hquery, hrole, hendpoint, hhref⟩ := finds_spec hfinds
  have howner := (howns b hmem).2 (hrole.trans (Event.key_role hk))
  obtain ⟨hpath, hscope⟩ := hguard k hk b hmem b.key howner hmethod hquery hendpoint hhref
  exact ⟨b.key, howner, hpath, ⟨hendpoint, hscope⟩, hmethod, hquery, hrole⟩

/-- A confirmable PUT with a block of 16 bytes: the option says which one, and that more blocks follow. -/
def samplePut (path : OcString) (num : UInt8) : OcString :=
  [0x40, 0x03, 0x00, num, 0xB0 + UInt8.ofNat path.length] ++ path ++ [0xD1, 0x03, num * 16 + 8, 0xFF] ++
    List.replicate 16 0x2A

theorem found_buffer_own_second_block :
    ∃ b, (runFrom System.step (.init 0)
        [.receive sampleEnv (samplePut (ascii "ab") 0) (peer false)]).engine.requests.find?
          (BlockwiseKey.finds ⟨ascii "ab", peer false, 3, [], .server⟩) = some b ∧
      ∃ k', (runFrom Owned.step (.init 0)
          [.receive sampleEnv (samplePut (ascii "ab") 0) (peer false)]).owner b.id = some k' ∧
        SameTransfer k' ⟨ascii "ab", peer false, 3, [], .server⟩ := by
  have hsome : ((runFrom System.step (.init 0)
      [.receive sampleEnv (samplePut (ascii "ab") 0) (peer false)]).engine.requests.find?
        (BlockwiseKey.finds ⟨ascii "ab", peer false, 3, [], .server⟩)).isSome = true := by decide
  obtain ⟨b, hb⟩ := Option.isSome_iff_exists.1 hsome
  refine ⟨b, hb, ?_⟩
  exact found_buffer_own 0
    [.receive sampleEnv (samplePut (ascii "ab") 0) (peer false), .receive sampleEnv (samplePut (ascii "ab") 1) (peer false)]
    (by decide) [.receive sampleEnv (samplePut (ascii "ab") 0) (peer false)]
    (.receive sampleEnv (samplePut (ascii "ab") 1) (peer false)) [] rfl _ (by decide) b (.inl hb)

/-- A message for the path "a" finds the buffer of a transfer to "ab". -/
theorem found_buffer_foreign :
    ¬∀ (mid : UInt16) (events : List Event) (e : Event) (k : BlockwiseKey) (b : BlockwiseState), e.key = some k →
      ((runFrom System.step (.init mid) events).engine.requests.find? k.finds = some b ∨
        (runFrom System.step (.init mid) events).engine.responses.find? k.finds = some b) →
      ∃ k', (runFrom Owned.step (.init mid) events).owner b.id = some k' ∧ SameTransfer k' k := by
  intro h
  let before : List Event := [.receive sampleEnv (samplePut (ascii "ab") 0) (peer false)]
  let k : BlockwiseKey := ⟨ascii "a", peer false, 3, [], .server⟩
  have hfound : ((runFrom System.step (.init 0) before).engine.requests.find? k.finds).map
      (fun b => ((runFrom Owned.step (.init 0) before).owner b.id).map (·.href)) = some (some (ascii "ab")) := by
    decide
  obtain ⟨b, hb, howner⟩ := Option.map_eq_some_iff.1 hfound
  obtain ⟨k', hk', hsame⟩ := h 0 before (.receive sampleEnv (samplePut (ascii "a") 0) (peer false)) k b (by decide)
    (.inl hb)
  rw [hk'] at howner
  have hpath : ascii "a" = ascii "ab" := hsame.href.symm.trans (Option.some.inj howner)
  exact absurd hpath (by decide)

end SmartGarage
