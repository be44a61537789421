/-
The callbacks of periodic resources, over every run of registrations and cancellations. A callback belongs to a
resource, a registration to a client: the cancellation of one client takes the callback from all.
-/
import SmartGarage.Messaging.ObserveCount

namespace SmartGarage.Observe

open Runs

/-! ## The condition -/

/-- Every periodic resource that has observers is polled by one callback. -/
def Polled (st : Server) : Prop :=
  ∀ r ∈ st.resources, r.periodic = true → (∃ o ∈ st.observers, o.resource = r.id) → st.callbacks.count r.id = 1

/-- An event of a device that stays in RFNOP, outside collections and without deletions. -/
def Ordinary : Event → Prop
  | .added r => r.isCollection = false
  | .expired _ rfnop _ => rfnop = true
  | .deleted _ => False
  | _ => True

/-- The request asks to be removed from the observers. -/
def Cancels (rq : ObserveRequest) (cur : Resource) : Prop :=
  cur.observable = true ∧ rq.packet.code = coapGet ∧ rq.responseCode < 128 ∧
    rq.packet.isOption coapOptionObserve = true ∧ rq.packet.observe = 1

section Condition

variable (st : Server) (env : ObserveEnv) (rq : ObserveRequest) (cur : Resource)

/-- Where no memory is left for the callback of the resource, the client's token finds the new entry: no entry
before it, but for the one it replaces, has the token. -/
def FoundByToken : Prop :=
  Enters env rq cur → cur.periodic = true → cur.id ∉ st.callbacks → env.callbackAvailable cur.id = false →
    ocEndpointCompare rq.endpoint rq.endpoint = true ∧
      ∀ o ∈ st.observers.eraseP (isRegistration rq.endpoint rq.packet.uriPath rq.ifaceQuery),
        hasToken rq.endpoint rq.packet.token o = false

/-- Where a cancellation finds an entry, no other entry refers to the resource. -/
def LastObserver : Prop :=
  Cancels rq cur → cur.periodic = true → (∃ o ∈ st.observers, hasToken rq.endpoint rq.packet.token o = true) →
    ∀ o ∈ st.observers.eraseP (hasToken rq.endpoint rq.packet.token), o.resource ≠ cur.id

end Condition

/-- The condition on an event. A callback that has expired ends the polling where the 8 bits of the counter are
zero, unless collections have been notified. -/
def KeepsPolling (ocfD : Nat) (st : Server) : Event → Prop
  | .requested env rq =>
    ∀ cur ∈ findResource ocfD st.resources rq.packet.uriPath rq.endpoint.device,
      FoundByToken st env rq cur ∧ LastObserver st rq cur
  | .expired id _ notified => notified = 0 → 256 ∣ st.entries id → st.entries id = 0
  | _ => True

/-! ## The invariant -/

structure Polling (st : Server) : Prop extends Registry st where
  plain : ∀ r ∈ st.resources, r.isCollection = false
  once : st.callbacks.Nodup
  polled : ∀ r ∈ st.resources, r.periodic = true → ∀ o ∈ st.observers, o.resource = r.id → r.id ∈ st.callbacks

theorem Polling.count {st : Server} (h : Polling st) : Polled st := fun r hr hperiodic ⟨o, ho, hid⟩ =>
  List.count_eq_one_of_mem h.once (h.polled r hr hperiodic o ho hid)

theorem config_periodic {r r' : Resource} (h : config r = config r') : r.periodic = r'.periodic := congrArg (·.periodic) h

theorem config_isCollection {r r' : Resource} (h : config r = config r') : r.isCollection = r'.isCollection :=
  congrArg (·.isCollection) h

section Steps

variable {st st' : Server}

/-- The invariant behind a change of the entries and the callbacks. -/
theorem Polling.of_config (h : Polling st) (hreg : Registry st')
    (hres : st'.resources.map config = st.resources.map config) (honce : st'.callbacks.Nodup)
    (hpolled : ∀ r ∈ st.resources, r.periodic = true → ∀ o ∈ st'.observers, o.resource = r.id → r.id ∈ st'.callbacks) :
    Polling st' where
  toRegistry := hreg
  plain r' hr' := by
    obtain ⟨r, hr, heq⟩ := mem_of_config hres hr'
    rw [← config_isCollection heq]
    exact h.plain r hr
  once := honce
  polled r' hr' hperiodic o ho hid := by
    obtain ⟨r, hr, heq⟩ := mem_of_config hres hr'
    rw [← config_id heq] at hid ⊢
    exact hpolled r hr ((config_periodic heq).trans hperiodic) o ho hid

theorem Polling.removes (h : Polling st) (hrem : Removes st st') : Polling st' := by
  refine h.of_config (registry_stable.removes h.toRegistry hrem) hrem.resources ?_ fun r hr hperiodic o ho hid => ?_
  · rw [hrem.callbacks]
    exact h.once
  · rw [hrem.callbacks]
    exact h.polled r hr hperiodic o (hrem.observers.subset ho) hid

theorem erase_eq_eraseP {α : Type} [DecidableEq α] {p : α → Bool} {a : α} :
    ∀ {l : List α}, l.find? p = some a → l.erase a = l.eraseP p
  | b :: l, h => by
    rw [List.find?_cons] at h
    split at h
    · rename_i hb
      cases h
      rw [List.erase_cons_head, List.eraseP_cons_of_pos hb]
    · rename_i hb
      have hne : b ≠ a := fun heq => by
        have ha := List.find?_some h
        rw [← heq, hb] at ha
        exact Bool.false_ne_true ha
      rw [List.erase_cons_tail (by simpa using hne), List.eraseP_cons_of_neg (by simp [hb]), erase_eq_eraseP h]

theorem removeFirst_observers (st : Server) (p : Observer → Bool) :
    (st.removeFirst p).1.observers = st.observers.eraseP p := by
  unfold Server.removeFirst
  split
  · rename_i o hfound
    exact erase_eq_eraseP hfound
  · rename_i hnone
    exact (List.eraseP_of_forall_not fun o ho => List.find?_eq_none.1 hnone o ho).symm

end Steps

/-! ## Requests -/

section Request

variable {env : ObserveEnv} {rq : ObserveRequest} {cur : Resource} {st : Server}

theorem register_plain (env : ObserveEnv) (rq : ObserveRequest) (cur : Resource) (st : Server) :
    (register env rq cur false st).1 =
      let polled := pollCurrent env cur (handled env rq cur st)
      if polled.2 then polled.1 else (polled.1.coapRemoveObserverByToken rq.endpoint rq.packet.token).1 := by
  have hlinks : linksAllowed env [] = true := rfl
  have hpolled (st : Server) : pollLinks env [] st = st := rfl
  unfold register
  dsimp only
  rw [← handled]
  generalize pollCurrent env cur (handled env rq cur st) = polled
  simp only [Bool.false_eq_true, if_false, hlinks, Bool.and_true, hpolled, ite_self]
  split <;> rfl

/-- A request to be added makes its entry or leaves the entries to removals. -/
theorem handled_register (env : ObserveEnv) (st : Server) (hobservable : cur.observable = true) (hobserve : rq.packet.observe = 0) :
    (Enters env rq cur ∧ (handled env rq cur st).1 = entered (replaced rq st) (newEntry rq cur) ∧
      0 ≤ (handled env rq cur st).2) ∨
    (Removes st (handled env rq cur st).1 ∧ (handled env rq cur st).2 = -1) := by
  unfold handled Server.coapObserveHandler
  rw [if_pos hobserve]
  split
  · rename_i hget
    unfold Server.addObserver
    dsimp only
    split
    · rename_i havailable
      exact .inl ⟨⟨hobservable, hget.1, hget.2.1, hget.2.2, hobserve, havailable⟩, rfl, Int.natCast_nonneg _⟩
    · exact .inr ⟨replaced_removes rq st, rfl⟩
  · exact .inr ⟨.refl st, rfl⟩

theorem pollCurrent_cases (env : ObserveEnv) (cur : Resource) {added : Server × Int} (honce : added.1.callbacks.Nodup) :
    ((pollCurrent env cur added).2 = true ∧ (∀ id ∈ added.1.callbacks, id ∈ (pollCurrent env cur added).1.callbacks) ∧
      (pollCurrent env cur added).1.callbacks.Nodup ∧
      (0 ≤ added.2 → cur.periodic = true → cur.id ∈ (pollCurrent env cur added).1.callbacks)) ∨
    (pollCurrent env cur added = (added.1, false) ∧ cur.periodic = true ∧ cur.id ∉ added.1.callbacks ∧
      env.callbackAvailable cur.id = false) := by
  unfold pollCurrent Server.addPeriodicObserveCallback
  split
  · rename_i hadded
    split
    · rename_i hpolled
      exact .inl ⟨rfl, fun _ hid => hid, honce, fun _ _ => hpolled⟩
    · rename_i hunpolled
      split
      · refine .inl ⟨rfl, fun _ hid => List.mem_append_left _ hid, ?_, fun _ _ => List.mem_append_right _ List.mem_cons_self⟩
        exact List.nodup_append.2 ⟨honce, List.nodup_singleton _, fun a ha b hb heq =>
          hunpolled (List.mem_singleton.1 hb ▸ heq ▸ ha)⟩
      · rename_i hmemory
        exact .inr ⟨rfl, hadded.2, hunpolled, by simpa using hmemory⟩
  · rename_i hno
    exact .inl ⟨rfl, fun _ hid => hid, honce, fun hadded hperiodic => absurd ⟨hadded, hperiodic⟩ hno⟩

theorem Polling.entered (h : Polling st) (hcur : cur ∈ st.resources) {st' : Server}
    (hsame : OnlyCallbacks (entered (replaced rq st) (newEntry rq cur)) st')
    (hcallbacks : ∀ id ∈ st.callbacks, id ∈ st'.callbacks) (honce : st'.callbacks.Nodup)
    (hnew : cur.periodic = true → cur.id ∈ st'.callbacks) : Polling st' := by
  have hrem := replaced_removes rq st
  refine h.of_config ?_ ?_ honce fun r hr hperiodic o ho hid => ?_
  · exact registry_stable.onlyCallbacks (h.toRegistry.entered_replaced hcur) hsame
  · rw [hsame.resources]
    exact (config_entered _ _).trans hrem.resources
  · rw [hsame.observers] at ho
    rcases List.mem_append.1 ho with hold | hlast
    · exact hcallbacks _ (h.polled r hr hperiodic o (hrem.observers.subset hold) hid)
    · rw [List.mem_singleton.1 hlast] at hid
      obtain rfl := h.toRegistry.eq_of_id hcur hr hid
      exact hnew hperiodic

/-- The entry that the token finds among the entries of a request without others of the token. -/
theorem removed_newEntry (hself : ocEndpointCompare rq.endpoint rq.endpoint = true)
    (hothers : ∀ o ∈ (replaced rq st).observers, hasToken rq.endpoint rq.packet.token o = false) :
    ((entered (replaced rq st) (newEntry rq cur)).coapRemoveObserverByToken rq.endpoint rq.packet.token).1.observers =
      (replaced rq st).observers := by
  have hnew : hasToken rq.endpoint rq.packet.token (newEntry rq cur) = true := by
    simp [hasToken, newEntry, hself]
  unfold Server.coapRemoveObserverByToken
  rw [removeFirst_observers]
  show ((replaced rq st).observers ++ [newEntry rq cur]).eraseP _ = _
  rw [List.eraseP_append_right _ (by simpa using hothers), List.eraseP_cons_of_pos hnew, List.append_nil]

theorem Polling.register (h : Polling st) (hcur : cur ∈ st.resources) (hobservable : cur.observable = true)
    (hobserve : rq.packet.observe = 0) (hfound : FoundByToken st env rq cur) :
    Polling (register env rq cur false st).1 := by
  rw [register_plain]
  dsimp only
  have hsame := pollCurrent_onlyCallbacks env cur (handled env rq cur st)
  rcases handled_register env st hobservable hobserve with ⟨henters, hentry, hdup⟩ | ⟨hrem, hdup⟩
  · have hcallbacks : (handled env rq cur st).1.callbacks = st.callbacks := by
      rw [hentry]
      exact (replaced_removes rq st).callbacks
    rcases pollCurrent_cases env cur (hcallbacks ▸ h.once) with ⟨hset, hkept, honce, hnew⟩ | ⟨heq, hperiodic, hunpolled, hmemory⟩
    · rw [if_pos hset]
      exact h.entered hcur (hentry ▸ hsame) (hcallbacks ▸ hkept) honce (hnew hdup)
    · -- without a callback the token takes the new entry away again
      rw [heq]
      rw [hcallbacks] at hunpolled
      obtain ⟨hself, hothers⟩ := hfound henters hperiodic hunpolled hmemory
      have hobservers := @removed_newEntry rq cur st hself (by
        unfold replaced Server.coapRemoveObserverHandleByUri
        rwa [removeFirst_observers])
      rw [← hentry] at hobservers
      have hgone : Removes (handled env rq cur st).1
          ((handled env rq cur st).1.coapRemoveObserverByToken rq.endpoint rq.packet.token).1 := removeFirst_removes _ _
      have hrem := replaced_removes rq st
      refine h.of_config ?_ ?_ ?_ fun r hr hperiodic o ho hid => ?_
      · exact registry_stable.removes (hentry ▸ h.toRegistry.entered_replaced hcur) hgone
      · refine hgone.resources.trans ?_
        rw [hentry]
        exact (config_entered _ _).trans hrem.resources
      · exact (hgone.callbacks.trans hcallbacks) ▸ h.once
      · have hold : o ∈ (replaced rq st).observers := hobservers ▸ ho
        show r.id ∈ ((handled env rq cur st).1.coapRemoveObserverByToken rq.endpoint rq.packet.token).1.callbacks
        rw [hgone.callbacks.trans hcallbacks]
        exact h.polled r hr hperiodic o (hrem.observers.subset hold) hid
  · have hnone : pollCurrent env cur (handled env rq cur st) = ((handled env rq cur st).1, true) := by
      unfold pollCurrent
      rw [hdup]
      exact if_neg fun hadded => absurd hadded.1 (by decide)
    rw [hnone]
    exact h.removes hrem

theorem cancel_plain (env : ObserveEnv) (cur : Resource) (st : Server) :
    cancel env rq cur false st =
      if (handled env rq cur st).2 > 0 ∧ cur.periodic = true
      then (handled env rq cur st).1.removePeriodicObserveCallback cur.id else (handled env rq cur st).1 := by
  unfold cancel
  dsimp only
  rw [← handled]
  simp only [Bool.false_eq_true, if_false, List.filter_nil, List.foldl_nil]
  split
  · rename_i hremoved
    simp only [hremoved, true_and]
  · rename_i hremoved
    rw [if_neg fun h => hremoved h.1]

theorem handled_cancel (env : ObserveEnv) (st : Server) (hobservable : cur.observable = true) (hobserve : rq.packet.observe = 1) :
    (Cancels rq cur ∧ (handled env rq cur st).1 = (st.coapRemoveObserverByToken rq.endpoint rq.packet.token).1 ∧
      (handled env rq cur st).2 = (st.coapRemoveObserverByToken rq.endpoint rq.packet.token).2) ∨
    handled env rq cur st = (st, -1) := by
  have hzero : ¬(1 : UInt32) = 0 := by decide
  unfold handled Server.coapObserveHandler
  simp only [hobserve, if_neg hzero, if_true]
  split
  · rename_i hget
    exact .inl ⟨⟨hobservable, hget.1, hget.2.1, hget.2.2, hobserve⟩, rfl, rfl⟩
  · exact .inr rfl

theorem removeFirst_pos {p : Observer → Bool} (h : 0 < (st.removeFirst p).2) : ∃ o ∈ st.observers, p o = true := by
  unfold Server.removeFirst at h
  split at h
  · rename_i o hfound
    exact ⟨o, List.mem_of_find?_eq_some hfound, List.find?_some hfound⟩
  · exact absurd h (Nat.lt_irrefl 0)

theorem Polling.cancel (h : Polling st) (hobservable : cur.observable = true) (hobserve : rq.packet.observe = 1)
    (hlast : LastObserver st rq cur) : Polling (cancel env rq cur false st) := by
  rw [cancel_plain]
  rcases handled_cancel env st hobservable hobserve with ⟨hcancels, hstate, hcount⟩ | hnone
  · have hrem := removeFirst_removes st (hasToken rq.endpoint rq.packet.token)
    have hremoved : Polling (handled env rq cur st).1 := hstate ▸ h.removes hrem
    split
    · rename_i hpos
      obtain ⟨hpos, hperiodic⟩ := hpos
      rw [hcount] at hpos
      have hothers := hlast hcancels hperiodic (removeFirst_pos (Int.natCast_pos.1 hpos))
      refine hremoved.of_config (registry_stable.onlyCallbacks hremoved.toRegistry ⟨rfl, rfl, rfl⟩) rfl
        (hremoved.once.erase _) fun r hr hperiodic' o ho hid => ?_
      have hother : o ∈ st.observers.eraseP (hasToken rq.endpoint rq.packet.token) := by
        rw [← removeFirst_observers]
        exact hstate ▸ ho
      have hne : r.id ≠ cur.id := fun heq => hothers o hother (hid.trans heq)
      exact (List.mem_erase_of_ne hne).2 (hremoved.polled r hr hperiodic' o ho hid)
    · exact hremoved
  · have hnothing : ¬(0 : Int) < -1 := by decide
    rw [hnone, if_neg fun hremoved => hnothing hremoved.1]
    exact h

theorem Polling.observeRequest (h : Polling st) (hcur : cur ∈ st.resources) (hfound : FoundByToken st env rq cur)
    (hlast : LastObserver st rq cur) : Polling (observeRequest env rq cur false st).1 := by
  unfold Observe.observeRequest
  split
  · rename_i hread
    split
    · rename_i hobserve
      exact h.register hcur hread.2 hobserve hfound
    · split
      · rename_i hobserve
        exact h.cancel hread.2 hobserve hlast
      · exact h
  · exact h

end Request

/-! ## Runs -/

section Runs

variable {ocfD : Nat} {st : Server}

theorem Polling.addResource (h : Polling st) {r : Resource} (hplain : r.isCollection = false) :
    Polling (st.addResource r) where
  toRegistry := h.toRegistry.addResource r
  plain r' hr' := by
    rcases List.mem_append.1 hr' with hold | hnew
    · exact h.plain r' hold
    · rw [List.mem_singleton.1 hnew]
      exact hplain
  once := h.once
  polled r' hr' hperiodic o ho hid := by
    rcases List.mem_append.1 hr' with hold | hnew
    · exact h.polled r' hold hperiodic o ho hid
    · rw [List.mem_singleton.1 hnew] at hid
      exact absurd (h.known o ho) (hid ▸ Nat.lt_irrefl _)

/-- A resource with entries is told so by its counter where their number is no multiple of 256. -/
theorem Polling.pollResource (h : Polling st) (id notified : Nat)
    (hcount : notified = 0 → 256 ∣ st.entries id → st.entries id = 0) : Polling (st.pollResource id true notified) := by
  unfold Server.pollResource
  split
  · rename_i hends
    obtain ⟨-, hnotify⟩ := hends
    refine h.of_config (registry_stable.onlyCallbacks h.toRegistry ⟨rfl, rfl, rfl⟩) rfl (h.once.erase _)
      fun r hr hperiodic o ho hid => ?_
    have hne : r.id ≠ id := by
      rintro rfl
      have hsome : (st.resource? r.id).isSome := List.find?_isSome.2 ⟨r, hr, decide_eq_true rfl⟩
      obtain ⟨r', hfound⟩ := Option.isSome_iff_exists.1 hsome
      obtain ⟨hr', hid'⟩ := resource?_mem (Option.mem_def.2 hfound)
      simp only [Server.coapNotifyObservers, hfound, if_true, Option.elim_some] at hnotify
      rw [h.counted r' hr', hid', UInt8.toNat_ofNat'] at hnotify
      have hnone := hcount (by omega) (Nat.dvd_of_mod_eq_zero (by omega))
      simpa [hid] using List.countP_eq_zero.1 hnone o ho
    exact (List.mem_erase_of_ne hne).2 (h.polled r hr hperiodic o ho hid)
  · exact h

theorem Polling.notified (h : Polling st) (mid : Observer → Option UInt16) : Polling (notified st mid) := by
  refine h.of_config (h.toRegistry.notified mid) rfl h.once fun r hr hperiodic o' ho' hid => ?_
  obtain ⟨o, ho, rfl⟩ := List.mem_map.1 ho'
  exact h.polled r hr hperiodic o ho ((withMid_fields o (mid o)).1.symm.trans hid)

theorem Polling.step {e : Event} (h : Polling st) (hordinary : Ordinary e) (hkeeps : KeepsPolling ocfD st e) :
    Polling (step ocfD st e) := by
  cases e with
  | added r => exact h.addResource hordinary
  | requested env rq =>
    simp only [Observe.step]
    split
    · rename_i cur hfound
      have hcur := findResource_mem hfound
      rw [h.plain cur hcur, Bool.and_false]
      obtain ⟨htoken, hlast⟩ := hkeeps cur hfound
      exact h.observeRequest hcur htoken hlast
    · exact h
  | removedByClient endpoint => exact h.removes (removeAll_removes st _)
  | removedByToken endpoint token => exact h.removes (removeFirst_removes st _)
  | removedByMid endpoint mid => exact h.removes (removeFirst_removes st _)
  | removedByResource id =>
    simp only [Observe.step]
    split
    · exact h.removes (removeAll_removes st _)
    · exact h
  | dosChanged device reset allowed => exact h.removes (removeAll_removes st _)
  | freed => exact h.removes (removeAll_removes st _)
  | notified mid => exact h.notified mid
  | expired id rfnop notified =>
    cases hordinary
    exact h.pollResource id notified hkeeps
  | deleted id => exact hordinary.elim

theorem polling_init : Polling init where
  toRegistry := Registry.init
  plain _ hr := nomatch hr
  once := .nil
  polled _ hr := nomatch hr

end Runs

/-- Outside collections and in RFNOP every periodic resource that has observers is polled by one callback, in
every run where a client cancels when it is the last one, memory for a callback is short only when the token
finds the new entry, and no callback expires at a multiple of 256 observers. -/
theorem periodic_polled (ocfD : Nat) (l : List Event) (hordinary : ∀ e ∈ l, Ordinary e)
    (h : Guarded (step ocfD) (KeepsPolling ocfD) init l) : Polled (runFrom (step ocfD) init l) :=
  (run_invariant (fun _ _ hi hg => hi.step hg.1 hg.2) l init polling_init (h.and_forall hordinary)).count

/-- A GET with an observe option, from the client at an address. -/
def observeFrom (address : UInt8) (observe : UInt32) : ObserveRequest where
  packet := { coapUdpInitMessage .non coapGet 1 with token := [address], uriPath := ascii "a" }.setHeaderObserve observe
  responseCode := 69
  endpoint := { peer false with address := [address] }
  ifaceQuery := 0

/-- A client registers with a periodic resource and cancels. -/
def onePolled : List Event :=
  [.added { sampleResource with periodic := true }, .requested sampleEnv (observeFrom 1 0),
    .requested sampleEnv (observeFrom 1 1), .requested sampleEnv (observeFrom 2 0)]

theorem periodic_polled_alone : Polled (runFrom (step 0) init onePolled) := by
  have hordinary : ∀ e ∈ onePolled, Ordinary e := by
    simp [onePolled, Ordinary, sampleResource]
  have hmemory (st : Server) (rq : ObserveRequest) (cur : Resource) : FoundByToken st sampleEnv rq cur :=
    fun _ _ _ hnone => absurd (show true = false from hnone) Bool.true_eq_false_eq_False
  have hregisters (st : Server) (address : UInt8) (cur : Resource) : LastObserver st (observeFrom address 0) cur :=
    fun hcancels => absurd (show (0 : UInt32) = 1 from hcancels.2.2.2.2) (by decide)
  refine periodic_polled 0 onePolled hordinary ⟨trivial, fun cur _ => ⟨hmemory _ _ cur, hregisters _ 1 cur⟩,
    fun cur _ => ⟨hmemory _ _ cur, fun _ _ _ o ho => ?_⟩, fun cur _ => ⟨hmemory _ _ cur, hregisters _ 2 cur⟩, trivial⟩
  exact absurd (show o ∈ ([] : List Observer) from ho) List.not_mem_nil

/-- Two clients register with a periodic resource and one of them cancels. -/
def twoPolled : List Event :=
  [.added { sampleResource with periodic := true }, .requested sampleEnv (observeFrom 1 0),
    .requested sampleEnv (observeFrom 2 0), .requested sampleEnv (observeFrom 1 1)]

/-- The second of two clients still observes a resource that is polled no more. -/
theorem periodic_unpolled :
    ¬∀ (ocfD : Nat) (l : List Event), (∀ e ∈ l, Ordinary e) → Polled (runFrom (step ocfD) init l) := by
  intro h
  have hordinary : ∀ e ∈ twoPolled, Ordinary e := by
    simp [twoPolled, Ordinary, sampleResource]
  have hpolled := h 0 twoPolled hordinary { sampleResource with periodic := true, numObservers := 1 }
    (List.mem_singleton.2 rfl) rfl ⟨_, List.mem_singleton.2 rfl, rfl⟩
  exact absurd hpolled (by decide)

end SmartGarage.Observe
