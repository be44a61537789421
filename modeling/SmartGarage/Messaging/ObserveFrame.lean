/-
What holds of the observers in every run: a counter is the number of the entries modulo 256, no registration is
there twice, and no entry refers to an address that has not been used. The request with the observe option is
taken apart once, for any property that survives removals and changes of the callbacks.
-/
import SmartGarage.Messaging.Observe
import SmartGarage.Messaging.Retransmissions

namespace SmartGarage.Observe

open Runs

/-! ## What removals keep -/

/-- A resource without its counter. -/
def config (r : Resource) : Resource := withCounter (fun _ => 0) r

/-- Every counter is the number of the entries, modulo 256. -/
def Counted (st : Server) : Prop := ∀ r ∈ st.resources, r.numObservers = UInt8.ofNat (st.entries r.id)

/-- Entries have gone, and the counters have followed. -/
structure Removes (st st' : Server) : Prop where
  observers : st'.observers.Sublist st.observers
  resources : st'.resources.map config = st.resources.map config
  callbacks : st'.callbacks = st.callbacks
  next : st'.nextResource = st.nextResource
  counted : Counted st → Counted st'

section

variable (st : Server)

theorem Removes.refl : Removes st st := ⟨.refl _, rfl, rfl, rfl, id⟩

theorem Removes.trans {a b c : Server} (h : Removes a b) (h' : Removes b c) : Removes a c where
  observers := h'.observers.trans h.observers
  resources := h'.resources.trans h.resources
  callbacks := h'.callbacks.trans h.callbacks
  next := h'.next.trans h.next
  counted hc := h'.counted (h.counted hc)

theorem config_count (id : Nat) (f : UInt8 → UInt8) :
    (st.count id f).resources.map config = st.resources.map config := by
  simp only [Server.count, List.map_map]
  refine List.map_congr_left fun r _ => ?_
  simp only [Function.comp_apply]
  split <;> rfl

/-- A resource behind a change is one from before it but for the counter. -/
theorem mem_of_config {l l' : List Resource} (h : l'.map config = l.map config) {r' : Resource} (hr' : r' ∈ l') :
    ∃ r ∈ l, config r = config r' := by
  have hmem : config r' ∈ l.map config := h ▸ List.mem_map_of_mem hr'
  exact List.mem_map.1 hmem

theorem config_id {r r' : Resource} (h : config r = config r') : r.id = r'.id := congrArg (·.id) h

theorem config_uri {r r' : Resource} (h : config r = config r') : r.uri = r'.uri := congrArg (·.uri) h

theorem config_isApp {r r' : Resource} (h : config r = config r') : r.isApp = r'.isApp := congrArg (·.isApp) h

theorem entries_erase {st : Server} {o : Observer} (ho : o ∈ st.observers) (id : Nat) :
    st.entries id = (st.coapRemoveObserver o).entries id + if o.resource = id then 1 else 0 := by
  unfold Server.entries
  rw [(List.perm_cons_erase ho).countP_eq, List.countP_cons]
  simp only [Server.coapRemoveObserver, decide_eq_true_eq]

theorem ofNat_succ_sub_one (n : Nat) : UInt8.ofNat (n + 1) - 1 = UInt8.ofNat n := by
  rw [UInt8.ofNat_add]
  exact UInt8.add_sub_cancel _ _

theorem counted_count {st st' : Server} (id : Nat) (f : UInt8 → UInt8) (hc : Counted st)
    (hres : st'.resources = (st.count id f).resources)
    (hentries : ∀ r ∈ st.resources, UInt8.ofNat (st'.entries r.id) =
      if r.id = id then f (UInt8.ofNat (st.entries r.id)) else UInt8.ofNat (st.entries r.id)) : Counted st' := by
  intro r' hr'
  rw [hres, Server.count, List.mem_map] at hr'
  obtain ⟨r, hr, rfl⟩ := hr'
  have hcounter := hc r hr
  have hn := hentries r hr
  split
  · rename_i heq
    rw [if_pos heq] at hn
    simp only [withCounter]
    rw [hcounter]
    exact hn.symm
  · rename_i hne
    rw [if_neg hne] at hn
    rw [hcounter]
    exact hn.symm

theorem coapRemoveObserver_removes {st : Server} {o : Observer} (ho : o ∈ st.observers) :
    Removes st (st.coapRemoveObserver o) where
  observers := List.erase_sublist
  resources := config_count st o.resource (· - 1)
  callbacks := rfl
  next := rfl
  counted hc := by
    refine counted_count o.resource (· - 1) hc rfl fun r _ => ?_
    rw [entries_erase ho r.id]
    by_cases hid : r.id = o.resource
    · rw [if_pos hid, if_pos hid.symm, ofNat_succ_sub_one]
    · rw [if_neg hid, if_neg (Ne.symm hid), Nat.add_zero]

theorem removeFirst_removes (p : Observer → Bool) : Removes st (st.removeFirst p).1 := by
  unfold Server.removeFirst
  split
  · rename_i o hfound
    exact coapRemoveObserver_removes (List.mem_of_find?_eq_some hfound)
  · exact .refl st

theorem foldl_removes : ∀ (todo : List Observer) (st : Server), todo.Subperm st.observers →
    Removes st (todo.foldl Server.coapRemoveObserver st) ∧
      st.observers.Perm (todo ++ (todo.foldl Server.coapRemoveObserver st).observers)
  | [], st, _ => ⟨.refl st, .refl _⟩
  | o :: todo, st, hsub => by
    have ho : o ∈ st.observers := hsub.subset List.mem_cons_self
    have hrest : todo.Subperm (st.coapRemoveObserver o).observers := by
      have h := hsub.erase o
      rwa [List.erase_cons_head] at h
    obtain ⟨ih, hperm⟩ := foldl_removes todo (st.coapRemoveObserver o) hrest
    exact ⟨(coapRemoveObserver_removes ho).trans ih, (List.perm_cons_erase ho).trans (hperm.cons o)⟩

theorem removeAll_removes (p : Observer → Bool) : Removes st (st.removeAll p) :=
  (foldl_removes _ st List.filter_sublist.subperm).1

theorem not_of_mem_removeAll {st : Server} {p : Observer → Bool} {o : Observer} (ho : o ∈ (st.removeAll p).observers) :
    p o = false := by
  have hperm : st.observers.Perm (st.observers.filter p ++ (st.removeAll p).observers) :=
    (foldl_removes _ st List.filter_sublist.subperm).2
  have hcount := hperm.countP_eq p
  simp only [List.countP_append, List.countP_filter, Bool.and_self] at hcount
  have hnone : (st.removeAll p).observers.countP p = 0 := Nat.left_eq_add.1 hcount
  simpa using List.countP_eq_zero.1 hnone o ho

theorem map_id_eq {l l' : List Resource} (h : l'.map config = l.map config) : l'.map (·.id) = l.map (·.id) := by
  have hids : ∀ m : List Resource, (m.map config).map (·.id) = m.map (·.id) := fun m => by
    rw [List.map_map]
    rfl
  rw [← hids l', h, hids l]

/-! ## Registrations -/

/-- Two entries for one client, path and interface. -/
def SameRegistration (o o' : Observer) : Prop := isRegistration o'.endpoint o'.url o'.ifaceMask o = true

theorem SameRegistration.symm {o o' : Observer} (h : SameRegistration o o') : SameRegistration o' o := by
  simp only [SameRegistration, isRegistration, Bool.and_eq_true, beq_iff_eq] at h ⊢
  exact ⟨⟨ocEndpointCompare_symm h.1.1, h.1.2.symm⟩, h.2.symm⟩

theorem sameRegistration_of_both {endpoint : OcEndpoint} {uri : OcString} {ifaceMask : InterfaceMask} {o o' : Observer}
    (h : isRegistration endpoint uri ifaceMask o = true) (h' : isRegistration endpoint uri ifaceMask o' = true) :
    SameRegistration o o' := by
  simp only [SameRegistration, isRegistration, Bool.and_eq_true, beq_iff_eq] at h h' ⊢
  exact ⟨⟨ocEndpointCompare_trans h.1.1 (ocEndpointCompare_symm h'.1.1), h.1.2.trans h'.1.2.symm⟩, h.2.trans h'.2.symm⟩

theorem replaced_all {st : Server} (hdistinct : st.observers.Pairwise fun o o' => ¬ SameRegistration o o')
    {endpoint : OcEndpoint} {uri : OcString} {ifaceMask : InterfaceMask} {o : Observer}
    (ho : o ∈ (st.coapRemoveObserverHandleByUri endpoint uri ifaceMask).1.observers) :
    isRegistration endpoint uri ifaceMask o = false := by
  unfold Server.coapRemoveObserverHandleByUri Server.removeFirst at ho
  split at ho
  · rename_i m hfound
    have hm : m ∈ st.observers := List.mem_of_find?_eq_some hfound
    have hfirst : isRegistration endpoint uri ifaceMask m = true := List.find?_some hfound
    have hothers := ((List.perm_cons_erase hm).pairwise_iff fun h h' => h h'.symm).1 hdistinct
    by_contra hreg
    exact List.rel_of_pairwise_cons hothers ho (sameRegistration_of_both hfirst (by simpa using hreg))
  · rename_i hnone
    simpa using List.find?_eq_none.1 hnone o ho

/-- The server behind a new entry. -/
def entered (st : Server) (o : Observer) : Server :=
  { st.count o.resource (· + 1) with observers := st.observers ++ [o] }

theorem entries_entered (o : Observer) (id : Nat) :
    (entered st o).entries id = st.entries id + if o.resource = id then 1 else 0 := by
  simp only [Server.entries, entered, List.countP_append, List.countP_singleton, decide_eq_true_eq]

theorem config_entered (o : Observer) : (entered st o).resources.map config = st.resources.map config :=
  config_count st o.resource _

/-! ## Callbacks -/

/-- Only the callbacks have changed. -/
structure OnlyCallbacks (st st' : Server) : Prop where
  observers : st'.observers = st.observers
  resources : st'.resources = st.resources
  next : st'.nextResource = st.nextResource

theorem OnlyCallbacks.trans {a b c : Server} (h : OnlyCallbacks a b) (h' : OnlyCallbacks b c) : OnlyCallbacks a c :=
  ⟨h'.observers.trans h.observers, h'.resources.trans h.resources, h'.next.trans h.next⟩

theorem addPeriodic_onlyCallbacks (id : Nat) (available : Bool) :
    OnlyCallbacks st (st.addPeriodicObserveCallback id available).1 := by
  unfold Server.addPeriodicObserveCallback
  split
  · exact ⟨rfl, rfl, rfl⟩
  · split <;> exact ⟨rfl, rfl, rfl⟩

theorem foldl_onlyCallbacks {α : Type} {f : Server → α → Server} (hf : ∀ st a, OnlyCallbacks st (f st a)) :
    ∀ (l : List α) (st : Server), OnlyCallbacks st (l.foldl f st)
  | [], _ => ⟨rfl, rfl, rfl⟩
  | a :: l, st => (hf st a).trans (foldl_onlyCallbacks hf l (f st a))

theorem pollCurrent_onlyCallbacks (env : ObserveEnv) (cur : Resource) (added : Server × Int) :
    OnlyCallbacks added.1 (pollCurrent env cur added).1 := by
  unfold pollCurrent
  split
  · exact addPeriodic_onlyCallbacks _ _ _
  · exact ⟨rfl, rfl, rfl⟩

theorem pollLinks_onlyCallbacks (env : ObserveEnv) (links : List Resource) (st : Server) :
    OnlyCallbacks st (pollLinks env links st) :=
  foldl_onlyCallbacks (fun st (link : Resource) => addPeriodic_onlyCallbacks st link.id (env.callbackAvailable link.id)) _ st

theorem pollResource_onlyCallbacks (id : Nat) (rfnop : Bool) (notified : Nat) :
    OnlyCallbacks st (st.pollResource id rfnop notified) := by
  unfold Server.pollResource
  split <;> exact ⟨rfl, rfl, rfl⟩

end

/-! ## Requests -/

/-- The request adds an entry for the resource. -/
def Enters (env : ObserveEnv) (rq : ObserveRequest) (cur : Resource) : Prop :=
  cur.observable = true ∧ rq.packet.code = coapGet ∧ rq.responseCode < 128 ∧
    rq.packet.isOption coapOptionObserve = true ∧ rq.packet.observe = 0 ∧ env.observerAvailable = true

/-- A property that survives removals and changes of the callbacks. -/
structure Stable (I : Server → Prop) : Prop where
  removes : ∀ {st st' : Server}, I st → Removes st st' → I st'
  onlyCallbacks : ∀ {st st' : Server}, I st → OnlyCallbacks st st' → I st'

section Request

variable {I : Server → Prop} {env : ObserveEnv} {rq : ObserveRequest} {cur : Resource} {st : Server}

/-- The server behind the observe handler of a request. -/
def handled (env : ObserveEnv) (rq : ObserveRequest) (cur : Resource) (st : Server) : Server × Int :=
  st.coapObserveHandler rq.packet rq.responseCode cur rq.endpoint rq.ifaceQuery env.observerAvailable

/-- The entry that a request makes. -/
def newEntry (rq : ObserveRequest) (cur : Resource) : Observer :=
  ⟨cur.id, rq.packet.uriPath, rq.endpoint, rq.packet.token, 0, rq.ifaceQuery⟩

/-- The server without the entry that a request replaces. -/
def replaced (rq : ObserveRequest) (st : Server) : Server :=
  (st.coapRemoveObserverHandleByUri rq.endpoint rq.packet.uriPath rq.ifaceQuery).1

theorem replaced_removes (rq : ObserveRequest) (st : Server) : Removes st (replaced rq st) := removeFirst_removes st _

theorem Stable.handled (hI : Stable I) (h : I st) (hobservable : cur.observable = true)
    (hadd : Enters env rq cur → I (entered (replaced rq st) (newEntry rq cur))) : I (handled env rq cur st).1 := by
  unfold Observe.handled Server.coapObserveHandler
  split
  · rename_i hget
    split
    · rename_i hobserve
      unfold Server.addObserver
      dsimp only
      split
      · rename_i havailable
        exact hadd ⟨hobservable, hget.1, hget.2.1, hget.2.2, hobserve, havailable⟩
      · exact hI.removes h (replaced_removes rq st)
    · split
      · exact hI.removes h (removeFirst_removes st (hasToken rq.endpoint rq.packet.token))
      · exact h
  · exact h

theorem Stable.register (hI : Stable I) (isCollection : Bool) (h : I (Observe.handled env rq cur st).1) :
    I (register env rq cur isCollection st).1 := by
  unfold Observe.register
  dsimp only
  rw [← Observe.handled]
  generalize Observe.handled env rq cur st = r at h
  have hpolled := hI.onlyCallbacks h (pollCurrent_onlyCallbacks env cur r)
  generalize (if isCollection = true then (pollCurrent env cur r).1.linked cur else []) = links
  split
  · show I (if rq.ifaceQuery = ifB then _ else _)
    split
    · exact hI.onlyCallbacks hpolled (pollLinks_onlyCallbacks env _ _)
    · exact hpolled
  · exact hI.removes hpolled (removeFirst_removes _ (hasToken rq.endpoint rq.packet.token))

theorem Stable.cancel (hI : Stable I) (isCollection : Bool) (h : I (Observe.handled env rq cur st).1) :
    I (cancel env rq cur isCollection st) := by
  unfold Observe.cancel
  dsimp only
  rw [← Observe.handled]
  generalize Observe.handled env rq cur st = r at h
  split
  · refine hI.onlyCallbacks h (.trans ?_ (foldl_onlyCallbacks
      (f := fun st (link : Resource) => st.removePeriodicObserveCallback link.id) (fun _ _ => ⟨rfl, rfl, rfl⟩) _ _))
    split <;> exact ⟨rfl, rfl, rfl⟩
  · exact h

/-- A property is kept by a request when it is kept by the entry the request makes. -/
theorem Stable.observeRequest (hI : Stable I) (h : I st) (isCollection : Bool)
    (hadd : Enters env rq cur → I (entered (replaced rq st) (newEntry rq cur))) :
    I (observeRequest env rq cur isCollection st).1 := by
  unfold Observe.observeRequest
  split
  · rename_i hread
    have hhandled := hI.handled h hread.2 hadd
    split
    · exact hI.register isCollection hhandled
    · split
      · exact hI.cancel isCollection hhandled
      · exact h
  · exact h

end Request

/-! ## Every run -/

/-- What holds in every run. -/
structure Registry (st : Server) : Prop where
  counted : Counted st
  distinct : st.observers.Pairwise fun o o' => ¬ SameRegistration o o'
  ids : (st.resources.map (·.id)).Nodup
  fresh : ∀ r ∈ st.resources, r.id < st.nextResource
  known : ∀ o ∈ st.observers, o.resource < st.nextResource

theorem registry_stable : Stable Registry where
  removes {st st'} h hrem := by
    refine ⟨hrem.counted h.counted, h.distinct.sublist hrem.observers, ?_, fun r' hr' => ?_, fun o ho => ?_⟩
    · rw [map_id_eq hrem.resources]
      exact h.ids
    · obtain ⟨r, hr, heq⟩ := mem_of_config hrem.resources hr'
      rw [hrem.next, ← config_id heq]
      exact h.fresh r hr
    · rw [hrem.next]
      exact h.known o (hrem.observers.subset ho)
  onlyCallbacks {st st'} h hsame := by
    obtain ⟨observers, resources, callbacks, next⟩ := st
    obtain ⟨observers', resources', callbacks', next'⟩ := st'
    obtain ⟨rfl, rfl, rfl⟩ := hsame
    exact ⟨h.counted, h.distinct, h.ids, h.fresh, h.known⟩

namespace Registry

variable {st : Server}

theorem eq_of_id (h : Registry st) {r r' : Resource} (hr : r ∈ st.resources) (hr' : r' ∈ st.resources)
    (hid : r.id = r'.id) : r = r' := List.inj_on_of_nodup_map h.ids hr hr' hid

theorem entered {o : Observer} (h : Registry st) (hnew : ∀ o' ∈ st.observers, ¬ SameRegistration o' o)
    (hknown : o.resource < st.nextResource) : Registry (entered st o) where
  counted := by
    refine counted_count o.resource (· + 1) h.counted rfl fun r _ => ?_
    rw [entries_entered]
    by_cases hid : r.id = o.resource
    · rw [if_pos hid, if_pos hid.symm, UInt8.ofNat_add]
      rfl
    · rw [if_neg hid, if_neg (Ne.symm hid), Nat.add_zero]
  distinct := List.pairwise_append.2 ⟨h.distinct, List.pairwise_singleton _ _, fun o' ho' o'' ho'' => by
    rw [List.mem_singleton.1 ho'']
    exact hnew o' ho'⟩
  ids := by
    rw [map_id_eq (config_entered st o)]
    exact h.ids
  fresh r' hr' := by
    obtain ⟨r, hr, heq⟩ := mem_of_config (config_entered st o) hr'
    rw [← config_id heq]
    exact h.fresh r hr
  known o' ho' := by
    rcases List.mem_append.1 ho' with hold | hlast
    · exact h.known o' hold
    · rw [List.mem_singleton.1 hlast]
      exact hknown

theorem entered_replaced (h : Registry st) {rq : ObserveRequest} {cur : Resource} (hcur : cur ∈ st.resources) :
    Registry (Observe.entered (replaced rq st) (newEntry rq cur)) := by
  have hrem := replaced_removes rq st
  refine (registry_stable.removes h hrem).entered (fun o' ho' hsame => ?_) ?_
  · exact Bool.false_ne_true ((replaced_all h.distinct ho').symm.trans hsame)
  · rw [hrem.next]
    exact h.fresh cur hcur

theorem addResource (h : Registry st) (r : Resource) : Registry (st.addResource r) where
  counted r' hr' := by
    rcases List.mem_append.1 hr' with hold | hnew
    · exact h.counted r' hold
    · rw [List.mem_singleton.1 hnew]
      -- nothing refers to an address that has not been used
      have hnone : st.entries st.nextResource = 0 := by
        refine List.countP_eq_zero.2 fun o ho => ?_
        have hlt := h.known o ho
        simp only [decide_eq_true_eq]
        omega
      change 0 = UInt8.ofNat (st.entries st.nextResource)
      rw [hnone]
      rfl
  distinct := h.distinct
  ids := by
    simp only [Server.addResource, List.map_append, List.map_cons, List.map_nil]
    refine List.nodup_append.2 ⟨h.ids, by simp, fun a ha b hb => ?_⟩
    obtain ⟨r, hr, rfl⟩ := List.mem_map.1 ha
    rw [List.mem_singleton.1 hb]
    exact Nat.ne_of_lt (h.fresh r hr)
  fresh r' hr' := by
    rcases List.mem_append.1 hr' with hold | hnew
    · exact Nat.lt_succ_of_lt (h.fresh r' hold)
    · rw [List.mem_singleton.1 hnew]
      exact Nat.lt_succ_self _
  known o ho := Nat.lt_succ_of_lt (h.known o ho)

end Registry

theorem withMid_fields (o : Observer) (mid : Option UInt16) :
    (withMid o mid).resource = o.resource ∧ (withMid o mid).url = o.url ∧ (withMid o mid).endpoint = o.endpoint ∧
      (withMid o mid).ifaceMask = o.ifaceMask := by
  unfold withMid
  split <;> exact ⟨rfl, rfl, rfl, rfl⟩

/-- The server behind some notifications. -/
def notified (st : Server) (mid : Observer → Option UInt16) : Server :=
  { st with observers := st.observers.map fun o => withMid o (mid o) }

theorem entries_notified (st : Server) (mid : Observer → Option UInt16) (id : Nat) :
    (notified st mid).entries id = st.entries id := by
  simp only [Server.entries, notified, List.countP_map]
  refine List.countP_congr fun o _ => ?_
  simp only [Function.comp_apply, (withMid_fields o (mid o)).1]

namespace Registry

variable {st : Server}

theorem notified (h : Registry st) (mid : Observer → Option UInt16) : Registry (notified st mid) where
  counted r hr := by
    rw [entries_notified]
    exact h.counted r hr
  distinct := by
    refine List.pairwise_map.2 (h.distinct.imp fun {o o'} hne hsame => hne ?_)
    obtain ⟨-, hurl, hendpoint, hiface⟩ := withMid_fields o (mid o)
    obtain ⟨-, hurl', hendpoint', hiface'⟩ := withMid_fields o' (mid o')
    unfold SameRegistration isRegistration at hsame ⊢
    rwa [hurl, hendpoint, hiface, hurl', hendpoint', hiface'] at hsame
  ids := h.ids
  fresh := h.fresh
  known o' ho' := by
    obtain ⟨o, ho, rfl⟩ := List.mem_map.1 ho'
    rw [(withMid_fields o (mid o)).1]
    exact h.known o ho

theorem withoutResource (h : Registry st) (p : Resource → Bool) :
    Registry { st with resources := st.resources.filter p } where
  counted r hr := h.counted r (List.mem_filter.1 hr).1
  distinct := h.distinct
  ids := h.ids.sublist (List.filter_sublist.map _)
  fresh r hr := h.fresh r (List.mem_filter.1 hr).1
  known := h.known

theorem step {ocfD : Nat} (h : Registry st) (e : Event) : Registry (step ocfD st e) := by
  cases e with
  | added r => exact h.addResource r
  | requested env rq =>
    simp only [Observe.step]
    split
    · rename_i cur hfound
      exact registry_stable.observeRequest h _ fun _ => h.entered_replaced (findResource_mem hfound)
    · exact h
  | removedByClient endpoint => exact registry_stable.removes h (removeAll_removes st _)
  | removedByToken endpoint token => exact registry_stable.removes h (removeFirst_removes st _)
  | removedByMid endpoint mid => exact registry_stable.removes h (removeFirst_removes st _)
  | removedByResource id =>
    simp only [Observe.step]
    split
    · exact registry_stable.removes h (removeAll_removes st _)
    · exact h
  | dosChanged device reset allowed => exact registry_stable.removes h (removeAll_removes st _)
  | freed => exact registry_stable.removes h (removeAll_removes st _)
  | notified mid => exact h.notified mid
  | expired id rfnop notified => exact registry_stable.onlyCallbacks h (pollResource_onlyCallbacks st id rfnop notified)
  | deleted id =>
    simp only [Observe.step]
    split
    · rename_i r _
      split
      · have hremoved : Registry (if r.numObservers > 0 then st.coapRemoveObserverByResource r else st) := by
          split
          · exact registry_stable.removes h (removeAll_removes st _)
          · exact h
        exact hremoved.withoutResource _
      · exact h
    · exact h

theorem init : Registry init where
  counted _ hr := nomatch hr
  distinct := .nil
  ids := .nil
  fresh _ hr := nomatch hr
  known _ ho := nomatch ho

end Registry

end SmartGarage.Observe
