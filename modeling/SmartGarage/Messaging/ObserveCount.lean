/-
The counters of the resources against the entries of `observers_list`, over every run of registrations,
removals and deletions. A counter is 8 bits wide, and a deletion goes by the path an entry was registered under.
-/
import SmartGarage.Messaging.ObserveFrame

namespace SmartGarage.Observe

open Runs

/-! ## The invariant -/

/-- What holds of a server: every counter is right, no registration is there twice, and every entry refers to
a resource that is there. -/
structure Sound (st : Server) : Prop where
  counter : ∀ r ∈ st.resources, r.numObservers.toNat = st.entries r.id
  distinct : st.observers.Pairwise fun o o' => ¬ SameRegistration o o'
  referred : ∀ o ∈ st.observers, ∃ r ∈ st.resources, r.id = o.resource

/-- The path an entry was registered under is one its resource is found by. -/
def PathOf (r : Resource) (o : Observer) : Prop :=
  r.isApp = true → o.url = r.uri ∨ o.url = r.uri.drop 1 ∧ o.url.head? ≠ some 47

/-- The invariant of the runs that meet the condition. -/
structure Invariant (st : Server) : Prop extends Registry st where
  small : ∀ id, st.entries id < 256
  referred : ∀ o ∈ st.observers, ∃ r ∈ st.resources, r.id = o.resource ∧ PathOf r o

theorem Invariant.sound {st : Server} (h : Invariant st) : Sound st where
  counter r hr := by
    rw [h.counted r hr]
    exact UInt8.toNat_ofNat_of_lt' (h.small r.id)
  distinct := h.distinct
  referred o ho := by
    obtain ⟨r, hr, hid, -⟩ := h.referred o ho
    exact ⟨r, hr, hid⟩

theorem referred_of_config {l l' : List Resource} (h : l'.map config = l.map config) {o : Observer}
    (ho : ∃ r ∈ l, r.id = o.resource ∧ PathOf r o) : ∃ r ∈ l', r.id = o.resource ∧ PathOf r o := by
  obtain ⟨r, hr, hid, hpath⟩ := ho
  obtain ⟨r', hr', heq⟩ := mem_of_config h.symm hr
  refine ⟨r', hr', (config_id heq).trans hid, fun happ => ?_⟩
  rw [config_uri heq]
  exact hpath ((config_isApp heq).symm.trans happ)

theorem invariant_stable : Stable Invariant where
  removes {st st'} h hrem := {
    toRegistry := registry_stable.removes h.toRegistry hrem
    small := fun id => Nat.lt_of_le_of_lt hrem.observers.countP_le (h.small id)
    referred := fun o ho => referred_of_config hrem.resources (h.referred o (hrem.observers.subset ho)) }
  onlyCallbacks {st st'} h hsame := by
    refine ⟨registry_stable.onlyCallbacks h.toRegistry hsame, fun id => ?_, ?_⟩
    · unfold Server.entries
      rw [hsame.observers]
      exact h.small id
    · rw [hsame.observers, hsame.resources]
      exact h.referred

/-! ## Registrations -/

/-- The counter of the resource has room for one entry more: there are fewer than 255, or one of 255 is being
replaced. -/
def Fits (st : Server) (cur : Resource) (endpoint : OcEndpoint) (uri : OcString) (ifaceMask : InterfaceMask) : Prop :=
  st.entries cur.id < 255 ∨ st.entries cur.id = 255 ∧
    ∃ o ∈ st.observers.find? (isRegistration endpoint uri ifaceMask), o.resource = cur.id

theorem Fits.entries {st : Server} {cur : Resource} {endpoint : OcEndpoint} {uri : OcString} {ifaceMask : InterfaceMask}
    (h : Fits st cur endpoint uri ifaceMask) :
    (st.coapRemoveObserverHandleByUri endpoint uri ifaceMask).1.entries cur.id < 255 := by
  rcases h with hfew | ⟨hfull, o, hfound, hid⟩
  · exact Nat.lt_of_le_of_lt (removeFirst_removes st _).observers.countP_le hfew
  · have herase := entries_erase (List.mem_of_find?_eq_some hfound) cur.id
    rw [hfull, if_pos hid] at herase
    unfold Server.coapRemoveObserverHandleByUri Server.removeFirst
    rw [Option.mem_def.1 hfound]
    dsimp only
    omega

theorem pathOf_found {ocfD : Nat} {st : Server} {rq : ObserveRequest} {cur : Resource}
    (h : cur ∈ findResource ocfD st.resources rq.packet.uriPath rq.endpoint.device) :
    PathOf cur (newEntry rq cur) := by
  intro happ
  exact appMatches_path (findResource_isApp h happ)

/-- The entry a request makes keeps the invariant where the counter has room. -/
theorem Invariant.entered_replaced {st : Server} (h : Invariant st) {rq : ObserveRequest} {cur : Resource}
    (hcur : cur ∈ st.resources) (hpath : PathOf cur (newEntry rq cur))
    (hfits : Fits st cur rq.endpoint rq.packet.uriPath rq.ifaceQuery) :
    Invariant (entered (replaced rq st) (newEntry rq cur)) where
  toRegistry := h.toRegistry.entered_replaced hcur
  small id := by
    have hremoved := (invariant_stable.removes h (replaced_removes rq st)).small id
    have hroom : (replaced rq st).entries cur.id < 255 := hfits.entries
    rw [entries_entered]
    split
    · rename_i hid
      rw [← hid]
      exact Nat.succ_lt_succ hroom
    · exact hremoved
  referred o ho := by
    have hbefore : ∃ r ∈ st.resources, r.id = o.resource ∧ PathOf r o := by
      rcases List.mem_append.1 ho with hold | hlast
      · exact h.referred o ((replaced_removes rq st).observers.subset hold)
      · rw [List.mem_singleton.1 hlast]
        exact ⟨cur, hcur, rfl, hpath⟩
    exact referred_of_config ((config_entered _ _).trans (replaced_removes rq st).resources) hbefore

/-! ## One event -/

/-- The condition on an event: an entry is made where its counter has room, and a resource is deleted when its
clients have named it without the leading slash. -/
def Meets (ocfD : Nat) (st : Server) : Event → Prop
  | .requested env rq =>
    ∀ cur ∈ findResource ocfD st.resources rq.packet.uriPath rq.endpoint.device, Enters env rq cur →
      Fits st cur rq.endpoint rq.packet.uriPath rq.ifaceQuery
  | .deleted id =>
    ∀ r ∈ st.resource? id, r.isApp = true → ∀ o ∈ st.observers, o.resource = id → o.url.head? ≠ some 47
  | _ => True

theorem Invariant.addResource {st : Server} (h : Invariant st) (r : Resource) : Invariant (st.addResource r) where
  toRegistry := h.toRegistry.addResource r
  small := h.small
  referred o ho := by
    obtain ⟨r, hr, hfacts⟩ := h.referred o ho
    exact ⟨r, List.mem_append_left _ hr, hfacts⟩

theorem Invariant.notified {st : Server} (h : Invariant st) (mid : Observer → Option UInt16) :
    Invariant (notified st mid) where
  toRegistry := h.toRegistry.notified mid
  small id := by
    rw [entries_notified]
    exact h.small id
  referred o' ho' := by
    obtain ⟨o, ho, rfl⟩ := List.mem_map.1 ho'
    obtain ⟨r, hr, hid, hpath⟩ := h.referred o ho
    obtain ⟨hresource, hurl, -⟩ := withMid_fields o (mid o)
    refine ⟨r, hr, hid.trans hresource.symm, fun happ => ?_⟩
    rw [hurl]
    exact hpath happ

section Deletion

variable {st : Server} {id : Nat} {r : Resource}

theorem resource?_mem (h : r ∈ st.resource? id) : r ∈ st.resources ∧ r.id = id :=
  ⟨List.mem_of_find?_eq_some h, by simpa using List.find?_some h⟩

theorem Invariant.ocRiDeleteResource_entries (h : Invariant st) (hr : r ∈ st.resources) (happ : r.isApp = true)
    (hnamed : ∀ o ∈ st.observers, o.resource = r.id → o.url.head? ≠ some 47) :
    ∀ o ∈ (st.ocRiDeleteResource r).observers, o.resource ≠ r.id := by
  intro o ho hid
  unfold Server.ocRiDeleteResource at ho
  dsimp only at ho
  split at ho
  · have hmem : o ∈ st.observers := (removeAll_removes st _).observers.subset ho
    obtain ⟨r', hr', hid', hpath⟩ := h.referred o hmem
    obtain rfl := h.toRegistry.eq_of_id hr hr' (hid.symm.trans hid'.symm)
    have hurl : o.url = r.uri.drop 1 := by
      rcases hpath happ with huri | ⟨hdrop, -⟩
      · exact absurd (huri ▸ r.stored.1) (hnamed o hmem hid)
      · exact hdrop
    have hleft := not_of_mem_removeAll (p := observesUri r) ho
    simp [observesUri, hid, hurl] at hleft
  · rename_i hzero
    have hcounter := h.counted r hr
    have hnone : r.numObservers = 0 := by
      refine Nat.eq_zero_of_not_pos (n := r.numObservers.toNat) (fun hpos => hzero hpos) |> fun h0 => ?_
      exact UInt8.toNat_inj.1 h0
    have hentries : st.entries r.id = 0 := by
      have hnat := congrArg UInt8.toNat (hnone.symm.trans hcounter)
      rw [UInt8.toNat_ofNat_of_lt' (h.small r.id)] at hnat
      exact hnat.symm
    exact absurd hid (by simpa using List.countP_eq_zero.1 hentries o ho)

theorem Invariant.ocRiDeleteResource (h : Invariant st) (hr : r ∈ st.resources) (happ : r.isApp = true)
    (hnamed : ∀ o ∈ st.observers, o.resource = r.id → o.url.head? ≠ some 47) : Invariant (st.ocRiDeleteResource r) := by
  have hnone := h.ocRiDeleteResource_entries hr happ hnamed
  unfold Server.ocRiDeleteResource at hnone ⊢
  dsimp only at hnone ⊢
  have hremoved : Invariant (if r.numObservers > 0 then st.coapRemoveObserverByResource r else st) := by
    split
    · exact invariant_stable.removes h (removeAll_removes st _)
    · exact h
  generalize (if r.numObservers > 0 then st.coapRemoveObserverByResource r else st) = st' at hremoved hnone
  refine ⟨hremoved.toRegistry.withoutResource _, hremoved.small, fun o ho => ?_⟩
  obtain ⟨r', hr', hid, hpath⟩ := hremoved.referred o ho
  refine ⟨r', List.mem_filter.2 ⟨hr', ?_⟩, hid, hpath⟩
  simpa [hid] using hnone o ho

end Deletion

theorem Invariant.step {ocfD : Nat} {st : Server} {e : Event} (h : Invariant st) (hmeets : Meets ocfD st e) :
    Invariant (step ocfD st e) := by
  cases e with
  | added r => exact h.addResource r
  | requested env rq =>
    simp only [Observe.step]
    split
    · rename_i cur hfound
      exact invariant_stable.observeRequest h _ fun henters =>
        h.entered_replaced (findResource_mem hfound) (pathOf_found hfound) (hmeets cur hfound henters)
    · exact h
  | removedByClient endpoint => exact invariant_stable.removes h (removeAll_removes st _)
  | removedByToken endpoint token => exact invariant_stable.removes h (removeFirst_removes st _)
  | removedByMid endpoint mid => exact invariant_stable.removes h (removeFirst_removes st _)
  | removedByResource id =>
    simp only [Observe.step]
    split
    · exact invariant_stable.removes h (removeAll_removes st _)
    · exact h
  | dosChanged device reset allowed => exact invariant_stable.removes h (removeAll_removes st _)
  | freed => exact invariant_stable.removes h (removeAll_removes st _)
  | notified mid => exact h.notified mid
  | expired id rfnop notified => exact invariant_stable.onlyCallbacks h (pollResource_onlyCallbacks st id rfnop notified)
  | deleted id =>
    simp only [Observe.step]
    split
    · rename_i r hfound
      obtain ⟨hr, rfl⟩ := resource?_mem hfound
      split
      · rename_i happ
        exact h.ocRiDeleteResource hr happ (hmeets r hfound happ)
      · exact h
    · exact h

theorem invariant_init : Invariant init where
  toRegistry := Registry.init
  small _ := Nat.zero_lt_succ _
  referred _ ho := nomatch ho

theorem step_deleted {ocfD : Nat} {st : Server} {r : Resource} (hr : r ∈ st.resource? r.id) (happ : r.isApp = true) :
    step ocfD st (.deleted r.id) = st.ocRiDeleteResource r := by
  simp only [Observe.step, Option.mem_def.1 hr]
  exact if_pos happ

/-! ## Runs -/

/-- The server is sound behind a run, and where the run ends with the deletion of a resource no entry refers to it. -/
def RunSound (ocfD : Nat) (l : List Event) : Prop :=
  Sound (runFrom (step ocfD) init l) ∧ ∀ l' id r, l = l' ++ [.deleted id] →
    r ∈ (runFrom (step ocfD) init l').resource? id → r.isApp = true →
      ∀ o ∈ (runFrom (step ocfD) init l).observers, o.resource ≠ id

/-- In every run whose events meet the condition the counters are right, no registration is there twice, and the
deletion of a resource leaves no entry that refers to it. -/
theorem observers_sound (ocfD : Nat) (l : List Event) (h : Guarded (step ocfD) (Meets ocfD) init l) : RunSound ocfD l := by
  have hrun (l : List Event) (h : Guarded (step ocfD) (Meets ocfD) init l) : Invariant (runFrom (step ocfD) init l) :=
    run_invariant (fun _ _ hi hg => hi.step hg) l init invariant_init h
  refine ⟨(hrun l h).sound, ?_⟩
  rintro l' id r rfl hr happ
  obtain ⟨hpre, hmeets⟩ := h.at_step
  obtain ⟨hmem, rfl⟩ := resource?_mem hr
  have hlast : runFrom (step ocfD) init (l' ++ [.deleted r.id]) = (runFrom (step ocfD) init l').ocRiDeleteResource r := by
    rw [runFrom, List.foldl_append, List.foldl_cons, List.foldl_nil, ← runFrom]
    exact step_deleted hr happ
  rw [hlast]
  exact (hrun l' hpre).ocRiDeleteResource_entries hmem happ (hmeets r hr happ)

/-- An observable resource at "/a". -/
def sampleResource : Resource where
  uri := ascii "/a"
  device := 0
  coreIndex := none
  discoverable := true
  secure := false
  id := 0
  isCollection := false
  interfaces := ifBaseline
  defaultInterface := ifBaseline
  observable := true
  periodic := false
  handles _ := true
  links := []
  numObservers := 0
  stored := ⟨rfl, by decide⟩

/-- There is memory for everything. -/
def sampleEnv : ObserveEnv := ⟨true, fun _ => true, fun _ => true⟩

/-- A GET that has been answered with 2.05 and registers its client. -/
def sampleRequest (path : OcString) : ObserveRequest where
  packet := { coapUdpInitMessage .non coapGet 1 with token := [1], uriPath := path }.setHeaderObserve 0
  responseCode := 69
  endpoint := peer false
  ifaceQuery := 0

/-- A resource is added, observed and deleted. -/
def sampleRun (path : OcString) : List Event :=
  [.added sampleResource, .requested sampleEnv (sampleRequest path), .deleted 0]

/-- A client that names the resource without the slash. -/
theorem observers_sound_deleted : RunSound 0 (sampleRun (ascii "a")) := by
  refine observers_sound 0 (sampleRun (ascii "a")) ⟨trivial, fun cur _ _ => .inl (by decide : 0 < 255), ?_, trivial⟩
  intro r _ _ o ho _
  have hentry : o ∈ [(⟨0, ascii "a", peer false, [1], 0, 0⟩ : Observer)] := ho
  rw [List.mem_singleton.1 hentry]
  decide

/-- A client that writes the slash stays among the observers of a resource that is gone. -/
theorem observers_unsound : ¬∀ (ocfD : Nat) (l : List Event), RunSound ocfD l := by
  intro h
  have hentry : (⟨0, ascii "/a", peer false, [1], 0, 0⟩ : Observer) ∈
      (runFrom (step 0) init (sampleRun (ascii "/a"))).observers := List.mem_singleton.2 rfl
  have hgone := (h 0 (sampleRun (ascii "/a"))).2
    [.added sampleResource, .requested sampleEnv (sampleRequest (ascii "/a"))] 0 _ rfl rfl rfl
  exact hgone _ hentry rfl

end SmartGarage.Observe
