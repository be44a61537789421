/-
The devices behind the pointers of the onboarding tool. A context or a request keeps the address of
a device while other operations may free it; the theorem says that all of these addresses stay
those of listed devices as long as a device is only freed when nothing else holds it.
-/
import SmartGarage.Lib.Run
import SmartGarage.Obt.Sequences

namespace SmartGarage

variable {q : OcClientCb} {r : OcClientResponse} {otm : OcObtOtm} {list : DeviceList} {run : Option Nat}
  {endpoint : Option OcEndpoint} {message : ObtMessage} {handler : ResponseHandler} {userData : Nat} {p : OcCredprovCtx}

/-! ## Pointers to devices -/

/-- A context, or a `get_endpoints` request that waits, holds the address of the device. -/
inductive Holds (s : Obt) (x : Nat) : Prop
  | otm (o : OcOtmCtx) (mem : o ∈ s.otmCtxL) (eq : o.device = x)
  | switchDos (d : OcSwitchDosCtx) (mem : d ∈ s.switchDosCtxL) (eq : d.device = x)
  | hardReset (h : OcHardResetCtx) (mem : h ∈ s.hardResetCtxL) (eq : h.device = x)
  | credprov (p : OcCredprovCtx) (mem : p ∈ s.credprovCtxL) (eq : p.device1 = x ∨ p.device2 = some x)
  | getEndpoints (q : OcClientCb) (mem : q ∈ s.clientCbs) (handler : q.handler = .getEndpoints)
      (unicast : q.multicast = false) (eq : q.userData = x)

/-- The device is in one of the lists. -/
def Listed (s : Obt) (x : Nat) : Prop := x ∈ s.devices ∨ x ∈ s.cache

/-- Every device that is held is in one of the lists. -/
def DevicesLive (s : Obt) : Prop := ∀ x, Holds s x → Listed s x

/-- The devices that are held. -/
def heldDevices (s : Obt) : List Nat :=
  s.otmCtxL.map (·.device) ++ s.switchDosCtxL.map (·.device) ++ s.hardResetCtxL.map (·.device) ++
  s.credprovCtxL.flatMap (fun p => p.device1 :: p.device2.toList) ++
  (s.clientCbs.filter fun q => q.handler == .getEndpoints && !q.multicast).map (·.userData)

theorem holds_iff {s : Obt} {x : Nat} : Holds s x ↔ x ∈ heldDevices s := by
  simp only [heldDevices, List.mem_append, List.mem_map, List.mem_flatMap, List.mem_cons, Option.mem_toList,
    List.mem_filter, Bool.and_eq_true, beq_iff_eq, Bool.not_eq_true']
  refine ⟨fun h => ?_, ?_⟩
  · cases h with
    | otm o mem eq => exact .inl (.inl (.inl (.inl ⟨o, mem, eq⟩)))
    | switchDos d mem eq => exact .inl (.inl (.inl (.inr ⟨d, mem, eq⟩)))
    | hardReset c mem eq => exact .inl (.inl (.inr ⟨c, mem, eq⟩))
    | credprov p mem eq => exact .inl (.inr ⟨p, mem, eq.imp Eq.symm id⟩)
    | getEndpoints q mem handler unicast eq => exact .inr ⟨q, ⟨mem, handler, unicast⟩, eq⟩
  · rintro ((((⟨o, mem, eq⟩ | ⟨d, mem, eq⟩) | ⟨c, mem, eq⟩) | ⟨p, mem, eq⟩) | ⟨q, ⟨mem, handler, unicast⟩, eq⟩)
    · exact .otm o mem eq
    · exact .switchDos d mem eq
    · exact .hardReset c mem eq
    · exact .credprov p mem (eq.imp Eq.symm id)
    · exact .getEndpoints q mem handler unicast eq

instance (s : Obt) (x : Nat) : Decidable (Holds s x) := decidable_of_iff _ holds_iff.symm

instance (s : Obt) (x : Nat) : Decidable (Listed s x) := inferInstanceAs (Decidable (_ ∨ _))

/-- No new pointer to a device that is not listed, and no device taken off the lists. -/
structure NoNewPointer (s s' : Obt) : Prop where
  held : ∀ x, Holds s' x → Holds s x ∨ Listed s x
  listed : ∀ x, Listed s x → Listed s' x

theorem DevicesLive.mono {s s' : Obt} (h : DevicesLive s) (hm : NoNewPointer s s') : DevicesLive s' := fun x hx =>
  hm.listed x ((hm.held x hx).elim (h x) id)

theorem Holds.mono {s s' : Obt} {x : Nat} (h : Holds s' x)
    (ho : ∀ o ∈ s'.otmCtxL, o ∈ s.otmCtxL) (hd : ∀ d ∈ s'.switchDosCtxL, d ∈ s.switchDosCtxL)
    (hh : ∀ c ∈ s'.hardResetCtxL, c ∈ s.hardResetCtxL) (hp : ∀ p ∈ s'.credprovCtxL, p ∈ s.credprovCtxL)
    (hq : ∀ q ∈ s'.clientCbs, q ∈ s.clientCbs) : Holds s x := by
  cases h with
  | otm o mem eq => exact .otm o (ho o mem) eq
  | switchDos d mem eq => exact .switchDos d (hd d mem) eq
  | hardReset c mem eq => exact .hardReset c (hh c mem) eq
  | credprov p mem eq => exact .credprov p (hp p mem) eq
  | getEndpoints q mem handler unicast eq => exact .getEndpoints q (hq q mem) handler unicast eq

/-- Contexts and requests stay, go, or are new with listed devices. -/
theorem NoNewPointer.of {s s' : Obt} (ho : ∀ o ∈ s'.otmCtxL, o ∈ s.otmCtxL ∨ Listed s o.device)
    (hd : ∀ d ∈ s'.switchDosCtxL, d ∈ s.switchDosCtxL ∨ Listed s d.device)
    (hh : ∀ c ∈ s'.hardResetCtxL, c ∈ s.hardResetCtxL ∨ Listed s c.device)
    (hp : ∀ p ∈ s'.credprovCtxL, p ∈ s.credprovCtxL ∨ (Listed s p.device1 ∧ ∀ x ∈ p.device2, Listed s x))
    (hq : ∀ q ∈ s'.clientCbs, q ∈ s.clientCbs ∨
      (q.handler = .getEndpoints → q.multicast = false → Listed s q.userData))
    (hl : ∀ x, Listed s x → Listed s' x) : NoNewPointer s s' := by
  refine ⟨fun x hx => ?_, hl⟩
  cases hx with
  | otm o mem eq => exact (ho o mem).imp (fun mem => .otm o mem eq) fun h => eq ▸ h
  | switchDos d mem eq => exact (hd d mem).imp (fun mem => .switchDos d mem eq) fun h => eq ▸ h
  | hardReset c mem eq => exact (hh c mem).imp (fun mem => .hardReset c mem eq) fun h => eq ▸ h
  | credprov p mem eq =>
    refine (hp p mem).imp (fun mem => .credprov p mem eq) fun h => ?_
    rcases eq with eq | eq
    · exact eq ▸ h.1
    · exact h.2 x eq
  | getEndpoints q mem handler unicast eq =>
    exact (hq q mem).imp (fun mem => .getEndpoints q mem handler unicast eq) fun h => eq ▸ h handler unicast

theorem mem_append_one {α : Type} {P : α → Prop} {l : List α} {a : α} (ha : P a) :
    ∀ x ∈ l ++ [a], x ∈ l ∨ P x := by
  intro x hx
  rcases List.mem_append.1 hx with hx | hx
  · exact .inl hx
  · rw [List.mem_singleton] at hx
    exact .inr (hx ▸ ha)

theorem removeDevice_listed {s : Obt} {x y : Nat} (hne : y ≠ x) (h : Listed s y) :
    Listed (s.removeDevice x list) y := by
  cases list
  · exact h.imp (List.mem_erase_of_ne hne).2 id
  · exact h.imp id (List.mem_erase_of_ne hne).2

theorem removeDevice_holds {s : Obt} {x y : Nat} (h : Holds (s.removeDevice x list) y) :
    Holds s y := by
  cases list <;> exact h.mono (fun _ => id) (fun _ => id) (fun _ => id) (fun _ => id) fun _ => id

theorem DevicesLive.removeDevice {s : Obt} (h : DevicesLive s) {x : Nat} (hx : ¬Holds s x) (list : DeviceList) :
    DevicesLive (s.removeDevice x list) := by
  intro y hy
  have hy' := removeDevice_holds hy
  exact removeDevice_listed (fun heq => hx (heq ▸ hy')) (h y hy')

theorem freeDevice_eq (s : Obt) (x : Nat) : freeDevice s x = (s.removeDevice x .ocCache).removeDevice x .ocDevices := rfl

theorem DevicesLive.freeDevice {s : Obt} (h : DevicesLive s) {x : Nat} (hx : ¬Holds s x) :
    DevicesLive (freeDevice s x) := by
  rw [freeDevice_eq]
  exact (h.removeDevice hx .ocCache).removeDevice (mt removeDevice_holds hx) .ocDevices

theorem getDeviceHandle_mem {s : Obt} {uuid : OcUuid} {list : List Nat} {x : Nat}
    (h : getDeviceHandle s uuid list = some x) : x ∈ list ∧ (s.blocks x).uuid = uuid :=
  ⟨List.mem_of_find?_eq_some h, by simpa using List.find?_some h⟩

theorem ocMembAlloc_notMem {block : Option Nat} {used : List Nat} {x : Nat} (h : ocMembAlloc block used = some x) :
    x ∉ used := by
  unfold ocMembAlloc at h
  rw [Option.filter_eq_some_iff] at h
  simpa using h.2

/-! ## Requests -/

section Requests

variable {env : ObtEnv} {s s' : Obt}

theorem doRequest_eq {device : Nat}
    (h : doRequest env s run device endpoint message handler userData = some s') :
    s' = { s with
      clientCbs := s.clientCbs ++ [⟨s.nextId, handler, userData, false⟩]
      nextId := s.nextId + 1
      trace := s.trace ++ [.sent run handler (s.blocks device).uuid (endpoint.getD OcEndpoint.zero) message] } := by
  unfold doRequest at h
  split at h
  · exact (Option.some.inj h).symm
  · cases h

theorem doRequest_noNewPointer {device : Nat} (hh : handler = .getEndpoints → Listed s userData)
    (h : doRequest env s run device endpoint message handler userData = some s') : NoNewPointer s s' := by
  rw [doRequest_eq h]
  exact .of (fun _ h => .inl h) (fun _ h => .inl h) (fun _ h => .inl h) (fun _ h => .inl h)
    (mem_append_one fun heq _ => hh heq) fun _ hx => hx

theorem switchDos_eq {device data d : Nat} {dos : OcDostype} {cb : StatusCb}
    (h : switchDos env s run device dos cb data = some (d, s')) :
    d ∉ s.switchDosCtxL.map (·.addr) ∧
    ∃ ep, ocObtGetSecureEndpoint (s.blocks device).endpoint = some ep ∧
      s' = { s with
        clientCbs := s.clientCbs ++ [⟨s.nextId, .pstatPOSTDos1ToDos2, d, false⟩]
        nextId := s.nextId + 1
        trace := s.trace ++ [.sent run .pstatPOSTDos1ToDos2 (s.blocks device).uuid ep (.postDos dos)]
        switchDosCtxL := s.switchDosCtxL ++ [⟨d, device, dos, cb, data⟩] } := by
  unfold switchDos at h
  split at h
  · rename_i ep addr hep ha
    obtain ⟨s₁, hs₁, heq⟩ := Option.map_eq_some_iff.1 h
    rw [doRequest_eq hs₁] at heq
    obtain ⟨rfl, rfl⟩ := Prod.mk.inj heq
    exact ⟨ocMembAlloc_notMem ha, ep, hep, rfl⟩
  · cases h

/-- What every dropped request keeps holds for the handler of an answered one. -/
theorem answered_of_dropRequest {Inv : Obt → Prop} (h : Inv s)
    (hdrop : Inv (dropRequest s q.id)) : Inv (answered s q r) := by
  unfold answered
  split
  · exact h
  · exact hdrop

end Requests

/-! ## Discovery -/

/-- Everything `cache_new_device` can do: the device is found or new; without memory for the endpoint it
goes, or has never come. -/
theorem cacheNewDevice_cases {env : ObtEnv} {s s' : Obt} {uuid : OcUuid} {ep : OcEndpoint}
    {o : Option Nat} (h : cacheNewDevice env s list uuid ep = (o, s')) :
    (o = none ∧ s' = s) ∨
    ∃ x, (x ∈ s.list list ∧ (s.blocks x).uuid = uuid ∧ o = some x ∧ s' = s.setBlock x ⟨uuid, [ep]⟩) ∨
      (x ∉ s.devices ∧ x ∉ s.cache ∧ o = some x ∧ s' = (s.addDevice x list).setBlock x ⟨uuid, [ep]⟩) ∨
      (env.endpointAllocs 0 = false ∧ getDeviceHandle s uuid (s.list list) = some x ∧ o = none ∧
        s' = s.removeDevice x list) ∨
      (x ∉ s.devices ∧ x ∉ s.cache ∧ o = none ∧ s' = s.setBlock x ⟨uuid, []⟩) := by
  unfold cacheNewDevice at h
  split at h
  · rename_i x hf
    obtain ⟨hmem, huuid⟩ := getDeviceHandle_mem hf
    split at h
    · obtain ⟨rfl, rfl⟩ := Prod.mk.inj h
      exact .inr ⟨x, .inl ⟨hmem, huuid, rfl, rfl⟩⟩
    · rename_i halloc
      obtain ⟨rfl, rfl⟩ := Prod.mk.inj h
      exact .inr ⟨x, .inr (.inr (.inl ⟨Bool.eq_false_iff.2 halloc, hf, rfl, rfl⟩))⟩
  · split at h
    · obtain ⟨rfl, rfl⟩ := Prod.mk.inj h
      exact .inl ⟨rfl, rfl⟩
    · rename_i x hx
      have hnot := ocMembAlloc_notMem hx
      rw [List.mem_append, not_or] at hnot
      split at h
      · obtain ⟨rfl, rfl⟩ := Prod.mk.inj h
        exact .inr ⟨x, .inr (.inl ⟨hnot.1, hnot.2, rfl, rfl⟩)⟩
      · obtain ⟨rfl, rfl⟩ := Prod.mk.inj h
        exact .inr ⟨x, .inr (.inr (.inr ⟨hnot.1, hnot.2, rfl, rfl⟩))⟩

/-- The call of `cache_new_device` that a response leads to: its list and UUID. -/
def cacheCall (P : ObtPlatform) (env : ObtEnv) (q : OcClientCb) (r : OcClientResponse) : Option (DeviceList × OcUuid) :=
  if r.code.isError then none
  else match q.handler with
    | .obtCheckOwned =>
      match scanOwned env.garbage r.payload with
      | (uuid, some false) => if uuid = P.myUuid then none else some (.ocCache, uuid)
      | _ => none
    | .getEndpoints =>
      let di := linkAnchor env.garbage (firstLink r.payload)
      if di ≠ P.myUuid ∧ q.multicast = true ∧ r.payload ≠ [] ∧ env.isOwned di = true then some (.ocDevices, di) else none
    | _ => none

theorem cacheCall_multicast {P : ObtPlatform} {env : ObtEnv}
    {c : DeviceList × OcUuid} (hq : q.handler = .getEndpoints) (h : cacheCall P env q r = some c) : q.multicast = true := by
  unfold cacheCall at h
  rw [hq] at h
  split at h
  · cases h
  · simp only at h
    split at h
    · rename_i hcond
      exact hcond.2.1
    · cases h

/-- Everything `get_endpoints` can do: nothing, or new endpoints for the device of the request, or for the
one that `cache_new_device` returns. -/
theorem getEndpoints_cases (P : ObtPlatform) (env : ObtEnv) (s : Obt) (hq : q.handler = .getEndpoints)
    (r : OcClientResponse) :
    ∃ di, di = linkAnchor env.garbage (firstLink r.payload) ∧
      (getEndpoints P env s q r = s ∨
      (r.code.isError = false ∧ di ≠ P.myUuid ∧ q.multicast = false ∧ getEndpoints P env s q r =
        s.setBlock q.userData { s.blocks q.userData with endpoint := newEndpoints P env r di }) ∨
      ∃ o s₁, cacheCall P env q r = some (.ocDevices, di) ∧ cacheNewDevice env s .ocDevices di r.endpoint = (o, s₁) ∧
        ((o = none ∧ getEndpoints P env s q r = s₁) ∨
        ∃ x, o = some x ∧ getEndpoints P env s q r =
          s₁.setBlock x { s₁.blocks x with endpoint := newEndpoints P env r di })) := by
  refine ⟨_, rfl, ?_⟩
  unfold getEndpoints cacheCall
  rw [hq]
  by_cases hcode : r.code.isError = true
  · exact .inl (by simp [hcode])
  · rw [if_neg hcode, if_neg hcode]
    by_cases hmy : linkAnchor env.garbage (firstLink r.payload) = P.myUuid
    · exact .inl (by simp [hmy])
    · simp only [if_neg hmy]
      cases hm : q.multicast with
      | false => exact .inr (.inl ⟨Bool.eq_false_iff.2 hcode, hmy, rfl, rfl⟩)
      | true =>
        by_cases howned : r.payload ≠ [] ∧ env.isOwned (linkAnchor env.garbage (firstLink r.payload)) = true
        · rcases hc : cacheNewDevice env s .ocDevices (linkAnchor env.garbage (firstLink r.payload)) r.endpoint with ⟨o, s₁⟩
          refine .inr (.inr ⟨o, s₁, by simp [hmy, howned.1, howned.2], rfl, ?_⟩)
          simp only [if_pos howned, reduceIte]
          cases o with
          | none => exact .inl ⟨rfl, rfl⟩
          | some x => exact .inr ⟨x, rfl, rfl⟩
        · exact .inl (by simp only [if_neg howned, reduceIte])

/-- Everything `obt_check_owned` can do: nothing, or a request for the endpoints of the device that
`cache_new_device` returns. -/
theorem obtCheckOwned_cases (P : ObtPlatform) (env : ObtEnv) (s : Obt) (hq : q.handler = .obtCheckOwned)
    (r : OcClientResponse) :
    obtCheckOwned P env s r = s ∨
    ∃ uuid o s₁, cacheCall P env q r = some (.ocCache, uuid) ∧ cacheNewDevice env s .ocCache uuid r.endpoint = (o, s₁) ∧
      (obtCheckOwned P env s r = s₁ ∨
      ∃ x, o = some x ∧
        doRequest env s₁ none x (some r.endpoint) .getRes .getEndpoints x = some (obtCheckOwned P env s r)) := by
  unfold obtCheckOwned cacheCall
  rw [hq]
  by_cases hcode : r.code.isError = true
  · exact .inl (by simp [hcode])
  · rw [if_neg hcode, if_neg hcode]
    rcases hscan : scanOwned env.garbage r.payload with ⟨uuid, _ | _ | _⟩
    · exact .inl rfl
    · by_cases hmy : uuid = P.myUuid
      · exact .inl (by simp [hmy])
      · rcases hc : cacheNewDevice env s .ocCache uuid r.endpoint with ⟨o, s₁⟩
        refine .inr ⟨uuid, o, s₁, by simp [hmy], hc, ?_⟩
        simp only [if_neg hmy, hc]
        cases o with
        | none => exact .inl rfl
        | some x =>
          cases hr : doRequest env s₁ none x (some r.endpoint) .getRes .getEndpoints x with
          | none => exact .inl (by simp [hr])
          | some s₂ => exact .inr ⟨x, rfl, by simp [hr]⟩
    · exact .inl rfl

theorem NoNewPointer.setBlock (s : Obt) (x : Nat) (b : OcDevice) : NoNewPointer s (s.setBlock x b) :=
  ⟨fun _ hx => .inl (hx.mono (fun _ => id) (fun _ => id) (fun _ => id) (fun _ => id) fun _ => id), fun _ hx => hx⟩

theorem addDevice_listed (s : Obt) (x : Nat) (list : DeviceList) :
    ∀ y, Listed (s.addDevice x list) y ↔ Listed s y ∨ y = x := by
  intro y
  cases list <;> simp [Obt.addDevice, Listed, or_assoc, or_comm, or_left_comm]

theorem addDevice_holds {s : Obt} {x y : Nat} (h : Holds (s.addDevice x list) y) : Holds s y := by
  cases list <;> exact h.mono (fun _ => id) (fun _ => id) (fun _ => id) (fun _ => id) fun _ => id

/-- A device that is freed for want of memory is held by nothing. -/
def cacheGuard (P : ObtPlatform) (env : ObtEnv) (s : Obt) (q : OcClientCb) (r : OcClientResponse) : Prop :=
  ∀ c ∈ cacheCall P env q r, env.endpointAllocs 0 = false → ∀ x ∈ getDeviceHandle s c.2 (s.list c.1), ¬Holds s x

theorem DevicesLive.cacheNewDevice {env : ObtEnv} {s s' : Obt} {uuid : OcUuid} {ep : OcEndpoint}
    {o : Option Nat} (h : DevicesLive s)
    (hg : env.endpointAllocs 0 = false → ∀ x ∈ getDeviceHandle s uuid (s.list list), ¬Holds s x)
    (hc : cacheNewDevice env s list uuid ep = (o, s')) : DevicesLive s' ∧ ∀ x ∈ o, Listed s' x := by
  rcases cacheNewDevice_cases hc with ⟨rfl, rfl⟩ | ⟨x, ⟨hx, -, rfl, rfl⟩ | ⟨-, -, rfl, rfl⟩ | ⟨halloc, hf, rfl, rfl⟩ |
    ⟨-, -, rfl, rfl⟩⟩
  · exact ⟨h, fun x hx => by cases hx⟩
  · refine ⟨h.mono (.setBlock s x _), fun y hy => ?_⟩
    obtain rfl := Option.some.inj hy
    cases list
    · exact .inl hx
    · exact .inr hx
  · have hadd : DevicesLive (s.addDevice x list) := fun y hy =>
      (addDevice_listed s x list y).2 (.inl (h y (addDevice_holds hy)))
    refine ⟨hadd.mono (.setBlock _ x _), fun y hy => ?_⟩
    obtain rfl := Option.some.inj hy
    exact (addDevice_listed s x list x).2 (.inr rfl)
  · exact ⟨h.removeDevice (hg halloc x hf) list, fun y hy => by cases hy⟩
  · exact ⟨h.mono (.setBlock s x _), fun y hy => by cases hy⟩

theorem DevicesLive.getEndpoints {P : ObtPlatform} {env : ObtEnv} {s : Obt} (h : DevicesLive s)
    (hq : q.handler = .getEndpoints) (hg : cacheGuard P env s q r) :
    DevicesLive (getEndpoints P env s q r) := by
  obtain ⟨di, -, heq | ⟨-, -, -, heq⟩ | ⟨o, s₁, hcall, hc, hres⟩⟩ := getEndpoints_cases P env s hq r
  · rw [heq]
    exact h
  · rw [heq]
    exact h.mono (.setBlock s _ _)
  · obtain ⟨hlive, -⟩ := h.cacheNewDevice (hg _ hcall) hc
    rcases hres with ⟨-, heq⟩ | ⟨x, -, heq⟩
    · rw [heq]
      exact hlive
    · rw [heq]
      exact hlive.mono (.setBlock s₁ x _)

theorem DevicesLive.obtCheckOwned {P : ObtPlatform} {env : ObtEnv} {s : Obt} (h : DevicesLive s)
    (hq : q.handler = .obtCheckOwned) (hg : cacheGuard P env s q r) :
    DevicesLive (obtCheckOwned P env s r) := by
  rcases obtCheckOwned_cases P env s hq r with heq | ⟨uuid, o, s₁, hcall, hc, hres⟩
  · rw [heq]
    exact h
  · obtain ⟨hlive, hlisted⟩ := h.cacheNewDevice (hg _ hcall) hc
    rcases hres with heq | ⟨x, ho, hr⟩
    · rw [heq]
      exact hlive
    · exact hlive.mono (doRequest_noNewPointer (fun _ => hlisted x ho) hr)

/-! ## Operations that leave the devices alone -/

/-- The device is an owned one, or one of a provisioning context. -/
def Provisioned (s : Obt) (x : Nat) : Prop := x ∈ s.devices ∨ ∃ p ∈ s.credprovCtxL, p.device1 = x ∨ p.device2 = some x

/-- A provisioning request goes to the endpoint that is taken of such a device. -/
def SentToProvisioned (s : Obt) (a : ObtAction) : Prop :=
  ∀ run handler device endpoint message, a = .sent run handler device endpoint message → handler.isProvisioning = true →
    ∃ x, Provisioned s x ∧ (ocObtGetSecureEndpoint (s.blocks x).endpoint).getD OcEndpoint.zero = endpoint

/-- The devices of a context are owned ones, or those of contexts. -/
def ProvisionedBy (s : Obt) (p : OcCredprovCtx) : Prop := Provisioned s p.device1 ∧ ∀ x ∈ p.device2, Provisioned s x

/-- The devices stay; contexts and requests stay, go, or are new for owned devices and those of contexts. -/
structure LeavesDevices (s s' : Obt) : Prop where
  devices : s'.devices = s.devices
  cache : s'.cache = s.cache
  blocks : s'.blocks = s.blocks
  otm : ∀ o ∈ s'.otmCtxL, o ∈ s.otmCtxL
  switchDos : ∀ d ∈ s'.switchDosCtxL, d ∈ s.switchDosCtxL ∨ Provisioned s d.device
  hardReset : ∀ c ∈ s'.hardResetCtxL, c ∈ s.hardResetCtxL ∨ Provisioned s c.device
  credprov : ∀ p ∈ s'.credprovCtxL, p ∈ s.credprovCtxL ∨ ProvisionedBy s p
  requests : ∀ q ∈ s'.clientCbs, q ∈ s.clientCbs ∨ ¬(q.handler = .getEndpoints ∧ q.multicast = false)
  trace : ∀ a ∈ s'.trace, a ∈ s.trace ∨ SentToProvisioned s a

section Leaves

variable {env : ObtEnv} {s s' s'' : Obt}

theorem LeavesDevices.provisioned (h : LeavesDevices s s') {x : Nat} (hx : Provisioned s' x) : Provisioned s x := by
  rcases hx with hx | ⟨p, hp, hx⟩
  · exact .inl (h.devices ▸ hx)
  · rcases h.credprov p hp with hp | ⟨h1, h2⟩
    · exact .inr ⟨p, hp, hx⟩
    · exact hx.elim (fun heq => heq ▸ h1) (h2 x)

theorem LeavesDevices.refl (s : Obt) : LeavesDevices s s :=
  ⟨rfl, rfl, rfl, fun _ h => h, fun _ h => .inl h, fun _ h => .inl h, fun _ h => .inl h, fun _ h => .inl h,
    fun _ h => .inl h⟩

theorem LeavesDevices.trans (h : LeavesDevices s s') (h' : LeavesDevices s' s'') : LeavesDevices s s'' := by
  refine ⟨h'.devices.trans h.devices, h'.cache.trans h.cache, h'.blocks.trans h.blocks, fun o ho => h.otm o (h'.otm o ho),
    fun d hd => (h'.switchDos d hd).elim (h.switchDos d) fun hx => .inr (h.provisioned hx),
    fun c hc => (h'.hardReset c hc).elim (h.hardReset c) fun hx => .inr (h.provisioned hx),
    fun p hp => (h'.credprov p hp).elim (h.credprov p) fun hx =>
      .inr ⟨h.provisioned hx.1, fun x hm => h.provisioned (hx.2 x hm)⟩,
    fun q hq => (h'.requests q hq).elim (h.requests q) .inr,
    fun a ha => (h'.trace a ha).elim (h.trace a) fun hsent => .inr ?_⟩
  intro run handler device endpoint message heq hprov
  obtain ⟨x, hx, hep⟩ := hsent run handler device endpoint message heq hprov
  exact ⟨x, h.provisioned hx, h.blocks ▸ hep⟩

theorem DevicesLive.leaves (h : DevicesLive s) (hl : LeavesDevices s s') : DevicesLive s' := by
  have hlisted {x : Nat} (hx : Provisioned s x) : Listed s x :=
    hx.elim .inl fun ⟨p, hp, heq⟩ => h x (.credprov p hp heq)
  refine h.mono (.of (fun o ho => .inl (hl.otm o ho)) (fun d hd => (hl.switchDos d hd).imp id hlisted)
    (fun c hc => (hl.hardReset c hc).imp id hlisted)
    (fun p hp => (hl.credprov p hp).imp id fun hx => ⟨hlisted hx.1, fun x hm => hlisted (hx.2 x hm)⟩)
    (fun q hq => (hl.requests q hq).imp id fun hno hh hm => absurd ⟨hh, hm⟩ hno) fun x hx => ?_)
  unfold Listed
  rw [hl.devices, hl.cache]
  exact hx

theorem doRequest_leaves {device : Nat} (hh : handler ≠ .getEndpoints)
    (hep : handler.isProvisioning = true → ∃ x, Provisioned s x ∧ ocObtGetSecureEndpoint (s.blocks x).endpoint = endpoint)
    (h : doRequest env s run device endpoint message handler userData = some s') : LeavesDevices s s' := by
  rw [doRequest_eq h]
  -- the other fields are those of the state before, which the step does not touch
  refine { LeavesDevices.refl s with requests := mem_append_one fun hc => hh hc.1, trace := mem_append_one ?_ }
  intro _ _ _ _ _ heq hprov
  obtain ⟨-, rfl, -, rfl, -⟩ := ObtAction.sent.inj heq
  obtain ⟨x, hx, rfl⟩ := hep hprov
  exact ⟨x, hx, rfl⟩

theorem switchDos_leaves {device data d : Nat} {dos : OcDostype} {cb : StatusCb}
    (hd : Provisioned s device) (h : switchDos env s run device dos cb data = some (d, s')) : LeavesDevices s s' := by
  obtain ⟨-, ep, hep, rfl⟩ := switchDos_eq h
  refine { LeavesDevices.refl s with
    switchDos := mem_append_one hd, requests := mem_append_one nofun, trace := mem_append_one ?_ }
  intro _ _ _ _ _ heq _
  obtain ⟨-, -, -, rfl, -⟩ := ObtAction.sent.inj heq
  exact ⟨device, hd, by rw [hep]; rfl⟩

theorem dropRequest_leaves (s : Obt) (id : Nat) : LeavesDevices s (dropRequest s id) :=
  { LeavesDevices.refl s with requests := fun _ hq => .inl (List.mem_filter.1 hq).1 }

theorem discoverDevices_leaves (env : ObtEnv) (s : Obt) (handler : ResponseHandler) :
    LeavesDevices s (discoverDevices env s handler) := by
  unfold discoverDevices
  split
  · exact { LeavesDevices.refl s with requests := mem_append_one fun hc => by cases hc.2 }
  · exact .refl s

theorem record_leaves (s : Obt) (n : Nat) {l : List ObtAction} (hl : ∀ a ∈ l, ∀ run handler device endpoint message,
    a ≠ .sent run handler device endpoint message) : LeavesDevices s { s with nextRun := n, trace := s.trace ++ l } := by
  refine { LeavesDevices.refl s with
    trace := fun a ha => (List.mem_append.1 ha).imp id fun hnew run handler device endpoint message heq => ?_ }
  exact absurd heq (hl a hnew run handler device endpoint message)

theorem freeSwitchDosOpt_leaves (s : Obt) (addr : Option Nat) : LeavesDevices s (freeSwitchDosOpt s addr) := by
  cases addr with
  | none => exact .refl s
  | some addr => exact { LeavesDevices.refl s with switchDos := fun _ hd => .inl (List.mem_of_mem_eraseP hd) }

theorem freeCredprovState_leaves (s : Obt) (p : OcCredprovCtx) (status : Int) :
    LeavesDevices s (freeCredprovState s p status) := by
  have herased : LeavesDevices s { s with
      credprovCtxL := s.credprovCtxL.eraseP (·.addr == p.addr)
      trace := s.trace ++ [.status p.run status] } :=
    { LeavesDevices.refl s with
      credprov := fun _ hp => .inl (List.mem_of_mem_eraseP hp)
      trace := mem_append_one fun _ _ _ _ _ heq => by cases heq }
  exact herased.trans (freeSwitchDosOpt_leaves _ p.switchDos)

theorem setCredprov_leaves (hp : ProvisionedBy s p) : LeavesDevices s (setCredprov s p) := by
  refine { LeavesDevices.refl s with credprov := fun x hx => ?_ }
  obtain ⟨y, hy, rfl⟩ := List.mem_map.1 hx
  split
  · exact .inr hp
  · exact .inl hy

theorem eraseHardReset_leaves (s : Obt) (addr : Nat) :
    LeavesDevices s { s with hardResetCtxL := s.hardResetCtxL.eraseP (·.addr == addr) } :=
  { LeavesDevices.refl s with hardReset := fun _ hc => .inl (List.mem_of_mem_eraseP hc) }

theorem eraseOtm_leaves (s : Obt) (addr : Nat) :
    LeavesDevices s { s with otmCtxL := s.otmCtxL.eraseP (·.addr == addr) } :=
  { LeavesDevices.refl s with otm := fun _ ho => List.mem_of_mem_eraseP ho }

theorem addCredprov_leaves (hp : ProvisionedBy s p) :
    LeavesDevices s { s with credprovCtxL := s.credprovCtxL ++ [p] } :=
  { LeavesDevices.refl s with credprov := mem_append_one hp }

end Leaves

/-! ## Provisioning and hard reset -/

section Contexts

variable {env : ObtEnv} {s : Obt}

/-- A step for the second device is only taken in a context that has one. -/
def CredStep.inContext (p : OcCredprovCtx) : CredStep → Prop
  | switchDos second _ _ | request second _ _ => second = true → p.device2.isSome = true
  | done => True

theorem device_provisioned (hp : ProvisionedBy s p) {second : Bool}
    (hs : second = true → p.device2.isSome = true) : Provisioned s (p.device second) := by
  unfold OcCredprovCtx.device
  split
  · rename_i h
    obtain ⟨x, hx⟩ := Option.isSome_iff_exists.1 (hs h)
    rw [hx]
    exact hp.2 x hx
  · exact hp.1

theorem performCredStep_leaves (hp : ProvisionedBy s p) {step : CredStep} (hs : step.inContext p) :
    LeavesDevices s (performCredStep env s p step) := by
  cases step with
  | switchDos second dos cb =>
    simp only [performCredStep]
    split
    · rename_i d s' heq
      refine (switchDos_leaves (device_provisioned hp hs) heq).trans (setCredprov_leaves ?_)
      obtain ⟨-, ep, -, rfl⟩ := switchDos_eq heq
      exact hp
    · exact freeCredprovState_leaves _ _ _
  | request second message cb =>
    simp only [performCredStep]
    split
    · rename_i s' heq
      refine (doRequest_leaves (fun hc => by cases hc) (fun _ => ⟨_, device_provisioned hp hs, rfl⟩) heq).trans
        (setCredprov_leaves ?_)
      rw [doRequest_eq heq]
      exact hp
    · exact freeCredprovState_leaves _ _ _
  | done => exact freeCredprovState_leaves _ _ _

theorem credStep_inContext (p : OcCredprovCtx) (cb : CredCb) (h : ¬(cb.isPairwise && p.device2.isNone) = true) :
    (credStep s p cb).inContext p := by
  cases cb <;> simp_all [credStep, CredStep.inContext, CredCb.isPairwise, Option.isSome_iff_ne_none]

/-- The same context of the same run for the same devices; only the pointer to a `switch_dos` context and
the key may differ. -/
structure SameCtx (p₀ p : OcCredprovCtx) : Prop where
  addr : p.addr = p₀.addr
  device1 : p.device1 = p₀.device1
  device2 : p.device2 = p₀.device2
  run : p.run = p₀.run

/-- Everything a callback of a provisioning sequence can do: nothing, end the sequence with -1, or take
its step. -/
theorem credCallback_cases (env : ObtEnv) (s : Obt) (cb : CredCb) (data : Nat) (accepted : Bool) (payload : List OcRep) :
    credCallback env s cb data accepted payload = s ∨
    ∃ p₀, s.credprovCtxL.find? (·.addr == data) = some p₀ ∧ ∃ p, SameCtx p₀ p ∧
      p.switchDos = (if cb.isStatusCb then none else p₀.switchDos) ∧
      (credCallback env s cb data accepted payload = freeCredprovState s p (-1) ∨
        accepted = true ∧ p.key = (if cb = .device2RFPRO then fillKey env.random p₀.key else p₀.key) ∧
        ∃ s₁, s₁ = { s with trace := s.trace ++ acceptedActions env p₀.run cb } ∧ (credStep s₁ p cb).inContext p ∧
          credCallback env s cb data accepted payload = performCredStep env s₁ p (credStep s₁ p cb)) := by
  unfold credCallback
  split
  · exact .inl rfl
  · rename_i p₀ hf
    simp only
    have hsame : SameCtx p₀ (if cb.isStatusCb then { p₀ with switchDos := none } else p₀) ∧
        (if cb.isStatusCb then { p₀ with switchDos := none } else p₀).switchDos =
          (if cb.isStatusCb then none else p₀.switchDos) ∧
        (if cb.isStatusCb then { p₀ with switchDos := none } else p₀).key = p₀.key := by
      split
      · exact ⟨⟨rfl, rfl, rfl, rfl⟩, rfl, rfl⟩
      · exact ⟨⟨rfl, rfl, rfl, rfl⟩, rfl, rfl⟩
    generalize (if cb.isStatusCb then { p₀ with switchDos := none } else p₀) = p at hsame ⊢
    obtain ⟨hsame, hsw, hkey⟩ := hsame
    split
    · exact .inl rfl
    · rename_i hctx
      refine .inr ⟨p₀, hf, ?_⟩
      by_cases haccepted : (accepted && cb.passes env payload) = true
      · by_cases hcb : cb = .device2RFPRO
        · refine ⟨{ p with key := fillKey env.random p.key }, ⟨hsame.addr, hsame.device1, hsame.device2, hsame.run⟩, hsw,
            .inr ⟨(Bool.and_eq_true_iff.1 haccepted).1, by rw [if_pos hcb, ← hkey], _, rfl, credStep_inContext _ cb hctx, ?_⟩⟩
          simp only [if_pos haccepted, if_pos hcb, hsame.run]
        · refine ⟨p, hsame, hsw,
            .inr ⟨(Bool.and_eq_true_iff.1 haccepted).1, by rw [if_neg hcb, hkey], _, rfl, credStep_inContext p cb hctx, ?_⟩⟩
          simp only [if_pos haccepted, if_neg hcb, hsame.run]
      · exact ⟨p, hsame, hsw, .inl (if_neg haccepted)⟩

theorem acceptedActions_not_sent {run : Nat} {cb : CredCb} : ∀ a ∈ acceptedActions env run cb,
    ∀ run' handler device endpoint message, a ≠ .sent run' handler device endpoint message := by
  intro a ha _ _ _ _ _ heq
  subst heq
  unfold acceptedActions at ha
  split at ha <;> simp at ha

variable (env s) in
theorem credCallback_leaves (cb : CredCb) (data : Nat) (accepted : Bool) (payload : List OcRep) :
    LeavesDevices s (credCallback env s cb data accepted payload) := by
  rcases credCallback_cases env s cb data accepted payload with heq | ⟨p₀, hf, p, hsame, -, hres⟩
  · rw [heq]
    exact .refl s
  · rcases hres with heq | ⟨-, -, s₁, rfl, hctx, heq⟩
    · rw [heq]
      exact freeCredprovState_leaves s p (-1)
    · rw [heq]
      refine (record_leaves s s.nextRun acceptedActions_not_sent).trans (performCredStep_leaves ?_ hctx)
      have hmem := List.mem_of_find?_eq_some hf
      unfold ProvisionedBy
      rw [hsame.device1, hsame.device2]
      exact ⟨.inr ⟨p₀, hmem, .inl rfl⟩, fun x hx => .inr ⟨p₀, hmem, .inr hx⟩⟩

variable (env s) in
theorem ocObtDeviceHardReset_leaves (uuid : OcUuid) : LeavesDevices s (ocObtDeviceHardReset env s uuid) := by
  unfold ocObtDeviceHardReset
  split
  · rename_i addr device ha hdev
    have howned : Provisioned s device := .inl (getDeviceHandle_mem hdev).1
    split
    · split
      · rename_i d s' heq
        refine (switchDos_leaves howned heq).trans { LeavesDevices.refl s' with hardReset := mem_append_one ?_ }
        obtain ⟨-, ep, -, rfl⟩ := switchDos_eq heq
        exact howned
      · exact .refl s
    · exact .refl s
  · exact .refl s

variable (env s) in
theorem ocObtProvisionPairwiseCredentials_leaves (uuid1 uuid2 : OcUuid) :
    LeavesDevices s (ocObtProvisionPairwiseCredentials env s uuid1 uuid2) := by
  unfold ocObtProvisionPairwiseCredentials
  split
  · rename_i addr device1 device2 ha h1 h2
    have howned1 : Provisioned s device1 := .inl (getDeviceHandle_mem h1).1
    have howned2 : Provisioned s device2 := .inl (getDeviceHandle_mem h2).1
    split
    · simp only
      split
      · rename_i d s' heq
        have hbegun : LeavesDevices s { s with
            nextRun := s.nextRun + 1, trace := s.trace ++ [.started s.nextRun uuid1 uuid2] } :=
          record_leaves s (s.nextRun + 1) (by simp)
        refine (hbegun.trans (switchDos_leaves howned1 heq)).trans (addCredprov_leaves ?_)
        obtain ⟨-, ep, -, rfl⟩ := switchDos_eq heq
        refine ⟨howned1, fun x hx => ?_⟩
        rw [Option.mem_def] at hx
        exact Option.some.inj hx ▸ howned2
      · exact .refl s
    · exact .refl s
  · exact .refl s

variable (env s) in
theorem ocObtProvisionCertificate_leaves (roles : Bool) (uuid : OcUuid) :
    LeavesDevices s (ocObtProvisionCertificate env s roles uuid) := by
  unfold ocObtProvisionCertificate
  split
  · rename_i addr device ha hdev
    have howned : Provisioned s device := .inl (getDeviceHandle_mem hdev).1
    split
    · simp only
      split
      · rename_i s' heq
        have hbegun : LeavesDevices s { s with nextRun := s.nextRun + 1 } := { LeavesDevices.refl s with }
        refine (hbegun.trans (doRequest_leaves (fun hc => by cases hc) (fun _ => ⟨device, howned, rfl⟩) heq)).trans
          (addCredprov_leaves ?_)
        rw [doRequest_eq heq]
        exact ⟨howned, fun x hx => by cases hx⟩
      · exact .refl s
    · exact .refl s
  · exact .refl s

end Contexts

/-! ## Steps that free a device -/

/-- The response ends the transfer with a failure. -/
def otmFails (env : ObtEnv) (otm : OcObtOtm) (i : Nat) (r : OcClientResponse) : Bool :=
  match (otmRequests otm)[i + 1]? with
  | none => r.code.isError
  | some request => !(request.check.passes env r && env.sends)

/-- The response ends the transfer, and the device becomes an owned one. -/
def otmCompletes (otm : OcObtOtm) (i : Nat) (r : OcClientResponse) : Bool :=
  (otmRequests otm)[i + 1]?.isNone && !r.code.isError && otm != .rdp

/-- The response is the one behind which the device gets a new UUID. -/
def otmRenames (env : ObtEnv) (otm : OcObtOtm) (i : Nat) (r : OcClientResponse) : Bool :=
  (otmRequests otm)[i + 1]?.any fun request => decide (request.check = .rename) && request.check.passes env r

/-- A response that ends a transfer with a failure, or a hard reset, comes when nothing but what it ends
holds the device; a transfer is only completed for a device that is not an owned one yet; discovery
does not run out of memory for a device that is held. The state is the one without the request that is
answered. -/
def responseGuard (P : ObtPlatform) (env : ObtEnv) (s : Obt) (q : OcClientCb) (r : OcClientResponse) : Prop :=
  match q.handler with
  | .otm otm i => ∀ o ∈ s.otmCtxL.find? (·.addr == q.userData),
      (otmFails env otm i r = true → ¬Holds { s with otmCtxL := s.otmCtxL.eraseP (·.addr == o.addr) } o.device) ∧
      (otmCompletes otm i r = true → o.device ∉ s.devices)
  | .pstatPOSTDos1ToDos2 => ∀ d ∈ s.switchDosCtxL.find? (·.addr == q.userData), d.cb = .hardResetCb →
      ∀ h ∈ s.hardResetCtxL.find? (·.addr == d.data),
        ¬Holds { s with
          switchDosCtxL := s.switchDosCtxL.eraseP (·.addr == d.addr)
          hardResetCtxL := s.hardResetCtxL.eraseP (·.addr == h.addr) } h.device
  | .obtCheckOwned | .getEndpoints => cacheGuard P env s q r
  | .cred _ => True

/-- No step frees a device that something else holds. -/
def freeGuard (P : ObtPlatform) (s : Obt) (e : ObtEvent × ObtEnv) : Prop :=
  match e.1 with
  | .performOtm otm uuid => ∀ x ∈ otmStart e.2 s otm uuid, e.2.sends = false → ¬Holds s x.1.device
  | .response id r => ∀ q ∈ s.clientCbs.find? (·.id == id), responseGuard P e.2 (answered s q r) q r
  | _ => True

instance (P : ObtPlatform) (env : ObtEnv) (s : Obt) (q : OcClientCb) (r : OcClientResponse) :
    Decidable (cacheGuard P env s q r) := inferInstanceAs (Decidable (∀ c ∈ cacheCall P env q r,
      env.endpointAllocs 0 = false → ∀ x ∈ getDeviceHandle s c.2 (s.list c.1), ¬Holds s x))

instance (P : ObtPlatform) (env : ObtEnv) (s : Obt) (r : OcClientResponse) :
    (q : OcClientCb) → Decidable (responseGuard P env s q r)
  | ⟨_, .otm otm i, userData, _⟩ => inferInstanceAs (Decidable (∀ o ∈ s.otmCtxL.find? (·.addr == userData),
      (otmFails env otm i r = true → ¬Holds { s with otmCtxL := s.otmCtxL.eraseP (·.addr == o.addr) } o.device) ∧
      (otmCompletes otm i r = true → o.device ∉ s.devices)))
  | ⟨_, .pstatPOSTDos1ToDos2, userData, _⟩ => inferInstanceAs (Decidable
      (∀ d ∈ s.switchDosCtxL.find? (·.addr == userData), d.cb = .hardResetCb →
        ∀ h ∈ s.hardResetCtxL.find? (·.addr == d.data),
          ¬Holds { s with
            switchDosCtxL := s.switchDosCtxL.eraseP (·.addr == d.addr)
            hardResetCtxL := s.hardResetCtxL.eraseP (·.addr == h.addr) } h.device))
  | ⟨id, .obtCheckOwned, userData, multicast⟩ =>
    inferInstanceAs (Decidable (cacheGuard P env s ⟨id, .obtCheckOwned, userData, multicast⟩ r))
  | ⟨id, .getEndpoints, userData, multicast⟩ =>
    inferInstanceAs (Decidable (cacheGuard P env s ⟨id, .getEndpoints, userData, multicast⟩ r))
  | ⟨_, .cred _, _, _⟩ => .isTrue trivial

instance (P : ObtPlatform) (s : Obt) : (e : ObtEvent × ObtEnv) → Decidable (freeGuard P s e)
  | (.performOtm otm uuid, env) => inferInstanceAs (Decidable
      (∀ x ∈ otmStart env s otm uuid, env.sends = false → ¬Holds s x.1.device))
  | (.response id r, env) => inferInstanceAs (Decidable
      (∀ q ∈ s.clientCbs.find? (·.id == id), responseGuard P env (answered s q r) q r))
  | (.discoverUnownedDevices, _) | (.discoverOwnedDevices, _) | (.deviceHardReset _, _)
  | (.provisionPairwiseCredentials _ _, _) | (.provisionCertificate _ _, _) | (.timeout _, _) => .isTrue trivial

section Freeing

variable {P : ObtPlatform} {env : ObtEnv} {s : Obt}

theorem DevicesLive.freeOtmState_ok (h : DevicesLive s) {o : OcOtmCtx}
    (hn : otm ≠ .rdp → o.device ∉ s.devices) : DevicesLive (freeOtmState s o 0 otm) := by
  unfold freeOtmState
  simp only [show ¬((0 : Int) = -1) by decide, reduceIte]
  split
  · rename_i hotm
    refine (h.leaves (eraseOtm_leaves s o.addr)).mono (.of (fun _ h => .inl h) (fun _ h => .inl h) (fun _ h => .inl h) (fun _ h => .inl h)
      (fun _ h => .inl h) fun x hx => ?_)
    have hadd : ocListAdd s.devices o.device = s.devices ++ [o.device] := if_neg (hn hotm)
    simp only [Listed, hadd]
    by_cases hxo : x = o.device
    · exact .inl (by simp [hxo])
    · exact hx.imp (List.mem_append_left _) fun hc => (List.mem_erase_of_ne hxo).2 hc
  · exact h.leaves (eraseOtm_leaves s o.addr)

theorem sendOtmRequest_none {o : OcOtmCtx} {i : Nat} {request : OtmRequest} :
    sendOtmRequest env s o otm i request = none ↔ env.sends = false := by
  unfold sendOtmRequest doRequest
  cases env.sends <;> simp

theorem sendOtmRequest_leaves {s' : Obt} {o : OcOtmCtx} {i : Nat} {request : OtmRequest}
    (h : sendOtmRequest env s o otm i request = some s') : LeavesDevices s s' :=
  doRequest_leaves (fun hc => by cases hc) (fun hc => by cases hc) h

theorem otmHandler_cases (env : ObtEnv) (otm : OcObtOtm) (i : Nat) (r : OcClientResponse)
    {o : OcOtmCtx}
    (ho : s.otmCtxL.find? (·.addr == userData) = some o) :
    ∃ s₁, (s₁ = s ∨ otmRenames env otm i r = true ∧ s₁ = renameDevice s o.device env.genUuid) ∧
      ((otmFails env otm i r = true ∧ otmHandler env s otm i userData r = freeOtmState s₁ o (-1) otm) ∨
      (otmFails env otm i r = false ∧ r.code.isError = false ∧ (otmRequests otm)[i + 1]? = none ∧ s₁ = s ∧
        otmHandler env s otm i userData r = freeOtmState s o 0 otm) ∨
      (∃ request s₂, otmFails env otm i r = false ∧ sendOtmRequest env s₁ o otm (i + 1) request = some s₂ ∧
        otmHandler env s otm i userData r = s₂)) := by
  unfold otmHandler otmFails otmRenames
  rw [ho]
  cases hreq : (otmRequests otm)[i + 1]? with
  | none =>
    refine ⟨s, .inl rfl, ?_⟩
    cases hcode : r.code.isError
    · exact .inr (.inl ⟨rfl, rfl, rfl, rfl, by simp⟩)
    · exact .inl ⟨rfl, by simp⟩
  | some request =>
    simp only
    by_cases hpass : request.check.passes env r = true
    · rw [if_pos hpass, hpass]
      refine ⟨if request.check = .rename then renameDevice s o.device env.genUuid else s, ?_, ?_⟩
      · split
        · rename_i hrename
          exact .inr ⟨by simp [hrename, ← hpass], rfl⟩
        · exact .inl rfl
      · generalize (if request.check = .rename then renameDevice s o.device env.genUuid else s) = s₁
        cases hsend : sendOtmRequest env s₁ o otm (i + 1) request with
        | none =>
          have hno := sendOtmRequest_none.1 hsend
          exact .inl ⟨by simp [hno], rfl⟩
        | some s₂ =>
          have hyes : env.sends = true := by
            by_contra hne
            rw [sendOtmRequest_none.2 (Bool.eq_false_iff.2 hne)] at hsend
            cases hsend
          exact .inr (.inr ⟨request, s₂, by simp [hyes], hsend, rfl⟩)
    · rw [if_neg hpass]
      exact ⟨s, .inl rfl, .inl ⟨by simp [hpass], rfl⟩⟩

theorem otmStart_some {uuid : OcUuid} {o : OcOtmCtx} {request : OtmRequest}
    (h : otmStart env s otm uuid = some (o, request)) : o.device ∈ s.cache ∧ o.addr ∉ s.otmCtxL.map (·.addr) := by
  unfold otmStart at h
  split at h
  · rename_i device addr req hdev ha _
    split at h
    · cases h
    · obtain ⟨rfl, -⟩ := Prod.mk.inj (Option.some.inj h)
      exact ⟨(getDeviceHandle_mem hdev).1, ocMembAlloc_notMem ha⟩
  · cases h

theorem eraseP_append_otm {o : OcOtmCtx} {l : List OcOtmCtx} (h : o.addr ∉ l.map (·.addr)) :
    (l ++ [o]).eraseP (·.addr == o.addr) = l := by
  rw [List.eraseP_append_right _ fun x hx => by simpa using fun heq => h (List.mem_map.2 ⟨x, hx, heq⟩)]
  simp

/-- What is kept by the steps that leave the devices alone, by the freeing of a device that nothing holds, by
a new UUID and by the start of a transfer. Discovery and a completed transfer are different for each invariant. -/
structure DeviceRules (I : Obt → Prop) : Prop where
  leaves : ∀ {s s' : Obt}, I s → LeavesDevices s s' → I s'
  freeDevice : ∀ {s : Obt} {x : Nat}, I s → ¬Holds s x → I (freeDevice s x)
  renameDevice : ∀ {s : Obt} (x : Nat) (uuid : OcUuid), I s → I (renameDevice s x uuid)
  startOtm : ∀ {s : Obt} {o : OcOtmCtx}, I s → o.device ∈ s.cache → I { s with otmCtxL := s.otmCtxL ++ [o] }

theorem DeviceRules.freeOtmState_fail {I : Obt → Prop} (hI : DeviceRules I) (h : I s) {o : OcOtmCtx} (otm : OcObtOtm)
    (hn : ¬Holds { s with otmCtxL := s.otmCtxL.eraseP (·.addr == o.addr) } o.device) :
    I (freeOtmState s o (-1) otm) := hI.freeDevice (hI.leaves h (eraseOtm_leaves s o.addr)) hn

/-- The step of a transfer, up to the one that completes it. -/
theorem DeviceRules.otmHandler {I : Obt → Prop} (hI : DeviceRules I) (h : I s) {i : Nat} (hq : q.handler = .otm otm i)
    (hg : responseGuard P env s q r)
    (hdone : ∀ o ∈ s.otmCtxL.find? (·.addr == q.userData), (otm ≠ .rdp → otmCompletes otm i r = true) →
      I (freeOtmState s o 0 otm)) : I (otmHandler env s otm i q.userData r) := by
  unfold responseGuard at hg
  rw [hq] at hg
  cases ho : s.otmCtxL.find? (·.addr == q.userData) with
  | none =>
    unfold SmartGarage.otmHandler
    rw [ho]
    exact h
  | some o =>
    obtain ⟨hfail, -⟩ := hg o ho
    obtain ⟨s₁, hs₁, ⟨hf, heq⟩ | ⟨-, hcode, hlast, -, heq⟩ | ⟨request, s₂, -, hsend, heq⟩⟩ :=
      otmHandler_cases env otm i r ho
    · rw [heq]
      rcases hs₁ with rfl | ⟨-, rfl⟩
      · exact hI.freeOtmState_fail h otm (hfail hf)
      · refine hI.freeOtmState_fail (hI.renameDevice o.device _ h) otm fun hx => hfail hf ?_
        exact hx.mono (fun _ => id) (fun _ => id) (fun _ => id) (fun _ => id) fun _ => id
    · rw [heq]
      exact hdone o ho fun hotm => by simp [otmCompletes, hlast, hcode, hotm]
    · rw [heq]
      rcases hs₁ with rfl | ⟨-, rfl⟩
      · exact hI.leaves h (sendOtmRequest_leaves hsend)
      · exact hI.leaves (hI.renameDevice o.device _ h) (sendOtmRequest_leaves hsend)

theorem DeviceRules.performOtm {I : Obt → Prop} (hI : DeviceRules I) (h : I s) {uuid : OcUuid}
    (hg : ∀ x ∈ otmStart env s otm uuid, env.sends = false → ¬Holds s x.1.device) :
    I (performOtm env s otm uuid) := by
  unfold SmartGarage.performOtm
  cases hst : otmStart env s otm uuid with
  | none => exact h
  | some x =>
    obtain ⟨o, request⟩ := x
    obtain ⟨hcache, hfresh⟩ := otmStart_some hst
    have hnew : I { s with otmCtxL := s.otmCtxL ++ [o] } := hI.startOtm h hcache
    simp only
    cases hsend : sendOtmRequest env { s with otmCtxL := s.otmCtxL ++ [o] } o otm 0 request with
    | some s₁ => exact hI.leaves hnew (sendOtmRequest_leaves hsend)
    | none =>
      have hno : ¬Holds s o.device := hg (o, request) hst (sendOtmRequest_none.1 hsend)
      refine hI.freeOtmState_fail hnew otm fun hx => hno ?_
      refine hx.mono (fun x hx => ?_) (fun _ => id) (fun _ => id) (fun _ => id) fun _ => id
      exact eraseP_append_otm hfresh ▸ hx

theorem DeviceRules.pstatPOST {I : Obt → Prop} (hI : DeviceRules I) (h : I s)
    (hq : q.handler = .pstatPOSTDos1ToDos2) (hg : responseGuard P env s q r) :
    I (pstatPOSTDos1ToDos2 env s q.userData r) := by
  unfold responseGuard at hg
  rw [hq] at hg
  unfold SmartGarage.pstatPOSTDos1ToDos2
  cases hd : s.switchDosCtxL.find? (·.addr == q.userData) with
  | none => exact h
  | some d =>
    have hfree : I (freeSwitchDosState s d.addr) := hI.leaves h (freeSwitchDosOpt_leaves s (some d.addr))
    simp only
    split
    · rename_i hcb
      unfold hardResetCb
      cases hh : (freeSwitchDosState s d.addr).hardResetCtxL.find? (·.addr == d.data) with
      | none => exact hfree
      | some c =>
        have herased : I { freeSwitchDosState s d.addr with
            hardResetCtxL := s.hardResetCtxL.eraseP (·.addr == c.addr) } :=
          hI.leaves hfree (eraseHardReset_leaves _ c.addr)
        exact hI.freeDevice herased (hg d hd hcb c hh)
    · exact hI.leaves hfree (credCallback_leaves env _ _ _ _ _)

/-- One step: what is left to show is what the discovery handlers and a completed transfer do. -/
theorem DeviceRules.step {I : Obt → Prop} (hI : DeviceRules I) (h : I s) (e : ObtEvent × ObtEnv) (hg : freeGuard P s e)
    (hresponse : ∀ id r, e.1 = .response id r → ∀ q ∈ s.clientCbs.find? (·.id == id), I (answered s q r) →
      responseGuard P e.2 (answered s q r) q r →
      (q.handler = .obtCheckOwned → I (obtCheckOwned P e.2 (answered s q r) r)) ∧
      (q.handler = .getEndpoints → I (getEndpoints P e.2 (answered s q r) q r)) ∧
      ∀ otm i, q.handler = .otm otm i → ∀ o ∈ (answered s q r).otmCtxL.find? (·.addr == q.userData),
        (otm ≠ .rdp → otmCompletes otm i r = true) → I (freeOtmState (answered s q r) o 0 otm)) :
    I (obtStep P s e) := by
  obtain ⟨e, env⟩ := e
  cases e with
  | discoverUnownedDevices => exact hI.leaves h (discoverDevices_leaves env s _)
  | discoverOwnedDevices => exact hI.leaves h (discoverDevices_leaves env s _)
  | performOtm otm uuid => exact hI.performOtm h hg
  | deviceHardReset uuid => exact hI.leaves h (ocObtDeviceHardReset_leaves env s uuid)
  | provisionPairwiseCredentials uuid1 uuid2 => exact hI.leaves h (ocObtProvisionPairwiseCredentials_leaves env s uuid1 uuid2)
  | provisionCertificate roles uuid => exact hI.leaves h (ocObtProvisionCertificate_leaves env s roles uuid)
  | timeout id => exact hI.leaves h (dropRequest_leaves s id)
  | response id r =>
    simp only [obtStep]
    cases hq : s.clientCbs.find? (·.id == id) with
    | none => exact h
    | some q =>
      have hs : I (answered s q r) := answered_of_dropRequest h (hI.leaves h (dropRequest_leaves s q.id))
      obtain ⟨hcheck, hends, hdone⟩ := hresponse id r rfl q hq hs (hg q hq)
      simp only
      unfold handleResponse
      split
      · rename_i hh
        exact hcheck hh
      · rename_i hh
        exact hends hh
      · rename_i hh
        exact hI.pstatPOST hs hh (hg q hq)
      · exact hI.leaves hs (credCallback_leaves env _ _ _ _ _)
      · rename_i otm i hh
        exact hI.otmHandler hs hh (hg q hq) (hdone otm i hh)

theorem devicesLive_rules : DeviceRules DevicesLive where
  leaves := DevicesLive.leaves
  freeDevice h hx := h.freeDevice hx
  renameDevice x _ h := h.mono (.setBlock _ x _)
  startOtm {s _} h hcache := h.mono (.of (mem_append_one (P := fun x : OcOtmCtx => Listed s x.device) (.inr hcache))
    (fun _ h => .inl h) (fun _ h => .inl h) (fun _ h => .inl h) (fun _ h => .inl h) fun _ hx => hx)

theorem DevicesLive.step (h : DevicesLive s) (e : ObtEvent × ObtEnv) (hg : freeGuard P s e) :
    DevicesLive (obtStep P s e) := by
  refine devicesLive_rules.step h e hg fun id r heq q hq hs hguard => ⟨fun hh => ?_, fun hh => ?_, fun otm i hh o ho hc => ?_⟩
  · unfold responseGuard at hguard
    rw [hh] at hguard
    exact hs.obtCheckOwned hh hguard
  · unfold responseGuard at hguard
    rw [hh] at hguard
    exact hs.getEndpoints hh hguard
  · unfold responseGuard at hguard
    rw [hh] at hguard
    exact hs.freeOtmState_ok fun hotm => (hguard o ho).2 (hc hotm)

end Freeing

theorem DevicesLive.init : DevicesLive Obt.init := by
  intro x hx
  rw [holds_iff] at hx
  cases hx

/-- In every run in which no device is freed while something else holds it, every pointer is to a
listed device. -/
theorem obt_devicesLive (P : ObtPlatform) (events : List (ObtEvent × ObtEnv))
    (hg : Runs.Guarded (obtStep P) (freeGuard P) Obt.init events) :
    DevicesLive (Runs.runFrom (obtStep P) Obt.init events) :=
  Runs.run_invariant (fun _ e h hstep => h.step e hstep) events Obt.init .init hg

/-! ## Two transfers of one device -/

/-- A step in which everything succeeds and the blocks are those given. -/
def goodEnv (ctx dos device : Nat) : ObtEnv :=
  ⟨true, some ctx, some dos, some device, fun _ => true, fun _ => true, true, fun _ => 0, OcUuid.nil, OcUuid.nil⟩

/-- An IPv6 endpoint. -/
def sampleEndpoint (secured : Bool) : OcEndpoint :=
  { OcEndpoint.zero with flags := { TransportFlags.zero with secured := secured, ipv6 := true } }

/-- A tool with another UUID than the sample devices; an endpoint string is secured if it begins with
`coaps`. -/
def samplePlatform : ObtPlatform :=
  ⟨OcUuid.wildcard, fun s => some (sampleEndpoint ((ascii "coaps").isPrefixOf s))⟩

/-- The response of an unowned device to the discovery, from an unsecured endpoint. -/
def unownedResponse : OcClientResponse :=
  ⟨.ok, [.string (some (ascii "deviceuuid")) (ascii "11111111-1111-1111-1111-111111111111"),
    .bool (some (ascii "owned")) false], sampleEndpoint false, false⟩

/-- The response of an owned device to the discovery, with one endpoint. -/
def ownedResponse (uuid ep : String) : OcClientResponse :=
  ⟨.ok, [.object none [.string (some (ascii "anchor")) (ascii ("ocf://" ++ uuid)),
    .objectArray (some (ascii "eps")) [[.string (some (ascii "ep")) (ascii ep)]]]], sampleEndpoint false, false⟩

/-- The UUID of these devices. -/
def sampleUuid : OcUuid := ocStrToUuid (ascii "11111111-1111-1111-1111-111111111111") OcUuid.nil

/-- A response without a payload. -/
def bareResponse (code : OcStatus) : OcClientResponse := ⟨code, [], sampleEndpoint true, false⟩

/-- A transfer fails and its device is freed, after the request for its endpoints has timed out. -/
theorem obt_devicesLive_failed_otm :
    DevicesLive (Runs.runFrom (obtStep samplePlatform) Obt.init
      [(.discoverUnownedDevices, goodEnv 1 1 1), (.response 0 unownedResponse, goodEnv 1 1 1), (.timeout 1, goodEnv 1 1 1),
        (.performOtm .otmJw sampleUuid, goodEnv 1 1 1), (.response 2 (bareResponse .badRequest), goodEnv 1 1 1)]) :=
  obt_devicesLive samplePlatform _ (by decide +kernel)

/-- Two transfers of one device, the first of which fails: the second one is left with the address of a
freed device. -/
theorem obt_freed_device_held :
    ¬DevicesLive (Runs.runFrom (obtStep samplePlatform) Obt.init
      [(.discoverUnownedDevices, goodEnv 1 1 1), (.response 0 unownedResponse, goodEnv 1 1 1), (.timeout 1, goodEnv 1 1 1),
        (.performOtm .otmJw sampleUuid, goodEnv 1 1 1), (.performOtm .otmJw sampleUuid, goodEnv 2 1 1),
        (.response 2 (bareResponse .badRequest), goodEnv 1 1 1)]) := by
  intro h
  have hlisted := h 1 (holds_iff.2 (by decide +kernel))
  revert hlisted
  decide +kernel

end SmartGarage
