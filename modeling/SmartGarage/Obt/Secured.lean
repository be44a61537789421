/-
The endpoints that provisioning requests go to. `oc_obt_get_secure_endpoint` falls back to the last
endpoint of the list, and a request without an endpoint is sent all the same: what keeps the
requests off unsecured endpoints is that every owned device has a SECURED one, and the theorem
says which responses have to bring it.
-/
import SmartGarage.Obt.Live

namespace SmartGarage

/-! ## Secured endpoints -/

/-- The list has a SECURED endpoint. -/
def hasSecured (l : List OcEndpoint) : Bool := l.any (·.flags.secured)

/-- Every provisioning request went to a SECURED endpoint. -/
def ProvisioningSecured (s : Obt) : Prop :=
  ∀ run handler device endpoint message, ObtAction.sent run handler device endpoint message ∈ s.trace →
    handler.isProvisioning = true → endpoint.flags.secured = true

theorem getSecureEndpoint_secured : ∀ {l : List OcEndpoint}, hasSecured l = true →
    ∃ ep, ocObtGetSecureEndpoint l = some ep ∧ ep.flags.secured = true
  | [ep], h => ⟨ep, rfl, by simpa [hasSecured] using h⟩
  | ep :: ep' :: l, h => by
    unfold ocObtGetSecureEndpoint
    split
    · rename_i hs
      exact ⟨ep, rfl, hs⟩
    · rename_i hs
      refine getSecureEndpoint_secured ?_
      unfold hasSecured at h ⊢
      rw [List.any_cons, Bool.or_eq_true] at h
      exact h.resolve_left hs

/-- Owned devices have a SECURED endpoint, provisioning is about owned devices, and all provisioning
requests were secured. -/
structure SecuredInv (s : Obt) : Prop where
  owned : ∀ x ∈ s.devices, hasSecured (s.blocks x).endpoint = true
  credprov : ∀ p ∈ s.credprovCtxL, p.device1 ∈ s.devices ∧ ∀ x ∈ p.device2, x ∈ s.devices
  disjoint : ∀ x ∈ s.devices, x ∉ s.cache
  nodup : s.cache.Nodup
  trace : ProvisioningSecured s

theorem SecuredInv.provisioned {s : Obt} (h : SecuredInv s) {x : Nat} (hx : Provisioned s x) : x ∈ s.devices := by
  rcases hx with hx | ⟨p, hp, heq⟩
  · exact hx
  · exact heq.elim (fun heq => heq ▸ (h.credprov p hp).1) ((h.credprov p hp).2 x)

theorem SecuredInv.leaves {s s' : Obt} (h : SecuredInv s) (hl : LeavesDevices s s') : SecuredInv s' := by
  refine ⟨?_, ?_, ?_, hl.cache ▸ h.nodup, ?_⟩
  · rw [hl.devices, hl.blocks]
    exact h.owned
  · intro p hmem
    rw [hl.devices]
    exact (hl.credprov p hmem).elim (h.credprov p) fun hx =>
      ⟨h.provisioned hx.1, fun x hm => h.provisioned (hx.2 x hm)⟩
  · rw [hl.devices, hl.cache]
    exact h.disjoint
  · intro run handler device endpoint message hmem hprov
    rcases hl.trace _ hmem with hmem | hsent
    · exact h.trace run handler device endpoint message hmem hprov
    · obtain ⟨x, hx, hep⟩ := hsent run handler device endpoint message rfl hprov
      obtain ⟨ep, hfound, hsec⟩ := getSecureEndpoint_secured (h.owned x (h.provisioned hx))
      rw [hfound] at hep
      exact hep ▸ hsec

/-! ## Steps that change devices -/

/-- The response sets the endpoints of a device that is an owned one or becomes one by it. -/
def concernsOwned (P : ObtPlatform) (env : ObtEnv) (s : Obt) (q : OcClientCb) (r : OcClientResponse) : Bool :=
  if q.multicast then (cacheCall P env q r).any fun c => (cacheNewDevice env s c.1 c.2 r.endpoint).1.isSome
  else !r.code.isError && linkAnchor env.garbage (firstLink r.payload) != P.myUuid && s.devices.contains q.userData

/-- What discovery and ownership transfer have to bring: a response for an owned device has a SECURED
endpoint, and so has a device when its transfer is completed. -/
def securedResponse (P : ObtPlatform) (env : ObtEnv) (s : Obt) (q : OcClientCb) (r : OcClientResponse) : Prop :=
  match q.handler with
  | .getEndpoints => concernsOwned P env s q r = true →
      hasSecured (newEndpoints P env r (linkAnchor env.garbage (firstLink r.payload))) = true
  | .otm otm i => ∀ o ∈ s.otmCtxL.find? (·.addr == q.userData), otmCompletes otm i r = true →
      hasSecured (s.blocks o.device).endpoint = true
  | _ => True

/-- No device is freed while something else holds it, and responses bring SECURED endpoints. -/
def securedGuard (P : ObtPlatform) (s : Obt) (e : ObtEvent × ObtEnv) : Prop :=
  freeGuard P s e ∧
  match e.1 with
  | .response id r => ∀ q ∈ s.clientCbs.find? (·.id == id), securedResponse P e.2 (answered s q r) q r
  | _ => True

section Devices

variable {P : ObtPlatform} {env : ObtEnv} {s : Obt}

/-- New endpoints for a device that is not an owned one, or SECURED ones. -/
theorem SecuredInv.setBlock (h : SecuredInv s) {x : Nat} {b : OcDevice}
    (hb : x ∈ s.devices → hasSecured b.endpoint = true) : SecuredInv (s.setBlock x b) := by
  refine ⟨fun y hy => ?_, h.credprov, h.disjoint, h.nodup, h.trace⟩
  by_cases hyx : y = x
  · subst hyx
    simp only [Obt.setBlock, Function.update_self]
    exact hb hy
  · simp only [Obt.setBlock, Function.update_of_ne hyx]
    exact h.owned y hy

theorem SecuredInv.removeDevice (h : SecuredInv s) {x : Nat} (hx : ¬Holds s x) (list : DeviceList) :
    SecuredInv (s.removeDevice x list) := by
  cases list with
  | ocCache =>
    exact ⟨h.owned, h.credprov, fun y hy hc => h.disjoint y hy (List.mem_of_mem_erase hc),
      h.nodup.sublist List.erase_sublist, h.trace⟩
  | ocDevices =>
    have hkeep : ∀ {y}, Holds s y → y ∈ s.devices → y ∈ s.devices.erase x := by
      intro y hy hmem
      have hne : y ≠ x := fun heq => hx (heq ▸ hy)
      exact (List.mem_erase_of_ne hne).2 hmem
    refine ⟨fun y hy => h.owned y (List.mem_of_mem_erase hy), fun p hp => ⟨?_, fun y hy => ?_⟩,
      fun y hy => h.disjoint y (List.mem_of_mem_erase hy), h.nodup, h.trace⟩
    · exact hkeep (.credprov p hp (.inl rfl)) (h.credprov p hp).1
    · exact hkeep (.credprov p hp (.inr hy)) ((h.credprov p hp).2 y hy)

theorem SecuredInv.freeDevice (h : SecuredInv s) {x : Nat} (hx : ¬Holds s x) : SecuredInv (freeDevice s x) := by
  rw [freeDevice_eq]
  exact (h.removeDevice hx .ocCache).removeDevice (mt removeDevice_holds hx) .ocDevices

theorem SecuredInv.freeOtmState_ok (h : SecuredInv s) {o : OcOtmCtx} {otm : OcObtOtm}
    (hn : otm ≠ .rdp → o.device ∉ s.devices ∧ hasSecured (s.blocks o.device).endpoint = true) :
    SecuredInv (freeOtmState s o 0 otm) := by
  unfold freeOtmState
  simp only [show ¬((0 : Int) = -1) by decide, reduceIte]
  split
  · rename_i hotm
    obtain ⟨hnot, hsec⟩ := hn hotm
    have hadd : ocListAdd s.devices o.device = s.devices ++ [o.device] := if_neg hnot
    refine ⟨fun x hx => ?_, fun p hp => ?_, fun x hx hc => ?_, h.nodup.sublist List.erase_sublist, h.trace⟩
    · simp only [hadd] at hx
      rcases List.mem_append.1 hx with hx | hx
      · exact h.owned x hx
      · rw [List.mem_singleton] at hx
        exact hx ▸ hsec
    · simp only [hadd]
      obtain ⟨h1, h2⟩ := h.credprov p hp
      exact ⟨List.mem_append_left _ h1, fun x hx => List.mem_append_left _ (h2 x hx)⟩
    · simp only [hadd] at hx
      rcases List.mem_append.1 hx with hx | hx
      · exact h.disjoint x hx (List.mem_of_mem_erase hc)
      · rw [List.mem_singleton] at hx
        subst hx
        exact (h.nodup.mem_erase_iff.1 hc).1 rfl
  · exact h.leaves (eraseOtm_leaves s o.addr)

theorem hasSecured_rename (l : List OcEndpoint) (uuid : OcUuid) :
    hasSecured (l.map fun ep => { ep with di := uuid }) = hasSecured l := by
  unfold hasSecured
  rw [List.any_map]
  rfl

theorem SecuredInv.renameDevice (h : SecuredInv s) (x : Nat) (uuid : OcUuid) : SecuredInv (renameDevice s x uuid) :=
  h.setBlock fun hx => (hasSecured_rename _ _).trans (h.owned x hx)

variable {s' : Obt} {uuid : OcUuid} {ep : OcEndpoint}

/-- A device in the cache is found or added, or one that nothing holds is freed. -/
theorem SecuredInv.cacheNewDevice {o : Option Nat} (h : SecuredInv s)
    (hg : env.endpointAllocs 0 = false → ∀ x ∈ getDeviceHandle s uuid s.cache, ¬Holds s x)
    (hc : cacheNewDevice env s .ocCache uuid ep = (o, s')) : SecuredInv s' := by
  rcases cacheNewDevice_cases hc with ⟨-, rfl⟩ | ⟨x, ⟨hx, -, -, rfl⟩ | ⟨hd, hnc, -, rfl⟩ | ⟨halloc, hf, -, rfl⟩ |
    ⟨hd, -, -, rfl⟩⟩
  · exact h
  · exact h.setBlock fun hx' => absurd hx (h.disjoint x hx')
  · have hadd : SecuredInv (s.addDevice x .ocCache) := by
      refine ⟨h.owned, h.credprov, fun y hy hmem => ?_, ?_, h.trace⟩
      · rcases List.mem_append.1 hmem with hmem | hmem
        · exact h.disjoint y hy hmem
        · rw [List.mem_singleton] at hmem
          exact hd (hmem ▸ hy)
      · simpa [Obt.addDevice, List.nodup_append] using ⟨h.nodup, fun y hy heq => hnc (heq ▸ hy)⟩
    exact hadd.setBlock fun hx => absurd hx hd
  · exact h.removeDevice (hg halloc x hf) .ocCache
  · exact h.setBlock fun hx => absurd hx hd

theorem SecuredInv.cacheOwned {x : Nat} (h : SecuredInv s)
    (hc : SmartGarage.cacheNewDevice env s .ocDevices uuid ep = (some x, s')) {b : OcDevice}
    (hb : hasSecured b.endpoint = true) : SecuredInv (s'.setBlock x b) := by
  have hover : ∀ (t : Obt) b', (t.setBlock x b').setBlock x b = t.setBlock x b := fun t b' => by
    simp [Obt.setBlock]
  rcases cacheNewDevice_cases hc with ⟨ho, -⟩ | ⟨y, ⟨-, -, ho, rfl⟩ | ⟨hd, hnc, ho, rfl⟩ | ⟨-, -, ho, -⟩ | ⟨-, -, ho, -⟩⟩
  · cases ho
  · obtain rfl := Option.some.inj ho
    rw [hover]
    exact h.setBlock fun _ => hb
  · obtain rfl := Option.some.inj ho
    rw [hover]
    refine ⟨fun y hy => ?_, fun p hp => ?_, fun y hy hmem => ?_, h.nodup, h.trace⟩
    · rcases List.mem_append.1 hy with hy | hy
      · have hyx : y ≠ x := fun heq => hd (heq ▸ hy)
        simp only [Obt.setBlock, Function.update_of_ne hyx]
        exact h.owned y hy
      · rw [List.mem_singleton] at hy
        subst hy
        simp only [Obt.setBlock, Function.update_self]
        exact hb
    · obtain ⟨h1, h2⟩ := h.credprov p hp
      exact ⟨List.mem_append_left _ h1, fun y hy => List.mem_append_left _ (h2 y hy)⟩
    · rcases List.mem_append.1 hy with hy | hy
      · exact h.disjoint y hy hmem
      · rw [List.mem_singleton] at hy
        exact hnc (hy ▸ hmem)
  · cases ho
  · cases ho

theorem SecuredInv.cacheOwned_none (h : SecuredInv s)
    (hg : env.endpointAllocs 0 = false → ∀ x ∈ getDeviceHandle s uuid s.devices, ¬Holds s x)
    (hc : SmartGarage.cacheNewDevice env s .ocDevices uuid ep = (none, s')) : SecuredInv s' := by
  rcases cacheNewDevice_cases hc with ⟨-, rfl⟩ | ⟨x, ⟨-, -, ho, -⟩ | ⟨-, -, ho, -⟩ | ⟨halloc, hf, -, rfl⟩ | ⟨hd, -, -, rfl⟩⟩
  · exact h
  · cases ho
  · cases ho
  · exact h.removeDevice (hg halloc x hf) .ocDevices
  · exact h.setBlock fun hx => absurd hx hd

theorem SecuredInv.getEndpoints (h : SecuredInv s) {q : OcClientCb} {r : OcClientResponse}
    (hq : q.handler = .getEndpoints) (hfree : cacheGuard P env s q r) (hg : securedResponse P env s q r) :
    SecuredInv (getEndpoints P env s q r) := by
  unfold securedResponse at hg
  rw [hq] at hg
  obtain ⟨di, rfl, heq | ⟨hcode, hmy, hm, heq⟩ | ⟨o, s₁, hcall, hc, hres⟩⟩ := getEndpoints_cases P env s hq r
  · rw [heq]
    exact h
  · rw [heq]
    exact h.setBlock fun hx => hg (by simp [concernsOwned, hcode, hmy, hm, hx])
  · rcases hres with ⟨rfl, heq⟩ | ⟨x, rfl, heq⟩
    · rw [heq]
      exact h.cacheOwned_none (hfree _ hcall) hc
    · rw [heq]
      have hm : q.multicast = true := cacheCall_multicast hq hcall
      exact h.cacheOwned hc (hg (by simp [concernsOwned, hm, hcall, hc]))

theorem SecuredInv.obtCheckOwned (h : SecuredInv s) {q : OcClientCb} {r : OcClientResponse}
    (hq : q.handler = .obtCheckOwned) (hfree : cacheGuard P env s q r) : SecuredInv (obtCheckOwned P env s r) := by
  rcases obtCheckOwned_cases P env s hq r with heq | ⟨uuid, o, s₁, hcall, hc, hres⟩
  · rw [heq]
    exact h
  · have hs := h.cacheNewDevice (hfree _ hcall) hc
    rcases hres with heq | ⟨x, -, hr⟩
    · rw [heq]
      exact hs
    · rw [doRequest_eq hr]
      refine ⟨hs.owned, hs.credprov, hs.disjoint, hs.nodup, fun run handler device endpoint message hmem hprov => ?_⟩
      rcases List.mem_append.1 hmem with hmem | hmem
      · exact hs.trace run handler device endpoint message hmem hprov
      · obtain ⟨-, rfl, -⟩ := ObtAction.sent.inj (List.mem_singleton.1 hmem)
        cases hprov

theorem securedInv_rules : DeviceRules SecuredInv where
  leaves := SecuredInv.leaves
  freeDevice h hx := h.freeDevice hx
  renameDevice x uuid h := h.renameDevice x uuid
  startOtm h _ := ⟨h.owned, h.credprov, h.disjoint, h.nodup, h.trace⟩

theorem SecuredInv.step (h : SecuredInv s) (e : ObtEvent × ObtEnv) (hg : securedGuard P s e) :
    SecuredInv (obtStep P s e) := by
  obtain ⟨hfree, hsec⟩ := hg
  refine securedInv_rules.step h e hfree fun id r heq q hq hs hguard => ?_
  have hsecured : securedResponse P e.2 (answered s q r) q r := by
    rw [heq] at hsec
    exact hsec q hq
  refine ⟨fun hh => ?_, fun hh => ?_, fun otm i hh o ho hc => ?_⟩
  · unfold responseGuard at hguard
    rw [hh] at hguard
    exact hs.obtCheckOwned hh hguard
  · unfold responseGuard at hguard
    rw [hh] at hguard
    exact hs.getEndpoints hh hguard hsecured
  · unfold responseGuard at hguard
    unfold securedResponse at hsecured
    rw [hh] at hguard hsecured
    exact hs.freeOtmState_ok fun hotm => ⟨(hguard o ho).2 (hc hotm), hsecured o ho (hc hotm)⟩

end Devices

/-- In every run whose discovery responses and transfers bring a SECURED endpoint for every owned device,
and in which no device is freed while something else holds it, provisioning only uses SECURED endpoints. -/
theorem obt_provisioningSecured (P : ObtPlatform) (events : List (ObtEvent × ObtEnv))
    (hg : Runs.Guarded (obtStep P) (securedGuard P) Obt.init events) :
    ProvisioningSecured (Runs.runFrom (obtStep P) Obt.init events) := by
  have hinit : SecuredInv Obt.init :=
    ⟨fun _ h => (List.not_mem_nil h).elim, fun _ h => (List.not_mem_nil h).elim, fun _ h => (List.not_mem_nil h).elim,
      List.nodup_nil, fun _ _ _ _ _ h => (List.not_mem_nil h).elim⟩
  have hinv : SecuredInv (Runs.runFrom (obtStep P) Obt.init events) :=
    Runs.run_invariant (fun _ e h hstep => h.step e hstep) events Obt.init hinit hg
  exact hinv.trace

/-! ## A device without a secured endpoint -/

instance (P : ObtPlatform) (env : ObtEnv) (s : Obt) (r : OcClientResponse) :
    (q : OcClientCb) → Decidable (securedResponse P env s q r)
  | ⟨id, .getEndpoints, userData, multicast⟩ => inferInstanceAs (Decidable
      (concernsOwned P env s ⟨id, .getEndpoints, userData, multicast⟩ r = true →
        hasSecured (newEndpoints P env r (linkAnchor env.garbage (firstLink r.payload))) = true))
  | ⟨_, .otm otm i, userData, _⟩ => inferInstanceAs (Decidable
      (∀ o ∈ s.otmCtxL.find? (·.addr == userData), otmCompletes otm i r = true →
        hasSecured (s.blocks o.device).endpoint = true))
  | ⟨_, .obtCheckOwned, _, _⟩ | ⟨_, .pstatPOSTDos1ToDos2, _, _⟩ | ⟨_, .cred _, _, _⟩ => .isTrue trivial

instance (P : ObtPlatform) (s : Obt) : (e : ObtEvent × ObtEnv) → Decidable (securedGuard P s e)
  | (.response id r, env) => inferInstanceAs (Decidable (freeGuard P s (.response id r, env) ∧
      ∀ q ∈ s.clientCbs.find? (·.id == id), securedResponse P env (answered s q r) q r))
  | (.performOtm otm uuid, env) => inferInstanceAs (Decidable (freeGuard P s (.performOtm otm uuid, env) ∧ True))
  | (.discoverUnownedDevices, _) | (.discoverOwnedDevices, _) | (.deviceHardReset _, _)
  | (.provisionPairwiseCredentials _ _, _) | (.provisionCertificate _ _, _) | (.timeout _, _) =>
    .isTrue ⟨trivial, trivial⟩

/-- A device that offers `coaps` is discovered and provisioned with a certificate. -/
theorem obt_provisioning_coaps :
    ProvisioningSecured (Runs.runFrom (obtStep samplePlatform) Obt.init
      [(.discoverOwnedDevices, goodEnv 1 1 1),
        (.response 0 (ownedResponse "11111111-1111-1111-1111-111111111111" "coaps://[::1]:5684"), goodEnv 1 1 1),
        (.provisionCertificate false sampleUuid, goodEnv 1 1 1)]) :=
  obt_provisioningSecured samplePlatform _ (by decide +kernel)

/-- A device that offers `coap` only is asked over that endpoint. -/
theorem obt_provisioning_coap :
    ¬ProvisioningSecured (Runs.runFrom (obtStep samplePlatform) Obt.init
      [(.discoverOwnedDevices, goodEnv 1 1 1),
        (.response 0 (ownedResponse "11111111-1111-1111-1111-111111111111" "coap://[::1]:5683"), goodEnv 1 1 1),
        (.provisionCertificate false sampleUuid, goodEnv 1 1 1)]) := by
  intro h
  have hsec := h (some 0) (.cred .supportsCertCreds) sampleUuid
    { sampleEndpoint false with di := sampleUuid } .getDoxm (by decide +kernel) rfl
  cases hsec

end SmartGarage
