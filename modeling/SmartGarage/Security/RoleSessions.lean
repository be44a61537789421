/-
Role lists over whole runs: peers come and go and their records are reused, roles are asserted and
deleted. Beside the state runs what the clients have asserted in their current sessions, and the
invariant says that the role lists are exactly that, belong to peers that are there, and link no
freed record. The two steps that break it are excluded by a condition on the step.
-/
import SmartGarage.Lib.Run
import SmartGarage.Security.RoleSound

namespace SmartGarage

variable {others : Nat → List AssertedRole}

/-! ## The machine -/

/-- A role as a client has asserted it. -/
structure AssertedRole where
  credid : Int
  publicdata : OcString
  role : OcString
  authority : OcString
deriving DecidableEq

/-- What a record of a role list says. -/
def AssertedRole.of (c : OcSecCred) : AssertedRole := ⟨c.credid, c.publicdata.data, c.role, c.authority⟩

/-- The assertion of `a` has returned `credid`: unless it failed or repeats a certificate, the role is
asserted from now on. -/
def recordAssertion (P : Platform) (st : SecState) (a : CredArgs) (credid : Int) (l : List AssertedRole) :
    List AssertedRole :=
  if credid = -1 ∨ l.any (·.publicdata == a.publicdata.getD []) then l
  else match ocCertsParseRoleCertificate P.mbedtls (st.trustAnchors.map (·.crt)) a.publicdata with
    | some (_, role, authority) => l ++ [⟨credid, a.publicdata.getD [], role, authority⟩]
    | none => l

/-- One operation of a role payload. -/
def recordOp (P : Platform) (device : Nat) (client : OcTlsPeer) (d : Decoding) (l : List AssertedRole) :
    CredOp → List AssertedRole
  | .rowneruuid _ => l
  | .entry item =>
    match decodeEntry item with
    | none => l
    | some e => if item = [] then l else
        recordAssertion P d.st e.args (ocSecAddNewCred P d.st device true (some client) e.args).1 l

/-- The operations the decoder comes to. -/
def recordOps (P : Platform) (device : Nat) (client : OcTlsPeer) : Decoding → List CredOp → List AssertedRole →
    List AssertedRole
  | _, [], l => l
  | d, op :: ops, l =>
    match decodeOp P device true (some client) d op with
    | (true, d') => recordOps P device client d' ops (recordOp P device client d l op)
    | (false, _) => recordOp P device client d l op

/-- The state of the stack and, for each peer record, the roles asserted in its current session and
not deleted since. -/
structure Sessions where
  st : SecState
  asserted : Nat → List AssertedRole

/-- What can happen to peers and roles. A handshake sets the identity of a peer that has been added. -/
inductive SessionEvent
  | addPeer (peer : OcTlsPeer)
  | handshake (addr : Nat) (uuid : OcUuid) (publicKey : OcString) (usesPskCred : Bool)
  | freePeer (addr : Nat)
  | freeInvalidPeer (addr : Nat)
  | postRoles (rep : List OcRep) (origin : OcEndpoint)
  | deleteRoles (credid : Option Int) (origin : OcEndpoint)
  | freeRolesForDevice (device : Nat)

/-- The record at `addr` is one of the peers. -/
def isPeer (st : SecState) (addr : Nat) : Bool := st.tlsPeers.any (·.addr == addr)

/-- `oc_tls_free_peer` -/
def ocTlsFreePeer (st : SecState) (addr : Nat) : SecState :=
  ocSecFreeRoles { st with tlsPeers := st.tlsPeers.eraseP (·.addr == addr) } addr

/-- `oc_tls_free_invalid_peer`: the peer's roles are not freed. -/
def ocTlsFreeInvalidPeer (st : SecState) (addr : Nat) : SecState :=
  { st with tlsPeers := st.tlsPeers.eraseP (·.addr == addr) }

/-- What a DELETE of `/oic/sec/roles` means for the asserted roles. -/
def recordDelete (credid : Option Int) (l : List AssertedRole) : List AssertedRole :=
  match credid with
  | none => []
  | some credid => if 0 ≤ credid then l.eraseP (·.credid == credid) else l

/-- One event. A peer is only added in a free record and only freed while it is there, and a request
is for a device that exists. -/
def sessionStep (P : Platform) (s : Sessions) : SessionEvent → Sessions
  | .addPeer peer =>
    if isPeer s.st peer.addr then s
    else ⟨{ s.st with tlsPeers := s.st.tlsPeers ++ [peer] }, Function.update s.asserted peer.addr []⟩
  | .handshake addr uuid publicKey usesPskCred =>
    { s with st := { s.st with tlsPeers := s.st.tlsPeers.map fun p =>
        if p.addr = addr then { p with uuid := uuid, publicKey := publicKey, usesPskCred := usesPskCred } else p } }
  | .freePeer addr =>
    if isPeer s.st addr then ⟨ocTlsFreePeer s.st addr, Function.update s.asserted addr []⟩ else s
  | .freeInvalidPeer addr =>
    if isPeer s.st addr then ⟨ocTlsFreeInvalidPeer s.st addr, Function.update s.asserted addr []⟩ else s
  | .postRoles rep origin =>
    if origin.device < s.st.numDevices then
      ⟨(postRoles P s.st rep origin origin.device).2,
        match ocTlsGetPeer s.st origin with
        | some p => Function.update s.asserted p.addr
            (recordOps P origin.device p ⟨s.st, none⟩ (credOps rep) (s.asserted p.addr))
        | none => s.asserted⟩
    else s
  | .deleteRoles credid origin =>
    ⟨(deleteRoles s.st credid origin).2,
      match ocTlsGetPeer s.st origin with
      | some p => Function.update s.asserted p.addr (recordDelete credid (s.asserted p.addr))
      | none => s.asserted⟩
  | .freeRolesForDevice device =>
    ⟨ocSecFreeRolesForDevice s.st device,
      fun p => if s.st.tlsPeers.any (fun q => q.addr == p && q.endpoint.device == device) then [] else s.asserted p⟩

/-- The role lists are those of the sessions: each peer's list is what it has asserted, there is at most
one entry for each peer and none for a peer that is gone, and no linked record has been freed. -/
structure RolesWellFormed (s : Sessions) : Prop where
  exact : ∀ p ∈ s.st.tlsPeers, (ocSecGetRoles s.st p.addr).map AssertedRole.of = s.asserted p.addr
  once : (s.st.clients.map (·.client)).Nodup
  present : ∀ r ∈ s.st.clients, r.client ∈ s.st.tlsPeers.map (·.addr)
  notFreed : ∀ r ∈ s.st.clients, ∀ c ∈ r.roles, c.addr ∈ s.st.liveRoles

/-! ## The invariant -/

/-- What the role lists of one state keep. -/
structure RoleTableOk (st : SecState) : Prop where
  peers : (st.tlsPeers.map (·.addr)).Nodup
  clients : ((roleKeys st.clients).map (·.1)).Nodup
  present : ∀ k ∈ roleKeys st.clients, ∃ p ∈ st.tlsPeers, p.addr = k.1 ∧ p.endpoint.device = k.2
  notFreed : ∀ p, ∀ c ∈ ocSecGetRoles st p, c.addr ∈ st.liveRoles
  nodup : ∀ p, ((ocSecGetRoles st p).map (·.addr)).Nodup
  distinct : ∀ p q, ∀ c ∈ ocSecGetRoles st p, ∀ c' ∈ ocSecGetRoles st q, c.addr = c'.addr → p = q
  creds : ∀ d < st.numDevices, ∀ c ∈ (st.creds d).creds, c.addr ∉ st.liveRoles

theorem rolesOf_of_mem : ∀ {l : List OcSecRoles}, (l.map (·.client)).Nodup → ∀ r ∈ l, rolesOf l r.client = r.roles
  | x :: l, hn, r, hr => by
    rw [List.map_cons, List.nodup_cons] at hn
    rcases List.mem_cons.1 hr with rfl | hr
    · rw [rolesOf_cons, if_pos rfl]
    · have hne : x.client ≠ r.client := fun h => hn.1 (h ▸ List.mem_map_of_mem hr)
      rw [rolesOf_cons, if_neg hne, rolesOf_of_mem hn.2 r hr]

theorem rolesOf_eq_nil {l : List OcSecRoles} {p : Nat} (h : p ∉ l.map (·.client)) : rolesOf l p = [] := by
  unfold rolesOf
  rw [List.find?_eq_none.2]
  intro r hr heq
  exact h (List.mem_map.2 ⟨r, hr, by simpa using heq⟩)

/-- Whoever has an entry is one of the peers. -/
theorem RoleTableOk.entry_peer {st : SecState} (h : RoleTableOk st) {p : Nat} (hp : p ∈ st.clients.map (·.client)) :
    p ∈ st.tlsPeers.map (·.addr) := by
  rw [map_client_eq] at hp
  obtain ⟨k, hk, rfl⟩ := List.mem_map.1 hp
  obtain ⟨q, hq, ha, -⟩ := h.present k hk
  exact List.mem_map.2 ⟨q, hq, ha⟩

/-- A change that leaves roles and peers alone, and adds no credential record. -/
theorem RoleTableOk.of_same {st st' : SecState} (h : RoleTableOk st) (hc : st'.clients = st.clients)
    (hl : st'.liveRoles = st.liveRoles) (hp : st'.tlsPeers = st.tlsPeers) (hn : st'.numDevices = st.numDevices)
    (hcr : ∀ d, ∀ c ∈ (st'.creds d).creds, ∃ b ∈ (st.creds d).creds, b.addr = c.addr) : RoleTableOk st' := by
  have hr : ∀ p, ocSecGetRoles st' p = ocSecGetRoles st p := fun p => by simp only [ocSecGetRoles_eq, hc]
  refine ⟨hp ▸ h.peers, hc ▸ h.clients, by rw [hc, hp]; exact h.present, ?_, ?_, ?_, ?_⟩
  · intro p c hcp
    rw [hr] at hcp
    rw [hl]
    exact h.notFreed p c hcp
  · intro p
    rw [hr]
    exact h.nodup p
  · intro p q c hcp c' hcq
    rw [hr] at hcp hcq
    exact h.distinct p q c hcp c' hcq
  · intro d hd c hcd
    obtain ⟨b, hb, ha⟩ := hcr d c hcd
    rw [hl, ← ha]
    exact h.creds d (hn ▸ hd) b hb

theorem RoleTableOk.shrink {st st' : SecState} (h : RoleTableOk st) (hp : st'.tlsPeers = st.tlsPeers)
    (hn : st'.numDevices = st.numDevices) (hcr : st'.creds = st.creds)
    (hkeys : (roleKeys st'.clients).Sublist (roleKeys st.clients))
    (hsub : ∀ p, (ocSecGetRoles st' p).Sublist (ocSecGetRoles st p))
    (hlive : ∀ p, ∀ c ∈ ocSecGetRoles st' p, c.addr ∈ st'.liveRoles)
    (hfree : ∀ a ∈ st'.liveRoles, a ∈ st.liveRoles) : RoleTableOk st' := by
  refine ⟨hp ▸ h.peers, (hkeys.map _).nodup h.clients, ?_, hlive, fun p => ((hsub p).map _).nodup (h.nodup p), ?_, ?_⟩
  · intro k hk
    rw [hp]
    exact h.present k (hkeys.subset hk)
  · intro p q c hc c' hc'
    exact h.distinct p q c ((hsub p).subset hc) c' ((hsub q).subset hc')
  · intro d hd c hc hmem
    rw [hcr] at hc
    exact h.creds d (hn ▸ hd) c hc (hfree _ hmem)

/-! ## Freeing roles -/

theorem getRoles_freeRole (st : SecState) (addr client p : Nat) : ocSecGetRoles (ocSecFreeRole st addr client) p =
    if p = client then (ocSecGetRoles st client).eraseP (·.addr == addr) else ocSecGetRoles st p := by
  unfold ocSecFreeRole
  by_cases hany : (ocSecGetRoles st client).any (·.addr == addr) = true
  · rw [if_pos hany]
    simp only [ocSecGetRoles_eq]
    by_cases hpc : p = client
    · subst hpc
      have hmem : p ∈ st.clients.map (·.client) := by
        by_contra hnot
        rw [ocSecGetRoles_eq, rolesOf_eq_nil hnot] at hany
        cases hany
      rw [if_pos rfl, rolesOf_updateRoles_self _ _ hmem]
    · rw [if_neg hpc, rolesOf_updateRoles_ne _ hpc]
  · rw [if_neg hany]
    split
    · rename_i hpc
      rw [hpc, List.eraseP_of_forall_not]
      simpa using hany
    · rfl

theorem RoleTableOk.freeRole {st : SecState} (h : RoleTableOk st) (addr client : Nat) :
    RoleTableOk (ocSecFreeRole st addr client) := by
  by_cases hany : (ocSecGetRoles st client).any (·.addr == addr) = true
  · obtain ⟨c₀, hc₀, ha⟩ := List.any_eq_true.1 hany
    rw [beq_iff_eq] at ha
    have hst : ocSecFreeRole st addr client = { st with
        clients := updateRoles st.clients client fun l => l.eraseP (·.addr == addr)
        liveRoles := st.liveRoles.erase addr } := by
      unfold ocSecFreeRole
      rw [if_pos hany]
    have hroles := getRoles_freeRole st addr client
    rw [hst] at hroles ⊢
    refine h.shrink rfl rfl rfl ?_ ?_ ?_ ?_
    · rw [updateRoles_keys]
    · intro p
      rw [hroles]
      split
      · rename_i hp
        rw [hp]
        exact List.eraseP_sublist
      · exact List.Sublist.refl _
    · intro p c hc
      rw [hroles] at hc
      -- what is left has other addresses than the freed record
      have hne : c.addr ≠ addr ∧ c.addr ∈ st.liveRoles := by
        split at hc
        · exact ⟨Search.key_ne_of_mem_eraseP (h.nodup client) hc, h.notFreed client c (List.mem_of_mem_eraseP hc)⟩
        · rename_i hp
          exact ⟨fun heq => hp (h.distinct p client c hc c₀ hc₀ (heq.trans ha.symm)), h.notFreed p c hc⟩
      exact (List.mem_erase_of_ne hne.1).2 hne.2
    · exact fun a ha => List.mem_of_mem_erase ha
  · have : ocSecFreeRole st addr client = st := by
      unfold ocSecFreeRole
      rw [if_neg hany]
    rw [this]
    exact h

theorem rolesOf_eraseP {client : Nat} : ∀ {l : List OcSecRoles}, ((roleKeys l).map (·.1)).Nodup → ∀ p,
    rolesOf (l.eraseP (·.client == client)) p = if p = client then [] else rolesOf l p
  | [], _, p => by simp [rolesOf]
  | r :: l, hn, p => by
    rw [← map_client_eq, List.map_cons, List.nodup_cons] at hn
    by_cases hr : r.client = client
    · rw [List.eraseP_cons_of_pos (by simpa using hr)]
      by_cases hp : p = client
      · rw [if_pos hp, rolesOf_eq_nil]
        rw [hp, ← hr]
        exact hn.1
      · rw [if_neg hp, rolesOf_cons, if_neg]
        rw [hr]
        exact Ne.symm hp
    · rw [List.eraseP_cons_of_neg (by simpa using hr), rolesOf_cons, rolesOf_eraseP (map_client_eq l ▸ hn.2) p, rolesOf_cons]
      by_cases hp : p = client
      · have : ¬r.client = p := fun heq => hr (heq.trans hp)
        rw [if_neg this, if_pos hp, if_pos hp]
      · simp only [if_neg hp]

theorem getRoles_freeRoles {st : SecState} (h : RoleTableOk st) (client p : Nat) :
    ocSecGetRoles (ocSecFreeRoles st client) p = if p = client then [] else ocSecGetRoles st p := by
  unfold ocSecFreeRoles
  cases hf : getRolesForClient st client with
  | some r => exact rolesOf_eraseP h.clients p
  | none =>
    by_cases hp : p = client
    · rw [if_pos hp, hp]
      simp [ocSecGetRoles, hf]
    · rw [if_neg hp]

theorem RoleTableOk.freeRoles {st : SecState} (h : RoleTableOk st) (client : Nat) :
    RoleTableOk (ocSecFreeRoles st client) := by
  cases hf : getRolesForClient st client with
  | none =>
    have : ocSecFreeRoles st client = st := by unfold ocSecFreeRoles; rw [hf]
    rw [this]
    exact h
  | some r =>
    have hroles := getRoles_freeRoles h client
    have hr : ocSecGetRoles st client = r.roles := by unfold ocSecGetRoles; rw [hf]
    have hst : ocSecFreeRoles st client = { st with
        clients := st.clients.eraseP (·.client == client)
        liveRoles := st.liveRoles.filter fun a => !r.roles.any (·.addr == a) } := by
      unfold ocSecFreeRoles
      rw [hf]
    rw [hst] at hroles ⊢
    refine h.shrink rfl rfl rfl ?_ ?_ ?_ ?_
    · exact List.Sublist.map _ List.eraseP_sublist
    · intro p
      rw [hroles]
      split
      · exact List.nil_sublist _
      · exact List.Sublist.refl _
    · intro p c hc
      rw [hroles] at hc
      split at hc
      · cases hc
      · rename_i hp
        refine List.mem_filter.2 ⟨h.notFreed p c hc, ?_⟩
        rw [Bool.not_eq_true', List.any_eq_false]
        intro c' hc' heq
        exact hp (h.distinct p client c hc c' (hr ▸ hc') (by simpa using Eq.symm (by simpa using heq)))
    · exact fun a ha => (List.mem_filter.1 ha).1

/-! ## Asserting a role -/

theorem keys_entered (clients : List OcSecRoles) (client device : Nat) :
    (client ∈ (roleKeys clients).map (·.1) ∧ roleKeys (entered clients client device) = roleKeys clients) ∨
    (client ∉ (roleKeys clients).map (·.1) ∧
      roleKeys (entered clients client device) = roleKeys clients ++ [(client, device)]) := by
  unfold entered
  cases hf : clients.find? (·.client == client) with
  | some r =>
    refine .inl ⟨?_, rfl⟩
    rw [← map_client_eq]
    exact List.mem_map.2 ⟨r, List.mem_of_find?_eq_some hf, by simpa using List.find?_some hf⟩
  | none =>
    refine .inr ⟨?_, by simp [roleKeys]⟩
    rw [← map_client_eq]
    intro hmem
    obtain ⟨r, hr, heq⟩ := List.mem_map.1 hmem
    exact List.find?_eq_none.1 hf r hr (by simpa using heq)

section Assertion

variable {P : Platform} {st : SecState} {device : Nat} {client : OcTlsPeer}

theorem RoleTableOk.keys_entered (h : RoleTableOk st) (hp : client ∈ st.tlsPeers)
    (hdev : client.endpoint.device = device) :
    ((roleKeys (entered st.clients client.addr device)).map (·.1)).Nodup ∧
    ∀ k ∈ roleKeys (entered st.clients client.addr device), ∃ p ∈ st.tlsPeers, p.addr = k.1 ∧ p.endpoint.device = k.2 := by
  rcases SmartGarage.keys_entered st.clients client.addr device with ⟨-, hk⟩ | ⟨hnot, hk⟩
  · rw [hk]
    exact ⟨h.clients, h.present⟩
  · rw [hk]
    refine ⟨Search.nodup_append_new h.clients hnot, ?_⟩
    · intro k hk
      rcases List.mem_append.1 hk with hk | hk
      · exact h.present k hk
      · rw [List.mem_singleton] at hk
        subst hk
        exact ⟨client, hp, rfl, hdev⟩

theorem RoleTableOk.enter (h : RoleTableOk st) (hp : client ∈ st.tlsPeers) (hdev : client.endpoint.device = device)
    (n : Nat) : RoleTableOk { st with clients := entered st.clients client.addr device, draws := n } := by
  obtain ⟨hnodup, hpresent⟩ := h.keys_entered hp hdev
  have hr : ∀ p, ocSecGetRoles { st with clients := entered st.clients client.addr device, draws := n } p =
      ocSecGetRoles st p := fun p => rolesOf_entered _ _ _ p
  exact ⟨h.peers, hnodup, hpresent, fun p c hc => h.notFreed p c (hr p ▸ hc), fun p => (hr p).symm ▸ h.nodup p,
    fun p q c hc c' hc' => h.distinct p q c (hr p ▸ hc) c' (hr q ▸ hc'), h.creds⟩

theorem mem_rolesOf_appendRole {r c : OcSecCred} {p : Nat} (hc : c ∈ rolesOf (appendRole st device client r) p) :
    c ∈ rolesOf st.clients p ∨ (p = client.addr ∧ c = r) := by
  by_cases hpc : p = client.addr
  · rw [hpc, rolesOf_appendRole] at hc
    rcases List.mem_append.1 hc with hc | hc
    · exact .inl (hpc ▸ hc)
    · exact .inr ⟨hpc, by simpa using hc⟩
  · rw [rolesOf_appendRole_ne st device client r hpc] at hc
    exact .inl hc

theorem RoleTableOk.append (h : RoleTableOk st) (hp : client ∈ st.tlsPeers) (hdev : client.endpoint.device = device)
    (r : OcSecCred) (hr : r.addr = roleAddr P st device) (n : Nat) :
    RoleTableOk { st with
      clients := appendRole st device client r
      liveRoles := roleAddr P st device :: st.liveRoles
      draws := n } := by
  obtain ⟨hnodup, hpresent⟩ := h.keys_entered hp hdev
  have hold := roleAddr_ne_own P st device
  have hkeys : roleKeys (appendRole st device client r) = roleKeys (entered st.clients client.addr device) :=
    updateRoles_keys _ _ _
  refine ⟨h.peers, hkeys ▸ hnodup, hkeys ▸ hpresent, ?_, ?_, ?_, ?_⟩
  · intro p c hc
    rcases mem_rolesOf_appendRole hc with hc | ⟨-, rfl⟩
    · exact List.mem_cons_of_mem _ (h.notFreed p c hc)
    · exact hr ▸ List.mem_cons_self
  · intro p
    rw [ocSecGetRoles_eq]
    by_cases hpc : p = client.addr
    · rw [hpc, rolesOf_appendRole]
      refine Search.nodup_append_new (h.nodup client.addr) fun hmem => ?_
      obtain ⟨c, hc, heq⟩ := List.mem_map.1 hmem
      exact hold client.addr c hc (heq.trans hr)
    · rw [rolesOf_appendRole_ne st device client r hpc]
      exact h.nodup p
  · intro p q c hc c' hc' heq
    rcases mem_rolesOf_appendRole hc with h₁ | ⟨hp₁, hr₁⟩ <;> rcases mem_rolesOf_appendRole hc' with h₂ | ⟨hp₂, hr₂⟩
    · exact h.distinct p q c h₁ c' h₂ heq
    · exact absurd (heq.trans (hr₂ ▸ hr)) (hold p c h₁)
    · exact absurd (heq.symm.trans (hr₁ ▸ hr)) (hold q c' h₂)
    · exact hp₁.trans hp₂.symm
  · intro d hd c hc hmem
    rcases List.mem_cons.1 hmem with heq | hmem
    · exact roleAddr_ne_cred P st device (.inr hd) c hc heq
    · exact h.creds d hd c hc hmem

theorem assertedCredid_ne (P : Platform) (st : SecState) (client : OcTlsPeer) (a : CredArgs) :
    assertedCredid P st client a ≠ -1 := by
  unfold assertedCredid
  simp only
  split
  · have := P.newId_nonneg (st.draws + 1) ((ocSecGetRoles st client.addr).map (·.credid) ++ [0])
    omega
  · rename_i h
    exact fun heq => h (.inl heq)

/-- One assertion whose private data can be stored, if it has got that far, keeps the table, and
changes the client's list as the assertion is recorded. -/
theorem RoleTableOk.assert (h : RoleTableOk st) (hp : client ∈ st.tlsPeers) (hdev : client.endpoint.device = device)
    {a : CredArgs} {x : Int × SecState} (hout : RoleOutcome P st device client a x)
    (hstore : roleAdded P st client a = true → argsPrivatedata a none ≠ none) :
    RoleTableOk x.2 ∧ (ocSecGetRoles x.2 client.addr).map AssertedRole.of =
      recordAssertion P st a x.1 ((ocSecGetRoles st client.addr).map AssertedRole.of) := by
  cases hout with
  | refused => exact ⟨h, by simp [recordAssertion]⟩
  | duplicate r checks found =>
    have hany : ((ocSecGetRoles st client.addr).map AssertedRole.of).any (·.publicdata == a.publicdata.getD []) = true := by
      rw [List.any_map]
      rw [← List.isSome_find?] at *
      exact (congrArg Option.isSome found).trans rfl
    exact ⟨h, by simp only [recordAssertion, hany, or_true, reduceIte]⟩
  | dropped =>
    refine ⟨h.enter hp hdev _, ?_⟩
    simp [recordAssertion, ocSecGetRoles_eq]
  | asserted chain role authority privatedata acc hpriv =>
    refine ⟨h.append hp hdev _ rfl _, ?_⟩
    have hany : ((ocSecGetRoles st client.addr).map AssertedRole.of).any (·.publicdata == a.publicdata.getD []) = false := by
      rw [List.any_map, List.any_eq_false]
      intro c hc
      simpa [AssertedRole.of] using acc.notDuplicate c hc
    unfold recordAssertion
    rw [if_neg (by rw [hany]; simp [assertedCredid_ne]), acc.parsed]
    simp only [ocSecGetRoles_eq]
    rw [rolesOf_appendRole, List.map_append]
    simp [AssertedRole.of, argsPublicdata_data, roleRecord]
  | broken chain role authority acc hbad => exact absurd hbad (hstore acc.roleAdded)

end Assertion

/-! ## A whole payload -/

/-- An entry that gets as far as a record has private data that can be stored. -/
def entryStorable (P : Platform) (client : OcTlsPeer) (st : SecState) : CredOp → Bool
  | .rowneruuid _ => true
  | .entry item =>
    match decodeEntry item with
    | none => true
    | some e => item.isEmpty || !roleAdded P st client e.args || (argsPrivatedata e.args none).isSome

/-- What holds while the payload of a client is decoded: `l` is what the client has asserted, `others`
what the other clients have. -/
structure DecodeOk (device : Nat) (client : OcTlsPeer) (others : Nat → List AssertedRole) (d : Decoding)
    (l : List AssertedRole) : Prop where
  table : RoleTableOk d.st
  peer : client ∈ d.st.tlsPeers
  device : device < d.st.numDevices
  own : (ocSecGetRoles d.st client.addr).map AssertedRole.of = l
  rest : ∀ p, p ≠ client.addr → (ocSecGetRoles d.st p).map AssertedRole.of = others p

/-- A step of the decoder that changes only credentials, and adds none. -/
theorem DecodeOk.of_same {device : Nat} {client : OcTlsPeer} {d d' : Decoding}
    {l : List AssertedRole} (h : DecodeOk device client others d l) (hc : d'.st.clients = d.st.clients)
    (hl : d'.st.liveRoles = d.st.liveRoles) (hp : d'.st.tlsPeers = d.st.tlsPeers)
    (hn : d'.st.numDevices = d.st.numDevices)
    (hcr : ∀ x, ∀ c ∈ (d'.st.creds x).creds, ∃ b ∈ (d.st.creds x).creds, b.addr = c.addr) :
    DecodeOk device client others d' l := by
  have hr : ∀ p, ocSecGetRoles d'.st p = ocSecGetRoles d.st p := fun p => by simp only [ocSecGetRoles_eq, hc]
  exact ⟨h.table.of_same hc hl hp hn hcr, hp ▸ h.peer, hn ▸ h.device, by rw [hr]; exact h.own,
    fun p hpc => by rw [hr]; exact h.rest p hpc⟩

section

variable {st : SecState}

theorem setCreds_addrs {device : Nat} {creds : OcSecCreds}
    (h : ∀ c ∈ creds.creds, ∃ b ∈ (st.creds device).creds, b.addr = c.addr) :
    ∀ x, ∀ c ∈ ((st.setCreds device creds).creds x).creds, ∃ b ∈ (st.creds x).creds, b.addr = c.addr := by
  intro x c hc
  by_cases hx : x = device
  · subst hx
    rw [setCreds_creds] at hc
    exact h c hc
  · rw [setCreds_creds_ne st creds hx] at hc
    exact ⟨c, hc, rfl⟩

theorem setOwnerCred_addrs (st : SecState) (credid : Int) (device : Nat) (value : Bool) :
    ∀ x, ∀ c ∈ ((setOwnerCred st credid device value).creds x).creds, ∃ b ∈ (st.creds x).creds, b.addr = c.addr := by
  refine setCreds_addrs fun c hc => ?_
  obtain ⟨b, hb, h | h⟩ := Search.mem_modify hc
  · exact ⟨b, hb, by rw [h]⟩
  · exact ⟨b, hb, by rw [h]⟩

theorem DecodeOk.markOwner {device : Nat} {client : OcTlsPeer} {d : Decoding}
    {l : List AssertedRole} (h : DecodeOk device client others d l) (e : CredEntry) (credid : Int) (x : Nat) :
    DecodeOk device client others (markOwner d e credid x) l := by
  unfold SmartGarage.markOwner
  split
  · exact h
  · split
    · exact h.of_same rfl rfl rfl rfl (setOwnerCred_addrs _ _ _ _)
    · exact h.of_same rfl rfl rfl rfl (setOwnerCred_addrs _ _ _ _)

theorem decodeOp_ok (P : Platform) (device : Nat) (client : OcTlsPeer) (hdev : client.endpoint.device = device) {d : Decoding}
    {l : List AssertedRole} (op : CredOp)
    (h : DecodeOk device client others d l) (hs : entryStorable P client d.st op = true) :
    DecodeOk device client others (decodeOp P device true (some client) d op).2 (recordOp P device client d l op) := by
  cases op with
  | rowneruuid v =>
    exact h.of_same rfl rfl rfl rfl (setCreds_addrs fun c hc => ⟨c, hc, rfl⟩)
  | entry item =>
    cases he : decodeEntry item with
    | none =>
      rw [decodeOp_none _ _ _ _ _ he]
      simpa only [recordOp, he] using h
    | some e =>
      by_cases hi : item = []
      · subst hi
        rw [decodeOp_nil]
        simpa only [recordOp, he, reduceIte] using h
      · have hout := ocSecAddNewCred_outcome P d.st device client e.args
        have hframe := hout.onlyRoles
        have hstore : roleAdded P d.st client e.args = true → argsPrivatedata e.args none ≠ none := by
          intro hadd hnone
          simp [entryStorable, he, hi, hadd, hnone] at hs
        obtain ⟨htable, hown⟩ := h.table.assert h.peer hdev hout hstore
        have hadded : DecodeOk device client others
            { d with st := (ocSecAddNewCred P d.st device true (some client) e.args).2 }
            (recordOp P device client d l (.entry item)) := by
          refine ⟨htable, hframe.tlsPeers ▸ h.peer, hframe.numDevices ▸ h.device, ?_, fun p hp => ?_⟩
          · simp only [recordOp, he, hi, reduceIte]
            rw [hown, h.own]
          · have := hframe.otherRoles p fun q hq => by rw [Option.mem_some_iff] at hq; exact hq ▸ hp
            simp only [this]
            exact h.rest p hp
        rw [decodeOp_entry _ _ _ _ _ he hi]
        simp only
        split
        · exact hadded
        · exact hadded.markOwner e _ device

theorem decodeOps_ok (P : Platform) (device : Nat) (client : OcTlsPeer) (hdev : client.endpoint.device = device)
    (others : Nat → List AssertedRole) : ∀ (ops : List CredOp) (d : Decoding) (l : List AssertedRole),
    DecodeOk device client others d l →
    allReached P device true (some client) (entryStorable P client) d ops = true →
    DecodeOk device client others (decodeOps P device true (some client) d ops).2 (recordOps P device client d ops l)
  | [], _, _, h, _ => h
  | op :: ops, d, l, h, hs => by
    unfold allReached at hs
    rw [Bool.and_eq_true] at hs
    have hop := decodeOp_ok P device client hdev op h hs.1
    unfold decodeOps recordOps
    rcases hd : decodeOp P device true (some client) d op with ⟨_ | _, d'⟩
    · rw [hd] at hop
      exact hop
    · rw [hd] at hop hs
      exact decodeOps_ok P device client hdev others ops d' _ hop hs.2

theorem RoleTableOk.removeCred (h : RoleTableOk st) (P : Platform) {device : Nat}
    (hd : device < st.numDevices) (credid : Int) :
    let st' := (ocSecRemoveCredByCredid P st credid device).2
    RoleTableOk st' ∧ st'.clients = st.clients ∧ st'.tlsPeers = st.tlsPeers := by
  unfold ocSecRemoveCredByCredid
  cases hf : ocSecGetCredByCredid st credid device with
  | none => exact ⟨h, rfl, rfl⟩
  | some c =>
    have hc : c ∈ (st.creds device).creds := List.mem_of_find?_eq_some hf
    have hnot : c.addr ∉ st.liveRoles := h.creds device hd c hc
    -- no role record is at the address of the credential
    have hclients : st.clients.map (fun r => { r with roles := r.roles.map (clearRole c.addr) }) = st.clients := by
      conv_rhs => rw [← List.map_id st.clients]
      refine List.map_congr_left fun r hr => ?_
      have hroles := rolesOf_of_mem (map_client_eq st.clients ▸ h.clients) r hr
      rw [map_clearRole_of_ne]
      · rfl
      · intro x hx heq
        rw [← hroles] at hx
        exact hnot (heq ▸ h.notFreed r.client x hx)
    have hbase : RoleTableOk (unlinkCred st c device) :=
      h.of_same hclients (List.erase_of_not_mem hnot) rfl rfl
        (setCreds_addrs fun b hb => ⟨b, List.mem_of_mem_eraseP hb, rfl⟩)
    simp only [ocSecRemoveCred_eq]
    split
    · obtain ⟨_, _, _, hx⟩ := ocTlsRemoveTrustAnchor_only P (unlinkCred st c device) c
      rw [hx]
      exact ⟨hbase.of_same rfl rfl rfl rfl fun _ b hb => ⟨b, hb, rfl⟩, hclients, rfl⟩
    · exact ⟨hbase, hclients, rfl⟩

/-! ## Events -/

/-- The invariant of the machine. -/
structure SessionsOk (s : Sessions) : Prop where
  table : RoleTableOk s.st
  exact : ∀ p, (ocSecGetRoles s.st p).map AssertedRole.of = s.asserted p

theorem SessionsOk.wellFormed {s : Sessions} (h : SessionsOk s) : RolesWellFormed s where
  exact p _ := h.exact p.addr
  once := map_client_eq s.st.clients ▸ h.table.clients
  present r hr := h.table.entry_peer (List.mem_map_of_mem hr)
  notFreed r hr c hc := by
    rw [← rolesOf_of_mem (map_client_eq s.st.clients ▸ h.table.clients) r hr] at hc
    exact h.table.notFreed r.client c hc

theorem ocTlsGetPeer_some {endpoint : OcEndpoint} {p : OcTlsPeer}
    (h : ocTlsGetPeer st endpoint = some p) : p ∈ st.tlsPeers ∧ p.endpoint.device = endpoint.device := by
  have hc := List.find?_some h
  simp only [ocEndpointCompare, decide_eq_true_eq] at hc
  exact ⟨List.mem_of_find?_eq_some h, hc.2.1⟩

theorem isPeer_iff (st : SecState) (addr : Nat) : isPeer st addr = true ↔ addr ∈ st.tlsPeers.map (·.addr) := by
  simp [isPeer, List.mem_map]

theorem RoleTableOk.no_roles (h : RoleTableOk st) {addr : Nat} (hp : isPeer st addr = false) :
    ocSecGetRoles st addr = [] := by
  refine rolesOf_eq_nil fun hmem => ?_
  have := (isPeer_iff st addr).2 (h.entry_peer hmem)
  rw [hp] at this
  cases this

theorem eq_update {α : Type} {f g : Nat → α} {a : Nat} {v : α} (ha : f a = v) (h : ∀ p, p ≠ a → f p = g p) :
    ∀ p, f p = Function.update g a v p := by
  intro p
  by_cases hp : p = a
  · rw [hp, Function.update_self, ha]
  · rw [Function.update_of_ne hp, h p hp]

theorem SessionsOk.addPeer {s : Sessions} (h : SessionsOk s) {peer : OcTlsPeer} (hp : isPeer s.st peer.addr = false) :
    SessionsOk ⟨{ s.st with tlsPeers := s.st.tlsPeers ++ [peer] }, Function.update s.asserted peer.addr []⟩ := by
  have hnew : peer.addr ∉ s.st.tlsPeers.map (·.addr) := fun hmem => by
    rw [(isPeer_iff _ _).2 hmem] at hp
    cases hp
  refine ⟨⟨?_, h.table.clients, ?_, h.table.notFreed, h.table.nodup, h.table.distinct, h.table.creds⟩, fun p => ?_⟩
  · exact Search.nodup_append_new h.table.peers hnew
  · intro k hk
    obtain ⟨q, hq, hkq⟩ := h.table.present k hk
    exact ⟨q, List.mem_append_left _ hq, hkq⟩
  · refine eq_update ?_ (fun p _ => h.exact p) p
    exact congrArg (List.map AssertedRole.of) (h.table.no_roles hp)

theorem RoleTableOk.erasePeer (h : RoleTableOk st) {addr : Nat} (hno : addr ∉ (roleKeys st.clients).map (·.1)) :
    RoleTableOk { st with tlsPeers := st.tlsPeers.eraseP (·.addr == addr) } := by
  refine ⟨(List.eraseP_sublist.map _).nodup h.peers, h.clients, ?_, h.notFreed, h.nodup, h.distinct, h.creds⟩
  intro k hk
  obtain ⟨q, hq, ha, hdev⟩ := h.present k hk
  refine ⟨q, (List.mem_eraseP_of_neg ?_).2 hq, ha, hdev⟩
  intro heq
  rw [beq_iff_eq] at heq
  exact hno (List.mem_map.2 ⟨k, hk, by rw [← ha, heq]⟩)

theorem keys_freeRoles (h : RoleTableOk st) (addr : Nat) :
    addr ∉ (roleKeys (ocSecFreeRoles st addr).clients).map (·.1) := by
  unfold ocSecFreeRoles
  cases hf : getRolesForClient st addr with
  | none =>
    rw [← map_client_eq]
    intro hmem
    obtain ⟨r, hr, heq⟩ := List.mem_map.1 hmem
    exact List.find?_eq_none.1 hf r hr (by simpa using heq)
  | some r =>
    have hn : (st.clients.map (·.client)).Nodup := map_client_eq st.clients ▸ h.clients
    rw [← map_client_eq]
    intro hmem
    obtain ⟨x, hx, heq⟩ := List.mem_map.1 hmem
    exact Search.key_ne_of_mem_eraseP hn hx heq

end

theorem freeRoles_tlsPeers (st : SecState) (client : Nat) : (ocSecFreeRoles st client).tlsPeers = st.tlsPeers := by
  unfold ocSecFreeRoles
  split <;> rfl

theorem SessionsOk.freePeer {s : Sessions} (h : SessionsOk s) (addr : Nat) :
    SessionsOk ⟨ocTlsFreePeer s.st addr, Function.update s.asserted addr []⟩ := by
  have hst : ocTlsFreePeer s.st addr =
      { ocSecFreeRoles s.st addr with tlsPeers := s.st.tlsPeers.eraseP (·.addr == addr) } := by
    unfold ocTlsFreePeer ocSecFreeRoles getRolesForClient
    simp only
    split <;> rfl
  have hroles := getRoles_freeRoles h.table addr
  rw [hst]
  refine ⟨?_, fun p => ?_⟩
  · have := (h.table.freeRoles addr).erasePeer (keys_freeRoles h.table addr)
    rwa [freeRoles_tlsPeers] at this
  · refine eq_update (f := fun p => (ocSecGetRoles (ocSecFreeRoles s.st addr) p).map AssertedRole.of) ?_ (fun p hp => ?_) p
    · simp [hroles]
    · simp only [hroles, if_neg hp]
      exact h.exact p

theorem map_eraseP_credid {l : List OcSecCred} (hn : (l.map (·.addr)).Nodup) (credid : Int) :
    (match l.find? (fun c : OcSecCred => c.credid == credid) with
      | some r => l.eraseP (fun c : OcSecCred => c.addr == r.addr)
      | none => l).map AssertedRole.of =
    (l.map AssertedRole.of).eraseP (fun a : AssertedRole => a.credid == credid) := by
  induction l with
  | nil => rfl
  | cons x l ih =>
    rw [List.map_cons, List.nodup_cons] at hn
    by_cases hx : x.credid = credid
    · rw [List.find?_cons_of_pos (by simpa using hx), List.map_cons, List.eraseP_cons_of_pos (by simpa [AssertedRole.of] using hx)]
      simp
    · rw [List.find?_cons_of_neg (by simpa using hx), List.map_cons,
        List.eraseP_cons_of_neg (by simpa [AssertedRole.of] using hx), ← ih hn.2]
      cases hf : l.find? (·.credid == credid) with
      | none => rfl
      | some r =>
        have hne : x.addr ≠ r.addr := fun heq => hn.1 (heq ▸ List.mem_map_of_mem (List.mem_of_find?_eq_some hf))
        dsimp only
        rw [List.eraseP_cons_of_neg (by simpa using hne)]
        rfl

theorem SessionsOk.deleteRoles {s : Sessions} (h : SessionsOk s) (P : Platform) (credid : Option Int)
    (origin : OcEndpoint) : SessionsOk (sessionStep P s (.deleteRoles credid origin)) := by
  simp only [sessionStep, SmartGarage.deleteRoles]
  cases hp : ocTlsGetPeer s.st origin with
  | none => cases credid <;> exact ⟨h.table, h.exact⟩
  | some client =>
    cases credid with
    | none =>
      refine ⟨h.table.freeRoles client.addr, eq_update ?_ fun p hpc => ?_⟩
      · simp [getRoles_freeRoles h.table, recordDelete]
      · simp only [getRoles_freeRoles h.table, if_neg hpc]
        exact h.exact p
    | some credid =>
      simp only [recordDelete]
      by_cases hc : 0 ≤ credid
      · simp only [if_pos hc, ocSecFreeRoleByCredid]
        have herase := map_eraseP_credid (h.table.nodup client.addr) credid
        rw [h.exact] at herase
        cases hf : (ocSecGetRoles s.st client.addr).find? (·.credid == credid) with
        | none =>
          rw [hf, h.exact] at herase
          refine ⟨h.table, eq_update ?_ fun p _ => h.exact p⟩
          rw [← herase]
          exact h.exact client.addr
        | some r =>
          rw [hf] at herase
          refine ⟨h.table.freeRole r.addr client.addr, eq_update ?_ fun p hpc => ?_⟩
          · rw [getRoles_freeRole, if_pos rfl, ← herase]
          · rw [getRoles_freeRole, if_neg hpc]
            exact h.exact p
      · simp only [if_neg hc]
        exact ⟨h.table, eq_update (h.exact client.addr) fun p _ => h.exact p⟩

theorem decodeOp_noClient (P : Platform) (device : Nat) (d : Decoding) (op : CredOp) (ho : d.owner = none) :
    (decodeOp P device true none d op).2.owner = none ∧
    ∃ creds, (decodeOp P device true none d op).2.st = d.st.setCreds device { d.st.creds device with rowneruuid := creds } := by
  have hsame : d.st = d.st.setCreds device { d.st.creds device with rowneruuid := (d.st.creds device).rowneruuid } :=
    (setCreds_self d.st device).symm
  cases op with
  | rowneruuid v => exact ⟨ho, _, rfl⟩
  | entry item =>
    rcases decodeOp_entry_cases P device true none d item with heq | ⟨e, -, -, heq⟩
    · rw [heq]
      exact ⟨ho, _, hsame⟩
    · rw [heq, ocSecAddNewCred_noClient]
      exact ⟨ho, _, hsame⟩

theorem SessionsOk.postRoles {s : Sessions} (h : SessionsOk s) (P : Platform) (rep : List OcRep) (origin : OcEndpoint)
    (hd : origin.device < s.st.numDevices)
    (hs : (ocTlsGetPeer s.st origin).all (fun p =>
      allReached P origin.device true (some p) (entryStorable P p) ⟨s.st, none⟩ (credOps rep)) = true) :
    SessionsOk (sessionStep P s (.postRoles rep origin)) := by
  simp only [sessionStep, if_pos hd, SmartGarage.postRoles, ocSecDecodeCred, Bool.not_true, Bool.false_and,
    Bool.false_eq_true, reduceIte]
  cases hp : ocTlsGetPeer s.st origin with
  | none =>
    -- without a session nothing but the owner changes
    obtain ⟨hok, ho⟩ := decodeOps_keeps P origin.device true none ⟨s.st, none⟩
      (fun d => SessionsOk ⟨d.st, s.asserted⟩ ∧ d.owner = none)
      (fun d op hi => by
        obtain ⟨howner, uuid, hst⟩ := decodeOp_noClient P origin.device d op hi.2
        refine ⟨⟨?_, ?_⟩, howner⟩
        · rw [hst]
          exact hi.1.table.of_same rfl rfl rfl rfl (setCreds_addrs fun c hc => ⟨c, hc, rfl⟩)
        · rw [hst]
          exact hi.1.exact)
      (credOps rep) ⟨h, rfl⟩
    rcases hdec : decodeOps P origin.device true none ⟨s.st, none⟩ (credOps rep) with ⟨_ | _, d⟩
    · rw [hdec] at hok ho
      have hnone : d.owner = none := ho
      simp only [hnone]
      exact hok
    · rw [hdec] at hok
      exact hok
  | some client =>
    obtain ⟨hmem, hdev⟩ := ocTlsGetPeer_some hp
    have hok := decodeOps_ok P origin.device client hdev s.asserted (credOps rep) ⟨s.st, none⟩
      (s.asserted client.addr) ⟨h.table, hmem, hd, h.exact _, fun p _ => h.exact p⟩ (by rwa [hp] at hs)
    have hexact := eq_update hok.own hok.rest
    rcases hdec : decodeOps P origin.device true (some client) ⟨s.st, none⟩ (credOps rep) with ⟨_ | _, d⟩
    · rw [hdec] at hok hexact
      cases ho : d.owner with
      | none =>
        simp only [ho]
        exact ⟨hok.table, hexact⟩
      | some credid =>
        -- the owner credential of a refused payload goes again
        obtain ⟨htable, hclients, -⟩ := hok.table.removeCred P hok.device credid
        simp only [ho]
        refine ⟨htable, fun p => ?_⟩
        simp only [ocSecGetRoles_eq, hclients]
        exact hexact p
    · rw [hdec] at hok hexact
      exact ⟨hok.table, hexact⟩

theorem SessionsOk.handshake {s : Sessions} (h : SessionsOk s) (P : Platform) (addr : Nat) (uuid : OcUuid)
    (publicKey : OcString) (usesPskCred : Bool) :
    SessionsOk (sessionStep P s (.handshake addr uuid publicKey usesPskCred)) := by
  refine ⟨⟨?_, h.table.clients, ?_, h.table.notFreed, h.table.nodup, h.table.distinct, h.table.creds⟩, h.exact⟩
  · simp only [sessionStep, List.map_map]
    convert h.table.peers using 1
    refine List.map_congr_left fun p _ => ?_
    simp only [Function.comp_apply]
    split <;> rfl
  · intro k hk
    obtain ⟨q, hq, ha, hdev⟩ := h.table.present k hk
    refine ⟨_, List.mem_map_of_mem hq, ?_, ?_⟩
    · split
      · exact ha
      · exact ha
    · split
      · exact hdev
      · exact hdev

theorem SessionsOk.freeInvalidPeer {s : Sessions} (h : SessionsOk s) {addr : Nat}
    (hno : addr ∉ s.st.clients.map (·.client)) :
    SessionsOk ⟨ocTlsFreeInvalidPeer s.st addr, Function.update s.asserted addr []⟩ := by
  refine ⟨h.table.erasePeer (map_client_eq s.st.clients ▸ hno), eq_update ?_ fun p _ => h.exact p⟩
  have : ocSecGetRoles (ocTlsFreeInvalidPeer s.st addr) addr = [] := rolesOf_eq_nil hno
  rw [this]
  rfl

theorem RoleTableOk.foldl_freeRoles : ∀ (l : List OcSecRoles) {st : SecState}, RoleTableOk st →
    RoleTableOk (l.foldl (fun st r => ocSecFreeRoles st r.client) st) ∧
    ∀ p, ocSecGetRoles (l.foldl (fun st r => ocSecFreeRoles st r.client) st) p =
      if p ∈ l.map (·.client) then [] else ocSecGetRoles st p
  | [], _, h => ⟨h, fun p => by simp⟩
  | r :: l, st, h => by
    obtain ⟨htable, hroles⟩ := RoleTableOk.foldl_freeRoles l (h.freeRoles r.client)
    refine ⟨htable, fun p => ?_⟩
    rw [List.foldl_cons, hroles, getRoles_freeRoles h]
    by_cases hp : p = r.client <;> by_cases hl : p ∈ l.map (·.client) <;> simp [hp, hl]

theorem SessionsOk.freeRolesForDevice {s : Sessions} (h : SessionsOk s) (P : Platform) (device : Nat) :
    SessionsOk (sessionStep P s (.freeRolesForDevice device)) := by
  obtain ⟨htable, hroles⟩ := h.table.foldl_freeRoles (s.st.clients.filter (·.device == device))
  refine ⟨htable, fun p => ?_⟩
  have hp : ocSecGetRoles (ocSecFreeRolesForDevice s.st device) p = _ := hroles p
  simp only [sessionStep]
  rw [hp]
  by_cases hmem : p ∈ (s.st.clients.filter (·.device == device)).map (·.client)
  · -- an entry of the device belongs to a peer of the device
    obtain ⟨r, hr, rfl⟩ := List.mem_map.1 hmem
    obtain ⟨hr, hdev⟩ := List.mem_filter.1 hr
    obtain ⟨q, hq, ha, hd⟩ := h.table.present (r.client, r.device) (List.mem_map_of_mem hr)
    have hany : s.st.tlsPeers.any (fun q => q.addr == r.client && q.endpoint.device == device) = true :=
      List.any_eq_true.2 ⟨q, hq, by simpa [ha, hd] using hdev⟩
    rw [if_pos hmem, if_pos hany]
    rfl
  · rw [if_neg hmem]
    split
    · -- a peer of the device that has no entry of the device has none
      rename_i hany
      obtain ⟨q, hq, hqa⟩ := List.any_eq_true.1 hany
      simp only [Bool.and_eq_true, beq_iff_eq] at hqa
      rw [ocSecGetRoles_eq, rolesOf_eq_nil]
      · rfl
      · intro hp
        obtain ⟨r, hr, rfl⟩ := List.mem_map.1 hp
        obtain ⟨q', hq', ha', hd'⟩ := h.table.present (r.client, r.device) (List.mem_map_of_mem hr)
        have heq : q' = q := List.inj_on_of_nodup_map h.table.peers hq' hq (ha'.trans hqa.1.symm)
        refine hmem (List.mem_map.2 ⟨r, List.mem_filter.2 ⟨hr, ?_⟩, rfl⟩)
        simp only [beq_iff_eq]
        rw [← hqa.2, ← heq]
        exact hd'.symm
    · exact h.exact p

/-! ## Runs -/

/-- The steps that keep the role lists well-formed: no payload entry of a peer gets as far as a record
with private data that cannot be stored, and `oc_tls_free_invalid_peer` is not called for a peer with
an entry in `clients`. -/
def SessionGuard (P : Platform) (s : Sessions) : SessionEvent → Prop
  | .postRoles rep origin => (ocTlsGetPeer s.st origin).all (fun p =>
      allReached P origin.device true (some p) (entryStorable P p) ⟨s.st, none⟩ (credOps rep)) = true
  | .freeInvalidPeer addr => addr ∉ s.st.clients.map (·.client)
  | _ => True

theorem SessionsOk.step {P : Platform} {s : Sessions} (h : SessionsOk s) (e : SessionEvent) (hg : SessionGuard P s e) :
    SessionsOk (sessionStep P s e) := by
  cases e with
  | addPeer peer =>
    simp only [sessionStep]
    split
    · exact h
    · rename_i hp
      exact h.addPeer (Bool.eq_false_iff.2 hp)
  | handshake addr uuid publicKey usesPskCred => exact h.handshake P addr uuid publicKey usesPskCred
  | freePeer addr =>
    simp only [sessionStep]
    split
    · exact h.freePeer addr
    · exact h
  | freeInvalidPeer addr =>
    simp only [sessionStep]
    split
    · exact h.freeInvalidPeer hg
    · exact h
  | postRoles rep origin =>
    by_cases hd : origin.device < s.st.numDevices
    · exact h.postRoles P rep origin hd hg
    · simp only [sessionStep, if_neg hd]
      exact h
  | deleteRoles credid origin => exact h.deleteRoles P credid origin
  | freeRolesForDevice device => exact h.freeRolesForDevice P device

/-- Before the first session. -/
def Sessions.init (st : SecState) : Sessions :=
  ⟨{ st with tlsPeers := [], clients := [], liveRoles := [] }, fun _ => []⟩

theorem SessionsOk.init (st : SecState) : SessionsOk (Sessions.init st) :=
  ⟨⟨List.nodup_nil, List.nodup_nil, fun _ h => (List.not_mem_nil h).elim, fun _ _ h => (List.not_mem_nil h).elim,
    fun _ => List.nodup_nil, fun _ _ _ h => (List.not_mem_nil h).elim, fun _ _ _ _ => List.not_mem_nil⟩, fun _ => rfl⟩

/-- In every run of sessions, assertions and deletions whose steps meet the guard, the role lists are
those of the current sessions. -/
theorem sessions_wellFormed (P : Platform) (st : SecState) (events : List SessionEvent)
    (hg : Runs.Guarded (sessionStep P) (SessionGuard P) (Sessions.init st) events) :
    RolesWellFormed (Runs.runFrom (sessionStep P) (Sessions.init st) events) := by
  have hok : SessionsOk (Runs.runFrom (sessionStep P) (Sessions.init st) events) :=
    Runs.run_invariant (fun _ e h hstep => h.step e hstep) events (Sessions.init st) (SessionsOk.init st) hg
  exact hok.wellFormed

/-- A peer asserts its role, deletes it, asserts it again and goes. -/
theorem sessions_assert_delete :
    RolesWellFormed (Runs.runFrom (sessionStep (Platform.simple sampleMbedtls)) (Sessions.init (SecState.empty .rfnop))
      [.addPeer (sessionPeer [5]), .postRoles (roleRep credtypeCert []) sessionEndpoint,
        .deleteRoles none sessionEndpoint, .postRoles (roleRep credtypeCert []) sessionEndpoint, .freePeer 1]) := by
  refine sessions_wellFormed _ _ _ ⟨trivial, ?_, trivial, ?_, trivial, trivial⟩
  · show Option.all _ _ = true
    decide +kernel
  · show Option.all _ _ = true
    decide +kernel

/-- A role entry of the type PSK whose private data is no Base64 leaves a freed record in the list. -/
theorem sessions_freed_role :
    ¬RolesWellFormed (Runs.runFrom (sessionStep (Platform.simple sampleMbedtls)) (Sessions.init (SecState.empty .rfnop))
      [.addPeer (sessionPeer [5]),
        .postRoles (roleRep credtypePsk [.object (some (ascii "privatedata"))
          [.string (some (ascii "encoding")) (ascii "oic.sec.encoding.base64"),
            .string (some (ascii "data")) (ascii "abc")]]) sessionEndpoint]) := by
  intro h
  have hnot := h.notFreed
  revert hnot
  decide +kernel

end SmartGarage
