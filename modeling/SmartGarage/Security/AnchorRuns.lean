/-
The trust anchors over whole runs of credentials being added and removed. Adding a trust anchor
parses what is not yet in the mbedTLS chain. Removing one clears the chain, and the refresh behind
it skips the credentials that `ca_certs` still records: the chain is only right again if there are
none of them.
-/
import SmartGarage.Lib.Run
import SmartGarage.Security.RoleFrame

namespace SmartGarage

/-! ## Chain and credentials -/

/-- The credential is in the list of a device. -/
def Present (st : SecState) (device : Nat) (c : OcSecCred) : Prop :=
  device < st.numDevices ∧ c ∈ (st.creds device).creds

/-- The chain `trust_anchors` has a node with the certificate. -/
def InChain (st : SecState) (crt : Crt) : Prop := ∃ node ∈ st.trustAnchors, node.crt = crt

/-- The certificates of a credential: what mbedTLS parses from its public data. -/
def credCerts (P : Platform) (c : OcSecCred) : List Crt := (P.mbedtls.crtParse c.publicdata.data).2

/-- The chain holds the certificates of the trust-anchor credentials of all devices and no others, and
every entry of `ca_certs` points into it. -/
structure AnchorsExact (P : Platform) (st : SecState) : Prop where
  exact : ∀ crt, InChain st crt ↔
    ∃ device c, Present st device c ∧ c.credtype = credtypeCert ∧ isAnchorUsage c.credusage = true ∧ crt ∈ credCerts P c
  refers : ∀ x ∈ st.caCerts, x.cert ∈ st.trustAnchors

/-- The credential lists: a record is in one list and once, ids are unique on a device, and a trust
anchor is a certificate. -/
structure CredsOk (st : SecState) : Prop where
  addrs : ∀ d < st.numDevices, ((st.creds d).creds.map (·.addr)).Nodup
  across : ∀ d c d' c', Present st d c → Present st d' c' → c.addr = c'.addr → d = d'
  credids : ∀ d < st.numDevices, ((st.creds d).creds.map (·.credid)).Nodup
  certs : ∀ d c, Present st d c → isAnchorUsage c.credusage = true → c.credtype = credtypeCert

theorem CredsOk.eq {st : SecState} (h : CredsOk st) {d d' : Nat} {c c' : OcSecCred} (hc : Present st d c)
    (hc' : Present st d' c') (ha : c.addr = c'.addr) : c = c' := by
  have hd := h.across d c d' c' hc hc' ha
  subst hd
  exact List.inj_on_of_nodup_map (h.addrs d hc.1) hc.2 hc'.2 ha

/-- What the refresh keeps: nothing foreign is in the chain, and `ca_certs` records credentials that
are there and whose certificates are in the chain. -/
structure TableOk (P : Platform) (st : SecState) : Prop where
  sound : ∀ node ∈ st.trustAnchors,
    ∃ d c, Present st d c ∧ isAnchorUsage c.credusage = true ∧ node.crt ∈ credCerts P c
  refers : ∀ x ∈ st.caCerts, x.cert ∈ st.trustAnchors
  known : ∀ x ∈ st.caCerts, ∃ d c, Present st d c ∧ c.addr = x.cred.addr ∧ isAnchorUsage c.credusage = true ∧
    ∀ crt ∈ credCerts P c, InChain st crt
  once : (st.caCerts.map (·.cred.addr)).Nodup

/-- The chain has the certificates of every trust anchor. -/
def Complete (P : Platform) (st : SecState) : Prop :=
  ∀ d c, Present st d c → isAnchorUsage c.credusage = true → ∀ crt ∈ credCerts P c, InChain st crt

/-- The invariant of the runs. -/
structure AnchorsOk (P : Platform) (st : SecState) : Prop where
  creds : CredsOk st
  table : TableOk P st
  complete : Complete P st

theorem AnchorsOk.exact {P : Platform} {st : SecState} (h : AnchorsOk P st) : AnchorsExact P st where
  exact crt := by
    refine ⟨?_, ?_⟩
    · rintro ⟨node, hnode, rfl⟩
      obtain ⟨d, c, hc, hu, hcrt⟩ := h.table.sound node hnode
      exact ⟨d, c, hc, h.creds.certs d c hc hu, hu, hcrt⟩
    · rintro ⟨d, c, hc, -, hu, hcrt⟩
      exact h.complete d c hc hu crt hcrt
  refers := h.table.refers

/-! ## The refresh -/

theorem appendNodes_eq (P : Platform) : ∀ (crts : List Crt) (n : Nat) (chain : List ChainNode),
    ∃ nodes, appendNodes P n chain crts = chain ++ nodes ∧ nodes.map (·.crt) = crts
  | [], _, chain => ⟨[], (List.append_nil chain).symm, rfl⟩
  | c :: l, n, chain => by
    obtain ⟨nodes, h, hmap⟩ := appendNodes_eq P l (n + 1)
      (chain ++ [⟨if chain = [] then 0 else P.alloc n (0 :: chain.map (·.addr)), c⟩])
    refine ⟨_ :: nodes, h.trans (List.append_assoc _ _ _), ?_⟩
    rw [List.map_cons, hmap]

theorem OnlyAnchors.present {st st' : SecState} (h : OnlyAnchors st st') (d : Nat) (c : OcSecCred) :
    Present st' d c ↔ Present st d c := by
  obtain ⟨_, _, _, rfl⟩ := h
  exact Iff.rfl

theorem OnlyAnchors.credsOk {st st' : SecState} (h : OnlyAnchors st st') (hc : CredsOk st) : CredsOk st' := by
  obtain ⟨_, _, _, rfl⟩ := h
  exact ⟨hc.addrs, hc.across, hc.credids, hc.certs⟩

/-- A part of the refresh: only the anchors change, the table stays right and the chain grows. -/
structure Refreshed (P : Platform) (st st' : SecState) : Prop where
  only : OnlyAnchors st st'
  table : TableOk P st'
  grows : ∀ crt, InChain st crt → InChain st' crt

theorem Refreshed.trans {P : Platform} {a b c : SecState} (h₁ : Refreshed P a b) (h₂ : Refreshed P b c) :
    Refreshed P a c :=
  ⟨h₁.only.trans h₂.only, h₂.table, fun crt h => h₂.grows crt (h₁.grows crt h)⟩

section Refresh

variable {P : Platform} {st : SecState}

/-- The nodes of a new trust anchor, and its entry if there is one. -/
theorem TableOk.add (h : TableOk P st) {d : Nat} {c : OcSecCred} (hp : Present st d c)
    (hu : isAnchorUsage c.credusage = true) (hnew : isKnownTrustAnchor st c = false) {nodes : List ChainNode}
    (hnodes : nodes.map (·.crt) = credCerts P c) (n : Nat) {entries : List OcX509Cacrt}
    (he : entries = [] ∨ ∃ node ∈ st.trustAnchors ++ nodes, entries = [⟨d, c, node⟩]) :
    TableOk P { st with trustAnchors := st.trustAnchors ++ nodes, caCerts := st.caCerts ++ entries, draws := n } := by
  have hcerts : ∀ crt ∈ credCerts P c, InChain { st with trustAnchors := st.trustAnchors ++ nodes } crt := by
    intro crt hcrt
    rw [← hnodes] at hcrt
    obtain ⟨node, hnode, hcrt⟩ := List.mem_map.1 hcrt
    exact ⟨node, List.mem_append_right _ hnode, hcrt⟩
  refine ⟨?_, ?_, ?_, ?_⟩
  · intro node hnode
    rcases List.mem_append.1 hnode with hnode | hnode
    · exact h.sound node hnode
    · exact ⟨d, c, hp, hu, hnodes ▸ List.mem_map_of_mem hnode⟩
  · intro x hx
    rcases List.mem_append.1 hx with hx | hx
    · exact List.mem_append_left _ (h.refers x hx)
    · rcases he with rfl | ⟨node, hnode, rfl⟩
      · cases hx
      · rw [List.mem_singleton] at hx
        subst hx
        exact hnode
  · intro x hx
    rcases List.mem_append.1 hx with hx | hx
    · obtain ⟨d', c', hp', ha, hu', hcrts⟩ := h.known x hx
      refine ⟨d', c', hp', ha, hu', fun crt hcrt => ?_⟩
      obtain ⟨node, hnode, hcrt⟩ := hcrts crt hcrt
      exact ⟨node, List.mem_append_left _ hnode, hcrt⟩
    · rcases he with rfl | ⟨node, hnode, rfl⟩
      · cases hx
      · rw [List.mem_singleton] at hx
        subst hx
        exact ⟨d, c, hp, rfl, hu, hcerts⟩
  · rcases he with rfl | ⟨node, hnode, rfl⟩
    · simpa using h.once
    · refine Search.nodup_append_new h.once fun hmem => ?_
      obtain ⟨x, hx, hxa⟩ := List.mem_map.1 hmem
      have hknown : isKnownTrustAnchor st c = true := List.any_eq_true.2 ⟨x, hx, by simpa using hxa⟩
      rw [hnew] at hknown
      cases hknown

/-- One round of the loop, after which the credential's certificates are in the chain. -/
theorem TableOk.refresh (h : TableOk P st) (hc : CredsOk st) {d : Nat} {c : OcSecCred} (hp : Present st d c) :
    Refreshed P st (refreshTrustAnchor P d st c) ∧
    (isAnchorUsage c.credusage = true → ∀ crt ∈ credCerts P c, InChain (refreshTrustAnchor P d st c) crt) := by
  unfold refreshTrustAnchor
  by_cases hu : isAnchorUsage c.credusage = true
  · rw [if_pos hu]
    by_cases hk : isKnownTrustAnchor st c = true
    · rw [if_pos hk]
      refine ⟨⟨.refl st, h, fun _ hin => hin⟩, fun _ => ?_⟩
      obtain ⟨x, hx, hxa⟩ := List.any_eq_true.1 hk
      obtain ⟨d', c', hp', ha, -, hcrts⟩ := h.known x hx
      have heq : c' = c := hc.eq hp' hp (ha.trans (by simpa using hxa))
      exact heq ▸ hcrts
    · rw [if_neg hk]
      have hnew := Bool.eq_false_iff.2 hk
      obtain ⟨nodes, happ, hnodes⟩ := appendNodes_eq P (credCerts P c) st.draws st.trustAnchors
      have hgrow : ∀ ca n, (∀ crt, InChain st crt →
            InChain { st with trustAnchors := st.trustAnchors ++ nodes, caCerts := ca, draws := n } crt) ∧
          (∀ crt ∈ credCerts P c,
            InChain { st with trustAnchors := st.trustAnchors ++ nodes, caCerts := ca, draws := n } crt) := by
        refine fun ca n => ⟨?_, fun crt hcrt => ?_⟩
        · rintro crt ⟨node, hnode, hcrt⟩
          exact ⟨node, List.mem_append_left _ hnode, hcrt⟩
        · rw [← hnodes] at hcrt
          obtain ⟨node, hnode, hcrt⟩ := List.mem_map.1 hcrt
          exact ⟨node, List.mem_append_right _ hnode, hcrt⟩
      -- without an entry the parsed certificates are in the chain all the same
      have hplain : ∀ n, Refreshed P st { st with trustAnchors := st.trustAnchors ++ nodes, draws := n } := fun n =>
        ⟨⟨_, _, _, rfl⟩, by simpa using h.add hp hu hnew hnodes n (.inl rfl), (hgrow _ _).1⟩
      unfold addNewTrustAnchor
      simp only
      change appendNodes P st.draws st.trustAnchors (P.mbedtls.crtParse c.publicdata.data).2 = _ at happ
      rw [happ]
      split
      · exact ⟨hplain _, fun _ => (hgrow _ _).2⟩
      · split
        · exact ⟨hplain _, fun _ => (hgrow _ _).2⟩
        · rename_i node hlast
          refine ⟨⟨⟨_, _, _, rfl⟩, ?_, (hgrow _ _).1⟩, fun _ => (hgrow _ _).2⟩
          exact h.add hp hu hnew hnodes _ (.inr ⟨node, List.mem_of_getLast? hlast, rfl⟩)
  · rw [if_neg hu]
    exact ⟨⟨.refl st, h, fun _ hin => hin⟩, fun hu' => absurd hu' hu⟩

theorem TableOk.refreshCreds {d : Nat} : ∀ (l : List OcSecCred) {st : SecState}, TableOk P st → CredsOk st →
    (∀ c ∈ l, Present st d c) → Refreshed P st (l.foldl (refreshTrustAnchor P d) st) ∧
    ∀ c ∈ l, isAnchorUsage c.credusage = true → ∀ crt ∈ credCerts P c,
      InChain (l.foldl (refreshTrustAnchor P d) st) crt
  | [], st, h, _, _ => ⟨⟨.refl st, h, fun _ hin => hin⟩, fun _ hc => (List.not_mem_nil hc).elim⟩
  | c :: l, st, h, hc, hl => by
    obtain ⟨hone, hcerts⟩ := h.refresh hc (hl c List.mem_cons_self)
    obtain ⟨hrest, hall⟩ := TableOk.refreshCreds l hone.table (hone.only.credsOk hc) fun x hx =>
      (hone.only.present d x).2 (hl x (List.mem_cons_of_mem _ hx))
    refine ⟨hone.trans hrest, fun x hx hu crt hcrt => ?_⟩
    rcases List.mem_cons.1 hx with rfl | hx
    · exact hrest.grows crt (hcerts hu crt hcrt)
    · exact hall x hx hu crt hcrt

theorem TableOk.refreshDevices : ∀ (l : List Nat) {st : SecState}, TableOk P st → CredsOk st →
    (∀ d ∈ l, d < st.numDevices) →
    Refreshed P st (l.foldl (fun st d => (st.creds d).creds.foldl (refreshTrustAnchor P d) st) st) ∧
    ∀ d ∈ l, ∀ c, Present st d c → isAnchorUsage c.credusage = true → ∀ crt ∈ credCerts P c,
      InChain (l.foldl (fun st d => (st.creds d).creds.foldl (refreshTrustAnchor P d) st) st) crt
  | [], st, h, _, _ => ⟨⟨.refl st, h, fun _ hin => hin⟩, fun _ hd => (List.not_mem_nil hd).elim⟩
  | d :: l, st, h, hc, hl => by
    obtain ⟨hone, hcerts⟩ := h.refreshCreds (d := d) (st.creds d).creds hc fun c hcd => ⟨hl d List.mem_cons_self, hcd⟩
    obtain ⟨hrest, hall⟩ := TableOk.refreshDevices l hone.table (hone.only.credsOk hc) fun x hx => by
      obtain ⟨_, _, _, heq⟩ := hone.only
      rw [heq]
      exact hl x (List.mem_cons_of_mem _ hx)
    refine ⟨hone.trans hrest, fun x hx c hp hu crt hcrt => ?_⟩
    rcases List.mem_cons.1 hx with rfl | hx
    · exact hrest.grows crt (hcerts c hp.2 hu crt hcrt)
    · exact hall x hx c ((hone.only.present x c).2 hp) hu crt hcrt

/-- After the refresh the chain has the certificates of all trust anchors. -/
theorem TableOk.refreshed (h : TableOk P st) (hc : CredsOk st) : AnchorsOk P (ocTlsRefreshTrustAnchors P st) := by
  obtain ⟨href, hall⟩ := h.refreshDevices (List.range st.numDevices) hc fun d hd => List.mem_range.1 hd
  refine ⟨href.only.credsOk hc, href.table, fun d c hp hu crt hcrt => ?_⟩
  have hp' : Present st d c := (href.only.present d c).1 hp
  exact hall d (List.mem_range.2 hp'.1) c hp' hu crt hcrt

end Refresh

/-! ## Removing a credential -/

section Remove

variable {P : Platform} {st : SecState} {device : Nat} {c : OcSecCred}

theorem CredsOk.present_unlink (h : CredsOk st) (hp : Present st device c) (d : Nat) (x : OcSecCred) :
    Present (unlinkCred st c device) d x ↔ Present st d x ∧ x.addr ≠ c.addr := by
  unfold Present
  rw [unlinkCred_creds]
  split
  · rename_i hd
    subst hd
    rw [Search.mem_eraseP_key (h.addrs d hp.1), and_assoc]
    rfl
  · rename_i hd
    refine ⟨fun hx => ⟨hx, fun ha => ?_⟩, And.left⟩
    exact hd (h.across d x device c hx hp ha)

theorem CredsOk.unlink (h : CredsOk st) (hp : Present st device c) : CredsOk (unlinkCred st c device) := by
  have hsub : ∀ d, ((unlinkCred st c device).creds d).creds.Sublist (st.creds d).creds := by
    intro d
    rw [unlinkCred_creds]
    split
    · rename_i hd
      subst hd
      exact List.eraseP_sublist
    · exact List.Sublist.refl _
  have hpres : ∀ d x, Present (unlinkCred st c device) d x → Present st d x := fun d x hx =>
    ((h.present_unlink hp d x).1 hx).1
  exact ⟨fun d hd => ((hsub d).map _).nodup (h.addrs d hd),
    fun d x d' x' hx hx' => h.across d x d' x' (hpres d x hx) (hpres d' x' hx'),
    fun d hd => ((hsub d).map _).nodup (h.credids d hd), fun d x hx => h.certs d x (hpres d x hx)⟩

/-- No entry of `ca_certs` belongs to another credential than this one, if it is a trust anchor. -/
def lastAnchor (st : SecState) (c : OcSecCred) : Bool :=
  !isAnchorUsage c.credusage || st.caCerts.all (·.cred.addr == c.addr)

theorem AnchorsOk.remove (h : AnchorsOk P st) (hp : Present st device c) (hlast : lastAnchor st c = true) :
    AnchorsOk P (ocSecRemoveCred P st c device) := by
  have hcreds := h.creds.unlink hp
  rw [ocSecRemoveCred_eq]
  by_cases hu : isAnchorUsage c.credusage = true
  · -- the only entry goes, and everything that is left is parsed anew
    have hall : ∀ x ∈ st.caCerts, x.cred.addr = c.addr := by simpa [lastAnchor, hu] using hlast
    have hnil : st.caCerts.eraseP (·.cred.addr == c.addr) = [] := by
      refine List.eq_nil_iff_forall_not_mem.2 fun x hx => ?_
      exact Search.key_ne_of_mem_eraseP h.table.once hx (hall x (List.mem_of_mem_eraseP hx))
    rw [if_pos ⟨h.creds.certs device c hp hu, hu⟩]
    have hempty : TableOk P { unlinkCred st c device with
        caCerts := (unlinkCred st c device).caCerts.eraseP (·.cred.addr == c.addr), trustAnchors := [] } := by
      have hca : (unlinkCred st c device).caCerts.eraseP (·.cred.addr == c.addr) = [] := hnil
      rw [hca]
      exact ⟨fun _ hn => (List.not_mem_nil hn).elim, fun _ hx => (List.not_mem_nil hx).elim,
        fun _ hx => (List.not_mem_nil hx).elim, List.nodup_nil⟩
    exact hempty.refreshed (OnlyAnchors.credsOk ⟨_, _, _, rfl⟩ hcreds)
  · -- the record has no certificate in the chain and no entry
    rw [if_neg fun hx => hu hx.2]
    have hstay : ∀ d x, Present st d x → isAnchorUsage x.credusage = true → Present (unlinkCred st c device) d x := by
      intro d x hx hxu
      refine (h.creds.present_unlink hp d x).2 ⟨hx, fun ha => hu ?_⟩
      rw [← h.creds.eq hx hp ha]
      exact hxu
    refine ⟨hcreds, ⟨?_, h.table.refers, ?_, h.table.once⟩, ?_⟩
    · intro node hnode
      obtain ⟨d, x, hx, hxu, hcrt⟩ := h.table.sound node hnode
      exact ⟨d, x, hstay d x hx hxu, hxu, hcrt⟩
    · intro e he
      obtain ⟨d, x, hx, ha, hxu, hcrts⟩ := h.table.known e he
      exact ⟨d, x, hstay d x hx hxu, ha, hxu, hcrts⟩
    · intro d x hx hxu crt hcrt
      exact h.complete d x ((h.creds.present_unlink hp d x).1 hx).1 hxu crt hcrt

end Remove

/-! ## Adding a credential -/

section Add

variable {P : Platform} {st : SecState} {device : Nat}

/-- Nothing that the trust anchors depend on has changed. -/
structure SameAnchors (st st' : SecState) : Prop where
  numDevices : st'.numDevices = st.numDevices
  creds : st'.creds = st.creds
  caCerts : st'.caCerts = st.caCerts
  trustAnchors : st'.trustAnchors = st.trustAnchors

theorem SameAnchors.inChain {st' : SecState} (hs : SameAnchors st st') (crt : Crt) : InChain st' crt ↔ InChain st crt := by
  unfold InChain
  rw [hs.trustAnchors]

theorem AnchorsOk.of_same {st' : SecState} (h : AnchorsOk P st) (hs : SameAnchors st st') : AnchorsOk P st' := by
  obtain ⟨hn, hc, hca, hta⟩ := hs
  have hp : ∀ d x, Present st' d x ↔ Present st d x := fun d x => by unfold Present; rw [hn, hc]
  have hin := SameAnchors.inChain ⟨hn, hc, hca, hta⟩
  refine ⟨⟨?_, ?_, ?_, ?_⟩, ⟨?_, ?_, ?_, ?_⟩, ?_⟩
  · rw [hn, hc]; exact h.creds.addrs
  · simp only [hp]; exact h.creds.across
  · rw [hn, hc]; exact h.creds.credids
  · simp only [hp]; exact h.creds.certs
  · simp only [hp, hta]; exact h.table.sound
  · rw [hca, hta]; exact h.table.refers
  · simp only [hp, hca, hin]; exact h.table.known
  · rw [hca]; exact h.table.once
  · unfold Complete; simp only [hp, hin]; exact h.complete

section Insert

variable {st' : SecState} {c : OcSecCred}

/-- The state with a record at the end of the list of a device. -/
abbrev withCred (st : SecState) (device : Nat) (c : OcSecCred) : SecState :=
  st.setCreds device { st.creds device with creds := (st.creds device).creds ++ [c] }

theorem SameAnchors.list_insert (hs : SameAnchors (withCred st device c) st') (d : Nat) :
    (st'.creds d).creds = if d = device then (st.creds device).creds ++ [c] else (st.creds d).creds := by
  rw [hs.creds]
  split
  · rename_i hd
    rw [hd, setCreds_creds]
  · rename_i hd
    rw [setCreds_creds_ne st _ hd]

theorem SameAnchors.present_insert (hs : SameAnchors (withCred st device c) st') (hd : device < st.numDevices) (d : Nat)
    (x : OcSecCred) : Present st' d x ↔ Present st d x ∨ d = device ∧ x = c := by
  have hn : st'.numDevices = st.numDevices := hs.numDevices
  unfold Present
  rw [hs.list_insert, hn]
  by_cases hd' : d = device
  · subst hd'
    simp [hd]
  · simp [hd']

theorem CredsOk.insert (h : CredsOk st) (hd : device < st.numDevices) (hs : SameAnchors (withCred st device c) st')
    (hfresh : ∀ d x, Present st d x → x.addr ≠ c.addr) (hid : c.credid ∉ (st.creds device).creds.map (·.credid))
    (hcert : isAnchorUsage c.credusage = true → c.credtype = credtypeCert) : CredsOk st' := by
  have hn : st'.numDevices = st.numDevices := hs.numDevices
  have hpres := hs.present_insert hd
  refine ⟨?_, ?_, ?_, ?_⟩
  · intro d hd'
    rw [hs.list_insert]
    split
    · refine Search.nodup_append_new (h.addrs device hd) fun hmem => ?_
      obtain ⟨x, hx, ha⟩ := List.mem_map.1 hmem
      exact hfresh device x ⟨hd, hx⟩ ha
    · exact h.addrs d (hn ▸ hd')
  · intro d x d' x' hx hx' ha
    rcases (hpres d x).1 hx with hx | ⟨rfl, rfl⟩ <;> rcases (hpres d' x').1 hx' with hx' | ⟨rfl, rfl⟩
    · exact h.across d x d' x' hx hx' ha
    · exact absurd ha (hfresh d x hx)
    · exact absurd ha.symm (hfresh d' x' hx')
    · rfl
  · intro d hd'
    rw [hs.list_insert]
    split
    · exact Search.nodup_append_new (h.credids device hd) hid
    · exact h.credids d (hn ▸ hd')
  · intro d x hx hu
    rcases (hpres d x).1 hx with hx | ⟨rfl, rfl⟩
    · exact h.certs d x hx hu
    · exact hcert hu

theorem TableOk.insert (h : TableOk P st) (hd : device < st.numDevices) (hs : SameAnchors (withCred st device c) st') :
    TableOk P st' := by
  have hpres := hs.present_insert hd
  have hta : st'.trustAnchors = st.trustAnchors := hs.trustAnchors
  have hca : st'.caCerts = st.caCerts := hs.caCerts
  refine ⟨?_, ?_, ?_, ?_⟩
  · intro node hnode
    rw [hta] at hnode
    obtain ⟨d, x, hx, hu, hcrt⟩ := h.sound node hnode
    exact ⟨d, x, (hpres d x).2 (.inl hx), hu, hcrt⟩
  · rw [hca, hta]
    exact h.refers
  · intro e he
    rw [hca] at he
    obtain ⟨d, x, hx, ha, hu, hcrts⟩ := h.known e he
    exact ⟨d, x, (hpres d x).2 (.inl hx), ha, hu, fun crt hcrt => (hs.inChain crt).2 (hcrts crt hcrt)⟩
  · rw [hca]
    exact h.once

theorem AnchorsOk.insert (h : AnchorsOk P st) (hd : device < st.numDevices) (hs : SameAnchors (withCred st device c) st')
    (hfresh : ∀ d x, Present st d x → x.addr ≠ c.addr) (hid : c.credid ∉ (st.creds device).creds.map (·.credid))
    (hcert : isAnchorUsage c.credusage = true → c.credtype = credtypeCert) :
    AnchorsOk P (if c.credtype = credtypeCert ∧ isAnchorUsage c.credusage = true then ocTlsRefreshTrustAnchors P st'
      else st') := by
  have hcreds := h.creds.insert hd hs hfresh hid hcert
  have htable := h.table.insert hd hs
  split
  · exact htable.refreshed hcreds
  · rename_i hnot
    refine ⟨hcreds, htable, fun d x hx hu crt hcrt => (hs.inChain crt).2 ?_⟩
    rcases (hs.present_insert hd d x).1 hx with hx | ⟨rfl, rfl⟩
    · exact h.complete d x hx hu crt hcrt
    · exact absurd ⟨hcert hu, hu⟩ hnot

end Insert

/-- What `oc_sec_add_new_cred` does from the allocation on: the record is dropped again, or it is at the
end of the device's list and the trust anchors are refreshed. -/
inductive CredOutcome (P : Platform) (st : SecState) (device : Nat) (a : CredArgs) : Int × SecState → Prop
  | dropped (st' : SecState) (same : SameAnchors st st') : CredOutcome P st device a (-1, st')
  | added (c : OcSecCred) (st' : SecState) (addr : c.addr = roleAddr P st device)
      (credtype : c.credtype = a.credtype) (credusage : c.credusage = a.credusage)
      (credid : c.credid = a.credid ∨ c.credid ∉ (st.creds device).creds.map (·.credid))
      (same : SameAnchors (withCred st device c) st') :
      CredOutcome P st device a (c.credid,
        if c.credtype = credtypeCert ∧ isAnchorUsage c.credusage = true then ocTlsRefreshTrustAnchors P st' else st')

/-- The state in which the new record is at the end of the list. -/
structure Allocated (P : Platform) (st : SecState) (device : Nat) (r : OcSecCred) (st' : SecState) : Prop where
  addr : r.addr = roleAddr P st device
  same : SameAnchors (withCred st device r) st'

theorem fresh_addr (P : Platform) (st : SecState) (device : Nat) :
    ∀ x ∈ (st.creds device).creds, x.addr ≠ roleAddr P st device := roleAddr_ne_cred P st device (.inl rfl)

/-- Removing the new record, if it is no trust anchor, undoes the allocation. -/
theorem Allocated.undo {r cred : OcSecCred} {st' : SecState} (h : Allocated P st device r st')
    (ha : cred.addr = r.addr) (hno : ¬(cred.credtype = credtypeCert ∧ isAnchorUsage cred.credusage = true)) :
    SameAnchors st (ocSecRemoveCred P st' cred device) := by
  rw [ocSecRemoveCred_eq, if_neg hno]
  refine ⟨h.same.numDevices, ?_, h.same.caCerts, h.same.trustAnchors⟩
  have herase : ((st.creds device).creds ++ [r]).eraseP (·.addr == cred.addr) = (st.creds device).creds := by
    rw [ha]
    exact eraseP_append_new fun c hc => by rw [h.addr]; exact fresh_addr P st device c hc
  have hdev : st'.creds device = { st.creds device with creds := (st.creds device).creds ++ [r] } := by
    rw [h.same.creds, setCreds_creds]
  funext d
  by_cases hd : d = device
  · subst hd
    simp only [unlinkCred, setCreds_creds, hdev, herase]
  · exact (setCreds_creds_ne st' _ hd).trans (by rw [h.same.creds, setCreds_creds_ne st _ hd])

theorem Allocated.write {r r' : OcSecCred} {st' : SecState} (h : Allocated P st device r st') (ha : r'.addr = r.addr) :
    SameAnchors (withCred st device r') (writeCred st' device r') := by
  refine ⟨h.same.numDevices, ?_, h.same.caCerts, h.same.trustAnchors⟩
  have hmap : ((st.creds device).creds ++ [r]).map (fun d => if d.addr = r'.addr then r' else d) =
      (st.creds device).creds ++ [r'] :=
    map_replace_append_new (fun c hc => by rw [ha, h.addr]; exact fresh_addr P st device c hc) ha.symm
  have hdev : st'.creds device = { st.creds device with creds := (st.creds device).creds ++ [r] } := by
    rw [h.same.creds, setCreds_creds]
  funext d
  by_cases hd : d = device
  · subst hd
    simp only [writeCred, setCreds_creds, hdev, hmap]
  · exact (setCreds_creds_ne st' _ hd).trans
      (by rw [h.same.creds, setCreds_creds_ne st _ hd, setCreds_creds_ne st _ hd])

theorem drawn_credid {a : CredArgs} {r : OcSecCred} {st' : SecState} (h : Allocated P st device r st') :
    ∃ credid n, credid ≠ -1 ∧
      (credid = a.credid ∨ a.credid = -1 ∧ credid ∉ (st.creds device).creds.map (·.credid)) ∧
      (if a.credid = -1 then getNewCredid P st' (st'.creds device).creds else (a.credid, st')) =
        (credid, { st' with draws := n }) ∧ Allocated P st device r { st' with draws := n } := by
  have hdev : (st'.creds device).creds = (st.creds device).creds ++ [r] := by rw [h.same.creds, setCreds_creds]
  have hdraws (n : Nat) : Allocated P st device r { st' with draws := n } :=
    ⟨h.addr, h.same.numDevices, h.same.creds, h.same.caCerts, h.same.trustAnchors⟩
  split
  · rename_i hid
    refine ⟨_, _, fun hneg => ?_, .inr ⟨hid, fun hmem => ?_⟩, rfl, hdraws _⟩
    · have hnonneg := P.newId_nonneg st'.draws ((st'.creds device).creds.map (·.credid))
      rw [hneg] at hnonneg
      exact absurd hnonneg (by decide)
    · refine P.newId_notMem st'.draws ((st'.creds device).creds.map (·.credid)) ?_
      rw [hdev, List.map_append] at *
      exact List.mem_append_left _ hmem
  · rename_i hid
    exact ⟨_, _, hid, .inl rfl, rfl, hdraws _⟩

section

variable {a : CredArgs} {kp : Option OcEcdsaKeypair}

theorem finishCred_none {r : OcSecCred} {st' : SecState}
    (h : Allocated P st device r st') (cred : OcSecCred) (ha : cred.addr = r.addr) (htype : cred.credtype = a.credtype)
    (hp : argsPrivatedata a kp = none) :
    ∃ st'', finishCred P st' device a kp cred = (-1, st'') ∧ SameAnchors st st'' := by
  obtain ⟨credid, n, -, -, hfin, h'⟩ := drawn_credid (a := a) h
  unfold finishCred
  rw [hfin]
  simp only [hp]
  refine ⟨_, rfl, h'.undo ha fun hx => ?_⟩
  have hpsk := private_bad_psk hp
  rw [← htype] at hpsk
  exact absurd (hpsk.symm.trans hx.1) (by decide)

/-- The record as it is stored: the allocated one, filled in from the arguments. -/
def storedCred (a : CredArgs) (credid : Int) (privatedata : OcCredData) (cred : OcSecCred) : OcSecCred :=
  { cred with
    credid := credid, privatedata := privatedata, role := (a.role.map cstr).getD cred.role
    authority := if a.role.isSome then (a.authority.map cstr).getD cred.authority else cred.authority
    publicdata := argsPublicdata a }

theorem finishCred_some {r : OcSecCred} {st' : SecState}
    {privatedata : OcCredData} (h : Allocated P st device r st') (cred : OcSecCred) (ha : cred.addr = r.addr)
    (hp : argsPrivatedata a kp = some privatedata) :
    ∃ credid st'', credid ≠ -1 ∧
      (credid = a.credid ∨ a.credid = -1 ∧ credid ∉ (st.creds device).creds.map (·.credid)) ∧
      SameAnchors (withCred st device (storedCred a credid privatedata cred)) st'' ∧
      finishCred P st' device a kp cred = (credid,
        if a.credtype = credtypeCert ∧ isAnchorUsage a.credusage = true then ocTlsRefreshTrustAnchors P st'' else st'') := by
  obtain ⟨credid, n, hne, hid, hfin, h'⟩ := drawn_credid (a := a) h
  refine ⟨credid, _, hne, hid, h'.write ha, ?_⟩
  unfold finishCred storedCred
  rw [hfin]
  simp only [hp]

theorem finishCred_outcome {r cred : OcSecCred} {st' : SecState}
    (h : Allocated P st device r st') (ha : cred.addr = r.addr) (htype : cred.credtype = a.credtype)
    (husage : cred.credusage = a.credusage) : CredOutcome P st device a (finishCred P st' device a kp cred) := by
  cases hp : argsPrivatedata a kp with
  | none =>
    obtain ⟨st'', heq, hsame⟩ := finishCred_none h cred ha htype hp
    rw [heq]
    exact .dropped st'' hsame
  | some privatedata =>
    obtain ⟨credid, st'', -, hid, hsame, heq⟩ := finishCred_some h cred ha hp
    rw [heq, ← htype, ← husage]
    exact CredOutcome.added (storedCred a credid privatedata cred) st'' (ha.trans h.addr) htype husage
      (hid.imp_right And.right) hsame

end

theorem allocateNewCred_outcome (P : Platform) (st : SecState) (device : Nat) (a : CredArgs) (subject : OcUuid)
    (kp : Option OcEcdsaKeypair) : CredOutcome P st device a (allocateNewCred P st device a subject kp) := by
  have h : Allocated P st device (ocSecAllocateCred P st subject a.credtype a.credusage device).1
      (ocSecAllocateCred P st subject a.credtype a.credusage device).2 := ⟨rfl, rfl, rfl, rfl, rfl⟩
  unfold allocateNewCred
  simp only
  split
  · rename_i hrole
    split
    · refine .dropped _ (h.undo rfl fun hx => ?_)
      have hu : isAnchorUsage a.credusage = true := hx.2
      rw [hrole] at hu
      cases hu
    · exact finishCred_outcome h rfl rfl rfl
  · exact finishCred_outcome h rfl rfl rfl

theorem AnchorsOk.allocate (h : AnchorsOk P st) (hd : device < st.numDevices) {a : CredArgs} (subject : OcUuid)
    (kp : Option OcEcdsaKeypair) (hcert : isAnchorUsage a.credusage = true → a.credtype = credtypeCert)
    (hid : a.credid ∉ (st.creds device).creds.map (·.credid)) :
    AnchorsOk P (allocateNewCred P st device a subject kp).2 := by
  have hout := allocateNewCred_outcome P st device a subject kp
  generalize allocateNewCred P st device a subject kp = x at hout ⊢
  cases hout with
  | dropped st' same => exact h.of_same same
  | added c st' addr credtype credusage credid same =>
    refine h.insert hd same ?_ ?_ ?_
    · intro d x hx
      rw [addr]
      exact roleAddr_ne_cred P st device (.inr hx.1) x hx.2
    · rcases credid with heq | hnot
      · rw [heq]; exact hid
      · exact hnot
    · rw [credtype, credusage]
      exact hcert

theorem scanSubject_modify {a : CredArgs} {subject : OcUuid} {c : OcSecCred} : ∀ {l : List OcSecCred},
    scanSubject a subject l = .modify c → a.credid ∈ l.map (·.credid)
  | x :: l, h => by
    unfold scanSubject at h
    split at h
    · split at h
      · rename_i hid
        exact List.mem_map.2 ⟨x, List.mem_cons_self, hid⟩
      · split at h
        · cases h
        · exact List.mem_cons_of_mem _ (scanSubject_modify h)
    · exact List.mem_cons_of_mem _ (scanSubject_modify h)

/-- The scan for the subject and the allocation, for an id that is not in use. -/
theorem AnchorsOk.scan (h : AnchorsOk P st) (hd : device < st.numDevices) {a : CredArgs} (subject : OcUuid)
    (kp : Option OcEcdsaKeypair) (hcert : isAnchorUsage a.credusage = true → a.credtype = credtypeCert)
    (hid : a.credid ∉ (st.creds device).creds.map (·.credid)) :
    AnchorsOk P (match scanSubject a subject (st.creds device).creds with
      | .duplicate credid => (credid, st)
      | .modify c => allocateNewCred P (ocSecRemoveCred P st c device) device a subject kp
      | .new => allocateNewCred P st device a subject kp).2 := by
  cases hs : scanSubject a subject (st.creds device).creds with
  | new => exact h.allocate hd subject kp hcert hid
  | modify c => exact absurd (scanSubject_modify hs) hid
  | duplicate credid => exact h

/-- The credential that is removed to make way for the new one: the one with its id, unless it is the
same or the arguments do not pass the checks. -/
def replacedCred (P : Platform) (st : SecState) (device : Nat) (a : CredArgs) : Option OcSecCred :=
  match argsPublicKey P.mbedtls a with
  | none => none
  | some key =>
    match argsSubject a, argsKeypair P.mbedtls st device a key with
    | some subject, some _ => (ocSecGetCredByCredid st a.credid device).filter fun c => !sameCred c a subject
    | _, _ => none

theorem removeCred_list (P : Platform) (st : SecState) (c : OcSecCred) (device : Nat) :
    ((ocSecRemoveCred P st c device).creds device).creds = (st.creds device).creds.eraseP (·.addr == c.addr) ∧
    (ocSecRemoveCred P st c device).numDevices = st.numDevices := by
  have hlist : ((unlinkCred st c device).creds device).creds = (st.creds device).creds.eraseP (·.addr == c.addr) := by
    rw [unlinkCred_creds, if_pos rfl]
  rw [ocSecRemoveCred_eq]
  split
  · obtain ⟨_, _, _, heq⟩ := ocTlsRemoveTrustAnchor_only P (unlinkCred st c device) c
    rw [heq]
    exact ⟨hlist, rfl⟩
  · exact ⟨hlist, rfl⟩

theorem AnchorsOk.addNewCred (h : AnchorsOk P st) (hd : device < st.numDevices) {a : CredArgs} (subject : OcUuid)
    (kp : Option OcEcdsaKeypair) (hcert : isAnchorUsage a.credusage = true → a.credtype = credtypeCert)
    (hlast : ((ocSecGetCredByCredid st a.credid device).filter fun c => !sameCred c a subject).all (lastAnchor st) = true) :
    AnchorsOk P (addNewCred P st device a subject kp).2 := by
  unfold SmartGarage.addNewCred
  cases hf : ocSecGetCredByCredid st a.credid device with
  | none =>
    refine h.scan hd subject kp hcert fun hmem => ?_
    obtain ⟨x, hx, hid⟩ := List.mem_map.1 hmem
    exact List.find?_eq_none.1 hf x hx (by simpa using hid)
  | some c =>
    simp only
    by_cases hsame : sameCred c a subject = true
    · rw [if_pos hsame]
      exact h
    · rw [if_neg hsame]
      have hp : Present st device c := ⟨hd, List.mem_of_find?_eq_some hf⟩
      have hcid : c.credid = a.credid := by simpa using List.find?_some hf
      have hrem : (ocSecRemoveCredByCredid P st a.credid device).2 = ocSecRemoveCred P st c device := by
        unfold ocSecRemoveCredByCredid
        rw [hf]
      obtain ⟨hlist, hnum⟩ := removeCred_list P st c device
      rw [hrem]
      have hok := h.remove hp (by simpa [hf, hsame] using hlast)
      -- ids are unique, so none of the remaining records has this one
      refine hok.scan (hnum ▸ hd) subject kp hcert fun hmem => ?_
      obtain ⟨x, hx, hid⟩ := List.mem_map.1 hmem
      rw [hlist] at hx
      have heq : x = c := List.inj_on_of_nodup_map (h.creds.credids device hd) (List.mem_of_mem_eraseP hx) hp.2
        (hid.trans hcid.symm)
      exact Search.key_ne_of_mem_eraseP (h.creds.addrs device hd) hx (congrArg OcSecCred.addr heq)

theorem AnchorsOk.add (h : AnchorsOk P st) (hd : device < st.numDevices) {a : CredArgs}
    (hcert : isAnchorUsage a.credusage = true → a.credtype = credtypeCert)
    (hlast : (replacedCred P st device a).all (lastAnchor st) = true) :
    AnchorsOk P (ocSecAddNewCred P st device false none a).2 := by
  unfold replacedCred at hlast
  unfold ocSecAddNewCred
  cases hk : argsPublicKey P.mbedtls a with
  | none => exact h
  | some key =>
    rw [hk] at hlast
    simp only [Bool.false_eq_true, reduceIte]
    cases hs : argsSubject a with
    | none => exact h
    | some subject =>
      cases hkp : argsKeypair P.mbedtls st device a key with
      | none => exact h
      | some kp => exact h.addNewCred hd subject kp hcert (by simpa only [hs, hkp] using hlast)

end Add

/-! ## Runs -/

/-- A credential is added to a device, or the one at an address of its list is removed. A credential
that is added as a trust anchor is a certificate. -/
inductive AnchorEvent
  | add (device : Nat) (a : CredArgs) (cert : isAnchorUsage a.credusage = true → a.credtype = credtypeCert)
  | remove (device addr : Nat)

/-- One event, on a device that exists. -/
def anchorStep (P : Platform) (st : SecState) : AnchorEvent → SecState
  | .add device a _ => if device < st.numDevices then (ocSecAddNewCred P st device false none a).2 else st
  | .remove device addr =>
    if device < st.numDevices then
      match (st.creds device).creds.find? (·.addr == addr) with
      | some c => ocSecRemoveCred P st c device
      | none => st
    else st

/-- The credential that the event removes. -/
def removedCred (P : Platform) (st : SecState) : AnchorEvent → Option OcSecCred
  | .add device a _ => replacedCred P st device a
  | .remove device addr => (st.creds device).creds.find? (·.addr == addr)

/-- A trust anchor is only removed when `ca_certs` records no other. -/
def AnchorGuard (P : Platform) (st : SecState) (e : AnchorEvent) : Prop :=
  (removedCred P st e).all (lastAnchor st) = true

theorem AnchorsOk.step {P : Platform} {st : SecState} (h : AnchorsOk P st) (e : AnchorEvent) (hg : AnchorGuard P st e) :
    AnchorsOk P (anchorStep P st e) := by
  cases e with
  | add device a cert =>
    simp only [anchorStep]
    split
    · rename_i hd
      exact h.add hd cert hg
    · exact h
  | remove device addr =>
    simp only [anchorStep]
    split
    · rename_i hd
      cases hf : (st.creds device).creds.find? (·.addr == addr) with
      | none => exact h
      | some c =>
        have hlast : lastAnchor st c = true := by simpa [AnchorGuard, removedCred, hf] using hg
        exact h.remove ⟨hd, List.mem_of_find?_eq_some hf⟩ hlast
    · exact h

/-- No credential has been stored yet. -/
def SecState.noCreds (st : SecState) : SecState :=
  { st with creds := fun d => ⟨[], (st.creds d).rowneruuid⟩, caCerts := [], trustAnchors := [] }

theorem AnchorsOk.noCreds (P : Platform) (st : SecState) : AnchorsOk P st.noCreds where
  creds := ⟨fun _ _ => List.nodup_nil, fun _ _ _ _ h => (List.not_mem_nil h.2).elim, fun _ _ => List.nodup_nil,
    fun _ _ h => (List.not_mem_nil h.2).elim⟩
  table := ⟨fun _ h => (List.not_mem_nil h).elim, fun _ h => (List.not_mem_nil h).elim,
    fun _ h => (List.not_mem_nil h).elim, List.nodup_nil⟩
  complete _ _ h := (List.not_mem_nil h.2).elim

/-- In every run in which no trust anchor is removed beside another, chain, `ca_certs` and credentials
agree. -/
theorem anchors_exact (P : Platform) (st : SecState) (events : List AnchorEvent)
    (hg : Runs.Guarded (anchorStep P) (AnchorGuard P) st.noCreds events) :
    AnchorsExact P (Runs.runFrom (anchorStep P) st.noCreds events) := by
  have hok : AnchorsOk P (Runs.runFrom (anchorStep P) st.noCreds events) :=
    Runs.run_invariant (fun _ e h hstep => h.step e hstep) events st.noCreds (AnchorsOk.noCreds P st) hg
  exact hok.exact

/-- The arguments for a trust anchor with the given id and certificate. -/
def anchorArgs (credid : Int) (cert : OcString) : CredArgs :=
  ⟨credid, credtypeCert, .trustca, some (ascii "*"), .unsupported, [], .pem, some cert, none, none⟩

/-- An mbedTLS that parses the buffers `A` and `B` to a certificate each. -/
def twoAnchors : Mbedtls :=
  ⟨fun buf => if buf = ascii "A" then (0, [{ sampleRoleCrt with raw := [1] }])
    else if buf = ascii "B" then (0, [{ sampleRoleCrt with raw := [2] }]) else (-8576, []), fun _ _ => true, 0⟩

/-- Two trust anchors, one after the other. -/
theorem anchors_one_by_one :
    AnchorsExact (Platform.simple twoAnchors) (Runs.runFrom (anchorStep (Platform.simple twoAnchors))
      (SecState.empty .rfpro).noCreds
      [.add 0 (anchorArgs 1 (ascii "A")) (fun _ => rfl), .remove 0 1, .add 0 (anchorArgs 2 (ascii "B")) (fun _ => rfl)]) := by
  refine anchors_exact _ _ _ ⟨?_, ?_, ?_, trivial⟩
  · show Option.all _ _ = true
    decide
  · show Option.all _ _ = true
    decide
  · show Option.all _ _ = true
    decide

/-- Two trust anchors are added and the first is removed: the second is no longer in the chain. -/
theorem anchors_removed_both :
    ¬AnchorsExact (Platform.simple twoAnchors) (Runs.runFrom (anchorStep (Platform.simple twoAnchors))
      (SecState.empty .rfpro).noCreds
      [.add 0 (anchorArgs 1 (ascii "A")) (fun _ => rfl), .add 0 (anchorArgs 2 (ascii "B")) (fun _ => rfl), .remove 0 1]) := by
  intro h
  have hrefers := h.refers
  revert hrefers
  decide

end SmartGarage
