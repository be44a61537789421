/-
The lists of credentials that `oc_sec_add_new_cred` builds: ids and addresses are unique, no
certificate is there twice, and every record has what the constructor checks.
-/
import SmartGarage.Security.CredAtomic

namespace SmartGarage

/-! ## Reachable lists -/

/-- The states whose list of credentials `oc_sec_add_new_cred` has built, with removals and changes of the
flag `owner_cred` between its calls, and anything else that leaves the list alone. -/
inductive CredsReached (P : Platform) (device : Nat) : SecState → Prop
  | empty (st : SecState) : (st.creds device).creds = [] → CredsReached P device st
  | add {st : SecState} (client : Option OcTlsPeer) (a : CredArgs) : CredsReached P device st →
      -- a generated key pair has a private key
      (∀ kp, st.keypairs device = some kp → kp.privateKey ≠ []) →
      CredsReached P device (ocSecAddNewCred P st device false client a).2
  | remove {st : SecState} (credid : Int) : CredsReached P device st →
      CredsReached P device (ocSecRemoveCredByCredid P st credid device).2
  | ownerCred {st : SecState} (credid : Int) (value : Bool) : CredsReached P device st →
      CredsReached P device (setOwnerCred st credid device value)
  | other {st st' : SecState} : CredsReached P device st → (st'.creds device).creds = (st.creds device).creds →
      CredsReached P device st'

/-- What holds of every record that `oc_sec_add_new_cred` stores. -/
structure RecordOk (m : Mbedtls) (c : OcSecCred) : Prop where
  credid : c.credid ≠ -1
  privateEmpty : c.privatedata.data = [] → c.privatedata.encoding = .unsupported
  psk : c.credtype = credtypePsk → c.privatedata.encoding ≠ .base64
  identity : c.credusage = .identityCert → c.privatedata.data ≠ []
  publicEmpty : c.publicdata.data = [] → c.publicdata.encoding = .unsupported
  cert : c.credtype = credtypeCert → (ocCertsParsePublicKey m (some c.publicdata.data)).isSome
  roleCert : c.credusage = .roleCert → ∃ anchors x, ocCertsParseRoleCertificate m anchors (some c.publicdata.data) = some x

/-- The certificate of `d` is the one of `c`. -/
def SameCert (c d : OcSecCred) : Prop :=
  c.subjectuuid = d.subjectuuid ∧ c.credtype = d.credtype ∧ d.credtype = credtypeCert ∧ c.credusage = d.credusage ∧
  d.publicdata.data ≠ [] ∧ d.publicdata.data = c.publicdata.data

/-- The list of a device. -/
structure CredListOk (m : Mbedtls) (l : List OcSecCred) : Prop where
  addrs : (l.map (·.addr)).Nodup
  credids : (l.map (·.credid)).Nodup
  records : ∀ c ∈ l, RecordOk m c
  distinct : l.Pairwise fun c d => ¬SameCert c d

theorem CredListOk.sublist {m : Mbedtls} {l l' : List OcSecCred} (h : CredListOk m l) (hs : l'.Sublist l) :
    CredListOk m l' where
  addrs := h.addrs.sublist (hs.map _)
  credids := h.credids.sublist (hs.map _)
  records c hc := h.records c (hs.subset hc)
  distinct := h.distinct.sublist hs

theorem CredListOk.append {m : Mbedtls} {l : List OcSecCred} {c : OcSecCred} (h : CredListOk m l)
    (haddr : c.addr ∉ l.map (·.addr)) (hid : c.credid ∉ l.map (·.credid)) (hc : RecordOk m c)
    (hnew : ∀ d ∈ l, ¬SameCert d c) : CredListOk m (l ++ [c]) where
  addrs := Search.nodup_append_new h.addrs haddr
  credids := Search.nodup_append_new h.credids hid
  records x hx := by
    rcases List.mem_append.1 hx with hx | hx
    · exact h.records x hx
    · rw [List.mem_singleton.1 hx]
      exact hc
  distinct := by
    rw [List.pairwise_append]
    refine ⟨h.distinct, List.pairwise_singleton _ _, fun d hd x hx => ?_⟩
    rw [List.mem_singleton.1 hx]
    exact hnew d hd

/-! ## Adding to a list -/

/-- The scan comes to its end where no record has the id or the certificate. -/
theorem scanSubject_new_iff {a : CredArgs} {subject : OcUuid} {l : List OcSecCred}
    (hid : a.credid ∉ l.map (·.credid)) :
    scanSubject a subject l = .new ↔ ∀ c ∈ l, ¬(c.subjectuuid = subject ∧ c.credtype = a.credtype ∧
      a.credtype = credtypeCert ∧ c.credusage = a.credusage ∧ a.publicdata.getD [] ≠ [] ∧
      a.publicdata.getD [] = c.publicdata.data) := by
  induction l with
  | nil => simp [scanSubject]
  | cons c l ih =>
    simp only [List.map_cons, List.mem_cons, not_or] at hid
    have hne : ¬c.credid = a.credid := fun h => hid.1 h.symm
    rw [List.forall_mem_cons, ← ih hid.2, scanSubject]
    by_cases hsub : c.subjectuuid = subject ∧ c.credtype = a.credtype
    · rw [if_pos hsub, if_neg hne]
      by_cases hdup : a.credtype = credtypeCert ∧ c.credusage = a.credusage ∧ a.publicdata.getD [] ≠ [] ∧
          a.publicdata.getD [] = c.publicdata.data
      · rw [if_pos hdup]
        exact ⟨fun h => (nomatch h), fun h => absurd ⟨hsub.1, hsub.2, hdup⟩ h.1⟩
      · rw [if_neg hdup]
        exact ⟨fun h => ⟨fun hc => hdup hc.2.2, h⟩, fun h => h.2⟩
    · rw [if_neg hsub]
      exact ⟨fun h => ⟨fun hc => hsub ⟨hc.1, hc.2.1⟩, h⟩, fun h => h.2⟩

theorem argsPublicdata_empty (a : CredArgs) (h : (argsPublicdata a).data = []) :
    (argsPublicdata a).encoding = .unsupported := by
  unfold argsPublicdata at h ⊢
  split at h
  · cases h
  · rfl

theorem base64Loop_grows (len : Nat) : ∀ (l : OcString) (i : Nat) (v : UInt8) (out : OcString) {out' : OcString},
    base64Loop len i v out l = some out' → out.length ≤ out'.length
  | [], _, _, out, out', h => by
    cases h
    exact Nat.le_refl _
  | ch :: rest, i, v, out, out', h => by
    have step (i : Nat) (v : UInt8) (b : UInt8) (h : base64Loop len i v (out ++ [b]) rest = some out') :
        out.length ≤ out'.length := by
      have hlen := base64Loop_grows len rest i v (out ++ [b]) h
      rw [List.length_append] at hlen
      omega
    unfold base64Loop at h
    split at h
    · split at h
      · cases h
      · split at h
        · cases h
        · cases h
          exact Nat.le_refl _
    · split at h
      · cases h
      · split at h
        · exact base64Loop_grows len rest _ _ out h
        · split at h
          · exact step _ _ _ h
          · split at h <;> exact step _ _ _ h

theorem ocBase64Decode_ne_nil {s key : OcString} (hs : s ≠ []) (h : ocBase64Decode s = some key) : key ≠ [] := by
  unfold ocBase64Decode at h
  split at h
  · cases h
  · rename_i hlen
    match s, hs, hlen, h with
    | [_], _, hlen, _ => simp at hlen
    | [_, _], _, hlen, _ => simp at hlen
    | [_, _, _], _, hlen, _ => simp at hlen
    | x0 :: x1 :: x2 :: x3 :: l, _, _, h =>
      -- padding at the first two places is an error, and the second character completes a byte
      have h0 : 0 + 2 < (x0 :: x1 :: x2 :: x3 :: l).length := by simp
      have h1 : 0 + 1 + 2 < (x0 :: x1 :: x2 :: x3 :: l).length := by simp
      unfold base64Loop at h
      simp only [h0, reduceIte, Nat.zero_mod] at h
      split at h
      · cases h
      · split at h
        · cases h
        · unfold base64Loop at h
          simp only [h1, reduceIte] at h
          split at h
          · cases h
          · split at h
            · cases h
            · intro hnil
              subst hnil
              have hgrow := base64Loop_grows _ _ _ _ _ h
              simp at hgrow

section Add

variable {P : Platform} {st : SecState} {device : Nat} {a : CredArgs} {subject : OcUuid} {kp : Option OcEcdsaKeypair}

theorem argsPrivatedata_ok {d : OcCredData} (hp : argsPrivatedata a kp = some d)
    (hkp : ∀ k ∈ kp, k.privateKey ≠ []) :
    (d.data = [] → d.encoding = .unsupported ∧ kp = none ∧ a.privatedata = []) ∧
    (a.credtype = credtypePsk → d.encoding ≠ .base64) := by
  unfold argsPrivatedata at hp
  by_cases hdata : a.privatedata = []
  · simp only [hdata, ne_eq, not_true_eq_false, reduceIte] at hp
    cases kp with
    | none =>
      cases hp
      exact ⟨fun _ => ⟨rfl, rfl, hdata⟩, fun _ => by decide⟩
    | some k =>
      cases hp
      exact ⟨fun h => absurd h (hkp k rfl), fun _ => by simp⟩
  · simp only [hdata, ne_eq, not_false_eq_true, reduceIte] at hp
    split at hp
    · split at hp
      · cases hp
      · obtain ⟨k, hk, rfl⟩ := Option.map_eq_some_iff.1 hp
        exact ⟨fun h => absurd h (ocBase64Decode_ne_nil hdata hk), fun _ => by simp⟩
    · rename_i hpsk
      cases hp
      exact ⟨fun h => absurd h hdata, fun ht he => hpsk ⟨ht, he⟩⟩

theorem argsKeypair_cases {m : Mbedtls} {key : OcString} (h : argsKeypair m st device a key = some kp) :
    (∀ k ∈ kp, st.keypairs device = some k) ∧ (a.credusage = .identityCert → a.privatedata = [] → kp ≠ none) := by
  unfold argsKeypair at h
  split at h
  · split at h
    · cases h
    · rename_i k hk
      split at h
      · cases h
        exact ⟨fun x hx => by rw [hk, ← hx], fun _ _ => by simp⟩
      · cases h
  · rename_i hno
    cases h
    exact ⟨fun x hx => (nomatch hx), fun hu hp => absurd ⟨hu, hp⟩ hno⟩

theorem publicdata_of_parse {m : Mbedtls} {key : OcString} (h : ocCertsParsePublicKey m a.publicdata = some key) :
    ocCertsParsePublicKey m (some (argsPublicdata a).data) = some key := by
  rw [argsPublicdata_data]
  cases hp : a.publicdata with
  | none => rw [hp] at h; cases h
  | some buf => rwa [hp] at h

theorem publicdata_of_parseRole {m : Mbedtls} {anchors : List Crt} {x : List Crt × OcString × OcString}
    (h : ocCertsParseRoleCertificate m anchors a.publicdata = some x) :
    ocCertsParseRoleCertificate m anchors (some (argsPublicdata a).data) = some x := by
  rw [argsPublicdata_data]
  cases hp : a.publicdata with
  | none => rw [hp] at h; cases h
  | some buf => rwa [hp] at h

/-- The record that is stored behind the checks; `st` is the state of the checks, `st'` the one of the
allocation. -/
theorem storedCred_ok {st' : SecState} {key : OcString} {credid : Int} {d : OcCredData}
    (hkeys : ∀ k, st.keypairs device = some k → k.privateKey ≠ []) (hkey : argsPublicKey P.mbedtls a = some key)
    (hkp : argsKeypair P.mbedtls st device a key = some kp) (hr : credRejected P st' a kp = false)
    (hp : argsPrivatedata a kp = some d) (hid : credid ≠ -1) :
    RecordOk P.mbedtls (storedCred a credid d (newRecord P st' device a subject)) := by
  obtain ⟨hdev, hidentity⟩ := argsKeypair_cases hkp
  obtain ⟨hempty, hpsk⟩ := argsPrivatedata_ok hp fun k hk => hkeys k (hdev k hk)
  refine ⟨hid, fun h => (hempty h).1, hpsk, fun hu h => ?_, argsPublicdata_empty a, fun ht => ?_, fun hu => ?_⟩
  · exact hidentity hu (hempty h).2.2 (hempty h).2.1
  · have ht' : a.credtype = credtypeCert := ht
    have hparse : ocCertsParsePublicKey P.mbedtls a.publicdata = some key := by simpa [argsPublicKey, ht'] using hkey
    exact Option.isSome_iff_exists.2 ⟨key, publicdata_of_parse hparse⟩
  · have hu' : a.credusage = .roleCert := hu
    have hrole : (ocCertsParseRoleCertificate P.mbedtls (st'.trustAnchors.map (·.crt)) a.publicdata).isSome = true := by
      simp only [credRejected, hu', beq_self_eq_true, Bool.true_and, Bool.or_eq_false_iff] at hr
      simpa using hr.1
    obtain ⟨x, hx⟩ := Option.isSome_iff_exists.1 hrole
    exact ⟨_, x, publicdata_of_parseRole hx⟩

/-- What an addition leaves of a list: some of its records, perhaps with a new one behind them, whose address, id and
certificate none of them has. -/
inductive Added (m : Mbedtls) (keysGiven : Prop) (l : List OcSecCred) : List OcSecCred → Prop
  | kept {rest : List OcSecCred} : rest.Sublist l → Added m keysGiven l rest
  | stored {rest : List OcSecCred} {c : OcSecCred} : rest.Sublist l → c.addr ∉ rest.map (·.addr) →
    c.credid ∉ rest.map (·.credid) → c.credid ≠ -1 → (keysGiven → RecordOk m c) → (∀ d ∈ rest, ¬SameCert d c) →
    Added m keysGiven l (rest ++ [c])

theorem Added.of_sublist {m : Mbedtls} {keysGiven : Prop} {l l' l'' : List OcSecCred} (h : Added m keysGiven l' l'')
    (hs : l'.Sublist l) : Added m keysGiven l l'' := by
  cases h with
  | kept hrest => exact .kept (hrest.trans hs)
  | stored hrest haddr hid hne hrecord hnew => exact .stored (hrest.trans hs) haddr hid hne hrecord hnew

theorem CredListOk.added {m : Mbedtls} {keysGiven : Prop} {l l' : List OcSecCred} (h : CredListOk m l)
    (ha : Added m keysGiven l l') (hkeys : keysGiven) : CredListOk m l' := by
  cases ha with
  | kept hs => exact h.sublist hs
  | stored hs haddr hid _ hrecord hnew => exact (h.sublist hs).append haddr hid (hrecord hkeys) hnew

/-- The search for the subject and the allocation, for an id that is not in use. -/
theorem scan_added {st' : SecState} {key : OcString} (hkey : argsPublicKey P.mbedtls a = some key)
    (hkp : argsKeypair P.mbedtls st device a key = some kp) (hid : a.credid ∉ (st'.creds device).creds.map (·.credid)) :
    Added P.mbedtls (∀ k, st.keypairs device = some k → k.privateKey ≠ []) (st'.creds device).creds
      ((scanAndAllocate P st' device a subject kp).2.creds device).creds := by
  unfold scanAndAllocate
  cases hscan : scanSubject a subject (st'.creds device).creds with
  | duplicate credid => exact .kept (.refl _)
  | modify c => exact absurd (scanSubject_modify hscan) hid
  | new =>
    cases hr : credRejected P st' a kp with
    | true =>
      obtain ⟨st'', heq, hcreds⟩ := allocateNewCred_rejected device subject hr
      simp only [heq, hcreds]
      exact .kept (.refl _)
    | false =>
      obtain ⟨d, credid, st'', hp, hne, hnew, hcreds, heq⟩ := allocateNewCred_stored device subject hr
      simp only [heq, hcreds, setCreds_creds]
      refine .stored (.refl _) ?_ ?_ hne (fun hkeys => storedCred_ok hkeys hkey hkp hr hp hne) fun x hx hsame => ?_
      · intro hmem
        obtain ⟨x, hx, haddr⟩ := List.mem_map.1 hmem
        exact fresh_addr P st' device x hx haddr
      · rcases hnew with rfl | ⟨-, hnew⟩
        · exact hid
        · exact hnew
      · obtain ⟨hsub, htype, hcert, husage, hdata, heq⟩ := hsame
        have hdata' : (argsPublicdata a).data ≠ [] := hdata
        have heq' : (argsPublicdata a).data = x.publicdata.data := heq
        rw [argsPublicdata_data] at hdata' heq'
        exact (scanSubject_new_iff hid).1 hscan x hx ⟨hsub, htype, hcert, husage, hdata', heq'⟩

/-- `oc_sec_add_new_cred` for the device, whose addresses and ids are unique. -/
theorem ocSecAddNewCred_added (haddrs : ((st.creds device).creds.map (·.addr)).Nodup)
    (hcredids : ((st.creds device).creds.map (·.credid)).Nodup) (client : Option OcTlsPeer) :
    Added P.mbedtls (∀ k, st.keypairs device = some k → k.privateKey ≠ []) (st.creds device).creds
      ((ocSecAddNewCred P st device false client a).2.creds device).creds := by
  unfold ocSecAddNewCred
  cases hkey : argsPublicKey P.mbedtls a with
  | none => exact .kept (.refl _)
  | some key =>
    simp only [Bool.false_eq_true, reduceIte]
    cases hs : argsSubject a with
    | none => exact .kept (.refl _)
    | some subject =>
      cases hkp : argsKeypair P.mbedtls st device a key with
      | none => exact .kept (.refl _)
      | some kp =>
        simp only [addNewCred_eq]
        cases hget : ocSecGetCredByCredid st a.credid device with
        | none => exact scan_added hkey hkp (credid_notMem_of_none hget)
        | some c =>
          simp only
          split
          · exact .kept (.refl _)
          · have hc : c ∈ (st.creds device).creds := List.mem_of_find?_eq_some hget
            have hcid : c.credid = a.credid := by simpa using List.find?_some hget
            have hlist := (removeCred_list P st c device).1
            have hnew : a.credid ∉ ((ocSecRemoveCred P st c device).creds device).creds.map (·.credid) := fun hmem => by
              -- ids are unique, so none of the remaining records has this one
              obtain ⟨x, hx, hid⟩ := List.mem_map.1 hmem
              rw [hlist] at hx
              have heq : x = c := List.inj_on_of_nodup_map hcredids (List.mem_of_mem_eraseP hx) hc (hid.trans hcid.symm)
              exact Search.key_ne_of_mem_eraseP haddrs hx (congrArg OcSecCred.addr heq)
            refine (scan_added hkey hkp hnew).of_sublist ?_
            rw [hlist]
            exact List.eraseP_sublist

theorem CredListOk.add (h : CredListOk P.mbedtls (st.creds device).creds) (client : Option OcTlsPeer)
    (hkeys : ∀ k, st.keypairs device = some k → k.privateKey ≠ []) :
    CredListOk P.mbedtls ((ocSecAddNewCred P st device false client a).2.creds device).creds :=
  h.added (ocSecAddNewCred_added h.addrs h.credids client) hkeys

end Add

/-! ## The invariant of a list -/

theorem setOwnerCred_list (st : SecState) (credid : Int) (device : Nat) (value : Bool) :
    ((setOwnerCred st credid device value).creds device).creds =
      Search.modify (·.credid == credid) (fun c => { c with ownerCred := value }) (st.creds device).creds := by
  simp only [setOwnerCred, setCreds_creds]

theorem CredListOk.ownerCred {m : Mbedtls} {l : List OcSecCred} (h : CredListOk m l) (p : OcSecCred → Bool)
    (value : Bool) : CredListOk m (Search.modify p (fun c => { c with ownerCred := value }) l) where
  addrs := by
    rw [Search.map_modify (by intro c; rfl)]
    exact h.addrs
  credids := by
    rw [Search.map_modify (by intro c; rfl)]
    exact h.credids
  records c hc := by
    obtain ⟨x, hx, rfl | rfl⟩ := Search.mem_modify hc
    · exact h.records c hx
    · exact ⟨(h.records x hx).credid, (h.records x hx).privateEmpty, (h.records x hx).psk, (h.records x hx).identity,
        (h.records x hx).publicEmpty, (h.records x hx).cert, (h.records x hx).roleCert⟩
  distinct := by
    -- the relation only reads what the update keeps
    have hmap : ((Search.modify p (fun c => { c with ownerCred := value }) l).map fun c => { c with ownerCred := false }) =
        l.map fun c => { c with ownerCred := false } := Search.map_modify (by intro c; rfl) l
    have hkeep : ∀ l : List OcSecCred, (l.Pairwise fun c d => ¬SameCert c d) ↔
        ((l.map fun c => { c with ownerCred := false }).Pairwise fun c d => ¬SameCert c d) := by
      intro l
      rw [List.pairwise_map]
      rfl
    rw [hkeep, hmap, ← hkeep]
    exact h.distinct

theorem CredsReached.ok {P : Platform} {device : Nat} {st : SecState} (h : CredsReached P device st) :
    CredListOk P.mbedtls (st.creds device).creds := by
  induction h with
  | empty st hnil =>
    rw [hnil]
    exact ⟨by simp, by simp, fun c hc => (nomatch hc), .nil⟩
  | add client a _ hkeys ih => exact ih.add client hkeys
  | @remove st credid _ ih =>
    unfold ocSecRemoveCredByCredid
    split
    · rename_i c _
      rw [(removeCred_list P st c device).1]
      exact ih.sublist List.eraseP_sublist
    · exact ih
  | ownerCred credid value _ ih =>
    rw [setOwnerCred_list]
    exact ih.ownerCred _ value
  | other _ hsame ih =>
    rw [hsame]
    exact ih

end SmartGarage
