/-
The ids of ACEs and of credentials are unique over every sequence of operations, and removing by id leaves no entry
with the id and all others as they were.
-/
import SmartGarage.Security.AclList
import SmartGarage.Security.CredList

namespace SmartGarage

/-! ## Credentials -/

/-- The list of credentials of a device, as far as its keys go: addresses and ids are unique, and every id is given. -/
structure CredKeysOk (l : List OcSecCred) : Prop where
  addrs : (l.map (·.addr)).Nodup
  credids : (l.map (·.credid)).Nodup
  given : -1 ∉ l.map (·.credid)

theorem CredKeysOk.sublist {l l' : List OcSecCred} (h : CredKeysOk l) (hs : l'.Sublist l) : CredKeysOk l' where
  addrs := h.addrs.sublist (hs.map _)
  credids := h.credids.sublist (hs.map _)
  given hmem := h.given ((hs.map _).subset hmem)

theorem CredKeysOk.append {l : List OcSecCred} {c : OcSecCred} (h : CredKeysOk l) (haddr : c.addr ∉ l.map (·.addr))
    (hid : c.credid ∉ l.map (·.credid)) (hne : c.credid ≠ -1) : CredKeysOk (l ++ [c]) where
  addrs := Search.nodup_append_new h.addrs haddr
  credids := Search.nodup_append_new h.credids hid
  given hmem := by
    rw [List.map_append, List.mem_append] at hmem
    rcases hmem with hmem | hmem
    · exact h.given hmem
    · exact hne (List.mem_singleton.1 hmem).symm

theorem CredKeysOk.added {m : Mbedtls} {keysGiven : Prop} {l l' : List OcSecCred} (h : CredKeysOk l)
    (ha : Added m keysGiven l l') : CredKeysOk l' := by
  cases ha with
  | kept hs => exact h.sublist hs
  | stored hs haddr hid hne _ _ => exact (h.sublist hs).append haddr hid hne

section Add

variable {P : Platform} {st : SecState} {device : Nat}

theorem CredKeysOk.remove (h : CredKeysOk (st.creds device).creds) (c : OcSecCred) :
    CredKeysOk ((ocSecRemoveCred P st c device).creds device).creds := by
  rw [(removeCred_list P st c device).1]
  exact h.sublist List.eraseP_sublist

theorem CredKeysOk.removeByCredid (h : CredKeysOk (st.creds device).creds) (credid : Int) :
    CredKeysOk ((ocSecRemoveCredByCredid P st credid device).2.creds device).creds := by
  unfold ocSecRemoveCredByCredid
  split
  · exact h.remove _
  · exact h

/-- `oc_sec_add_new_cred` for the device or for the roles of a peer. -/
theorem CredKeysOk.add (h : CredKeysOk (st.creds device).creds) (rolesResource : Bool) (client : Option OcTlsPeer)
    (a : CredArgs) : CredKeysOk ((ocSecAddNewCred P st device rolesResource client a).2.creds device).creds := by
  cases rolesResource with
  | true =>
    cases client with
    | none =>
      rw [ocSecAddNewCred_noClient]
      exact h
    | some p =>
      rw [(ocSecAddNewCred_outcome P st device p a).onlyRoles.creds]
      exact h
  | false => exact h.added (ocSecAddNewCred_added h.addrs h.credids client)

theorem CredKeysOk.ownerCred (h : CredKeysOk (st.creds device).creds) (credid : Int) (value : Bool) :
    CredKeysOk ((setOwnerCred st credid device value).creds device).creds := by
  have haddr : ((setOwnerCred st credid device value).creds device).creds.map (·.addr) =
      (st.creds device).creds.map (·.addr) := by
    rw [setOwnerCred_list, Search.map_modify (by intro c; rfl)]
  have hcredid : ((setOwnerCred st credid device value).creds device).creds.map (·.credid) =
      (st.creds device).creds.map (·.credid) := by
    rw [setOwnerCred_list, Search.map_modify (by intro c; rfl)]
  exact ⟨by rw [haddr]; exact h.addrs, by rw [hcredid]; exact h.credids, by rw [hcredid]; exact h.given⟩

theorem CredKeysOk.decodeOp {d : Decoding} (h : CredKeysOk (d.st.creds device).creds) (rolesResource : Bool)
    (client : Option OcTlsPeer) (op : CredOp) :
    CredKeysOk ((decodeOp P device rolesResource client d op).2.st.creds device).creds := by
  cases op with
  | rowneruuid v =>
    rw [SmartGarage.decodeOp]
    simp only [setCreds_creds]
    exact h
  | entry item =>
    rcases decodeOp_entry_cases P device rolesResource client d item with heq | ⟨e, -, -, heq⟩
    · rw [heq]
      exact h
    · have hadd := h.add (P := P) rolesResource client e.args
      rw [heq]
      dsimp only
      split
      · exact hadd
      · unfold markOwner
        split
        · exact hadd
        · split
          · exact hadd.ownerCred _ _
          · exact hadd.ownerCred _ _

theorem CredKeysOk.decode (h : CredKeysOk (st.creds device).creds) (rep : List OcRep) (fromStorage rolesResource : Bool)
    (client : Option OcTlsPeer) :
    CredKeysOk ((ocSecDecodeCred P st rep fromStorage rolesResource client device).2.st.creds device).creds := by
  unfold ocSecDecodeCred
  split
  · exact h
  · exact decodeOps_keeps P device rolesResource client ⟨st, none⟩ (fun d => CredKeysOk (d.st.creds device).creds)
      (fun d op h => h.decodeOp rolesResource client op) _ h

theorem CredKeysOk.delete (h : CredKeysOk (st.creds device).creds) (credid : Option Int) :
    CredKeysOk ((deleteCred P st credid device).2.creds device).creds := by
  have hclear : ∀ (l : List OcSecCred) {st : SecState}, CredKeysOk (st.creds device).creds →
      CredKeysOk ((l.foldl (fun st c => ocSecRemoveCred P st c device) st).creds device).creds := by
    intro l
    induction l with
    | nil => exact fun h => h
    | cons c l ih => exact fun h => ih (h.remove c)
  unfold deleteCred
  split
  · exact h
  · split
    · next id =>
      have hremove := h.removeByCredid (P := P) id
      split
      · split
        · next hr => rwa [hr] at hremove
        · next hr => rwa [hr] at hremove
      · exact h
    · exact hclear _ h

end Add

/-- The states whose credentials have been built by the operations on credentials, with anything in between that
leaves them alone. -/
inductive CredOpsReached (P : Platform) (device : Nat) : SecState → Prop
  | empty (st : SecState) : (st.creds device).creds = [] → CredOpsReached P device st
  | add {st : SecState} (rolesResource : Bool) (client : Option OcTlsPeer) (a : CredArgs) :
      CredOpsReached P device st → CredOpsReached P device (ocSecAddNewCred P st device rolesResource client a).2
  | decode {st : SecState} (rep : List OcRep) (fromStorage rolesResource : Bool) (client : Option OcTlsPeer) :
      CredOpsReached P device st →
      CredOpsReached P device (ocSecDecodeCred P st rep fromStorage rolesResource client device).2.st
  | delete {st : SecState} (credid : Option Int) : CredOpsReached P device st →
      CredOpsReached P device (deleteCred P st credid device).2
  | other {st st' : SecState} : CredOpsReached P device st → st'.creds device = st.creds device →
      CredOpsReached P device st'

theorem CredOpsReached.ok {P : Platform} {device : Nat} {st : SecState} (h : CredOpsReached P device st) :
    CredKeysOk (st.creds device).creds := by
  induction h with
  | empty st hnil =>
    rw [hnil]
    exact ⟨List.nodup_nil, List.nodup_nil, List.not_mem_nil⟩
  | add rolesResource client a _ ih => exact ih.add rolesResource client a
  | decode rep fromStorage rolesResource client _ ih => exact ih.decode rep fromStorage rolesResource client
  | delete credid _ ih => exact ih.delete credid
  | other _ hsame ih =>
    rw [hsame]
    exact ih

/-! ## Removing by id -/

theorem ocAclRemoveAce_subjects {P : DevicePlatform} {st : SecState} {device : Nat}
    (h : AclOk P (st.aclist device).subjects) (aceid : Int) :
    (ocAclRemoveAce st aceid device).aclist device =
      { st.aclist device with subjects := (st.aclist device).subjects.filter (·.aceid != aceid) } := by
  rw [ocAclRemoveAce, setAcl_aclist, Search.eraseP_key_eq_filter h.aceids]

theorem ocSecRemoveCredByCredid_list {P : Platform} {st : SecState} {device : Nat}
    (h : CredKeysOk (st.creds device).creds) (credid : Int) :
    ((ocSecRemoveCredByCredid P st credid device).2.creds device).creds =
      (st.creds device).creds.filter (·.credid != credid) := by
  unfold ocSecRemoveCredByCredid
  cases hget : ocSecGetCredByCredid st credid device with
  | none =>
    refine (List.filter_eq_self.2 fun x hx => ?_).symm
    have hne := List.find?_eq_none.1 hget x hx
    simpa using hne
  | some c =>
    have hc : c ∈ (st.creds device).creds := List.mem_of_find?_eq_some hget
    have hcid : c.credid = credid := by simpa using List.find?_some hget
    simp only
    rw [(removeCred_list P st c device).1, Search.eraseP_key_eq_filter h.addrs]
    refine List.filter_congr fun x hx => ?_
    have hiff : x.addr = c.addr ↔ x.credid = credid := by
      constructor
      · intro heq
        rw [List.inj_on_of_nodup_map h.addrs hx hc heq, hcid]
      · intro heq
        rw [List.inj_on_of_nodup_map h.credids hx hc (heq.trans hcid.symm)]
    by_cases hx' : x.addr = c.addr
    · rw [bne_eq_false_iff_eq.2 hx', bne_eq_false_iff_eq.2 (hiff.1 hx')]
    · rw [bne_iff_ne.2 hx', bne_iff_ne.2 (mt hiff.2 hx')]

/-- No two entries of a list have the same id, and where `removed` removes an id, what is left is every entry with
another id, as it was. -/
structure IdsUnique {α : Type} (id : α → Int) (l : List α) (removed : Int → List α) : Prop where
  unique : (l.map id).Nodup
  gone : ∀ i, ∀ x ∈ removed i, id x ≠ i
  others : ∀ i, removed i = l.filter fun x => id x != i

theorem IdsUnique.of_filter {α : Type} {id : α → Int} {l : List α} {removed : Int → List α} (hn : (l.map id).Nodup)
    (h : ∀ i, removed i = l.filter fun x => id x != i) : IdsUnique id l removed :=
  ⟨hn, fun i x hx => by rw [h, List.mem_filter] at hx; exact bne_iff_ne.1 hx.2, h⟩

/-- The ids of the ACEs and of the credentials of a device, after every sequence of operations. -/
theorem identifiers_unique (P : DevicePlatform) (device : Nat) :
    (∀ st, AclReached P device st →
      IdsUnique (·.aceid) (st.aclist device).subjects fun aceid =>
        ((ocAclRemoveAce st aceid device).aclist device).subjects) ∧
    ∀ st, CredOpsReached P.toPlatform device st →
      IdsUnique (·.credid) (st.creds device).creds fun credid =>
        ((ocSecRemoveCredByCredid P.toPlatform st credid device).2.creds device).creds := by
  constructor
  · intro st h
    exact .of_filter h.ok.aceids fun aceid => by rw [ocAclRemoveAce_subjects h.ok]
  · intro st h
    exact .of_filter h.ok.credids fun credid => ocSecRemoveCredByCredid_list h.ok credid

/-- The default list, with the ACE for provisioning removed. -/
theorem identifiers_unique_default :
    ∀ ace ∈ ((ocAclRemoveAce (ocSecAclDefault (DevicePlatform.simple Mbedtls.rejecting 7) (.empty .rfotm) 0) 2 0).aclist
      0).subjects, ace.aceid ≠ 2 :=
  ((identifiers_unique (DevicePlatform.simple Mbedtls.rejecting 7) 0).1 _ (.default (.empty _ rfl))).gone 2

end SmartGarage
