/-
What `oc_sec_add_new_cred` can do for the roles resource, once and for all: an assertion is refused
before anything changes, is a duplicate, is dropped after its record was allocated, leaves a new
record in the client's list, or leaves a record there that has been freed.
-/
import SmartGarage.Security.CredDecode

namespace SmartGarage

/-! ## Role lists -/

/-- The role list of a client in the list `clients`. -/
def rolesOf (clients : List OcSecRoles) (client : Nat) : List OcSecCred :=
  match clients.find? (·.client == client) with
  | some r => r.roles
  | none => []

theorem ocSecGetRoles_eq (st : SecState) (client : Nat) : ocSecGetRoles st client = rolesOf st.clients client := rfl

theorem rolesOf_cons (r : OcSecRoles) (l : List OcSecRoles) (client : Nat) :
    rolesOf (r :: l) client = if r.client = client then r.roles else rolesOf l client := by
  unfold rolesOf
  by_cases h : r.client = client <;> simp [h]

/-- The entries of `clients` without their roles. -/
def roleKeys (clients : List OcSecRoles) : List (Nat × Nat) := clients.map fun r => (r.client, r.device)

theorem updateRoles_keys (client : Nat) (f : List OcSecCred → List OcSecCred) : ∀ (l : List OcSecRoles),
    roleKeys (updateRoles l client f) = roleKeys l
  | [] => rfl
  | r :: l => by
    unfold updateRoles roleKeys
    split
    · rfl
    · rw [List.map_cons, List.map_cons]
      exact congrArg _ (updateRoles_keys client f l)

theorem map_client_eq (l : List OcSecRoles) : l.map (·.client) = (roleKeys l).map (·.1) := by
  simp [roleKeys]

theorem rolesOf_updateRoles_ne {client c : Nat} (f : List OcSecCred → List OcSecCred) (hne : c ≠ client) :
    ∀ (l : List OcSecRoles), rolesOf (updateRoles l client f) c = rolesOf l c
  | [] => rfl
  | r :: l => by
    unfold updateRoles
    split
    · rename_i h
      have : ¬r.client = c := fun h' => hne (h' ▸ h)
      rw [rolesOf_cons, rolesOf_cons, if_neg this, if_neg this]
    · rw [rolesOf_cons, rolesOf_cons, rolesOf_updateRoles_ne f hne l]

theorem rolesOf_updateRoles_self {client : Nat} (f : List OcSecCred → List OcSecCred) :
    ∀ (l : List OcSecRoles), client ∈ l.map (·.client) → rolesOf (updateRoles l client f) client = f (rolesOf l client)
  | [], h => nomatch h
  | r :: l, h => by
    unfold updateRoles
    by_cases hr : r.client = client
    · rw [if_pos hr, rolesOf_cons, rolesOf_cons, if_pos hr, if_pos hr]
    · have hl : client ∈ l.map (·.client) := (List.mem_cons.1 h).resolve_left (Ne.symm hr)
      rw [if_neg hr, rolesOf_cons, rolesOf_cons, if_neg hr, if_neg hr, rolesOf_updateRoles_self f l hl]

theorem updateRoles_comp (client : Nat) (f g : List OcSecCred → List OcSecCred) : ∀ (l : List OcSecRoles),
    updateRoles (updateRoles l client f) client g = updateRoles l client (g ∘ f)
  | [] => rfl
  | r :: l => by
    by_cases hr : r.client = client
    · simp [updateRoles, hr]
    · simp [updateRoles, hr, updateRoles_comp client f g l]

theorem updateRoles_congr {client : Nat} {f g : List OcSecCred → List OcSecCred} : ∀ (l : List OcSecRoles),
    f (rolesOf l client) = g (rolesOf l client) → updateRoles l client f = updateRoles l client g
  | [], _ => rfl
  | r :: l, h => by
    rw [rolesOf_cons] at h
    by_cases hr : r.client = client
    · rw [if_pos hr] at h
      simp [updateRoles, hr, h]
    · rw [if_neg hr] at h
      simp [updateRoles, hr, updateRoles_congr l h]

theorem updateRoles_id (client : Nat) : ∀ (l : List OcSecRoles), updateRoles l client id = l
  | [] => rfl
  | r :: l => by
    by_cases hr : r.client = client
    · rw [updateRoles, if_pos hr]; rfl
    · rw [updateRoles, if_neg hr, updateRoles_id client l]

/-- The list `clients` with an entry for the client. -/
def entered (clients : List OcSecRoles) (client device : Nat) : List OcSecRoles :=
  match clients.find? (·.client == client) with
  | some _ => clients
  | none => clients ++ [⟨client, device, []⟩]

theorem rolesOf_append_empty (clients : List OcSecRoles) (client device c : Nat) :
    rolesOf (clients ++ [⟨client, device, []⟩]) c = rolesOf clients c := by
  unfold rolesOf
  rw [List.find?_append]
  cases clients.find? (·.client == c) with
  | some r => rfl
  | none => by_cases h : client = c <;> simp [h]

@[simp] theorem rolesOf_entered (clients : List OcSecRoles) (client device c : Nat) :
    rolesOf (entered clients client device) c = rolesOf clients c := by
  unfold entered
  split
  · rfl
  · exact rolesOf_append_empty clients client device c

theorem mem_entered (clients : List OcSecRoles) (client device : Nat) :
    client ∈ (entered clients client device).map (·.client) := by
  unfold entered
  split
  · rename_i r h
    exact List.mem_map.2 ⟨r, List.mem_of_find?_eq_some h, by simpa using List.find?_some h⟩
  · simp

/-! ## The new record -/

/-- The block of a new role record. -/
def roleAddr (P : Platform) (st : SecState) (device : Nat) : Nat := P.alloc st.draws (st.blocks device)

section

variable (P : Platform) (st : SecState)

variable (device : Nat)

theorem roleAddr_notMem : roleAddr P st device ∉ st.blocks device :=
  P.alloc_notMem _ _

theorem roleAddr_notMem_liveCreds :
    roleAddr P st device ∉ st.liveCreds := fun h =>
  roleAddr_notMem P st device (by simp [SecState.blocks, h])

theorem roleAddr_ne_cred {d : Nat} (hd : d = device ∨ d < st.numDevices) :
    ∀ c ∈ (st.creds d).creds, c.addr ≠ roleAddr P st device := fun c hc h =>
  roleAddr_notMem P st device (by
    rw [← h]
    simp only [SecState.blocks, List.mem_append, List.mem_flatMap, List.mem_cons, List.mem_range, List.mem_map]
    exact .inl (.inr ⟨d, hd, c, hc, rfl⟩))

theorem roleAddr_ne_role :
    ∀ r ∈ st.clients, ∀ c ∈ r.roles, c.addr ≠ roleAddr P st device := fun r hr c hc h =>
  roleAddr_notMem P st device (by
    rw [← h]
    simp only [SecState.blocks, List.mem_append, List.mem_flatMap, List.mem_map]
    exact .inr ⟨r, hr, c, hc, rfl⟩)

/-- The id under which a new role is stored: the given one, or a new one if there is none or a role of
the client has it. The new record itself is in the list by then, with the id 0. -/
def assertedCredid (P : Platform) (st : SecState) (client : OcTlsPeer) (a : CredArgs) : Int :=
  let roles := ocSecGetRoles st client.addr
  if a.credid = -1 ∨ roles.any (·.credid == a.credid) then P.newId (st.draws + 1) (roles.map (·.credid) ++ [0])
  else a.credid

/-- The random values and blocks used for a new role. -/
def roleDraws (st : SecState) (client : OcTlsPeer) (a : CredArgs) : Nat :=
  if a.credid = -1 ∨ (ocSecGetRoles st client.addr).any (·.credid == a.credid) then st.draws + 2 else st.draws + 1

/-- The record of a new role before its data fields are set. -/
def roleRecord (P : Platform) (st : SecState) (device : Nat) (client : OcTlsPeer) (a : CredArgs)
    (chain : List Crt) (role authority : OcString) : OcSecCred :=
  { OcSecCred.zero (roleAddr P st device) with
    ctx := chain, role := role, authority := authority
    credid := assertedCredid P st client a, credtype := a.credtype }

/-- The client's list has one more record. -/
def appendRole (st : SecState) (device : Nat) (client : OcTlsPeer) (r : OcSecCred) : List OcSecRoles :=
  updateRoles (entered st.clients client.addr device) client.addr (· ++ [r])

theorem rolesOf_appendRole (st : SecState) (device : Nat) (client : OcTlsPeer) (r : OcSecCred) :
    rolesOf (appendRole st device client r) client.addr = rolesOf st.clients client.addr ++ [r] := by
  unfold appendRole
  rw [rolesOf_updateRoles_self _ _ (mem_entered _ _ _), rolesOf_entered]

theorem rolesOf_appendRole_ne (st : SecState) (device : Nat) (client : OcTlsPeer) (r : OcSecCred) {c : Nat}
    (hc : c ≠ client.addr) : rolesOf (appendRole st device client r) c = rolesOf st.clients c := by
  unfold appendRole
  rw [rolesOf_updateRoles_ne _ hc, rolesOf_entered]

/-- The checks that a role certificate has passed when its record is filled in. -/
structure RoleCertAccepted (P : Platform) (st : SecState) (client : OcTlsPeer) (a : CredArgs)
    (chain : List Crt) (role authority : OcString) : Prop where
  checks : ∃ key, argsPublicKey P.mbedtls a = some key ∧ roleChecks P client a key = true
  notDuplicate : ∀ r ∈ ocSecGetRoles st client.addr, r.publicdata.data ≠ a.publicdata.getD []
  parsed : ocCertsParseRoleCertificate P.mbedtls (st.trustAnchors.map (·.crt)) a.publicdata =
    some (chain, role, authority)
  assertion : checkRoleAssertion role = true

/-- The possible results of `oc_sec_add_new_cred` for the roles resource. -/
inductive RoleOutcome (P : Platform) (st : SecState) (device : Nat) (client : OcTlsPeer) (a : CredArgs) :
    Int × SecState → Prop
  /-- A check fails before anything has changed. -/
  | refused (checks : (argsPublicKey P.mbedtls a).any (roleChecks P client a) = false) :
      RoleOutcome P st device client a (-1, st)
  /-- The client has asserted the same certificate before. -/
  | duplicate (r : OcSecCred)
      (checks : ∃ key, argsPublicKey P.mbedtls a = some key ∧ roleChecks P client a key = true)
      (found : (ocSecGetRoles st client.addr).find? (·.publicdata.data == a.publicdata.getD []) = some r) :
      RoleOutcome P st device client a (r.credid, st)
  /-- The certificate is no acceptable role certificate: the allocated record is freed again. -/
  | dropped (rejected : ((ocCertsParseRoleCertificate P.mbedtls (st.trustAnchors.map (·.crt)) a.publicdata).any
        fun x => checkRoleAssertion x.2.1) = false) : RoleOutcome P st device client a
      (-1, { st with clients := entered st.clients client.addr device, draws := st.draws + 1 })
  /-- The role is in the list. -/
  | asserted (chain : List Crt) (role authority : OcString) (privatedata : OcCredData)
      (accepted : RoleCertAccepted P st client a chain role authority)
      (private_ok : argsPrivatedata a none = some privatedata) :
      RoleOutcome P st device client a (assertedCredid P st client a,
        { st with
          clients := appendRole st device client
            { roleRecord P st device client a chain role authority with
              privatedata := privatedata, publicdata := argsPublicdata a, credusage := a.credusage }
          liveRoles := roleAddr P st device :: st.liveRoles
          draws := roleDraws st client a })
  /-- The private data cannot be stored: the record is freed by `oc_sec_remove_cred`, which does not
  unlink it. -/
  | broken (chain : List Crt) (role authority : OcString)
      (accepted : RoleCertAccepted P st client a chain role authority)
      (private_bad : argsPrivatedata a none = none) :
      RoleOutcome P st device client a (-1,
        { st with
          clients := appendRole st device client
            { roleRecord P st device client a chain role authority with role := [], authority := [] }
          draws := roleDraws st client a })

/-! ## Each step of the constructor -/

theorem allocateRole_eq (client device : Nat) :
    ocSecAllocateRole P st client device = (roleAddr P st device,
      { st with
        clients := updateRoles (entered st.clients client device) client (· ++ [OcSecCred.zero (roleAddr P st device)])
        liveRoles := roleAddr P st device :: st.liveRoles
        draws := st.draws + 1 }) := rfl

/-- The records of the client's own list have other addresses than the new one. -/
theorem roleAddr_ne_own (device client : Nat) :
    ∀ c ∈ rolesOf st.clients client, c.addr ≠ roleAddr P st device := by
  intro c hc
  unfold rolesOf at hc
  split at hc
  · rename_i r hr
    exact roleAddr_ne_role P st device r (List.mem_of_find?_eq_some hr) c hc
  · cases hc

theorem eraseP_append_new {l : List OcSecCred} {r : OcSecCred} (h : ∀ c ∈ l, c.addr ≠ r.addr) :
    (l ++ [r]).eraseP (·.addr == r.addr) = l := by
  rw [List.eraseP_append_right _ (by simpa using h)]
  simp

theorem map_replace_append_new {l : List OcSecCred} {r r' : OcSecCred} (h : ∀ c ∈ l, c.addr ≠ r'.addr)
    (hr : r.addr = r'.addr) : (l ++ [r]).map (fun c => if c.addr = r'.addr then r' else c) = l ++ [r'] := by
  have hl : l.map (fun c => if c.addr = r'.addr then r' else c) = l := by
    conv_rhs => rw [← List.map_id l]
    exact List.map_congr_left fun c hc => if_neg (h c hc)
  rw [List.map_append, hl]
  simp [hr]

theorem freeRole_allocate (client device : Nat) :
    ocSecFreeRole (ocSecAllocateRole P st client device).2 (roleAddr P st device) client =
      { st with clients := entered st.clients client device, draws := st.draws + 1 } := by
  have hnew := roleAddr_ne_own P st device client
  have hroles : rolesOf (updateRoles (entered st.clients client device) client
      (· ++ [OcSecCred.zero (roleAddr P st device)])) client =
      rolesOf st.clients client ++ [OcSecCred.zero (roleAddr P st device)] := by
    rw [rolesOf_updateRoles_self _ _ (mem_entered _ _ _), rolesOf_entered]
  rw [allocateRole_eq]
  unfold ocSecFreeRole
  rw [ocSecGetRoles_eq]
  simp only [hroles]
  rw [if_pos (by simp [OcSecCred.zero])]
  congr 1
  · rw [updateRoles_comp]
    conv_rhs => rw [← updateRoles_id client (entered st.clients client device)]
    refine updateRoles_congr _ ?_
    rw [rolesOf_entered]
    exact eraseP_append_new (r := OcSecCred.zero (roleAddr P st device)) hnew
  · simp

theorem writeRole_allocate (client device n : Nat) (r : OcSecCred) (hr : r.addr = roleAddr P st device) :
    writeRole { (ocSecAllocateRole P st client device).2 with draws := n } client r =
      { st with
        clients := updateRoles (entered st.clients client device) client (· ++ [r])
        liveRoles := roleAddr P st device :: st.liveRoles
        draws := n } := by
  have hnew := roleAddr_ne_own P st device client
  rw [allocateRole_eq]
  unfold writeRole
  congr 1
  simp only
  rw [updateRoles_comp]
  refine updateRoles_congr _ ?_
  rw [rolesOf_entered]
  exact map_replace_append_new (fun c hc => by rw [hr]; exact hnew c hc) (by rw [hr]; rfl)

theorem map_clearRole_of_ne {addr : Nat} {l : List OcSecCred} (h : ∀ c ∈ l, c.addr ≠ addr) :
    l.map (clearRole addr) = l := by
  conv_rhs => rw [← List.map_id l]
  exact List.map_congr_left fun c hc => if_neg (h c hc)

theorem map_clearRole_update {addr : Nat} (client : Nat) (r : OcSecCred) (hr : r.addr = addr) : ∀ (l : List OcSecRoles),
    (∀ x ∈ l, ∀ c ∈ x.roles, c.addr ≠ addr) →
    (updateRoles l client (· ++ [r])).map (fun x => { x with roles := x.roles.map (clearRole addr) }) =
      updateRoles l client (· ++ [{ r with role := [], authority := [] }])
  | [], _ => rfl
  | x :: l, h => by
    have hx := map_clearRole_of_ne (h x List.mem_cons_self)
    have hrest := fun y hy => h y (List.mem_cons_of_mem _ hy)
    have hlr : l.map (fun x => { x with roles := x.roles.map (clearRole addr) }) = l := by
      conv_rhs => rw [← List.map_id l]
      refine List.map_congr_left fun y hy => ?_
      rw [map_clearRole_of_ne (hrest y hy)]
      rfl
    by_cases hc : x.client = client
    · rw [updateRoles, if_pos hc, updateRoles, if_pos hc, List.map_cons, hlr]
      simp only [List.map_append, hx, List.map_cons, List.map_nil, clearRole, hr, reduceIte]
    · rw [updateRoles, if_neg hc, updateRoles, if_neg hc, List.map_cons, map_clearRole_update client r hr l hrest]
      simp only [hx]

theorem roles_of_entered (clients : List OcSecRoles) (client device : Nat) :
    ∀ x ∈ entered clients client device, x ∈ clients ∨ x.roles = [] := by
  intro x hx
  unfold entered at hx
  split at hx
  · exact .inl hx
  · rcases List.mem_append.1 hx with h | h
    · exact .inl h
    · rw [List.mem_singleton] at h
      exact .inr (by rw [h])

theorem removeCred_newRole (client device n : Nat) (r : OcSecCred)
    (hr : r.addr = roleAddr P st device) (htype : r.credtype ≠ credtypeCert) :
    ocSecRemoveCred P
      { st with
        clients := updateRoles (entered st.clients client device) client (· ++ [r])
        liveRoles := roleAddr P st device :: st.liveRoles
        draws := n } r device =
      { st with
        clients := updateRoles (entered st.clients client device) client (· ++ [{ r with role := [], authority := [] }])
        draws := n } := by
  have hclients := map_clearRole_update client r hr (entered st.clients client device) fun x hx c hc => by
    rcases roles_of_entered _ _ _ x hx with h | h
    · exact roleAddr_ne_role P st device x h c hc
    · rw [h] at hc; cases hc
  have hcreds : (st.creds device).creds.eraseP (·.addr == roleAddr P st device) = (st.creds device).creds :=
    List.eraseP_of_forall_not fun c hc => by simpa using roleAddr_ne_cred P st device (.inl rfl) c hc
  unfold ocSecRemoveCred
  simp only [htype, false_and, reduceIte]
  rw [hr] at hclients ⊢
  rw [hclients, hcreds, List.erase_of_not_mem (roleAddr_notMem_liveCreds P st device), List.erase_cons_head]
  simp [SecState.setCreds]

theorem private_bad_psk {a : CredArgs} {kp : Option OcEcdsaKeypair} (h : argsPrivatedata a kp = none) :
    a.credtype = credtypePsk := by
  unfold argsPrivatedata at h
  split at h
  · split at h
    · rename_i hp; exact hp.1
    · cases h
  · split at h <;> cases h

/-! ## The outcome of an assertion -/

theorem finishRole_outcome (client : OcTlsPeer) (a : CredArgs)
    {chain : List Crt} {role authority : OcString} (acc : RoleCertAccepted P st client a chain role authority) :
    RoleOutcome P st device client a
      (finishRole P (ocSecAllocateRole P st client.addr device).2 device client a
        (if (ocSecGetRoles st client.addr).any (·.credid == a.credid) then -1 else a.credid)
        { OcSecCred.zero (roleAddr P st device) with ctx := chain, role := role, authority := authority }) := by
  have hroles : ocSecGetRoles (ocSecAllocateRole P st client.addr device).2 client.addr =
      ocSecGetRoles st client.addr ++ [OcSecCred.zero (roleAddr P st device)] := by
    rw [allocateRole_eq]
    simp only [ocSecGetRoles_eq]
    rw [rolesOf_updateRoles_self _ _ (mem_entered _ _ _), rolesOf_entered]
  -- the id and the draws, whichever way the id was chosen
  have hid : (if (if (ocSecGetRoles st client.addr).any (·.credid == a.credid) then (-1 : Int) else a.credid) = -1
      then getNewCredid P (ocSecAllocateRole P st client.addr device).2
        (ocSecGetRoles (ocSecAllocateRole P st client.addr device).2 client.addr)
      else (if (ocSecGetRoles st client.addr).any (·.credid == a.credid) then -1 else a.credid,
        (ocSecAllocateRole P st client.addr device).2)) =
      (assertedCredid P st client a,
        { (ocSecAllocateRole P st client.addr device).2 with draws := roleDraws st client a }) := by
    rw [hroles]
    unfold assertedCredid roleDraws getNewCredid
    by_cases hany : (ocSecGetRoles st client.addr).any (·.credid == a.credid) = true
    · simp [hany, allocateRole_eq, OcSecCred.zero]
    · by_cases hneg : a.credid = -1
      · simp [hneg, allocateRole_eq, OcSecCred.zero]
      · simp [hany, hneg, allocateRole_eq]
  unfold finishRole
  rw [hid]
  simp only
  cases hp : argsPrivatedata a none with
  | none =>
    have htype : a.credtype ≠ credtypeCert := by rw [private_bad_psk hp]; decide
    rw [writeRole_allocate P st client.addr device _ _ rfl,
      removeCred_newRole P st client.addr device _ _ rfl htype]
    exact .broken chain role authority acc hp
  | some privatedata =>
    dsimp only
    rw [writeRole_allocate P st client.addr device _ _ rfl]
    exact .asserted chain role authority privatedata acc hp

/-- Everything `oc_sec_add_new_cred` can do for the roles resource. -/
theorem ocSecAddNewCred_outcome (client : OcTlsPeer) (a : CredArgs) :
    RoleOutcome P st device client a (ocSecAddNewCred P st device true (some client) a) := by
  unfold ocSecAddNewCred
  cases hk : argsPublicKey P.mbedtls a with
  | none => exact .refused (by rw [hk]; rfl)
  | some key =>
    simp only [reduceIte]
    by_cases hc : roleChecks P client a key = true
    · rw [if_pos hc]
      unfold addNewRole
      simp only
      cases hf : (ocSecGetRoles st client.addr).find? (·.publicdata.data == a.publicdata.getD []) with
      | some r =>
        exact .duplicate r ⟨key, hk, hc⟩ hf
      | none =>
        simp only [allocateRole_eq]
        cases hp : ocCertsParseRoleCertificate P.mbedtls (st.trustAnchors.map (·.crt)) a.publicdata with
        | none =>
          have h := freeRole_allocate P st client.addr device
          rw [allocateRole_eq] at h
          simp only [h]
          exact .dropped (by rw [hp]; rfl)
        | some x =>
          obtain ⟨chain, role, authority⟩ := x
          by_cases ha : checkRoleAssertion role = true
          · have hacc : RoleCertAccepted P st client a chain role authority :=
              ⟨⟨key, hk, hc⟩, fun r hr => by simpa using (List.find?_eq_none.1 hf) r hr, hp, ha⟩
            have h := finishRole_outcome P st device client a hacc
            rw [allocateRole_eq] at h
            simpa [ha] using h
          · have h := freeRole_allocate P st client.addr device
            rw [allocateRole_eq] at h
            rw [Bool.not_eq_true] at ha
            simp only [h, ha, reduceIte]
            exact .dropped (by rw [hp]; exact ha)
    · rw [if_neg hc]
      exact .refused (by rw [hk]; exact Bool.eq_false_iff.2 hc)

end

/-! ## The id of an accepted assertion -/

/-- The assertion is accepted: its checks pass, and it repeats an asserted certificate or is an
acceptable role certificate with private data that can be stored. -/
def roleAccepted (P : Platform) (st : SecState) (client : OcTlsPeer) (a : CredArgs) : Bool :=
  (argsPublicKey P.mbedtls a).any (roleChecks P client a) &&
  ((ocSecGetRoles st client.addr).any (·.publicdata.data == a.publicdata.getD []) ||
    ((ocCertsParseRoleCertificate P.mbedtls (st.trustAnchors.map (·.crt)) a.publicdata).any fun x =>
      checkRoleAssertion x.2.1) && (argsPrivatedata a none).isSome)

/-- The id that an accepted assertion returns. -/
def roleCredid (P : Platform) (st : SecState) (client : OcTlsPeer) (a : CredArgs) : Int :=
  match (ocSecGetRoles st client.addr).find? (·.publicdata.data == a.publicdata.getD []) with
  | some r => r.credid
  | none => assertedCredid P st client a

theorem RoleOutcome.accepted {P : Platform} {st : SecState} {device : Nat} {client : OcTlsPeer} {a : CredArgs}
    {x : Int × SecState} (h : RoleOutcome P st device client a x) (hx : x.1 ≠ -1) :
    roleAccepted P st client a = true ∧ x.1 = roleCredid P st client a := by
  cases h with
  | refused => exact absurd rfl hx
  | dropped => exact absurd rfl hx
  | broken => exact absurd rfl hx
  | duplicate r checks found =>
    obtain ⟨key, hk, hc⟩ := checks
    have hany : (ocSecGetRoles st client.addr).any (·.publicdata.data == a.publicdata.getD []) = true := by
      rw [← List.isSome_find?, found]; rfl
    exact ⟨by simp [roleAccepted, hk, hc, hany], by simp [roleCredid, found]⟩
  | asserted chain role authority privatedata acc hp =>
    obtain ⟨key, hk, hc⟩ := acc.checks
    have hnone : (ocSecGetRoles st client.addr).find? (·.publicdata.data == a.publicdata.getD []) = none :=
      List.find?_eq_none.2 fun r hr => by simpa using acc.notDuplicate r hr
    exact ⟨by simp [roleAccepted, hk, hc, acc.parsed, acc.assertion, hp], by simp [roleCredid, hnone]⟩

/-! ## One entry of a payload -/

section DecodeOp

variable (P : Platform) (device : Nat) (rolesResource : Bool) (client : Option OcTlsPeer) (d : Decoding)

theorem decodeOp_none {item : List OcRep} (he : decodeEntry item = none) :
    decodeOp P device rolesResource client d (.entry item) = (false, d) := by
  simp only [decodeOp, he]

theorem decodeOp_nil : decodeOp P device rolesResource client d (.entry []) = (true, d) := rfl

theorem decodeOp_entry {item : List OcRep} {e : CredEntry} (he : decodeEntry item = some e) (hi : item ≠ []) :
    decodeOp P device rolesResource client d (.entry item) =
      let r := ocSecAddNewCred P d.st device rolesResource client e.args
      if r.1 = -1 then (false, { d with st := r.2 }) else (true, markOwner { d with st := r.2 } e r.1 device) := by
  simp only [decodeOp, he, hi, reduceIte]

/-- Everything that an entry can do: nothing, or it is added, and marked if that succeeds. -/
theorem decodeOp_entry_cases (item : List OcRep) :
    (decodeOp P device rolesResource client d (.entry item)).2 = d ∨
    ∃ e, decodeEntry item = some e ∧ item ≠ [] ∧ (decodeOp P device rolesResource client d (.entry item)).2 =
      let r := ocSecAddNewCred P d.st device rolesResource client e.args
      if r.1 = -1 then { d with st := r.2 } else markOwner { d with st := r.2 } e r.1 device := by
  cases he : decodeEntry item with
  | none => exact .inl (by rw [decodeOp_none _ _ _ _ _ he])
  | some e =>
    by_cases hi : item = []
    · subst hi
      exact .inl rfl
    · refine .inr ⟨e, rfl, hi, ?_⟩
      rw [decodeOp_entry _ _ _ _ _ he hi]
      dsimp only
      split <;> rfl

/-- Every operation the decoder comes to meets `q` in the state it is met in. -/
def allReached (q : SecState → CredOp → Bool) : Decoding → List CredOp → Bool
  | _, [] => true
  | d, op :: l => q d.st op &&
    match decodeOp P device rolesResource client d op with
    | (true, d') => allReached q d' l
    | (false, _) => true

/-- What each operation that meets `q` keeps holds after the decoder. -/
theorem decodeOps_invariant {q : SecState → CredOp → Bool} (Inv : Decoding → Prop)
    (hstep : ∀ d op, Inv d → q d.st op = true → Inv (decodeOp P device rolesResource client d op).2) :
    ∀ (l : List CredOp) (d : Decoding), Inv d → allReached P device rolesResource client q d l = true →
      Inv (decodeOps P device rolesResource client d l).2
  | [], _, hi, _ => hi
  | op :: l, d, hi, h => by
    unfold allReached at h
    rw [Bool.and_eq_true] at h
    have hop := hstep d op hi h.1
    unfold decodeOps
    rcases hd : decodeOp P device rolesResource client d op with ⟨_ | _, d'⟩
    · rw [hd] at hop
      exact hop
    · rw [hd] at hop h
      exact decodeOps_invariant Inv hstep l d' hop h.2

theorem allReached_true : ∀ (ops : List CredOp) (d : Decoding),
    allReached P device rolesResource client (fun _ _ => true) d ops = true
  | [], _ => rfl
  | op :: ops, d => by
    unfold allReached
    rcases decodeOp P device rolesResource client d op with ⟨_ | _, d'⟩
    · rfl
    · exact allReached_true ops d'

/-- What every operation keeps holds after the decoder. -/
theorem decodeOps_keeps (Inv : Decoding → Prop)
    (hstep : ∀ d op, Inv d → Inv (decodeOp P device rolesResource client d op).2) (l : List CredOp) (h : Inv d) :
    Inv (decodeOps P device rolesResource client d l).2 :=
  decodeOps_invariant P device rolesResource client Inv (fun d op hi _ => hstep d op hi) l d h
    (allReached_true P device rolesResource client l d)

end DecodeOp

end SmartGarage
