/-
`oc_cred.c` and `oc_roles.c`: credentials and asserted roles, from the single constructor
`oc_sec_add_new_cred` that both share to the decoder and the handlers of `/oic/sec/cred` and
`/oic/sec/roles`.
-/
import SmartGarage.Api.Base64
import SmartGarage.Api.Rep
import SmartGarage.Security.TrustAnchors

namespace SmartGarage

/-! ## Lookup and removal -/

/-- The state with the credentials of `device` replaced. -/
def SecState.setCreds (st : SecState) (device : Nat) (creds : OcSecCreds) : SecState :=
  { st with creds := Function.update st.creds device creds }

@[simp] theorem setCreds_creds (st : SecState) (device : Nat) (creds : OcSecCreds) :
    (st.setCreds device creds).creds device = creds := Function.update_self ..

theorem setCreds_creds_ne (st : SecState) {device x : Nat} (creds : OcSecCreds) (h : x ≠ device) :
    (st.setCreds device creds).creds x = st.creds x := Function.update_of_ne h ..

/-- `oc_sec_get_cred_by_credid` -/
def ocSecGetCredByCredid (st : SecState) (credid : Int) (device : Nat) : Option OcSecCred :=
  (st.creds device).creds.find? (·.credid == credid)

/-- `get_new_credid` for a record in the list `l`, with the state that has used up a random value. -/
def getNewCredid (P : Platform) (st : SecState) (l : List OcSecCred) : Int × SecState :=
  (P.newId st.draws (l.map (·.credid)), { st with draws := st.draws + 1 })

/-- The role record at `addr` after `oc_free_string` on its role and authority. -/
def clearRole (addr : Nat) (r : OcSecCred) : OcSecCred :=
  if r.addr = addr then { r with role := [], authority := [] } else r

/-- `oc_sec_remove_cred`: the record is unlinked from the device's credentials, its strings and its
block are freed. A role record that is passed here stays linked in its client's list. -/
def ocSecRemoveCred (P : Platform) (st : SecState) (cred : OcSecCred) (device : Nat) : SecState :=
  let creds := st.creds device
  let st := { st.setCreds device { creds with creds := creds.creds.eraseP (·.addr == cred.addr) } with
    clients := st.clients.map fun r => { r with roles := r.roles.map (clearRole cred.addr) }
    liveCreds := st.liveCreds.erase cred.addr
    liveRoles := st.liveRoles.erase cred.addr }
  if cred.credtype = credtypeCert ∧ isAnchorUsage cred.credusage then ocTlsRemoveTrustAnchor P st cred else st

/-- The state between unlinking the record and freeing the trust anchor. -/
def unlinkCred (st : SecState) (cred : OcSecCred) (device : Nat) : SecState :=
  { st.setCreds device { st.creds device with creds := (st.creds device).creds.eraseP (·.addr == cred.addr) } with
    clients := st.clients.map fun r => { r with roles := r.roles.map (clearRole cred.addr) }
    liveCreds := st.liveCreds.erase cred.addr
    liveRoles := st.liveRoles.erase cred.addr }

theorem ocSecRemoveCred_eq (P : Platform) (st : SecState) (cred : OcSecCred) (device : Nat) :
    ocSecRemoveCred P st cred device =
      if cred.credtype = credtypeCert ∧ isAnchorUsage cred.credusage then
        ocTlsRemoveTrustAnchor P (unlinkCred st cred device) cred
      else unlinkCred st cred device := rfl

theorem unlinkCred_creds (st : SecState) (cred : OcSecCred) (device d : Nat) :
    ((unlinkCred st cred device).creds d).creds =
      if d = device then (st.creds device).creds.eraseP (·.addr == cred.addr) else (st.creds d).creds := by
  split
  · rename_i hd
    subst hd
    exact congrArg OcSecCreds.creds (setCreds_creds st d _)
  · rename_i hd
    exact congrArg OcSecCreds.creds (setCreds_creds_ne st _ hd)

/-- `oc_sec_remove_cred_by_credid` -/
def ocSecRemoveCredByCredid (P : Platform) (st : SecState) (credid : Int) (device : Nat) : Bool × SecState :=
  match ocSecGetCredByCredid st credid device with
  | some cred => (true, ocSecRemoveCred P st cred device)
  | none => (false, st)

/-! ## The arguments of the constructor and their checks -/

/-- The arguments of `oc_sec_add_new_cred`; `publicdata` is `none` for a null pointer. -/
structure CredArgs where
  credid : Int
  credtype : Int
  credusage : OcSecCredusage
  subjectuuid : Option OcString
  privatedataEncoding : OcSecEncoding
  privatedata : OcString
  publicdataEncoding : OcSecEncoding
  publicdata : Option OcString
  role : Option OcString
  authority : Option OcString
deriving DecidableEq

/-- The key whose bytes are compared: it is only extracted for the credential type `CERT`, otherwise
its length is 0. The result is `none` where `oc_certs_parse_public_key` fails. -/
def argsPublicKey (m : Mbedtls) (a : CredArgs) : Option OcString :=
  if a.credtype = credtypeCert then ocCertsParsePublicKey m a.publicdata else some []

/-- The `n` bytes of memory that end where the peer's public key ends. -/
def lastBytes (P : Platform) (key : OcString) (n : Nat) : OcString :=
  ((List.range (n - key.length)).map P.before).reverse ++ key.drop (key.length - n)

/-- The comparison with the key of the peer's session: as many bytes as the extracted key has. -/
def keyMatchesSession (P : Platform) (client : OcTlsPeer) (key : OcString) : Bool :=
  client.publicKey == [] || lastBytes P client.publicKey key.length == key

/-- `check_uuid_from_cert_raw` -/
def checkUuidFromCertRaw (m : Mbedtls) (publicdata : Option OcString) (uuid : OcUuid) : Bool :=
  match publicdata with
  | none => false
  | some buf => ocCertsParseCNForUUIDRaw m buf == some (ocUuidToStr uuid)

/-- The checks of `oc_sec_add_new_cred` on a role assertion. -/
def roleChecks (P : Platform) (client : OcTlsPeer) (a : CredArgs) (key : OcString) : Bool :=
  a.credusage == .roleCert && keyMatchesSession P client key && checkUuidFromCertRaw P.mbedtls a.publicdata client.uuid

/-- `check_role_assertion(cred) == 0`: of the roles `oic.role.*` only `oic.role.owner` is allowed. -/
def checkRoleAssertion (role : OcString) : Bool :=
  !(ascii "oic.role.").isPrefixOf role || role == ascii "oic.role.owner"

/-- The subject of the new credential: only a role certificate may come without one. -/
def argsSubject (a : CredArgs) : Option OcUuid :=
  match a.subjectuuid with
  | none => if a.credusage ≠ .roleCert then none else some OcUuid.wildcard
  | some s => some (if s.head? = some 42 then OcUuid.wildcard else ocStrToUuid s OcUuid.nil)

/-- The private data as it is stored; `none` where a PSK is too long or no Base64. -/
def argsPrivatedata (a : CredArgs) (kp : Option OcEcdsaKeypair) : Option OcCredData :=
  if a.privatedata ≠ [] then
    -- the key buffer of the source has 64 bytes
    if a.credtype = credtypePsk ∧ a.privatedataEncoding = .base64 then
      if a.privatedata.length > 64 then none
      else (ocBase64Decode a.privatedata).map fun key => ⟨key, .raw⟩
    else some ⟨a.privatedata, a.privatedataEncoding⟩
  else match kp with
    | some kp => some ⟨kp.privateKey, .raw⟩
    | none => some OcCredData.zero

/-- The public data as it is stored. -/
def argsPublicdata (a : CredArgs) : OcCredData :=
  match a.publicdata with
  | some (b :: l) => ⟨b :: l, a.publicdataEncoding⟩
  | _ => OcCredData.zero

theorem argsPublicdata_data (a : CredArgs) : (argsPublicdata a).data = a.publicdata.getD [] := by
  unfold argsPublicdata
  cases a.publicdata with
  | none => rfl
  | some buf => cases buf <;> rfl

/-- The key pair for an identity certificate that comes without a private key: `none` where the
certificate is not for the device's key and UUID. -/
def argsKeypair (m : Mbedtls) (st : SecState) (device : Nat) (a : CredArgs) (key : OcString) :
    Option (Option OcEcdsaKeypair) :=
  if a.credusage = .identityCert ∧ a.privatedata = [] then
    match st.keypairs device with
    | none => none
    | some kp =>
      if kp.publicKey.take key.length = key ∧
          checkUuidFromCertRaw m a.publicdata (st.doxm device).deviceuuid = true then some (some kp)
      else none
  else some none

/-! ## Roles -/

/-- `oc_sec_allocate_role`: the new record is at the end of the client's list, for which an entry in
`clients` is made if there is none. -/
def ocSecAllocateRole (P : Platform) (st : SecState) (client device : Nat) : Nat × SecState :=
  let clients := match getRolesForClient st client with
    | some _ => st.clients
    | none => st.clients ++ [⟨client, device, []⟩]
  let addr := P.alloc st.draws (st.blocks device)
  (addr, { st with
    clients := updateRoles clients client (· ++ [OcSecCred.zero addr])
    liveRoles := addr :: st.liveRoles
    draws := st.draws + 1 })

/-- The state with the role record at the address of `r` replaced by `r`. -/
def writeRole (st : SecState) (client : Nat) (r : OcSecCred) : SecState :=
  { st with clients := updateRoles st.clients client fun l => l.map fun c => if c.addr = r.addr then r else c }

/-- The end of `oc_sec_add_new_cred` for a role that has been allocated at `addr`, once its certificate
is parsed and accepted: the id, the private data and the other fields. A PSK that cannot be stored
ends in `oc_sec_remove_cred`. -/
def finishRole (P : Platform) (st : SecState) (device : Nat) (client : OcTlsPeer) (a : CredArgs) (credid : Int)
    (r : OcSecCred) : Int × SecState :=
  let (credid, st) := if credid = -1 then getNewCredid P st (ocSecGetRoles st client.addr) else (credid, st)
  let r := { r with credid := credid, credtype := a.credtype }
  match argsPrivatedata a none with
  -- not `oc_sec_free_role`, as in the other failures
  | none => (-1, ocSecRemoveCred P (writeRole st client.addr r) r device)
  | some privatedata =>
    (credid, writeRole st client.addr
      { r with privatedata := privatedata, publicdata := argsPublicdata a, credusage := a.credusage })

/-- `oc_sec_add_new_cred` for the roles resource, behind its checks. -/
def addNewRole (P : Platform) (st : SecState) (device : Nat) (client : OcTlsPeer) (a : CredArgs) : Int × SecState :=
  let roles := ocSecGetRoles st client.addr
  -- an id that is in use is dropped, and a new one is drawn at the end
  let credid := if roles.any (·.credid == a.credid) then -1 else a.credid
  -- the certificate has been asserted before
  match roles.find? (·.publicdata.data == a.publicdata.getD []) with
  | some r => (r.credid, st)
  | none =>
    let (addr, st) := ocSecAllocateRole P st client.addr device
    match ocCertsParseRoleCertificate P.mbedtls (st.trustAnchors.map (·.crt)) a.publicdata with
    | none => (-1, ocSecFreeRole st addr client.addr)
    | some (chain, role, authority) =>
      if checkRoleAssertion role = false then (-1, ocSecFreeRole st addr client.addr)
      else finishRole P st device client a credid
        { OcSecCred.zero addr with ctx := chain, role := role, authority := authority }

/-! ## Device credentials -/

/-- How the search for an entry with the same subject and type ends. -/
inductive SubjectScan
  | new
  | modify (cred : OcSecCred)
  | duplicate (credid : Int)
deriving DecidableEq

/-- The loop over `oc_sec_find_creds_for_subject`. -/
def scanSubject (a : CredArgs) (subject : OcUuid) : List OcSecCred → SubjectScan
  | [] => .new
  | c :: l =>
    if c.subjectuuid = subject ∧ c.credtype = a.credtype then
      if c.credid = a.credid then .modify c
      else if a.credtype = credtypeCert ∧ c.credusage = a.credusage ∧ a.publicdata.getD [] ≠ [] ∧
          a.publicdata.getD [] = c.publicdata.data then .duplicate c.credid
      else scanSubject a subject l
    else scanSubject a subject l

/-- The existing entry is the one that would be added. -/
def sameCred (c : OcSecCred) (a : CredArgs) (subject : OcUuid) : Bool :=
  c.credtype == a.credtype && c.subjectuuid == subject && c.privatedata.data == a.privatedata &&
  c.credusage == a.credusage && c.publicdata.data == a.publicdata.getD []

/-- The record at the address of `c` in the device's list, replaced by `c`. -/
def writeCred (st : SecState) (device : Nat) (c : OcSecCred) : SecState :=
  let creds := st.creds device
  st.setCreds device { creds with creds := creds.creds.map fun d => if d.addr = c.addr then c else d }

/-- `oc_sec_allocate_cred` -/
def ocSecAllocateCred (P : Platform) (st : SecState) (subject : OcUuid) (credtype : Int) (credusage : OcSecCredusage)
    (device : Nat) : OcSecCred × SecState :=
  let creds := st.creds device
  let cred := { OcSecCred.zero (P.alloc st.draws (st.blocks device)) with
    credtype := credtype, credusage := credusage, subjectuuid := subject }
  (cred, { st.setCreds device { creds with creds := creds.creds ++ [cred] } with
    liveCreds := cred.addr :: st.liveCreds, draws := st.draws + 1 })

/-- The end of `oc_sec_add_new_cred` for a device credential that has been allocated as `cred`. -/
def finishCred (P : Platform) (st : SecState) (device : Nat) (a : CredArgs) (kp : Option OcEcdsaKeypair)
    (cred : OcSecCred) : Int × SecState :=
  let (credid, st) := if a.credid = -1 then getNewCredid P st (st.creds device).creds else (a.credid, st)
  let cred := { cred with credid := credid }
  match argsPrivatedata a kp with
  | none => (-1, ocSecRemoveCred P st cred device)
  | some privatedata =>
    let cred := { cred with
      privatedata := privatedata
      role := (a.role.map cstr).getD cred.role
      authority := if a.role.isSome then (a.authority.map cstr).getD cred.authority else cred.authority
      publicdata := argsPublicdata a }
    let st := writeCred st device cred
    (credid, if a.credtype = credtypeCert ∧ isAnchorUsage a.credusage then ocTlsRefreshTrustAnchors P st else st)

/-- `oc_sec_add_new_cred` for the cred resource, from the allocation on. -/
def allocateNewCred (P : Platform) (st : SecState) (device : Nat) (a : CredArgs) (subject : OcUuid)
    (kp : Option OcEcdsaKeypair) : Int × SecState :=
  let (cred, st) := ocSecAllocateCred P st subject a.credtype a.credusage device
  if a.credusage = .roleCert then
    match ocCertsParseRoleCertificate P.mbedtls (st.trustAnchors.map (·.crt)) a.publicdata with
    | none => (-1, ocSecRemoveCred P st cred device)
    | some (_, role, authority) => finishCred P st device a kp { cred with role := role, authority := authority }
  else finishCred P st device a kp cred

/-- `oc_sec_add_new_cred` for the cred resource, behind its checks: an entry with the same id is kept
if it is the same, and removed otherwise. -/
def addNewCred (P : Platform) (st : SecState) (device : Nat) (a : CredArgs) (subject : OcUuid)
    (kp : Option OcEcdsaKeypair) : Int × SecState :=
  match ocSecGetCredByCredid st a.credid device with
  | some c =>
    if sameCred c a subject then (a.credid, st)
    else
      -- the entry with the id goes, whether or not the new one is stored in the end
      let st := (ocSecRemoveCredByCredid P st a.credid device).2
      match scanSubject a subject (st.creds device).creds with
      | .duplicate credid => (credid, st)
      | .modify c => allocateNewCred P (ocSecRemoveCred P st c device) device a subject kp
      | .new => allocateNewCred P st device a subject kp
  | none =>
    match scanSubject a subject (st.creds device).creds with
    | .duplicate credid => (credid, st)
    | .modify c => allocateNewCred P (ocSecRemoveCred P st c device) device a subject kp
    | .new => allocateNewCred P st device a subject kp

/-- `oc_sec_add_new_cred`: the id of the credential, or -1, and the state. The client-side list
`role_creds` and the own certificate chains `identity_certs` are not part of the model. -/
def ocSecAddNewCred (P : Platform) (st : SecState) (device : Nat) (rolesResource : Bool) (client : Option OcTlsPeer)
    (a : CredArgs) : Int × SecState :=
  match argsPublicKey P.mbedtls a with
  | none => (-1, st)
  | some key =>
    if rolesResource then
      match client with
      | none => (-1, st)
      | some client => if roleChecks P client a key then addNewRole P st device client a else (-1, st)
    else
      match argsSubject a, argsKeypair P.mbedtls st device a key with
      | some subject, some kp => addNewCred P st device a subject kp
      | _, _ => (-1, st)

end SmartGarage
