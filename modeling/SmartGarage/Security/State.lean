/-
The security state of the stack: the per-device resources pstat, doxm, acl2 and cred, the TLS
peers with the roles they have asserted, and the trust anchors handed to mbedTLS. Records that
the code identifies by their address carry it in the field `addr`.
-/
import Mathlib.Data.List.Perm.Subperm
import SmartGarage.Security.Certs

namespace SmartGarage

/-! ## pstat and doxm -/

/-- `oc_dostype_t`; `other` is any other value that a payload assigns to a variable of that type. -/
inductive OcDostype
  | reset | rfotm | rfpro | rfnop | sreset
  | other (code : Nat)
deriving DecidableEq

/-- `oc_sec_pstat_t`; `oc_dpmtype_t` is an unsigned enumeration that holds combinations of bits. -/
structure OcSecPstat where
  s : OcDostype
  p : Bool
  isop : Bool
  cm : BitVec 32
  tm : BitVec 32
  om : Int
  sm : Int
  rowneruuid : OcUuid
deriving DecidableEq

/-- `{ .s = s }`, with all other fields zero. -/
def OcSecPstat.zero (s : OcDostype) : OcSecPstat := ⟨s, false, false, 0, 0, 0, 0, OcUuid.nil⟩

/-- `oc_sec_doxm_t`, without the list `oxms` that is computed anew before each use. -/
structure OcSecDoxm where
  oxmsel : Int
  sct : Int
  owned : Bool
  deviceuuid : OcUuid
  devowneruuid : OcUuid
  rowneruuid : OcUuid
deriving DecidableEq

/-- The record as `calloc` leaves it. -/
def OcSecDoxm.zero : OcSecDoxm := ⟨0, 0, false, OcUuid.nil, OcUuid.nil, OcUuid.nil⟩

/-! ## Access control lists -/

/-- `oc_ace_connection_type_t` -/
inductive OcAceConnectionType
  | authCrypt | anonClear
deriving DecidableEq

/-- `oc_ace_wildcard_t`; `minusOne` is the value `-1` that `oc_sec_acl_default` passes. -/
inductive OcAceWildcard
  | noWc | wcAll | wcAllSecured | wcAllPublic | minusOne
deriving DecidableEq

/-- The bits of an `oc_ace_wildcard_t`. -/
def OcAceWildcard.bits : OcAceWildcard → BitVec 32
  | noWc => 0
  | wcAll => 0x111
  | wcAllSecured => 0x01
  | wcAllPublic => 0x10
  | minusOne => 0xffffffff

/-- `oc_ace_subject_t` with its `oc_ace_subject_type_t`. -/
inductive OcAceSubject
  | uuid (uuid : OcUuid)
  | role (role authority : OcString)
  | conn (conn : OcAceConnectionType)
deriving DecidableEq

/-- `oc_ace_res_t` -/
structure OcAceRes where
  href : OcString
  wildcard : OcAceWildcard
deriving DecidableEq

/-- `oc_sec_ace_t` -/
structure OcSecAce where
  resources : List OcAceRes
  subject : OcAceSubject
  aceid : Int
  permission : BitVec 16
deriving DecidableEq

/-- `oc_sec_acl_t` -/
structure OcSecAcl where
  subjects : List OcSecAce
  rowneruuid : OcUuid
deriving DecidableEq

/-! ## Credentials -/

/-- `oc_sec_credusage_t` -/
inductive OcSecCredusage
  | null | trustca | identityCert | roleCert | mfgTrustca | mfgCert
deriving DecidableEq

/-- `oc_sec_encoding_t` -/
inductive OcSecEncoding
  | unsupported | base64 | raw | pem | handle
deriving DecidableEq

/-- `OC_CREDTYPE_PSK` -/
def credtypePsk : Int := 1
/-- `OC_CREDTYPE_CERT` -/
def credtypeCert : Int := 8

/-- `oc_cred_data_t` -/
structure OcCredData where
  data : OcString
  encoding : OcSecEncoding
deriving DecidableEq

/-- An empty `oc_cred_data_t`, as `calloc` leaves it. -/
def OcCredData.zero : OcCredData := ⟨[], .unsupported⟩

/-- `oc_sec_cred_t`; `ctx` is the parsed chain a role record owns. -/
structure OcSecCred where
  addr : Nat
  role : OcString
  authority : OcString
  privatedata : OcCredData
  publicdata : OcCredData
  credusage : OcSecCredusage
  ctx : List Crt
  credid : Int
  credtype : Int
  subjectuuid : OcUuid
  ownerCred : Bool
deriving DecidableEq

/-- A record that `oc_memb_alloc` has just handed out. -/
def OcSecCred.zero (addr : Nat) : OcSecCred :=
  ⟨addr, [], [], OcCredData.zero, OcCredData.zero, .null, [], 0, 0, OcUuid.nil, false⟩

/-- `oc_sec_creds_t` -/
structure OcSecCreds where
  creds : List OcSecCred
  rowneruuid : OcUuid
deriving DecidableEq

/-! ## TLS peers, asserted roles and trust anchors -/

/-- `oc_tls_peer_t`: `publicKey` is the DER key that `oc_certs_extract_public_key` writes to the end
of the peer's buffer, `[]` while there is no buffer, and `usesPskCred` what `oc_tls_uses_psk_cred`
reads off the session's ciphersuite. -/
structure OcTlsPeer where
  addr : Nat
  endpoint : OcEndpoint
  uuid : OcUuid
  publicKey : OcString
  usesPskCred : Bool
deriving DecidableEq

/-- `oc_sec_roles_t`: the roles the peer at the address `client` has asserted. -/
structure OcSecRoles where
  client : Nat
  device : Nat
  roles : List OcSecCred
deriving DecidableEq

/-- A node of the mbedTLS chain `trust_anchors`. -/
structure ChainNode where
  addr : Nat
  crt : Crt
deriving DecidableEq

/-- `oc_x509_cacrt_t`: the credential and the chain node it points to, with what the code reads
from them; neither changes while the record lives. -/
structure OcX509Cacrt where
  device : Nat
  cred : OcSecCred
  cert : ChainNode
deriving DecidableEq

/-- `oc_ecdsa_keypair_t` -/
structure OcEcdsaKeypair where
  publicKey : OcString
  privateKey : OcString
deriving DecidableEq

/-- The global state of `oc_pstat.c`, `oc_doxm.c`, `oc_acl.c`, `oc_cred.c`, `oc_roles.c` and
`oc_tls.c`. `liveCreds` and `liveRoles` are the blocks handed out by the pools `creds` and
`roles_s` and not yet freed; `draws` counts the calls of the platform for a random id or a block. -/
structure SecState where
  numDevices : Nat
  pstat : Nat → OcSecPstat
  doxm : Nat → OcSecDoxm
  aclist : Nat → OcSecAcl
  creds : Nat → OcSecCreds
  keypairs : Nat → Option OcEcdsaKeypair
  tlsPeers : List OcTlsPeer
  clients : List OcSecRoles
  caCerts : List OcX509Cacrt
  trustAnchors : List ChainNode
  liveCreds : List Nat
  liveRoles : List Nat
  draws : Nat

/-! ## The platform -/

/-- The id that the loops of `get_new_aceid` and `get_new_credid` make of a random value: `oc_random_value() >> 1`. -/
def drawnId (value : UInt32) : Int := (value.toNat >>> 1 : Nat)

/-- The loops: values are drawn until a record of the list does not have the id. -/
def drawLoop (random : Nat → UInt32) (l : List Int) : Nat → Option Int
  | 0 => none
  | tries + 1 =>
    if drawnId (random 0) ∈ l then drawLoop (fun k => random (k + 1)) l tries else some (drawnId (random 0))

theorem drawLoop_some {l : List Int} {id : Int} : ∀ {tries : Nat} {random : Nat → UInt32},
    drawLoop random l tries = some id → id ∉ l ∧ 0 ≤ id
  | tries + 1, random, h => by
    rw [drawLoop] at h
    split at h
    · exact drawLoop_some h
    · rename_i hnot
      cases h
      exact ⟨hnot, Int.natCast_nonneg _⟩

theorem drawLoop_none {l : List Int} : ∀ {tries : Nat} {random : Nat → UInt32},
    drawLoop random l tries = none → ∀ k < tries, drawnId (random k) ∈ l
  | tries + 1, random, h, k, hk => by
    rw [drawLoop] at h
    split at h
    · rename_i hmem
      cases k with
      | zero => exact hmem
      | succ k => exact drawLoop_none h k (Nat.lt_of_succ_lt_succ hk)
    · cases h

/-- What the code takes from the platform. `random n k` is the `k`-th value that the `n`-th loop draws, and the loop ends
within `tries` of them, as there are ids that are free. `alloc n l` is the block the `n`-th `calloc` returns while the
blocks `l` are in use, and `before i` the byte `i + 1` places in front of the DER key in a peer's buffer. `ocfD` is the
number of core resources of a device in this build. -/
structure Platform where
  mbedtls : Mbedtls
  random : Nat → Nat → UInt32
  tries : Nat → List Int → Nat
  random_free : ∀ n l, l.length < 2 ^ 31 → (drawLoop (random n) l (tries n l)).isSome
  alloc : Nat → List Nat → Nat
  alloc_notMem : ∀ n l, alloc n l ∉ l
  before : Nat → UInt8
  ocfD : Nat

/-- A number that is not in the list: one more than its largest element. -/
def leastAbove (l : List Nat) : Nat := l.foldr max 0 + 1

theorem le_foldr_max : ∀ (l : List Nat), ∀ a ∈ l, a ≤ l.foldr max 0
  | [], _, h => nomatch h
  | b :: l, a, h => by
    rw [List.foldr_cons]
    rcases List.mem_cons.1 h with rfl | h
    · exact Nat.le_max_left _ _
    · exact Nat.le_trans (le_foldr_max l a h) (Nat.le_max_right _ _)

theorem leastAbove_notMem (l : List Nat) : leastAbove l ∉ l := by
  intro h
  have := le_foldr_max l _ h
  unfold leastAbove at this
  omega

/-- The id with which the `n`-th loop ends. A list that has all ids, 2^31 records at least, keeps the loop from ending;
a number above them stands in for what the code never gets to. -/
def Platform.newId (P : Platform) (n : Nat) (l : List Int) : Int :=
  (drawLoop (P.random n) l (P.tries n l)).getD (leastAbove (l.map Int.toNat))

theorem Platform.newId_notMem (P : Platform) (n : Nat) (l : List Int) : P.newId n l ∉ l := by
  unfold newId
  cases h : drawLoop (P.random n) l (P.tries n l) with
  | some id => exact (drawLoop_some h).1
  | none => exact fun hmem => leastAbove_notMem _ (List.mem_map.2 ⟨_, hmem, Int.toNat_natCast _⟩)

theorem Platform.newId_nonneg (P : Platform) (n : Nat) (l : List Int) : 0 ≤ P.newId n l := by
  unfold newId
  cases h : drawLoop (P.random n) l (P.tries n l) with
  | some id => exact (drawLoop_some h).2
  | none => exact Int.natCast_nonneg _

/-- Below 2^31 records the loop ends, and the id is the one it ends with. -/
theorem Platform.newId_drawn (P : Platform) (n : Nat) {l : List Int} (h : l.length < 2 ^ 31) :
    drawLoop (P.random n) l (P.tries n l) = some (P.newId n l) := by
  obtain ⟨id, hid⟩ := Option.isSome_iff_exists.1 (P.random_free n l h)
  rw [newId, hid, Option.getD_some]

theorem drawnId_counting (k : Nat) :
    drawnId (UInt32.ofNat (2 * (k + 1))) = ((k + 1) % 2 ^ 31 : Nat) := by
  rw [drawnId, UInt32.toNat_ofNat', Nat.shiftRight_one]
  omega

/-- A list of `n` ids lacks one of any `n + 1` that differ. -/
theorem drawLoop_counting {l : List Int} (h : l.length < 2 ^ 31) :
    (drawLoop (fun k => UInt32.ofNat (2 * (k + 1))) l (l.length + 1)).isSome := by
  by_contra hnone
  have hall := drawLoop_none (Option.not_isSome_iff_eq_none.1 hnone)
  have hsub : ((List.range (l.length + 1)).map fun k => drawnId (UInt32.ofNat (2 * (k + 1)))) ⊆ l := fun id hid => by
    obtain ⟨k, hk, rfl⟩ := List.mem_map.1 hid
    exact hall k (List.mem_range.1 hk)
  have hnodup : ((List.range (l.length + 1)).map fun k => drawnId (UInt32.ofNat (2 * (k + 1)))).Nodup := by
    refine List.Nodup.map_on (fun k hk k' hk' heq => ?_) List.nodup_range
    rw [List.mem_range] at hk hk'
    rw [drawnId_counting, drawnId_counting] at heq
    omega
  have hlength := (hnodup.subperm hsub).length_le
  rw [List.length_map, List.length_range] at hlength
  omega

/-- A platform whose generator counts, and that hands out the least block above those in use. -/
def Platform.simple (mbedtls : Mbedtls) : Platform where
  mbedtls := mbedtls
  random _ k := UInt32.ofNat (2 * (k + 1))
  tries _ l := l.length + 1
  random_free _ _ h := drawLoop_counting h
  alloc _ l := leastAbove l
  alloc_notMem _ l := leastAbove_notMem l
  before _ := 0
  ocfD := 14

/-- A device whose lists are all empty, in the state `s`. -/
def SecState.empty (s : OcDostype) : SecState where
  numDevices := 1
  pstat _ := OcSecPstat.zero s
  doxm _ := OcSecDoxm.zero
  aclist _ := ⟨[], OcUuid.nil⟩
  creds _ := ⟨[], OcUuid.nil⟩
  keypairs _ := none
  tlsPeers := []
  clients := []
  caCerts := []
  trustAnchors := []
  liveCreds := []
  liveRoles := []
  draws := 0

/-- The blocks in use while a request for `device` is handled: those that are live, and those that a
list of credentials or roles still links. (What the code does with a freed record whose block is
handed out again is undefined, and not modelled.) -/
def SecState.blocks (st : SecState) (device : Nat) : List Nat :=
  st.liveCreds ++ st.liveRoles ++
  (device :: List.range st.numDevices).flatMap (fun d => (st.creds d).creds.map (·.addr)) ++
  st.clients.flatMap fun r => r.roles.map (·.addr)

/-- `oc_tls_get_peer` -/
def ocTlsGetPeer (st : SecState) (endpoint : OcEndpoint) : Option OcTlsPeer :=
  st.tlsPeers.find? fun p => ocEndpointCompare p.endpoint endpoint

/-- `get_roles_for_client` -/
def getRolesForClient (st : SecState) (client : Nat) : Option OcSecRoles :=
  st.clients.find? (·.client == client)

/-- `oc_sec_get_roles` as the list behind the returned head. -/
def ocSecGetRoles (st : SecState) (client : Nat) : List OcSecCred :=
  match getRolesForClient st client with
  | some r => r.roles
  | none => []

/-- The list `clients` with `f` applied to the role list of the first entry of `client`. -/
def updateRoles (clients : List OcSecRoles) (client : Nat) (f : List OcSecCred → List OcSecCred) :
    List OcSecRoles :=
  match clients with
  | [] => []
  | r :: l => if r.client = client then { r with roles := f r.roles } :: l else r :: updateRoles l client f

/-- `oc_sec_free_role`: the record at `addr` is unlinked and freed if it is in the peer's list. -/
def ocSecFreeRole (st : SecState) (addr client : Nat) : SecState :=
  if (ocSecGetRoles st client).any (·.addr == addr) then
    { st with
      clients := updateRoles st.clients client fun l => l.eraseP (·.addr == addr)
      liveRoles := st.liveRoles.erase addr }
  else st

end SmartGarage
