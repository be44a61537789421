/-
`oc_acl.c`: the search for ACEs and their resource entries, and the access check
`oc_sec_check_acl`.
-/
import SmartGarage.Lib.Search
import SmartGarage.Security.State

namespace SmartGarage

/-! ## Requests -/

/-- `oc_method_t` -/
inductive OcMethod
  | get | post | put | delete
deriving DecidableEq

/-- `oc_resource_t`: `coreIndex` is the resource's place in `core_resources`, `none` for an
application resource; `discoverable` and `secure` are the bits `OC_DISCOVERABLE` and `OC_SECURE`
of its properties. -/
structure OcResource where
  uri : OcString
  device : Nat
  coreIndex : Option Nat
  discoverable : Bool
  secure : Bool
deriving DecidableEq

/-- `oc_core_is_DCR(resource, device)`; the offsets 1, 2 and 3 are `OCF_CON`,
`OCF_INTROSPECTION_WK` and `OCF_INTROSPECTION_DATA`. -/
def ocCoreIsDCR (ocfD : Nat) (resource : OcResource) (device : Nat) : Bool :=
  match resource.coreIndex with
  | none => false
  | some i =>
    if i = 0 then true
    else if ocfD * device + 1 ≤ i ∧ i ≤ ocfD * device + ocfD then
      !(i == ocfD * device + 2 || i == ocfD * device + 3 || i == ocfD * device + 1)
    else false

/-- `OC_PERM_CREATE` -/
def permCreate : BitVec 16 := 1
/-- `OC_PERM_RETRIEVE` -/
def permRetrieve : BitVec 16 := 2
/-- `OC_PERM_UPDATE` -/
def permUpdate : BitVec 16 := 4
/-- `OC_PERM_DELETE` -/
def permDelete : BitVec 16 := 8
/-- `OC_PERM_NOTIFY` -/
def permNotify : BitVec 16 := 16

/-! ## Searching resource entries and ACEs -/

/-- The `skip` of `oc_sec_ace_find_resource`: 1 if the href lacks its leading slash. -/
def hrefSkip (href : OcString) : Nat := if href.head? = some 47 then 0 else 1

/-- The comparison of `oc_sec_ace_find_resource` between the searched href and an entry's. -/
def hrefMatches (href entry : OcString) : Bool :=
  href.length + hrefSkip href == entry.length && entry.drop (hrefSkip href) == href

/-- The test `oc_sec_ace_find_resource` makes on one entry: `match && positive`. -/
def aceResMatches (href : Option OcString) (wildcard : BitVec 32) (res : OcAceRes) : Bool :=
  let (matched, positive) : Bool × Bool :=
    match href with
    | some h => if res.href ≠ [] then (if hrefMatches h res.href then (true, true) else (false, false))
      else (true, false)
    | none => (true, false)
  let (matched, positive) : Bool × Bool :=
    -- a search with `*` meets `*` only, another one every entry with a common bit
    if matched ∧ wildcard ≠ 0 ∧ res.wildcard.bits ≠ 0 then
      if wildcard ≠ OcAceWildcard.wcAll.bits ∧ wildcard &&& res.wildcard.bits ≠ 0 then (matched, true)
      else if wildcard = OcAceWildcard.wcAll.bits ∧ res.wildcard.bits = OcAceWildcard.wcAll.bits then
        (matched, true)
      else (false, positive)
    else (matched, positive)
  matched && positive

/-- `oc_sec_ace_find_resource`, searching the entries `rest` behind `start`. -/
def ocSecAceFindResource (rest : List OcAceRes) (href : Option OcString) (wildcard : BitVec 32) :
    Option (OcAceRes × List OcAceRes) :=
  Search.next (aceResMatches href wildcard) rest

/-- The subject comparison of `oc_sec_acl_find_subject`: an ACE for a role without an authority
matches every authority. -/
def subjectMatches (subject : OcAceSubject) (ace : OcAceSubject) : Bool :=
  match subject, ace with
  | .uuid u, .uuid v => u == v
  | .role r a, .role r' a' => r == r' && (a' == [] || a' == a)
  | .conn c, .conn c' => c == c'
  | _, _ => false

/-- The test `oc_sec_acl_find_subject` makes on one ACE. -/
def aceMatches (subject : OcAceSubject) (aceid : Int) (permission : BitVec 16) (ace : OcSecAce) : Bool :=
  (aceid == -1 || ace.aceid == aceid) && (permission == 0 || ace.permission == permission) &&
  subjectMatches subject ace.subject

/-- `oc_sec_acl_find_subject`, searching the ACEs `rest` behind `start`. -/
def ocSecAclFindSubject (rest : List OcSecAce) (subject : OcAceSubject) (aceid : Int)
    (permission : BitVec 16) : Option (OcSecAce × List OcSecAce) :=
  Search.next (aceMatches subject aceid permission) rest

/-- The wildcard with which `oc_ace_get_permission` searches for a resource. -/
def resourceWildcard (resource : OcResource) (isDCR isPublic : Bool) : BitVec 32 :=
  if isDCR then 0
  else if resource.discoverable then
    if isPublic then OcAceWildcard.wcAllPublic.bits ||| OcAceWildcard.wcAllSecured.bits
    else OcAceWildcard.wcAllSecured.bits
  else OcAceWildcard.wcAll.bits

/-- `oc_ace_get_permission` -/
def ocAceGetPermission (ace : OcSecAce) (resource : OcResource) (isDCR isPublic : Bool) : BitVec 16 :=
  Search.foldMatches (aceResMatches (some resource.uri) (resourceWildcard resource isDCR isPublic))
    (fun permission _ => permission ||| ace.permission) 0 ace.resources

/-- The loops of `oc_sec_check_acl` and `get_role_permissions` over the ACEs for one subject. -/
def subjectPermissions (acl : OcSecAcl) (subject : OcAceSubject) (resource : OcResource)
    (isDCR isPublic : Bool) (permission : BitVec 16) : BitVec 16 :=
  Search.foldMatches (aceMatches subject (-1) 0)
    (fun permission ace => permission ||| ocAceGetPermission ace resource isDCR isPublic) permission
    acl.subjects

/-- `get_role_permissions` -/
def getRolePermissions (acl : OcSecAcl) (roleCred : OcSecCred) (resource : OcResource)
    (isDCR isPublic : Bool) : BitVec 16 :=
  subjectPermissions acl (.role roleCred.role roleCred.authority) resource isDCR isPublic 0

/-! ## The access check -/

/-- `oc_sec_find_cred` -/
def ocSecFindCred (creds : OcSecCreds) (subjectuuid : OcUuid) (credtype : Int) (credusage : OcSecCredusage) :
    Option OcSecCred :=
  creds.creds.find? fun c => c.credtype == credtype && c.credusage == credusage && c.subjectuuid == subjectuuid

/-- The loop of `oc_sec_check_acl` over the asserted roles: a role that is no longer valid is freed,
`oic.role.owner` ends the check with access, and any other adds its permissions. The result `none`
is the early `return true`. -/
def checkRoles (P : Platform) (acl : OcSecAcl) (client : Nat) (resource : OcResource) (isDCR isPublic : Bool) :
    List OcSecCred → SecState → BitVec 16 → Option (BitVec 16) × SecState
  | [], st, permission => (some permission, st)
  | r :: next, st, permission =>
    -- the successor has been read before the role is freed
    if !(r.ctx.head?.any (ocCertsValidateRoleCert P.mbedtls)) then
      checkRoles P acl client resource isDCR isPublic next (ocSecFreeRole st r.addr client) permission
    else if r.role = ascii "oic.role.owner" then (none, st)
    else checkRoles P acl client resource isDCR isPublic next st
      (permission ||| getRolePermissions acl r resource isDCR isPublic)

/-- The implicit rights of a peer: the resource owner of that very resource, and `/oic/sec/roles`. -/
def peerOwnsResource (st : SecState) (peer : OcTlsPeer) (resource : OcResource) (device : Nat) : Bool :=
  (peer.uuid == (st.aclist device).rowneruuid && resource.uri == ascii "/oic/sec/acl2") ||
  (peer.uuid == (st.doxm device).rowneruuid && resource.uri == ascii "/oic/sec/doxm") ||
  (peer.uuid == (st.pstat device).rowneruuid && resource.uri == ascii "/oic/sec/pstat") ||
  (peer.uuid == (st.creds device).rowneruuid && resource.uri == ascii "/oic/sec/cred")

/-- A peer may always use `/oic/sec/roles` in RFPRO, RFNOP and SRESET. -/
def rolesAllowed (s : OcDostype) (resource : OcResource) : Bool :=
  (s == .rfpro || s == .rfnop || s == .sreset) && resource.uri == ascii "/oic/sec/roles"

/-- The last `switch` of `oc_sec_check_acl`. -/
def methodAllowed (method : OcMethod) (permission : BitVec 16) : Bool :=
  permission != 0 &&
  match method with
  | .get => permission &&& permRetrieve != 0 || permission &&& permNotify != 0
  | .put | .post => permission &&& permCreate != 0 || permission &&& permUpdate != 0
  | .delete => permission &&& permDelete != 0

/-- The permissions of the peer itself: its UUID, then the role of its PSK credential or its
asserted roles. -/
def peerPermissions (P : Platform) (st : SecState) (peer : OcTlsPeer) (resource : OcResource) (device : Nat)
    (isDCR isPublic : Bool) : Option (BitVec 16) × SecState :=
  let acl := st.aclist device
  let permission := subjectPermissions acl (.uuid peer.uuid) resource isDCR isPublic 0
  if peer.usesPskCred then
    match ocSecFindCred (st.creds device) peer.uuid credtypePsk .null with
    | some c =>
      if c.role ≠ [] then (some (permission ||| getRolePermissions acl c resource isDCR isPublic), st)
      else (some permission, st)
    | none => (some permission, st)
  else checkRoles P acl peer.addr resource isDCR isPublic (ocSecGetRoles st peer.addr) st permission

/-- The end of `oc_sec_check_acl`: the connection subjects, then the method. -/
def connectionAllowed (acl : OcSecAcl) (method : OcMethod) (resource : OcResource) (endpoint : OcEndpoint)
    (isDCR isPublic : Bool) (permission : BitVec 16) : Bool :=
  let permission := if endpoint.flags.secured then
    subjectPermissions acl (.conn .authCrypt) resource isDCR isPublic permission else permission
  methodAllowed method (subjectPermissions acl (.conn .anonClear) resource isDCR isPublic permission)

/-- `oc_sec_check_acl`, with the state it leaves: roles found expired are gone. -/
def ocSecCheckAcl (P : Platform) (st : SecState) (method : OcMethod) (resource : OcResource)
    (endpoint : OcEndpoint) : Bool × SecState :=
  let device := endpoint.device
  -- the DCR test goes by the device of the resource, everything else by that of the endpoint
  let isDCR := ocCoreIsDCR P.ocfD resource resource.device
  let isPublic := !resource.secure
  if !isDCR && (st.pstat device).s != .rfnop then (false, st)
  else match ocTlsGetPeer st endpoint with
    | none => (connectionAllowed (st.aclist device) method resource endpoint isDCR isPublic 0, st)
    | some peer =>
      if peerOwnsResource st peer resource device || rolesAllowed (st.pstat device).s resource then (true, st)
      else match peerPermissions P st peer resource device isDCR isPublic with
        | (none, st') => (true, st')
        | (some permission, st') =>
          (connectionAllowed (st.aclist device) method resource endpoint isDCR isPublic permission, st')

end SmartGarage
