/-
`oc_cred.c`: the decoder `oc_sec_decode_cred`, which serves both `/oic/sec/cred` and
`/oic/sec/roles`, and what the handlers of `/oic/sec/roles` do with it.
-/
import SmartGarage.Lib.Search
import SmartGarage.Security.Cred

namespace SmartGarage

/-! ## One entry of the payload -/

/-- `oc_cred_parse_credusage` -/
def ocCredParseCredusage (s : OcString) : OcSecCredusage :=
  if s = ascii "oic.sec.cred.trustca" then .trustca
  else if s = ascii "oic.sec.cred.cert" then .identityCert
  else if s = ascii "oic.sec.cred.rolecert" then .roleCert
  else if s = ascii "oic.sec.cred.mfgtrustca" then .mfgTrustca
  else if s = ascii "oic.sec.cred.mfgcert" then .mfgCert
  else .null

/-- `oc_cred_parse_encoding` -/
def ocCredParseEncoding (s : OcString) : OcSecEncoding :=
  if s = ascii "oic.sec.encoding.base64" then .base64
  else if s = ascii "oic.sec.encoding.raw" then .raw
  else if s = ascii "oic.sec.encoding.handle" then .handle
  else if s = ascii "oic.sec.encoding.pem" then .pem
  else .unsupported

/-- The local variables of `oc_sec_decode_cred` for one entry. -/
structure CredEntry where
  args : CredArgs
  ownerCred : Bool
deriving DecidableEq

/-- The variables before the first key of an entry. -/
def CredEntry.zero : CredEntry :=
  ⟨⟨-1, 0, .null, none, .unsupported, [], .unsupported, none, none, none⟩, false⟩

/-- One key of a `privatedata` or `publicdata` object; an unsupported encoding ends the decoder. -/
def decodeDataKey (d : Option OcString × OcSecEncoding) : OcRep → Option (Option OcString × OcSecEncoding)
  | .string n v =>
    if nameIs n "encoding" then
      if ocCredParseEncoding v = .unsupported then none else some (d.1, ocCredParseEncoding v)
    else if nameIs n "data" then some (some v, d.2)
    else some d
  -- text and bytes are taken alike, whatever the encoding says
  | .byteString n v => if nameIs n "data" then some (some v, d.2) else some d
  | _ => some d

/-- One key of a `roleid` object; its type is not looked at, and text and bytes share `value.string`. -/
def decodeRoleidKey (r : Option OcString × Option OcString) : OcRep → Option OcString × Option OcString
  | .string n v | .byteString n v =>
    if nameIs n "role" then (some v, r.2)
    else if nameIs n "authority" then (r.1, some v)
    else r
  | _ => r

/-- One key of an entry. -/
def decodeCredKey (e : CredEntry) : OcRep → Option CredEntry
  | .int n v =>
    if nameIs n "credid" then some { e with args := { e.args with credid := castInt v } }
    else if nameIs n "credtype" then some { e with args := { e.args with credtype := castInt v } }
    else some e
  | .string n v =>
    if nameIs n "subjectuuid" then some { e with args := { e.args with subjectuuid := some v } }
    else if nameIs n "credusage" then some { e with args := { e.args with credusage := ocCredParseCredusage v } }
    else some e
  | .object n entries =>
    if nameIs n "privatedata" then
      (entries.foldlM decodeDataKey (some e.args.privatedata, e.args.privatedataEncoding)).map fun d =>
        { e with args := { e.args with privatedata := d.1.getD [], privatedataEncoding := d.2 } }
    else if nameIs n "publicdata" then
      (entries.foldlM decodeDataKey (e.args.publicdata, e.args.publicdataEncoding)).map fun d =>
        { e with args := { e.args with publicdata := d.1, publicdataEncoding := d.2 } }
    else if nameIs n "roleid" then
      let r := entries.foldl decodeRoleidKey (e.args.role, e.args.authority)
      some { e with args := { e.args with role := r.1, authority := r.2 } }
    else some e
  | .bool n v => some (if nameIs n "owner_cred" then { e with ownerCred := v } else e)
  | _ => some e

/-- An entry of the payload. -/
def decodeEntry (item : List OcRep) : Option CredEntry := item.foldlM decodeCredKey CredEntry.zero

/-! ## The decoder -/

/-- What the second loop of `oc_sec_decode_cred` acts on: a `rowneruuid`, or an entry of an array
`creds` or `roles`. -/
inductive CredOp
  | rowneruuid (value : OcString)
  | entry (item : List OcRep)

/-- The operations of a payload, in the order of the loops. -/
def credOps (rep : List OcRep) : List CredOp :=
  rep.flatMap fun
    | .string n v => if nameIs n "rowneruuid" then [.rowneruuid v] else []
    | .objectArray n items => if nameIs n "creds" || nameIs n "roles" then items.map .entry else []
    | _ => []

/-- The state of the decoder: `owner` is the id of the credential behind the caller's pointer. -/
structure Decoding where
  st : SecState
  owner : Option Int

/-- The flag `owner_cred` of the first credential with the id is set. -/
def setOwnerCred (st : SecState) (credid : Int) (device : Nat) (value : Bool) : SecState :=
  let creds := st.creds device
  let mark (c : OcSecCred) : OcSecCred := { c with ownerCred := value }
  st.setCreds device { creds with creds := Search.modify (·.credid == credid) mark creds.creds }

/-- The lookup by id after an entry has been added. -/
def markOwner (d : Decoding) (e : CredEntry) (credid : Int) (device : Nat) : Decoding :=
  match ocSecGetCredByCredid d.st credid device with
  | none => d
  | some _ =>
    -- a PSK without a key is the owner credential, whose key the caller derives
    if e.args.credtype = credtypePsk ∧ e.args.privatedata = [] then
      ⟨setOwnerCred d.st credid device true, some credid⟩
    else { d with st := setOwnerCred d.st credid device e.ownerCred }

/-- One operation; the result is `false` where the decoder returns. -/
def decodeOp (P : Platform) (device : Nat) (rolesResource : Bool) (client : Option OcTlsPeer) (d : Decoding) :
    CredOp → Bool × Decoding
  | .rowneruuid v =>
    let creds := d.st.creds device
    (true, { d with st := d.st.setCreds device { creds with rowneruuid := ocStrToUuid v creds.rowneruuid } })
  | .entry item =>
    match decodeEntry item with
    | none => (false, d)
    | some e =>
      -- `non_empty` is only set by a key
      if item = [] then (true, d)
      else
        let (credid, st) := ocSecAddNewCred P d.st device rolesResource client e.args
        if credid = -1 then (false, { d with st := st })
        else (true, markOwner { d with st := st } e credid device)

/-- The operations up to the first one that fails. -/
def decodeOps (P : Platform) (device : Nat) (rolesResource : Bool) (client : Option OcTlsPeer) :
    Decoding → List CredOp → Bool × Decoding
  | d, [] => (true, d)
  | d, op :: l =>
    match decodeOp P device rolesResource client d op with
    | (true, d') => decodeOps P device rolesResource client d' l
    | (false, d') => (false, d')

/-- The check of the first loop of `oc_sec_decode_cred` on one property. -/
def credPropertyAllowed (s : OcDostype) (fromStorage : Bool) : OcRep → Bool
  | .string n _ => !(nameIs n "rowneruuid" && !fromStorage && s != .rfotm && s != .sreset)
  | .objectArray _ _ => !(!fromStorage && s != .rfotm && s != .sreset && s != .rfpro)
  | _ => true

/-- `oc_sec_decode_cred`: the device state is only checked for the cred resource. -/
def ocSecDecodeCred (P : Platform) (st : SecState) (rep : List OcRep) (fromStorage rolesResource : Bool)
    (client : Option OcTlsPeer) (device : Nat) : Bool × Decoding :=
  if !rolesResource && !rep.all (credPropertyAllowed (st.pstat device).s fromStorage) then (false, ⟨st, none⟩)
  else decodeOps P device rolesResource client ⟨st, none⟩ (credOps rep)

/-! ## The handlers of /oic/sec/roles -/

/-- `post_cred` for `/oic/sec/roles`. -/
def postRoles (P : Platform) (st : SecState) (rep : List OcRep) (origin : OcEndpoint) (device : Nat) :
    OcStatus × SecState :=
  match ocSecDecodeCred P st rep false true (ocTlsGetPeer st origin) device with
  | (true, d) => (.changed, d.st)
  | (false, d) =>
    -- the owner credential found before the failure is removed again
    (.badRequest, match d.owner with
      | some credid => (ocSecRemoveCredByCredid P d.st credid device).2
      | none => d.st)

/-- `oc_sec_free_roles` -/
def ocSecFreeRoles (st : SecState) (client : Nat) : SecState :=
  match getRolesForClient st client with
  | none => st
  | some r => { st with
      clients := st.clients.eraseP (·.client == client)
      liveRoles := st.liveRoles.filter fun a => !r.roles.any (·.addr == a) }

/-- `oc_sec_free_role_by_credid` -/
def ocSecFreeRoleByCredid (st : SecState) (credid : Int) (client : Nat) : Bool × SecState :=
  match (ocSecGetRoles st client).find? (·.credid == credid) with
  | some r => (true, ocSecFreeRole st r.addr client)
  | none => (false, st)

/-- `delete_cred` for `/oic/sec/roles`; `credid` is the query parameter behind `strtoul`. -/
def deleteRoles (st : SecState) (credid : Option Int) (origin : OcEndpoint) : OcStatus × SecState :=
  match credid, ocTlsGetPeer st origin with
  | some credid, some client =>
    if 0 ≤ credid then
      match ocSecFreeRoleByCredid st credid client.addr with
      | (true, st) => (.deleted, st)
      | (false, st) => (.notFound, st)
    else (.notFound, st)
  | some _, none => (.notFound, st)
  | none, some client => (.deleted, ocSecFreeRoles st client.addr)
  | none, none => (.deleted, st)

/-- `oc_sec_free_roles_for_device` -/
def ocSecFreeRolesForDevice (st : SecState) (device : Nat) : SecState :=
  (st.clients.filter (·.device == device)).foldl (fun st r => ocSecFreeRoles st r.client) st

end SmartGarage
