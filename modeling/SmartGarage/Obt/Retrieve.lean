/-
`oc_obt.c`: what the onboarding tool makes of the ACL and the credentials that it retrieves from a device. `decode_acl`
and `decode_cred` are decoders of their own, `acl2_rsrc` and `cred_rsrc` hand their lists to the application.
-/
import SmartGarage.Security.AclPersist
import SmartGarage.Security.CredEncode

namespace SmartGarage.Retrieve

/-! ## The ACL -/

/-- One key of a resource entry. -/
def decodeResKey (res : OcAceRes) : OcRep → OcAceRes
  | .string n v =>
    if nameIs n "href" then { res with href := v }
    else if nameIs n "wc" then
      { res with wildcard := if v.head? = some 42 then .wcAll else if v.head? = some 43 then .wcAllSecured
          else if v.head? = some 45 then .wcAllPublic else res.wildcard }
    else res
  | _ => res

/-- `ac` and `resources` while the keys of an ACE are read; no array is NULL. -/
structure AceKeys where
  ace : OcSecAce
  resources : List (List OcRep)

/-- One key of an ACE; an object is the subject whatever its name, and its keys are read as the device reads them. -/
def decodeAceKey (k : AceKeys) : OcRep → AceKeys
  | .int n v =>
    if nameIs n "permission" then { k with ace := { k.ace with permission := castUInt16 v } }
    else if nameIs n "aceid" then { k with ace := { k.ace with aceid := castInt v } }
    else k
  | .objectArray n items => if nameIs n "resources" then { k with resources := items } else k
  | .object _ entries => { k with ace := { k.ace with subject := entries.foldl decodeSubjectKey k.ace.subject } }
  | _ => k

/-- What a loop that allocates its items leaves: whether it came to its end, how many times it allocated, the items. -/
structure Allocated (α : Type) where
  done : Bool
  count : Nat
  items : List α

section Loops

variable (memory : Nat → Bool)

/-- The loop over the resources of an ACE; `memory` says which allocations succeed. -/
def decodeResources : Nat → List (List OcRep) → Allocated OcAceRes
  | k, [] => ⟨true, k, []⟩
  | k, item :: rest =>
    if memory k then
      let r := decodeResources (k + 1) rest
      { r with items := item.foldl decodeResKey ⟨[], .noWc⟩ :: r.items }
    else ⟨false, k + 1, []⟩

/-- The loop over the ACEs. -/
def decodeAces : Nat → List (List OcRep) → Allocated OcSecAce
  | k, [] => ⟨true, k, []⟩
  | k, item :: rest =>
    if memory k then
      let keys := item.foldl decodeAceKey ⟨⟨[], .uuid OcUuid.nil, 0, 0⟩, []⟩
      let resources := decodeResources memory (k + 1) keys.resources
      let ace := { keys.ace with resources := resources.items }
      if resources.done then
        let r := decodeAces resources.count rest
        { r with items := ace :: r.items }
      else ⟨false, resources.count, [ace]⟩
    else ⟨false, k + 1, []⟩

/-- The `oc_sec_acl_t` of the tool: `subjects` is `none` until `OC_LIST_STRUCT_INIT`. -/
structure ObtAcl where
  rowneruuid : OcUuid
  subjects : Option (List OcSecAce)
deriving DecidableEq

/-- `decode_acl` from one property on; every array of objects is taken for the ACEs, and it starts a new list. -/
def decodeAclFrom : Nat → ObtAcl → List OcRep → Bool × ObtAcl
  | _, acl, [] => (true, acl)
  | k, acl, .string n v :: rest =>
    decodeAclFrom k
      (if nameIs n "rowneruuid" then { acl with rowneruuid := ocStrToUuid v acl.rowneruuid } else acl) rest
  | k, acl, .objectArray _ items :: rest =>
    let r := decodeAces memory k items
    let acl := { acl with subjects := some r.items }
    if r.done then decodeAclFrom r.count acl rest else (false, acl)
  | k, acl, _ :: rest => decodeAclFrom k acl rest

/-- `decode_acl` for a list that has just been allocated. -/
def decodeAcl (rep : List OcRep) : Bool × ObtAcl := decodeAclFrom memory 0 ⟨OcUuid.nil, none⟩ rep

/-! ## The credentials -/

/-- One key of a `privatedata` or `publicdata` object; empty data leave what is there. -/
def decodeDataKey (d : OcCredData) : OcRep → OcCredData
  | .string n v =>
    if nameIs n "encoding" then { d with encoding := ocCredParseEncoding v }
    else if nameIs n "data" then if v.length = 0 then d else { d with data := v }
    else d
  | .byteString n v => if nameIs n "data" then if v.length = 0 then d else { d with data := v } else d
  | _ => d

/-- One key of a `roleid` object: both texts go to `role.role`. -/
def decodeRoleidKey (cr : OcSecCred) : OcRep → OcSecCred
  | .string n v | .byteString n v =>
    if nameIs n "role" then { cr with role := v }
    else if nameIs n "authority" then { cr with role := v }
    else cr
  | _ => cr

/-- One key of an entry. -/
def decodeCredKey (cr : OcSecCred) : OcRep → OcSecCred
  | .int n v =>
    if nameIs n "credid" then { cr with credid := castInt v }
    else if nameIs n "credtype" then { cr with credtype := castInt v }
    else cr
  | .string n v =>
    if nameIs n "subjectuuid" then { cr with subjectuuid := ocStrToUuid v cr.subjectuuid }
    else if nameIs n "credusage" then { cr with credusage := ocCredParseCredusage v }
    else cr
  | .object n entries =>
    if nameIs n "privatedata" then { cr with privatedata := entries.foldl decodeDataKey cr.privatedata }
    else if nameIs n "publicdata" then { cr with publicdata := entries.foldl decodeDataKey cr.publicdata }
    else if nameIs n "roleid" then entries.foldl decodeRoleidKey cr
    else cr
  | .bool n v => if nameIs n "owner_cred" then { cr with ownerCred := v } else cr
  | _ => cr

/-- The loop over the credentials. The place of an allocation stands for the address. -/
def decodeCreds : Nat → List (List OcRep) → Allocated OcSecCred
  | k, [] => ⟨true, k, []⟩
  | k, item :: rest =>
    if memory k then
      let r := decodeCreds (k + 1) rest
      { r with items := item.foldl decodeCredKey (.zero k) :: r.items }
    else ⟨false, k + 1, []⟩

/-- The `oc_sec_creds_t` of the tool. -/
structure ObtCreds where
  rowneruuid : OcUuid
  creds : Option (List OcSecCred)
deriving DecidableEq

/-- `decode_cred` from one property on. -/
def decodeCredFrom : Nat → ObtCreds → List OcRep → Bool × ObtCreds
  | _, creds, [] => (true, creds)
  | k, creds, .string n v :: rest =>
    decodeCredFrom k
      (if nameIs n "rowneruuid" then { creds with rowneruuid := ocStrToUuid v creds.rowneruuid } else creds) rest
  | k, creds, .objectArray n items :: rest =>
    if nameIs n "creds" || nameIs n "roles" then
      let r := decodeCreds memory k items
      let creds := { creds with creds := creds.creds.map (· ++ r.items) }
      if r.done then decodeCredFrom r.count creds rest else (false, creds)
    else decodeCredFrom k creds rest
  | k, creds, _ :: rest => decodeCredFrom k creds rest

/-- `decode_cred` for a list that has just been allocated and initialised. -/
def decodeCred (rep : List OcRep) : Bool × ObtCreds := decodeCredFrom memory 0 ⟨OcUuid.nil, some []⟩ rep

end Loops

/-! ## The response handlers -/

/-- What a response handler does: nothing without its context, the application's callback with a list or with NULL, or
it walks a list that has not been initialised. -/
inductive Retrieval (α : Type)
  | ignored
  | called (list : Option α)
  | uninitialised
deriving DecidableEq

/-- A response to a retrieval: whether its context is in the list, its status and its payload, whether there is memory
for the list, and which allocations of its items succeed. -/
structure RetrieveResponse where
  known : Bool
  status : OcStatus
  payload : List OcRep
  allocated : Bool
  memory : Nat → Bool

/-- The response is decoded. -/
def RetrieveResponse.decoded (r : RetrieveResponse) : Bool := r.known && !r.status.isError && r.allocated

/-- `acl2_rsrc`: the length of `acl->subjects` is taken behind `decode_acl`. -/
def acl2Rsrc (r : RetrieveResponse) : Retrieval OcSecAcl :=
  if r.known = false then .ignored
  else if r.status.isError then .called none
  else if r.allocated = false then .called none
  else
    let acl := (decodeAcl r.memory r.payload).2
    match acl.subjects with
    | none => .uninitialised
    | some l => if l.length > 0 then .called (some ⟨l, acl.rowneruuid⟩) else .called none

/-- `cred_rsrc`, which initialises `creds->creds` in front of `decode_cred`. -/
def credRsrc (r : RetrieveResponse) : Retrieval OcSecCreds :=
  if r.known = false then .ignored
  else if r.status.isError then .called none
  else if r.allocated = false then .called none
  else
    let creds := (decodeCred r.memory r.payload).2
    match creds.creds with
    | none => .uninitialised
    | some l => if l.length > 0 then .called (some ⟨l, creds.rowneruuid⟩) else .called none

end SmartGarage.Retrieve
