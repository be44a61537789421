/-
`oc_acl.c`: provisioning of ACEs. `oc_sec_decode_acl` reads the ACEs of a payload and hands each
resource entry to `oc_sec_ace_get_res`, which looks for an ACE to put it into and for an entry it
would repeat. The last part says which permissions that grants.
-/
import SmartGarage.Api.Rep
import SmartGarage.Security.AclCheck
import Mathlib.Logic.Function.Basic

namespace SmartGarage

/-! ## Updating the list -/

/-- The state with the ACL of `device` replaced. -/
def SecState.setAcl (st : SecState) (device : Nat) (acl : OcSecAcl) : SecState :=
  { st with aclist := Function.update st.aclist device acl }

/-- `unique_aceid` -/
def uniqueAceid (acl : OcSecAcl) (aceid : Int) : Bool := !acl.subjects.any (·.aceid == aceid)

/-- `get_new_aceid`, with the state that has used up a random value. -/
def getNewAceid (P : Platform) (st : SecState) (device : Nat) : Int × SecState :=
  (P.newId st.draws ((st.aclist device).subjects.map (·.aceid)), { st with draws := st.draws + 1 })

/-- A resource entry of a payload: its href (cut at the first zero byte) and wildcard. -/
structure ResEntry where
  href : Option OcString
  wildcard : OcAceWildcard
deriving DecidableEq

/-- The entry `oc_sec_ace_get_res` adds to an ACE. -/
def ResEntry.toRes (e : ResEntry) : OcAceRes := ⟨e.href.getD [], e.wildcard⟩

/-- `oc_sec_ace_get_res` with `create`: the entry goes into the first ACE the search finds, unless
that has an entry the second search finds, or else into a new ACE at the end of the list. -/
def ocSecAceGetRes (P : Platform) (st : SecState) (subject : OcAceSubject) (aceid : Int)
    (permission : BitVec 16) (e : ResEntry) (device : Nat) : SecState :=
  let acl := st.aclist device
  match ocSecAclFindSubject acl.subjects subject aceid permission with
  | some (ace, _) =>
    match ocSecAceFindResource ace.resources e.href e.wildcard.bits with
    -- taken for a repetition, the entry is dropped
    | some _ => st
    | none =>
      let addRes (a : OcSecAce) : OcSecAce := { a with resources := a.resources ++ [e.toRes] }
      st.setAcl device { acl with subjects := Search.modify (aceMatches subject aceid permission) addRes acl.subjects }
  | none =>
    let (aceid, st) := if aceid = -1 then getNewAceid P st device else (aceid, st)
    st.setAcl device { acl with subjects := acl.subjects ++ [⟨[e.toRes], subject, aceid, permission⟩] }

/-- `oc_acl_remove_ace` -/
def ocAclRemoveAce (st : SecState) (aceid : Int) (device : Nat) : SecState :=
  let acl := st.aclist device
  st.setAcl device { acl with subjects := acl.subjects.eraseP (·.aceid == aceid) }

/-! ## Decoding a payload -/

/-- The members of the union `oc_ace_subject_t`. -/
inductive SubjectMember
  | uuid | role | conn
deriving DecidableEq

/-- The member that a key of a subject writes. -/
def subjectMember (name : Option OcString) : Option SubjectMember :=
  if nameIs name "uuid" then some .uuid
  else if nameIs name "role" || nameIs name "authority" then some .role
  else if nameIs name "conntype" then some .conn
  else none

/-- A key that writes at most the given member, and from a text. -/
def writesOnly (member : SubjectMember) : OcRep → Bool
  | .string n _ | .byteString n _ => (subjectMember n).all (· = member)
  | rep => (subjectMember rep.name).isNone

/-- The keys of a subject; every object of an ACE is one. -/
def subjectKeys : OcRep → List OcRep
  | .object _ entries => entries
  | _ => []

/-- The subject of an ACE names keys of one kind. Keys of two kinds would write over each other's bytes. -/
def oneKindSubject (item : List OcRep) : Bool :=
  [SubjectMember.uuid, .role, .conn].any fun member => (item.flatMap subjectKeys).all (writesOnly member)

/-- One key of the `subject` object, for subjects with keys of one kind: behind a key of another kind the union counts as
cleared here, where the code leaves its bytes. Text and bytes share `value.string`. -/
def decodeSubjectKey (subject : OcAceSubject) : OcRep → OcAceSubject
  | .string n v | .byteString n v =>
    if nameIs n "uuid" then
      .uuid (ocStrToUuid v (match subject with | .uuid u => u | _ => OcUuid.nil))
    else if nameIs n "role" then .role v (match subject with | .role _ a => a | _ => [])
    else if nameIs n "authority" then .role (match subject with | .role r _ => r | _ => []) v
    else if nameIs n "conntype" then
      if v = ascii "auth-crypt" then .conn .authCrypt
      else if v = ascii "anon-clear" then .conn .anonClear
      else .conn (match subject with | .conn c => c | _ => .authCrypt)
    else subject
  | _ => subject

/-- One key of a resource entry. -/
def decodeResKey (e : ResEntry) : OcRep → ResEntry
  | .string n v =>
    if nameIs n "href" then { e with href := some (cstr v) }
    else if nameIs n "wc" then
      { e with wildcard := if v.head? = some 42 then .wcAll else if v.head? = some 43 then .wcAllSecured
          else if v.head? = some 45 then .wcAllPublic else e.wildcard }
    else e
  | _ => e

/-- The local variables of `oc_sec_decode_acl` for one ACE of the payload. -/
structure AcePayload where
  subject : OcAceSubject
  aceid : Int
  permission : BitVec 16
  resources : List ResEntry
deriving DecidableEq

/-- One key of an ACE; an object is the subject whatever its name. -/
def decodeAceKey (d : AcePayload) : OcRep → AcePayload
  | .int n v =>
    if nameIs n "permission" then { d with permission := castUInt16 v }
    else if nameIs n "aceid" then { d with aceid := castInt v }
    else d
  | .objectArray n items =>
    if nameIs n "resources" then { d with resources := items.map (·.foldl decodeResKey ⟨none, .noWc⟩) } else d
  | .object _ entries => { d with subject := entries.foldl decodeSubjectKey d.subject }
  | _ => d

/-- The ACE that an item of the payload's array describes. -/
def decodeAce (item : List OcRep) : AcePayload :=
  item.foldl decodeAceKey ⟨.uuid OcUuid.nil, -1, 0, []⟩

/-- The loop over the resource entries of one ACE. -/
def addEntries (P : Platform) (device : Nat) (d : AcePayload) (l : List ResEntry) (st : SecState) : SecState :=
  l.foldl (fun st e => ocSecAceGetRes P st d.subject d.aceid d.permission e device) st

/-- One ACE of the payload: an ACE with the given id is replaced. -/
def provisionAce (P : Platform) (device : Nat) (st : SecState) (item : List OcRep) : SecState :=
  let d := decodeAce item
  let st := if d.aceid ≠ -1 ∧ uniqueAceid (st.aclist device) d.aceid = false then ocAclRemoveAce st d.aceid device
    else st
  addEntries P device d d.resources st

/-- One property of the payload in the second loop of `oc_sec_decode_acl`. -/
def decodeAclProperty (P : Platform) (device : Nat) (st : SecState) : OcRep → SecState
  | .string n v =>
    if nameIs n "rowneruuid" then
      st.setAcl device { st.aclist device with rowneruuid := ocStrToUuid v (st.aclist device).rowneruuid }
    else st
  | .objectArray _ items => items.foldl (provisionAce P device) st
  | _ => st

/-- The check of the first loop of `oc_sec_decode_acl` on one property. -/
def aclPropertyAllowed (s : OcDostype) (fromStorage : Bool) : OcRep → Bool
  | .string n _ => !(nameIs n "rowneruuid" && !fromStorage && (s == .rfnop || s == .rfpro))
  | .objectArray _ _ => !(!fromStorage && s == .rfnop)
  | _ => true

/-- `oc_sec_decode_acl` -/
def ocSecDecodeAcl (P : Platform) (st : SecState) (rep : List OcRep) (fromStorage : Bool) (device : Nat) :
    Bool × SecState :=
  if rep.all (aclPropertyAllowed (st.pstat device).s fromStorage) then
    (true, rep.foldl (decodeAclProperty P device) st)
  else (false, st)

end SmartGarage
