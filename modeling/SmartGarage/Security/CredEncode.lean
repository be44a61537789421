/-
`oc_cred.c`: the encoder `oc_sec_encode_cred`, and the call of the decoder with which
`oc_sec_load_cred` reads the stored credentials back.
-/
import Mathlib.Data.List.TakeWhile
import SmartGarage.Api.Uuid
import SmartGarage.Security.CredDecode

namespace SmartGarage

/-! ## The encoder -/

/-- `oc_cred_read_credusage` -/
def ocCredReadCredusage : OcSecCredusage → OcString
  | .trustca => ascii "oic.sec.cred.trustca"
  | .identityCert => ascii "oic.sec.cred.cert"
  | .roleCert => ascii "oic.sec.cred.rolecert"
  | .mfgTrustca => ascii "oic.sec.cred.mfgtrustca"
  | .mfgCert => ascii "oic.sec.cred.mfgcert"
  | .null => ascii "None"

/-- `oc_cred_read_encoding` -/
def ocCredReadEncoding : OcSecEncoding → OcString
  | .base64 => ascii "oic.sec.encoding.base64"
  | .raw => ascii "oic.sec.encoding.raw"
  | .pem => ascii "oic.sec.encoding.pem"
  | .handle => ascii "oic.sec.encoding.handle"
  | .unsupported => ascii "Unknown"

/-- The value of `subjectuuid`: only the first byte decides whether it is the wildcard. -/
def encodeSubject (subject : OcUuid) : OcString := if subject.id[0] = 42 then [42] else ocUuidToStr subject

/-- The property `roleid`. -/
def encodeRoleid (persist : Bool) (cr : OcSecCred) : List OcRep :=
  if (persist = true ∨ cr.credtype = credtypePsk) ∧ cr.role ≠ [] then
    [.object (some (ascii "roleid")) (.string (some (ascii "role")) (cstr cr.role) ::
      if cr.authority ≠ [] then [.string (some (ascii "authority")) (cstr cr.authority)] else [])]
  else []

/-- The property `privatedata`; what is not raw is written as a text up to its first zero byte. -/
def encodePrivatedata (persist : Bool) (d : OcCredData) : OcRep :=
  let data := if persist then d.data else []
  .object (some (ascii "privatedata")) [
    if d.encoding = .raw then .byteString (some (ascii "data")) data else .string (some (ascii "data")) (cstr data),
    .string (some (ascii "encoding"))
      (if (ocCredReadEncoding d.encoding).length > 7 then ocCredReadEncoding d.encoding
       else ascii "oic.sec.encoding.raw")]

/-- The property `credusage`. -/
def encodeCredusage (credusage : OcSecCredusage) : List OcRep :=
  if (ocCredReadCredusage credusage).length > 4 then
    [.string (some (ascii "credusage")) (ocCredReadCredusage credusage)]
  else []

/-- The property `publicdata`; PEM is written as a text. -/
def encodePublicdata (d : OcCredData) : List OcRep :=
  if d.data ≠ [] then
    [.object (some (ascii "publicdata")) (
      (if d.encoding = .pem then .string (some (ascii "data")) (cstr d.data)
       else .byteString (some (ascii "data")) d.data) ::
      if (ocCredReadEncoding d.encoding).length > 7 then
        [.string (some (ascii "encoding")) (ocCredReadEncoding d.encoding)]
      else [])]
  else []

/-- One entry of the array `creds`. -/
def encodeCredItem (persist : Bool) (cr : OcSecCred) : List OcRep :=
  [.int (some (ascii "credid")) cr.credid, .int (some (ascii "credtype")) cr.credtype,
   .string (some (ascii "subjectuuid")) (encodeSubject cr.subjectuuid)] ++
  encodeRoleid persist cr ++ [encodePrivatedata persist cr.privatedata] ++ encodeCredusage cr.credusage ++
  encodePublicdata cr.publicdata ++ if persist then [.bool (some (ascii "owner_cred")) cr.ownerCred] else []

/-- `oc_process_baseline_interface` for the cred resource, which has neither a name nor a tag. -/
def credBaseline : List OcRep :=
  [.stringArray (some (ascii "rt")) [ascii "oic.r.cred"],
   .stringArray (some (ascii "if")) [ascii "oic.if.rw", ascii "oic.if.baseline"]]

/-- `oc_sec_encode_cred`; `baseline` is `to_storage || iface_mask & OC_IF_BASELINE`. -/
def ocSecEncodeCred (persist baseline : Bool) (creds : OcSecCreds) : List OcRep :=
  (if baseline then credBaseline else []) ++
  [.objectArray (some (ascii "creds")) (creds.creds.map (encodeCredItem persist)),
   .string (some (ascii "rowneruuid")) (ocUuidToStr creds.rowneruuid)]

/-! ## Loading -/

/-- One operation of `oc_sec_decode_cred` without a pointer for the owner credential, as
`oc_sec_load_cred` calls it. -/
def loadOp (P : Platform) (device : Nat) (st : SecState) : CredOp → Bool × SecState
  | .rowneruuid v =>
    let creds := st.creds device
    (true, st.setCreds device { creds with rowneruuid := ocStrToUuid v creds.rowneruuid })
  | .entry item =>
    match decodeEntry item with
    | none => (false, st)
    | some e =>
      if item = [] then (true, st)
      else
        let (credid, st) := ocSecAddNewCred P st device false none e.args
        if credid = -1 then (false, st)
        -- the flag of the first credential with the id, if there is one
        else (true, setOwnerCred st credid device e.ownerCred)

/-- The operations up to the first one that fails. -/
def loadOps (P : Platform) (device : Nat) : SecState → List CredOp → Bool × SecState
  | st, [] => (true, st)
  | st, op :: l =>
    match loadOp P device st op with
    | (true, st') => loadOps P device st' l
    | (false, st') => (false, st')

/-- `oc_sec_decode_cred(rep, NULL, true, false, NULL, device)` -/
def ocSecLoadCred (P : Platform) (st : SecState) (rep : List OcRep) (device : Nat) : Bool × SecState :=
  if !rep.all (credPropertyAllowed (st.pstat device).s true) then (false, st)
  else loadOps P device st (credOps rep)

/-! ## Reading one entry back -/

/-- The arguments that the decoder reads from the entry of a stored credential. -/
def storedArgs (c : OcSecCred) : CredArgs where
  credid := castInt c.credid
  credtype := castInt c.credtype
  credusage := c.credusage
  subjectuuid := some (encodeSubject c.subjectuuid)
  privatedataEncoding := if c.privatedata.encoding = .unsupported then .raw else c.privatedata.encoding
  privatedata := if c.privatedata.encoding = .raw then c.privatedata.data else cstr c.privatedata.data
  publicdataEncoding := if c.publicdata.data ≠ [] then c.publicdata.encoding else .unsupported
  publicdata :=
    if c.publicdata.data ≠ [] then
      some (if c.publicdata.encoding = .pem then cstr c.publicdata.data else c.publicdata.data)
    else none
  role := if c.role ≠ [] then some (cstr c.role) else none
  authority := if c.role ≠ [] ∧ c.authority ≠ [] then some (cstr c.authority) else none

section Keys

variable (e : CredEntry)

theorem decodeCredKey_credid (v : Int) : decodeCredKey e (.int (some (ascii "credid")) v) =
    some { e with args := { e.args with credid := castInt v } } := rfl

theorem decodeCredKey_credtype (v : Int) : decodeCredKey e (.int (some (ascii "credtype")) v) =
    some { e with args := { e.args with credtype := castInt v } } := rfl

theorem decodeCredKey_subjectuuid (v : OcString) : decodeCredKey e (.string (some (ascii "subjectuuid")) v) =
    some { e with args := { e.args with subjectuuid := some v } } := rfl

theorem decodeCredKeys_roleid (c : OcSecCred) (hr : e.args.role = none) (ha : e.args.authority = none) :
    (encodeRoleid true c).foldlM decodeCredKey e =
      some { e with args := { e.args with role := (storedArgs c).role, authority := (storedArgs c).authority } } := by
  obtain ⟨⟨_, _, _, _, _, _, _, _, _, _⟩, _⟩ := e
  subst hr ha
  unfold encodeRoleid storedArgs
  by_cases hrole : c.role = []
  · simp [hrole]
  · by_cases hauth : c.authority = []
    · simp only [hrole, hauth, ne_eq, not_true_eq_false, not_false_eq_true, true_or, and_self, and_false, reduceIte]
      rfl
    · simp only [hrole, hauth, ne_eq, not_false_eq_true, true_or, and_self, reduceIte]
      rfl

theorem decodeCredKey_privatedata (c : OcSecCred) : decodeCredKey e (encodePrivatedata true c.privatedata) =
    some { e with args := { e.args with
      privatedata := (storedArgs c).privatedata, privatedataEncoding := (storedArgs c).privatedataEncoding } } := by
  unfold encodePrivatedata storedArgs
  cases c.privatedata.encoding <;> rfl

theorem decodeCredKeys_credusage (u : OcSecCredusage) (hu : e.args.credusage = .null) :
    (encodeCredusage u).foldlM decodeCredKey e = some { e with args := { e.args with credusage := u } } := by
  obtain ⟨⟨_, _, _, _, _, _, _, _, _, _⟩, _⟩ := e
  subst hu
  cases u <;> rfl

theorem decodeCredKeys_publicdata (c : OcSecCred) (hp : e.args.publicdata = none)
    (he : e.args.publicdataEncoding = .unsupported) : (encodePublicdata c.publicdata).foldlM decodeCredKey e =
      some { e with args := { e.args with
        publicdata := (storedArgs c).publicdata, publicdataEncoding := (storedArgs c).publicdataEncoding } } := by
  obtain ⟨⟨_, _, _, _, _, _, _, _, _, _⟩, _⟩ := e
  subst hp he
  unfold encodePublicdata storedArgs
  by_cases hdata : c.publicdata.data = []
  · simp [hdata]
  · simp only [hdata, ne_eq, not_false_eq_true, reduceIte]
    cases c.publicdata.encoding <;> rfl

end Keys

/-- The decoder reads from an entry what the encoder has written of the credential. -/
theorem decodeEntry_encode (c : OcSecCred) : decodeEntry (encodeCredItem true c) = some ⟨storedArgs c, c.ownerCred⟩ := by
  unfold decodeEntry encodeCredItem
  simp only [List.foldlM_append, List.foldlM_cons, List.foldlM_nil, decodeCredKey_credid, decodeCredKey_credtype,
    decodeCredKey_subjectuuid, decodeCredKey_privatedata, Option.bind_eq_bind, Option.bind_some, Option.pure_def]
  rw [decodeCredKeys_roleid _ c rfl rfl]
  simp only [Option.bind_some]
  rw [decodeCredKeys_credusage _ c.credusage rfl]
  simp only [Option.bind_some]
  rw [decodeCredKeys_publicdata _ c rfl rfl]
  rfl

/-! ## Characters of the texts -/

/-- The subject survives its text unless only its first byte is the one of the wildcard. -/
theorem argsSubject_stored (c : OcSecCred) : argsSubject (storedArgs c) =
    some (if c.subjectuuid.id[0] = 42 then OcUuid.wildcard else c.subjectuuid) := by
  unfold argsSubject storedArgs encodeSubject
  by_cases h : c.subjectuuid.id[0] = 42
  · simp [h]
  · have hne : c.subjectuuid ≠ OcUuid.wildcard := by
      intro hw
      rw [hw] at h
      exact h rfl
    obtain ⟨b, l, htext, hb, -⟩ := ocUuidToStr_head hne
    have hhead : (ocUuidToStr c.subjectuuid).head? ≠ some 42 := by simpa [htext] using hb
    simp only [h, reduceIte, hhead, ocStrToUuid_ocUuidToStr]

end SmartGarage
