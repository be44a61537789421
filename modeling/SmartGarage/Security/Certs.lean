/-
`oc_certs.c`: the checks on parsed X.509 certificates and the extraction of the role, the CN UUID
and the public key. mbedTLS itself (parsing, chain verification, the clock) is the parameter
`Mbedtls`.
-/
import SmartGarage.Api.Basic

namespace SmartGarage

/-! ## Parsed certificates -/

/-- A component of a distinguished name (`mbedtls_asn1_named_data`). `following` is what lies behind
the value in the DER buffer: the value has no terminator. -/
structure X509Name where
  oid : OcString
  val : OcString
  following : OcString
deriving DecidableEq

/-- An entry of the subjectAltName extension: a directoryName with its components, or another kind
of name. -/
inductive GeneralName
  | directoryName (components : List X509Name)
  | other
deriving DecidableEq

/-- `mbedtls_x509_crt` without its `next`: the fields `oc_certs.c` and `oc_tls.c` read. `pubkeyDer`
is what `mbedtls_pk_write_pubkey_der` writes for the key, or `none` where it fails; `extKeyUsage`
is `none` where the extension is absent. -/
structure Crt where
  raw : OcString
  version : Nat
  sigMdIsSha256 : Bool
  sigPkIsEcdsa : Bool
  curveIsSecp256r1 : Bool
  validFrom : Nat
  validTo : Nat
  issuerRaw : OcString
  subjectRaw : OcString
  issuer : List X509Name
  subject : List X509Name
  subjectAltNames : List GeneralName
  keyUsage : BitVec 32
  caIstrue : Bool
  maxPathlen : Int
  extKeyUsage : Option (List OcString)
  pubkeyDer : Option OcString
deriving DecidableEq

/-- The parts of mbedTLS the modelled code calls. `crtParse buf` is `mbedtls_x509_crt_parse` on a
buffer with the content `buf` and its terminator: the returned value and the certificates it
appends. `crtVerify chain anchors` holds when `mbedtls_x509_crt_verify_with_profile` returns 0 with
no flag set. `now` is the clock of `mbedtls_x509_time_is_past` and `_is_future`. -/
structure Mbedtls where
  crtParse : OcString → Int × List Crt
  crtVerify : List Crt → List Crt → Bool
  now : Nat

/-- An mbedTLS that neither parses nor verifies anything, at time 0. -/
def Mbedtls.rejecting : Mbedtls := ⟨fun _ => (-1, []), fun _ _ => false, 0⟩

/-- `MBEDTLS_OID_AT_CN` -/
def oidAtCn : OcString := [0x55, 0x04, 0x03]
/-- `MBEDTLS_OID_AT_ORG_UNIT` -/
def oidAtOrgUnit : OcString := [0x55, 0x04, 0x0b]
/-- `MBEDTLS_OID_SERVER_AUTH` -/
def oidServerAuth : OcString := [0x2b, 0x06, 0x01, 0x05, 0x05, 0x07, 0x03, 0x01]
/-- `MBEDTLS_OID_CLIENT_AUTH` -/
def oidClientAuth : OcString := [0x2b, 0x06, 0x01, 0x05, 0x05, 0x07, 0x03, 0x02]
/-- `MBEDTLS_OID_ANY_EXTENDED_KEY_USAGE` -/
def oidAnyExtendedKeyUsage : OcString := [0x55, 0x1d, 0x25, 0x00]
/-- `identity_cert_oid`, 1.3.6.1.4.1.44924.1.6 -/
def identityCertOid : OcString := [0x2b, 0x06, 0x01, 0x04, 0x01, 0x82, 0xDE, 0x7C, 0x01, 0x06]
/-- `role_cert_oid`, 1.3.6.1.4.1.44924.1.7 -/
def roleCertOid : OcString := [0x2b, 0x06, 0x01, 0x04, 0x01, 0x82, 0xDE, 0x7C, 0x01, 0x07]

/-- `MBEDTLS_X509_KU_DIGITAL_SIGNATURE` -/
def kuDigitalSignature : BitVec 32 := 0x80
/-- `MBEDTLS_X509_KU_KEY_AGREEMENT` -/
def kuKeyAgreement : BitVec 32 := 0x08
/-- `MBEDTLS_X509_KU_KEY_CERT_SIGN` -/
def kuKeyCertSign : BitVec 32 := 0x04
/-- `MBEDTLS_X509_KU_CRL_SIGN` -/
def kuCrlSign : BitVec 32 := 0x02

/-- `mbedtls_x509_crt_check_extended_key_usage(cert, oid) == 0`: an absent extension allows
everything, and so does `anyExtendedKeyUsage`. -/
def checkExtendedKeyUsage (c : Crt) (oid : OcString) : Bool :=
  match c.extKeyUsage with
  | none => true
  | some l => l.contains oid || l.contains oidAnyExtendedKeyUsage

/-! ## Certificate checks -/

/-- `validate_x509v1_fields(cert) == 0` -/
def validateX509v1Fields (m : Mbedtls) (c : Crt) : Bool :=
  c.sigMdIsSha256 && c.version == 3 && decide (c.validFrom ≤ m.now) && decide (m.now ≤ c.validTo) &&
  c.sigPkIsEcdsa && c.curveIsSecp256r1

/-- `is_self_issued` of `oc_certs_validate_non_end_entity_cert`: equal lengths are enough, the
bytes are only compared where the lengths differ. -/
def isSelfIssued (c : Crt) : Bool :=
  c.issuerRaw.length == c.subjectRaw.length ||
  c.issuerRaw == c.subjectRaw.take c.issuerRaw.length

/-- `oc_certs_validate_non_end_entity_cert(cert, is_root, is_otm, depth) == 0` -/
def ocCertsValidateNonEndEntityCert (m : Mbedtls) (c : Crt) (isRoot isOtm : Bool) (depth : Int) : Bool :=
  let optionalKeyUsage := if isOtm then kuDigitalSignature else kuDigitalSignature ||| kuCrlSign
  let keyUsage := if isOtm then kuKeyCertSign ||| kuCrlSign else kuKeyCertSign
  validateX509v1Fields m c && (isRoot == isSelfIssued c) &&
  (c.keyUsage &&& keyUsage == keyUsage) && (c.keyUsage &&& ~~~(optionalKeyUsage ||| keyUsage) == 0) &&
  c.caIstrue && (c.maxPathlen == 0 || decide (depth ≤ c.maxPathlen)) &&
  !(isOtm && !isRoot && c.maxPathlen != 1)

/-- The checks `oc_certs_validate_end_entity_cert` and `oc_certs_validate_role_cert` share, apart
from the OCF OIDs: the X.509v1 fields, the two key usage bits, `cA` and the authentication OIDs. -/
def validateLeafFields (m : Mbedtls) (c : Crt) : Bool :=
  let keyUsage := kuDigitalSignature ||| kuKeyAgreement
  validateX509v1Fields m c && (c.keyUsage &&& keyUsage == keyUsage) && (c.keyUsage &&& ~~~keyUsage == 0) &&
  !c.caIstrue && c.maxPathlen == 0 &&
  checkExtendedKeyUsage c oidServerAuth && checkExtendedKeyUsage c oidClientAuth

/-- `oc_certs_validate_end_entity_cert(cert) == 0` -/
def ocCertsValidateEndEntityCert (m : Mbedtls) (c : Crt) : Bool :=
  validateLeafFields m c && checkExtendedKeyUsage c identityCertOid && !checkExtendedKeyUsage c roleCertOid &&
  !checkExtendedKeyUsage c oidAnyExtendedKeyUsage

/-- `oc_certs_validate_role_cert(cert) == 0` -/
def ocCertsValidateRoleCert (m : Mbedtls) (c : Crt) : Bool :=
  validateLeafFields m c && !checkExtendedKeyUsage c identityCertOid && checkExtendedKeyUsage c roleCertOid &&
  !checkExtendedKeyUsage c oidAnyExtendedKeyUsage

/-! ## Extraction -/

/-- `oc_certs_parse_public_key`: the DER encoding of the key of the first certificate in `cert`,
or `none` where the function returns -1. A null buffer does not parse. -/
def ocCertsParsePublicKey (m : Mbedtls) (cert : Option OcString) : Option OcString :=
  match cert with
  | none => none
  | some buf =>
    if (m.crtParse buf).1 < 0 then none
    else (m.crtParse buf).2.head?.bind (·.pubkeyDer)

/-- `strstr(s, "uuid:")` as an offset into `s`; the search ends at the first zero byte. -/
def findUuidPrefix : OcString → Option Nat
  | [] => none
  | b :: l =>
    if b = 0 then none
    else if (ascii "uuid:").isPrefixOf (b :: l) then some 0
    else (findUuidPrefix l).map (· + 1)

/-- `oc_certs_parse_CN_for_UUID`: the 36 characters taken as the UUID from the certificate's CN. The
remaining length is computed in `size_t`, so a prefix found behind the value wraps around. -/
def ocCertsParseCNForUUID (c : Crt) : Option OcString :=
  match c.subject.find? (·.oid == oidAtCn) with
  | none => none
  | some cn =>
    if cn.val.length > 36 then
      match findUuidPrefix (cn.val ++ cn.following) with
      | some o =>
        if (cn.val.length + 2 ^ 64 - (o + 5)) % 2 ^ 64 < 36 then none
        else some (((cn.val ++ cn.following).drop (o + 5)).take 36)
      | none => some (cn.val.take 36)
    else if cn.val.length < 36 then none
    else some cn.val

/-- `oc_certs_parse_CN_for_UUID_raw`: the CN of the first certificate of a buffer that parses
without any failure. -/
def ocCertsParseCNForUUIDRaw (m : Mbedtls) (cert : OcString) : Option OcString :=
  if (m.crtParse cert).1 ≠ 0 then none
  else (m.crtParse cert).2.head?.bind ocCertsParseCNForUUID

/-- The values the components with the given OID leave in a string: the last one wins. -/
def lastWithOid (oid : OcString) (l : List X509Name) : Option OcString :=
  (l.filter (·.oid == oid)).getLast?.map (·.val)

/-- The loop of `oc_certs_parse_role_certificate` over the subjectAltName entries: the role and the
authority of the first directoryName that has both, the issuer's CN standing in for a missing OU. -/
def parseRoleNames (issuer : List X509Name) : List GeneralName → Option (OcString × OcString)
  | [] => none
  | .other :: l => parseRoleNames issuer l
  | .directoryName d :: l =>
    match lastWithOid oidAtCn d, (lastWithOid oidAtOrgUnit d).or (lastWithOid oidAtCn issuer) with
    | some role, some authority => some (role, authority)
    | _, _ => parseRoleNames issuer l

/-- `oc_certs_parse_role_certificate`: the parsed chain with the role and authority, or `none`
where the function returns -1. -/
def ocCertsParseRoleCertificate (m : Mbedtls) (anchors : List Crt) (cert : Option OcString) :
    Option (List Crt × OcString × OcString) :=
  match cert with
  | none => none
  | some buf =>
    if (m.crtParse buf).1 < 0 then none
    else match (m.crtParse buf).2 with
      | [] => none
      | c :: rest =>
        if !ocCertsValidateRoleCert m c then none
        else if !m.crtVerify (c :: rest) anchors then none
        else (parseRoleNames c.issuer c.subjectAltNames).map fun p => (c :: rest, p.1, p.2)

end SmartGarage
