/-
`oc_certs_validate_csr` of `oc_certs.c`, by which the onboarding tool accepts the request of a device for an identity
certificate. One variable has the result of the parser and of each later step, and a request that is not compliant
skips them all.
-/
import SmartGarage.Api.Basic

namespace SmartGarage.Csr

/-! ## Requests -/

/-- `mbedtls_pk_type_t` -/
inductive MbedtlsPkType
  | none | rsa | eckey | eckeyDh | ecdsa | rsaAlt | rsassaPss
deriving DecidableEq

/-- `mbedtls_md_type_t` -/
inductive MbedtlsMdType
  | none | md2 | md4 | md5 | sha1 | sha224 | sha256 | sha384 | sha512 | ripemd160
deriving DecidableEq

/-- `mbedtls_x509_buf`, without its tag; `p` is `none` for a null pointer. -/
structure MbedtlsX509Buf where
  p : Option OcString
  len : Nat

/-- The bytes of a buffer. -/
def MbedtlsX509Buf.bytes (b : MbedtlsX509Buf) : OcString := (b.p.getD []).take b.len

/-- What is read of an `mbedtls_x509_csr`: `pkType` is the type of the key `pk`. -/
structure MbedtlsX509Csr (Key Name : Type) where
  pk : Key
  pkType : MbedtlsPkType
  sigMd : MbedtlsMdType
  sig : MbedtlsX509Buf
  cri : MbedtlsX509Buf
  subject : Name

/-- `OC_ECDSA_PUBKEY_SIZE` -/
def OC_ECDSA_PUBKEY_SIZE : Nat := 91

/-- The functions of mbedTLS that are called, each with what it returns and what it writes. They return 0 or an error
code, which is negative; the last two return a length in place of 0. -/
structure MbedtlsCsr (Key Name : Type) where
  csrParse : OcString → Int × MbedtlsX509Csr Key Name
  md : MbedtlsMdType → OcString → Int × OcString
  pkVerify : Key → MbedtlsMdType → (hash sig : OcString) → Int
  dnGets : (size : Nat) → Name → Int × OcString
  pkWritePubkeyDer : Key → (size : Nat) → Int × OcString
  md_code : ∀ type input, (md type input).1 ≤ 0
  pkVerify_code : ∀ key type hash sig, pkVerify key type hash sig ≤ 0

variable {Key Name : Type}

/-- What `oc_certs_validate_csr` returns, and what it leaves in `subject_DN` and `public_key`, if it has set them. -/
structure CsrResult where
  ret : Int
  subjectDN : Option OcString
  publicKey : Option OcString

section Validate

variable (lib : MbedtlsCsr Key Name)

/-- The test that a request is compliant. -/
def isCompliant (c : MbedtlsX509Csr Key Name) : Bool :=
  c.pkType == .eckey && c.sigMd == .sha256 && c.sig.len != 0 && c.sig.p.isSome && c.cri.len != 0 && c.cri.p.isSome

/-- The steps for a compliant request; each of them sets `ret`. -/
def csrSteps (c : MbedtlsX509Csr Key Name) : CsrResult :=
  let hashed := lib.md .sha256 c.cri.bytes
  if hashed.1 < 0 then ⟨hashed.1, none, none⟩
  else
    let verified := lib.pkVerify c.pk .sha256 hashed.2 c.sig.bytes
    if verified < 0 then ⟨verified, none, none⟩
    else
      let dn := lib.dnGets 512 c.subject
      if dn.1 < 0 then ⟨dn.1, none, none⟩
      else
        let der := lib.pkWritePubkeyDer c.pk OC_ECDSA_PUBKEY_SIZE
        ⟨der.1, some (dn.2.take dn.1.toNat), if der.1 < 0 then none else some der.2⟩

/-- `oc_certs_validate_csr` -/
def ocCertsValidateCsr (csr : OcString) : CsrResult :=
  let parsed := lib.csrParse csr
  if parsed.1 < 0 then ⟨-1, none, none⟩
  else
    let r := if isCompliant parsed.2 then csrSteps lib parsed.2 else ⟨parsed.1, none, none⟩
    if r.ret < 0 then ⟨-1, none, r.publicKey⟩ else { r with ret := 0 }

/-! ## Validity -/

/-- The signature over the request info verifies with the key of the request. -/
def Verifies (c : MbedtlsX509Csr Key Name) : Prop :=
  (lib.md .sha256 c.cri.bytes).1 = 0 ∧ lib.pkVerify c.pk .sha256 (lib.md .sha256 c.cri.bytes).2 c.sig.bytes = 0

/-- A request that may be signed: its key is an EC key, its digest is SHA-256, its signature verifies, and its subject
and its key have been set. -/
structure Valid (c : MbedtlsX509Csr Key Name) (r : CsrResult) : Prop where
  key : c.pkType = .eckey
  digest : c.sigMd = .sha256
  signature : Verifies lib c
  subject : 0 ≤ (lib.dnGets 512 c.subject).1 ∧
    r.subjectDN = some ((lib.dnGets 512 c.subject).2.take (lib.dnGets 512 c.subject).1.toNat)
  publicKey : 0 ≤ (lib.pkWritePubkeyDer c.pk OC_ECDSA_PUBKEY_SIZE).1 ∧
    r.publicKey = some (lib.pkWritePubkeyDer c.pk OC_ECDSA_PUBKEY_SIZE).2

/-- A request that has been parsed is accepted with 0 if and only if it is valid, and is refused with -1 otherwise. -/
def Decides (csr : OcString) : Prop :=
  let r := ocCertsValidateCsr lib csr
  (r.ret = 0 ∧ Valid lib (lib.csrParse csr).2 r) ∨ (r.ret = -1 ∧ ¬Valid lib (lib.csrParse csr).2 r)

variable {lib}

theorem csrSteps_ret (c : MbedtlsX509Csr Key Name) : 0 ≤ (csrSteps lib c).ret ↔
    Verifies lib c ∧ 0 ≤ (lib.dnGets 512 c.subject).1 ∧ 0 ≤ (lib.pkWritePubkeyDer c.pk OC_ECDSA_PUBKEY_SIZE).1 := by
  have hmd := lib.md_code .sha256 c.cri.bytes
  have hverify := lib.pkVerify_code c.pk .sha256 (lib.md .sha256 c.cri.bytes).2 c.sig.bytes
  unfold csrSteps Verifies
  dsimp only
  split
  · exact iff_of_false (by dsimp only; omega) (by omega)
  · split
    · exact iff_of_false (by dsimp only; omega) (by omega)
    · split
      · exact iff_of_false (by dsimp only; omega) (by omega)
      · dsimp only
        omega

theorem csrSteps_written {c : MbedtlsX509Csr Key Name} (h : 0 ≤ (csrSteps lib c).ret) :
    (csrSteps lib c).subjectDN = some ((lib.dnGets 512 c.subject).2.take (lib.dnGets 512 c.subject).1.toNat) ∧
      (csrSteps lib c).publicKey = some (lib.pkWritePubkeyDer c.pk OC_ECDSA_PUBKEY_SIZE).2 := by
  obtain ⟨⟨hmd, hverify⟩, hdn, hkey⟩ := (csrSteps_ret c).1 h
  unfold csrSteps
  simp only [hmd, hverify, Int.lt_irrefl, if_false, if_neg (Int.not_lt.2 hdn), if_neg (Int.not_lt.2 hkey), and_self]

theorem validateCsr_parsed {csr : OcString} (h : 0 ≤ (lib.csrParse csr).1) : ocCertsValidateCsr lib csr =
    let r := if isCompliant (lib.csrParse csr).2 then csrSteps lib (lib.csrParse csr).2 else ⟨(lib.csrParse csr).1, none, none⟩
    if r.ret < 0 then ⟨-1, none, r.publicKey⟩ else { r with ret := 0 } := by
  unfold ocCertsValidateCsr
  dsimp only
  rw [if_neg (Int.not_lt.2 h)]

/-- A request that has been parsed is decided as it should be if and only if it is compliant: with another key or
digest, or without a signature or an info, it is accepted as it is. -/
theorem validateCsr_decides_iff (lib : MbedtlsCsr Key Name) (csr : OcString) (h : 0 ≤ (lib.csrParse csr).1) :
    Decides lib csr ↔ isCompliant (lib.csrParse csr).2 = true := by
  have hparsed := validateCsr_parsed h
  unfold Decides
  rw [hparsed]
  generalize (lib.csrParse csr).2 = c
  by_cases hcompliant : isCompliant c = true
  · rw [if_pos hcompliant]
    refine iff_of_true ?_ hcompliant
    have htests := hcompliant
    simp only [isCompliant, Bool.and_eq_true, beq_iff_eq] at htests
    obtain ⟨⟨⟨⟨⟨hkey, hdigest⟩, -⟩, -⟩, -⟩, -⟩ := htests
    by_cases hret : (csrSteps lib c).ret < 0
    · rw [if_pos hret]
      exact .inr ⟨rfl, fun hvalid => absurd hvalid.subject.2 (by simp)⟩
    · rw [if_neg hret]
      obtain ⟨hverifies, hdn, hder⟩ := (csrSteps_ret c).1 (Int.not_lt.1 hret)
      obtain ⟨hsubject, hpublicKey⟩ := csrSteps_written (Int.not_lt.1 hret)
      exact .inl ⟨rfl, hkey, hdigest, hverifies, ⟨hdn, hsubject⟩, ⟨hder, hpublicKey⟩⟩
  · rw [if_neg hcompliant]
    refine iff_of_false ?_ hcompliant
    rw [if_neg (Int.not_lt.2 h)]
    rintro (⟨-, hvalid⟩ | ⟨hret, -⟩)
    · exact absurd hvalid.subject.2 (by simp)
    · exact absurd (show (0 : Int) = -1 from hret) (by decide)

end Validate

/-! ## A request with an RSA key -/

/-- Requests whose signature does not verify; the first byte tells the type of the key. -/
def forgedLib : MbedtlsCsr Unit Unit where
  csrParse csr := (0, ⟨(), if csr.head? = some 0 then .eckey else .rsa, .sha256, ⟨some [1], 1⟩, ⟨some [2], 1⟩, ()⟩)
  md _ _ := (0, [])
  pkVerify _ _ _ _ := -1
  dnGets _ _ := (2, [67, 78])
  pkWritePubkeyDer _ _ := (1, [3])
  md_code _ _ := Int.le_refl 0
  pkVerify_code _ _ _ _ := by decide

/-- A forged request with an EC key is refused. -/
theorem validateCsr_decides_eckey : 0 ≤ (forgedLib.csrParse [0]).1 ∧ Decides forgedLib [0] :=
  ⟨by decide, (validateCsr_decides_iff forgedLib [0] (by decide)).2 (by decide)⟩

/-- A forged request with an RSA key is accepted. -/
theorem validateCsr_rsa : ¬∀ (lib : MbedtlsCsr Unit Unit) (csr : OcString), 0 ≤ (lib.csrParse csr).1 → Decides lib csr := by
  intro hall
  rcases hall forgedLib [1] (by decide) with ⟨-, hvalid⟩ | ⟨hret, -⟩
  · exact absurd hvalid.key (by decide)
  · exact absurd hret (by decide)

end SmartGarage.Csr
