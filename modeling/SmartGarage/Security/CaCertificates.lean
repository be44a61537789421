/-
The checks of a CA certificate (`oc_certs_validate_non_end_entity_cert`, `oc_certs.c`), with the memory that the
comparison of the two names looks at: names of one length count as equal, and of names of different lengths the bytes
are compared that the issuer has.
-/
import SmartGarage.Security.TlsVerify

namespace SmartGarage.CaCertificate

/-! ## The function -/

/-- `memcmp(cert->issuer_raw.p, cert->subject_raw.p, cert->issuer_raw.len) == 0`, where `behind` stands behind the
subject in memory. -/
def namesMatch (behind : OcString) (c : Crt) : Bool := c.issuerRaw == (c.subjectRaw ++ behind).take c.issuerRaw.length

/-- `is_self_issued` -/
def isSelfIssued (behind : OcString) (c : Crt) : Bool :=
  c.issuerRaw.length == c.subjectRaw.length || namesMatch behind c

/-- The bits that have to be set in `key_usage`. -/
def requiredUsage (isOtm : Bool) : BitVec 32 := if isOtm then kuKeyCertSign ||| kuCrlSign else kuKeyCertSign

/-- The bits that may be set. -/
def optionalUsage (isOtm : Bool) : BitVec 32 :=
  if isOtm then kuDigitalSignature else kuDigitalSignature ||| kuCrlSign

section Function

variable (m : Mbedtls) (behind : OcString) (c : Crt) (isRoot isOtm : Bool) (depth : Int)

/-- `oc_certs_validate_non_end_entity_cert`, in memory. -/
def ocCertsValidateNonEndEntityCertIn : Int :=
  if !validateX509v1Fields m c then -1
  else if isRoot && !isSelfIssued behind c then -1
  else if !isRoot && isSelfIssued behind c then -1
  else if c.keyUsage &&& requiredUsage isOtm ≠ requiredUsage isOtm then -1
  else if c.keyUsage &&& ~~~(optionalUsage isOtm ||| requiredUsage isOtm) ≠ 0 then -1
  else if !c.caIstrue then -1
  else if c.maxPathlen ≠ 0 ∧ c.maxPathlen < depth then -1
  else if isOtm ∧ !isRoot ∧ c.maxPathlen ≠ 1 then -1
  else 0

/-- The bytes from the beginning of each name that are looked at: `memcmp` is called where the lengths differ. -/
def nameReads : Nat :=
  if validateX509v1Fields m c ∧ c.issuerRaw.length ≠ c.subjectRaw.length then c.issuerRaw.length else 0

/-! ## Valid certificates -/

/-- The bits of `key_usage`: `keyCertSign` is set, and `cRLSign` for an OTM, and no bits but these and
`digitalSignature` are. -/
def ValidUsage : Prop :=
  c.keyUsage &&& kuKeyCertSign = kuKeyCertSign ∧ (isOtm = true → c.keyUsage &&& kuCrlSign = kuCrlSign) ∧
    c.keyUsage &&& ~~~(kuKeyCertSign ||| kuDigitalSignature ||| kuCrlSign) = 0

/-- The path length is unlimited or enough; the one of mbedTLS is larger by one. -/
def ValidPathlen : Prop :=
  (c.maxPathlen = 0 ∨ depth ≤ c.maxPathlen) ∧ (isOtm = true → isRoot = false → c.maxPathlen = 1)

/-- What is checked besides the X.509v1 fields and the names. -/
def ValidRest : Prop := ValidUsage c isOtm ∧ c.caIstrue = true ∧ ValidPathlen c isRoot isOtm depth

/-- A valid CA certificate: only a root has its own name as the name of its issuer. -/
structure Valid : Prop where
  fields : validateX509v1Fields m c = true
  names : isRoot = true ↔ c.issuerRaw = c.subjectRaw
  rest : ValidRest c isRoot isOtm depth

/-- The function returns 0 for the valid certificates, and looks at no byte outside of the names. -/
structure Decides : Prop where
  valid : ocCertsValidateNonEndEntityCertIn m behind c isRoot isOtm depth = 0 ↔ Valid m c isRoot isOtm depth
  reads : nameReads m c ≤ c.issuerRaw.length ∧ nameReads m c ≤ c.subjectRaw.length

/-- The comparison tells the names: they are equal, or the issuer's is the shorter one and not the beginning of the
subject's. -/
def NamesTold : Prop :=
  c.issuerRaw = c.subjectRaw ∨ c.issuerRaw.length < c.subjectRaw.length ∧ ¬c.issuerRaw <+: c.subjectRaw

end Function

/-! ## The bits -/

section Bits

theorem and_or_eq_iff {x a b : BitVec 32} : x &&& (a ||| b) = a ||| b ↔ x &&& a = a ∧ x &&& b = b := by
  simp only [BitVec.eq_of_getLsbD_eq_iff, BitVec.getLsbD_and, BitVec.getLsbD_or]
  constructor
  · intro h
    refine ⟨fun i hi => ?_, fun i hi => ?_⟩ <;>
      have hbit := h i hi <;> revert hbit <;> cases x.getLsbD i <;> cases a.getLsbD i <;> cases b.getLsbD i <;> decide
  · rintro ⟨ha, hb⟩ i hi
    have hbita := ha i hi
    have hbitb := hb i hi
    revert hbita hbitb
    cases x.getLsbD i <;> cases a.getLsbD i <;> cases b.getLsbD i <;> decide

theorem usage_masks (isOtm : Bool) :
    optionalUsage isOtm ||| requiredUsage isOtm = kuKeyCertSign ||| kuDigitalSignature ||| kuCrlSign := by
  cases isOtm <;> decide

theorem validUsage_iff (c : Crt) (isOtm : Bool) : ValidUsage c isOtm ↔
    c.keyUsage &&& requiredUsage isOtm = requiredUsage isOtm ∧
      c.keyUsage &&& ~~~(optionalUsage isOtm ||| requiredUsage isOtm) = 0 := by
  rw [usage_masks]
  unfold ValidUsage requiredUsage
  cases isOtm with
  | true =>
    rw [if_pos rfl, and_or_eq_iff, and_assoc]
    simp
  | false => simp

end Bits

/-! ## What the function decides -/

section Decides

variable {m : Mbedtls} {behind : OcString} {c : Crt} {isRoot isOtm : Bool} {depth : Int}

theorem validate_eq_zero_iff : ocCertsValidateNonEndEntityCertIn m behind c isRoot isOtm depth = 0 ↔
    validateX509v1Fields m c = true ∧ isRoot = isSelfIssued behind c ∧ ValidRest c isRoot isOtm depth := by
  have herror : ¬(-1 : Int) = 0 := by decide
  unfold ValidRest
  rw [validUsage_iff]
  unfold ocCertsValidateNonEndEntityCertIn ValidPathlen
  -- the checks in the order of the function, each of them ending it
  by_cases hfields : validateX509v1Fields m c = true
  · rw [if_neg (by simp [hfields])]
    by_cases hself : isRoot = isSelfIssued behind c
    · rw [if_neg (by simp [hself]), if_neg (by simp [hself])]
      by_cases hrequired : c.keyUsage &&& requiredUsage isOtm = requiredUsage isOtm
      · rw [if_neg (not_not.2 hrequired)]
        by_cases hextra : c.keyUsage &&& ~~~(optionalUsage isOtm ||| requiredUsage isOtm) = 0
        · rw [if_neg (not_not.2 hextra)]
          by_cases hca : c.caIstrue = true
          · rw [if_neg (by simp [hca])]
            by_cases hpath : c.maxPathlen ≠ 0 ∧ c.maxPathlen < depth
            · rw [if_pos hpath]
              exact iff_of_false herror fun h => by
                rcases h.2.2.2.2.1 with hzero | hle
                · exact hpath.1 hzero
                · omega
            · rw [if_neg hpath]
              have hle : c.maxPathlen = 0 ∨ depth ≤ c.maxPathlen := by omega
              by_cases hotm : isOtm ∧ !isRoot ∧ c.maxPathlen ≠ 1
              · rw [if_pos hotm]
                exact iff_of_false herror fun h => hotm.2.2 (h.2.2.2.2.2 hotm.1 (by simpa using hotm.2.1))
              · rw [if_neg hotm]
                refine iff_of_true rfl ⟨hfields, hself, ⟨hrequired, hextra⟩, hca, hle, fun hisOtm hisRoot => ?_⟩
                by_contra hone
                exact hotm ⟨hisOtm, by simp [hisRoot], hone⟩
          · rw [if_pos (by simpa using hca)]
            exact iff_of_false herror fun h => hca h.2.2.2.1
        · rw [if_pos hextra]
          exact iff_of_false herror fun h => hextra h.2.2.1.2
      · rw [if_pos hrequired]
        exact iff_of_false herror fun h => hrequired h.2.2.1.1
    · have hwrong : (isRoot && !isSelfIssued behind c) = true ∨ (!isRoot && isSelfIssued behind c) = true := by
        revert hself
        cases isRoot <;> cases isSelfIssued behind c <;> simp
      have hminus : ∀ r : Int, (if (isRoot && !isSelfIssued behind c) = true then -1
          else if (!isRoot && isSelfIssued behind c) = true then -1 else r) = -1 := by
        intro r
        rcases hwrong with h | h
        · rw [if_pos h]
        · rw [if_pos h, ite_self]
      rw [hminus]
      exact iff_of_false herror fun h => hself h.2.1
  · rw [if_pos (by simpa using hfields)]
    exact iff_of_false herror fun h => hfields h.1

/-- Where the issuer's name is not the longer one, the bytes behind the subject do not matter, and the names are taken
for equal if they have one length or the one is the beginning of the other. -/
theorem isSelfIssued_iff (hle : c.issuerRaw.length ≤ c.subjectRaw.length) :
    isSelfIssued behind c = true ↔ c.issuerRaw.length = c.subjectRaw.length ∨ c.issuerRaw <+: c.subjectRaw := by
  unfold isSelfIssued namesMatch
  rw [List.take_append_of_le_length hle, Bool.or_eq_true, beq_iff_eq, beq_iff_eq, List.prefix_iff_eq_take]

variable (behind) in
theorem namesTold_iff (hle : c.issuerRaw.length ≤ c.subjectRaw.length) :
    NamesTold c ↔ (isSelfIssued behind c = true ↔ c.issuerRaw = c.subjectRaw) := by
  rw [isSelfIssued_iff hle]
  unfold NamesTold
  constructor
  · rintro (heq | ⟨hlt, hprefix⟩)
    · exact iff_of_true (.inl (congrArg List.length heq)) heq
    · refine iff_of_false (fun h => ?_) fun heq => absurd (congrArg List.length heq) (by omega)
      rcases h with hlen | h
      · omega
      · exact hprefix h
  · intro hiff
    by_cases heq : c.issuerRaw = c.subjectRaw
    · exact .inl heq
    · have hnot := mt hiff.1 heq
      rw [not_or] at hnot
      exact .inr ⟨by omega, hnot.2⟩

/-- A CA certificate is decided as it should be, without a look behind the names, if and only if its X.509v1 fields are
not valid, or the name of its issuer is not the longer one and, if all else is valid, the comparison tells the names. -/
theorem decides_iff (m : Mbedtls) (behind : OcString) (c : Crt) (isRoot isOtm : Bool) (depth : Int) :
    Decides m behind c isRoot isOtm depth ↔
      (validateX509v1Fields m c = true → c.issuerRaw.length ≤ c.subjectRaw.length ∧
        (ValidRest c isRoot isOtm depth → NamesTold c)) := by
  have hvalid : Valid m c isRoot isOtm depth ↔
      validateX509v1Fields m c = true ∧ (isRoot = true ↔ c.issuerRaw = c.subjectRaw) ∧ ValidRest c isRoot isOtm depth :=
    ⟨fun h => ⟨h.fields, h.names, h.rest⟩, fun h => ⟨h.1, h.2.1, h.2.2⟩⟩
  by_cases hfields : validateX509v1Fields m c = true
  · have hreads : nameReads m c ≤ c.issuerRaw.length ∧ nameReads m c ≤ c.subjectRaw.length ↔
        c.issuerRaw.length ≤ c.subjectRaw.length := by
      unfold nameReads
      by_cases hlen : c.issuerRaw.length = c.subjectRaw.length
      · rw [if_neg (by simp [hlen])]
        omega
      · rw [if_pos ⟨hfields, hlen⟩]
        omega
    have hdecides : Decides m behind c isRoot isOtm depth ↔
        (ocCertsValidateNonEndEntityCertIn m behind c isRoot isOtm depth = 0 ↔ Valid m c isRoot isOtm depth) ∧
          c.issuerRaw.length ≤ c.subjectRaw.length :=
      ⟨fun h => ⟨h.valid, hreads.1 h.reads⟩, fun h => ⟨h.1, hreads.2 h.2⟩⟩
    rw [hdecides, hvalid, validate_eq_zero_iff, and_comm]
    simp only [hfields, true_and, true_implies]
    refine and_congr_right fun hle => ?_
    rw [namesTold_iff behind hle]
    by_cases hrest : ValidRest c isRoot isOtm depth
    · simp only [hrest, and_true, true_implies]
      have hself : isRoot = isSelfIssued behind c ↔ (isRoot = true ↔ isSelfIssued behind c = true) := Bool.eq_iff_iff
      rw [hself]
      by_cases heq : c.issuerRaw = c.subjectRaw <;> cases isRoot <;> cases isSelfIssued behind c <;> simp [heq]
    · simp [hrest]
  · refine iff_of_true ⟨?_, ?_⟩ fun h => absurd h hfields
    · rw [validate_eq_zero_iff]
      exact iff_of_false (fun h => hfields h.1) fun h => hfields h.fields
    · unfold nameReads
      rw [if_neg fun h => hfields h.1]
      exact ⟨Nat.zero_le _, Nat.zero_le _⟩

variable (m behind isRoot isOtm depth) in
theorem validateIn_eq (hle : c.issuerRaw.length ≤ c.subjectRaw.length) :
    ocCertsValidateNonEndEntityCertIn m behind c isRoot isOtm depth = 0 ↔
      ocCertsValidateNonEndEntityCert m c isRoot isOtm depth = true := by
  have hself : isSelfIssued behind c = SmartGarage.isSelfIssued c := by
    unfold isSelfIssued SmartGarage.isSelfIssued namesMatch
    rw [List.take_append_of_le_length hle]
  rw [validate_eq_zero_iff, hself]
  unfold ValidRest
  rw [validUsage_iff]
  unfold ocCertsValidateNonEndEntityCert ValidPathlen requiredUsage optionalUsage
  cases isRoot <;> cases isOtm <;> simp [and_assoc]

/-- Whether `verify_certificate` goes on behind an issuer does not depend on the two names but for the path length of an
OTM: it asks for a root first, and then for an intermediate. -/
theorem verifyIssuer_accepts_iff (st : SecState) (h : Handshake) (depth : Nat)
    (hle : c.issuerRaw.length ≤ c.subjectRaw.length) :
    (verifyIssuer m st h c depth).1 = true ↔ validateX509v1Fields m c = true ∧
      ValidRest c (isSelfIssued behind c) ((st.pstat h.peer.endpoint.device).s == .rfotm) depth := by
  have hroot (isRoot : Bool) := (validateIn_eq m behind isRoot ((st.pstat h.peer.endpoint.device).s == .rfotm)
    depth hle).symm.trans validate_eq_zero_iff
  have haccepts : (verifyIssuer m st h c depth).1 =
      (ocCertsValidateNonEndEntityCert m c true ((st.pstat h.peer.endpoint.device).s == .rfotm) depth ||
        ocCertsValidateNonEndEntityCert m c false ((st.pstat h.peer.endpoint.device).s == .rfotm) depth) := by
    unfold verifyIssuer
    cases hr : ocCertsValidateNonEndEntityCert m c true ((st.pstat h.peer.endpoint.device).s == .rfotm) depth
    · simp [hr]
    · cases hid : h.idCert with
      | none => simp [hr]
      | some id => by_cases husage : id.cred.credusage = .identityCert <;> simp [hr, husage]
  rw [haccepts, Bool.or_eq_true, hroot, hroot]
  cases isSelfIssued behind c <;> simp

end Decides

/-! ## A root of another issuer -/

theorem verifyIssuer_accepts_root :
    (verifyIssuer Mbedtls.rejecting (anchorState []) ⟨none, samplePeer⟩ sampleRoot 1).1 = true ↔
      validateX509v1Fields Mbedtls.rejecting sampleRoot = true ∧
        ValidRest sampleRoot (isSelfIssued [] sampleRoot) (((anchorState []).pstat 0).s == .rfotm) 1 :=
  verifyIssuer_accepts_iff (anchorState []) ⟨none, samplePeer⟩ 1 (by decide)

/-- The sample root, issued by another one with a name of the same length. -/
def crossSignedRoot : Crt := { sampleRoot with issuerRaw := ascii "Hall" }

/-- It counts as self-issued. -/
theorem decides_crossSigned : ¬∀ (m : Mbedtls) (behind : OcString) (c : Crt) (isRoot isOtm : Bool) (depth : Int),
    Decides m behind c isRoot isOtm depth := by
  intro hall
  have hvalid := (hall Mbedtls.rejecting [] crossSignedRoot true false 1).valid.1 (by decide)
  exact absurd (hvalid.names.1 rfl) (by decide)

end SmartGarage.CaCertificate
