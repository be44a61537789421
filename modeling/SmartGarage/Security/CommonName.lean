/-
What `oc_certs_parse_CN_for_UUID` (`oc_certs.c`) takes out of a certificate as an identity, compared with what the value
of its common name says. The value has a length and no terminator, but `strstr` looks for one.
-/
import SmartGarage.Security.Certs
import SmartGarage.Lib.Substring

namespace SmartGarage

open Substring

/-! ## What a common name says -/

/-- The identity in the value of a common name: the 36 bytes behind its first `uuid:`, or else its first 36 bytes. -/
def uuidOfValue (val : OcString) : Option OcString :=
  let rest := match firstAt (ascii "uuid:") val with
    | some o => val.drop (o + 5)
    | none => val
  if 36 ≤ rest.length then some (rest.take 36) else none

/-- The identity in a subject: the one in its first common name. -/
def uuidOfSubject (subject : List X509Name) : Option OcString :=
  (subject.find? (·.oid == oidAtCn)).bind fun cn => uuidOfValue cn.val

/-- Two certificates have the same subject, whatever is behind the values in their buffers. -/
def SameSubject (c c' : Crt) : Prop := c'.subject.map (fun n => (n.oid, n.val)) = c.subject.map fun n => (n.oid, n.val)

/-- A value is read as what it says, whatever is behind it. It is too short, or has 36 bytes and no `uuid:`, or it is
longer and the search ends in it: at its first `uuid:`, or at a zero byte if there is no `uuid:` in it at all, or at one
in front of the first `uuid:` if the 36 bytes behind that are the first 36 bytes as well. -/
def ReadAsItSays (val : OcString) : Prop :=
  val.length < 36 ∨ (val.length = 36 ∧ firstAt (ascii "uuid:") val = none) ∨
    (36 < val.length ∧
      ((∃ o, firstAt (ascii "uuid:") val = some o ∧ 0 ∉ val.take o) ∨
        (firstAt (ascii "uuid:") val = none ∧ 0 ∈ val) ∨
        (∃ o, firstAt (ascii "uuid:") val = some o ∧ 0 ∈ val.take o ∧ o + 41 ≤ val.length ∧
          (val.drop (o + 5)).take 36 = val.take 36)))

/-- What is taken from a value of at least 36 bytes. -/
def uuidTaken (val following : OcString) : Option OcString :=
  if val.length > 36 then
    match findUuidPrefix (val ++ following) with
    | some o =>
      if (val.length + 2 ^ 64 - (o + 5)) % 2 ^ 64 < 36 then none
      else some (((val ++ following).drop (o + 5)).take 36)
    | none => some (val.take 36)
  else if val.length < 36 then none
  else some val

theorem ocCertsParseCNForUUID_eq (c : Crt) :
    ocCertsParseCNForUUID c = (c.subject.find? (·.oid == oidAtCn)).bind fun cn => uuidTaken cn.val cn.following := by
  unfold ocCertsParseCNForUUID
  cases c.subject.find? (·.oid == oidAtCn) <;> rfl

/-! ## The search -/

theorem cstr_split (s : OcString) : 0 ∉ cstr s ∧ ∃ rest, s = cstr s ++ rest ∧ (0 ∈ s → rest.head? = some 0) := by
  induction s with
  | nil => exact ⟨List.not_mem_nil, [], rfl, fun h => absurd h List.not_mem_nil⟩
  | cons b s ih =>
    by_cases hb : b = 0
    · subst hb
      exact ⟨List.not_mem_nil, 0 :: s, rfl, fun _ => rfl⟩
    · have hcons : cstr (b :: s) = b :: cstr s := cstr_append (s := [b]) (by simpa using Ne.symm hb)
      obtain ⟨hnot, rest, hrest, hhead⟩ := ih
      refine ⟨?_, rest, ?_, ?_⟩
      · rw [hcons]
        simpa [Ne.symm hb] using hnot
      · rw [hcons, List.cons_append, ← hrest]
      · rintro hmem
        rcases List.mem_cons.1 hmem with hzero | hmem
        · exact absurd hzero.symm hb
        · exact hhead hmem

/-- With a zero byte in a list, its C string does not depend on what is behind. -/
theorem cstr_append_of_mem {s : OcString} (h : 0 ∈ s) (t : OcString) : cstr (s ++ t) = cstr s := by
  obtain ⟨hnot, rest, hs, hhead⟩ := cstr_split s
  have hrest := hhead h
  cases rest with
  | nil => cases hrest
  | cons b rest =>
    cases hrest
    have happend : s ++ t = cstr s ++ 0 :: (rest ++ t) := by
      rw [← List.cons_append, ← List.append_assoc, ← hs]
    rw [happend, cstr_append hnot]
    exact List.append_nil _

theorem findUuidPrefix_eq (s : OcString) : findUuidPrefix s = firstAt (ascii "uuid:") (cstr s) := by
  induction s with
  | nil => rfl
  | cons b s ih =>
    rw [findUuidPrefix]
    by_cases hb : b = 0
    · subst hb
      rfl
    · have hcons : cstr (b :: s) = b :: cstr s := cstr_append (s := [b]) (by simpa using Ne.symm hb)
      have hprefix : (ascii "uuid:").isPrefixOf (b :: s) = (ascii "uuid:").isPrefixOf (b :: cstr s) := by
        rw [← hcons, Bool.eq_iff_iff, List.isPrefixOf_iff_prefix, List.isPrefixOf_iff_prefix]
        constructor
        · rintro ⟨rest, hrest⟩
          rw [← hrest, cstr_append (by decide)]
          exact List.prefix_append _ _
        · intro hp
          obtain ⟨-, rest, hs, -⟩ := cstr_split (b :: s)
          rw [hs]
          exact hp.trans (List.prefix_append _ _)
      rw [if_neg hb, ih, hprefix, hcons, firstAt]

variable {val : OcString} {o : Nat}

theorem findUuidPrefix_own (h : firstAt (ascii "uuid:") val = some o) (hzero : 0 ∉ val.take o) (following : OcString) :
    findUuidPrefix (val ++ following) = some o := by
  have htake := firstAt_take h
  have hlen : (ascii "uuid:").length = 5 := rfl
  rw [hlen] at htake
  have hsplit : val.take (o + 5) = val.take o ++ ascii "uuid:" := by
    obtain ⟨⟨rest, hrest⟩, -⟩ := firstAt_eq_some_iff.1 h
    rw [List.take_add, ← hrest, List.take_left' hlen]
  have hnot : 0 ∉ val.take (o + 5) := by
    rw [hsplit, List.mem_append]
    rintro (hmem | hmem)
    · exact hzero hmem
    · revert hmem
      decide
  have hall : val ++ following = val.take (o + 5) ++ (val.drop (o + 5) ++ following) := by
    rw [← List.append_assoc, List.take_append_drop]
  rw [findUuidPrefix_eq, hall, cstr_append hnot, firstAt_append htake]

/-- Where every `uuid:` of the value is behind a zero byte nothing is found, whatever is behind the value. -/
theorem findUuidPrefix_ended (hmem : 0 ∈ val) (h : ∀ o, firstAt (ascii "uuid:") val = some o → 0 ∈ val.take o)
    (following : OcString) : findUuidPrefix (val ++ following) = none := by
  rw [findUuidPrefix_eq, cstr_append_of_mem hmem]
  cases hfound : firstAt (ascii "uuid:") (cstr val) with
  | none => rfl
  | some o =>
    obtain ⟨hnot, rest, hval, -⟩ := cstr_split val
    have hwhole := firstAt_append (t := rest) hfound
    rw [← hval] at hwhole
    have hle := (firstAt_eq_some_iff.1 hfound).1.le (by decide)
    have hzero := h o hwhole
    rw [hval, List.take_append_of_le_length (by omega)] at hzero
    exact absurd (List.mem_of_mem_take hzero) hnot

theorem findUuidPrefix_behind (h : firstAt (ascii "uuid:") val = none) (hzero : 0 ∉ val) {rest : OcString}
    (hrest : 0 ∉ rest) : findUuidPrefix (val ++ (ascii "uuid:" ++ rest)) = some val.length := by
  have hcstr : cstr (val ++ (ascii "uuid:" ++ rest)) = val ++ (ascii "uuid:" ++ rest) := by
    refine cstr_eq_self_iff.2 fun hmem => ?_
    simp only [List.mem_append] at hmem
    rcases hmem with hmem | hmem | hmem
    · exact hzero hmem
    · revert hmem
      decide
    · exact hrest hmem
  rw [findUuidPrefix_eq, hcstr]
  refine firstAt_behind h ?_
  have hlen : (ascii "uuid:").length = 5 := rfl
  rw [hlen]
  decide

/-! ## What is taken -/

theorem uuidOfValue_none (h : firstAt (ascii "uuid:") val = none) :
    uuidOfValue val = if 36 ≤ val.length then some (val.take 36) else none := by
  unfold uuidOfValue
  rw [h]

theorem uuidOfValue_some (h : firstAt (ascii "uuid:") val = some o) :
    uuidOfValue val = if o + 41 ≤ val.length then some ((val.drop (o + 5)).take 36) else none := by
  have hle := (firstAt_eq_some_iff.1 h).1.le (by decide)
  have hlen : (ascii "uuid:").length = 5 := rfl
  have hiff : 36 ≤ (val.drop (o + 5)).length ↔ o + 41 ≤ val.length := by
    rw [List.length_drop]
    omega
  unfold uuidOfValue
  simp only [h, hiff]

theorem uuidOfValue_short (h : val.length < 36) : uuidOfValue val = none := by
  cases hfound : firstAt (ascii "uuid:") val with
  | none => rw [uuidOfValue_none hfound, if_neg (by omega)]
  | some o => rw [uuidOfValue_some hfound, if_neg (by omega)]

theorem uuidTaken_none (hlong : 36 < val.length) {following : OcString}
    (h : findUuidPrefix (val ++ following) = none) : uuidTaken val following = some (val.take 36) := by
  unfold uuidTaken
  rw [if_pos hlong, h]

theorem uuidTaken_own (hlong : 36 < val.length) (hsize : val.length < 2 ^ 64) {following : OcString}
    (hle : o + 5 ≤ val.length) (h : findUuidPrefix (val ++ following) = some o) :
    uuidTaken val following = if o + 41 ≤ val.length then some ((val.drop (o + 5)).take 36) else none := by
  have hrest : (val.length + 2 ^ 64 - (o + 5)) % 2 ^ 64 = val.length - (o + 5) := by omega
  unfold uuidTaken
  rw [if_pos hlong, h]
  simp only [hrest]
  by_cases hroom : o + 41 ≤ val.length
  · rw [if_neg (by omega), if_pos hroom, List.drop_append_of_le_length hle, List.take_append_of_le_length]
    rw [List.length_drop]
    omega
  · rw [if_pos (by omega), if_neg hroom]

theorem uuidTaken_behind (hlong : 36 < val.length) (h : firstAt (ascii "uuid:") val = none) (hzero : 0 ∉ val)
    {rest : OcString} (hrest : 0 ∉ rest) (hlen : rest.length = 36) :
    uuidTaken val (ascii "uuid:" ++ rest) = some rest := by
  have hwrap : (val.length + 2 ^ 64 - (val.length + 5)) % 2 ^ 64 = 2 ^ 64 - 5 := by omega
  unfold uuidTaken
  rw [if_pos hlong, findUuidPrefix_behind h hzero hrest]
  simp only [hwrap]
  rw [if_neg (by decide), ← List.append_assoc, List.drop_left' (by simp [ascii]), List.take_of_length_le (by omega)]

theorem uuidTaken_long_iff (hlong : 36 < val.length) (hsize : val.length < 2 ^ 64) :
    (∀ following, uuidTaken val following = uuidOfValue val) ↔
      (∃ o, firstAt (ascii "uuid:") val = some o ∧ 0 ∉ val.take o) ∨
        (firstAt (ascii "uuid:") val = none ∧ 0 ∈ val) ∨
        (∃ o, firstAt (ascii "uuid:") val = some o ∧ 0 ∈ val.take o ∧ o + 41 ≤ val.length ∧
          (val.drop (o + 5)).take 36 = val.take 36) := by
  cases hfound : firstAt (ascii "uuid:") val with
  | some o =>
    have hle := (firstAt_eq_some_iff.1 hfound).1.le (by decide)
    by_cases hzero : 0 ∈ val.take o
    · -- the search ends at the zero byte
      have hended := findUuidPrefix_ended (List.mem_of_mem_take hzero) fun o' ho' => by
        rw [hfound] at ho'
        cases ho'
        exact hzero
      have htaken (following : OcString) := uuidTaken_none hlong (hended following)
      simp only [htaken, forall_const, uuidOfValue_some hfound, Option.some.injEq, exists_eq_left', hzero, not_true,
        false_or, true_and, reduceCtorEq, false_and]
      split
      · next hroom => simp [hroom, eq_comm]
      · next hroom => simp [hroom]
    · have htaken (following : OcString) := uuidTaken_own hlong hsize hle (findUuidPrefix_own hfound hzero following)
      exact iff_of_true (fun following => by rw [htaken, uuidOfValue_some hfound]) (.inl ⟨o, rfl, hzero⟩)
  | none =>
    by_cases hzero : 0 ∈ val
    · have hended := findUuidPrefix_ended hzero fun o' ho' => by
        rw [hfound] at ho'
        cases ho'
      refine iff_of_true (fun following => ?_) (.inr (.inl ⟨rfl, hzero⟩))
      rw [uuidTaken_none hlong (hended following), uuidOfValue_none hfound, if_pos (by omega)]
    · -- what is taken is what stands behind the value: not the same for two different texts
      refine iff_of_false (fun hall => ?_) (by simp [hzero])
      have hone := hall (ascii "uuid:" ++ List.replicate 36 1)
      have htwo := hall (ascii "uuid:" ++ List.replicate 36 2)
      rw [uuidTaken_behind hlong hfound hzero (by decide) rfl] at hone htwo
      cases hone.trans htwo.symm

theorem uuidTaken_own_iff (hsize : val.length < 2 ^ 64) :
    (∀ following, uuidTaken val following = uuidOfValue val) ↔ ReadAsItSays val := by
  rcases Nat.lt_trichotomy val.length 36 with hshort | hexact | hlong
  · refine iff_of_true (fun following => ?_) (.inl hshort)
    unfold uuidTaken
    rw [if_neg (by omega), if_pos hshort, uuidOfValue_short hshort]
  · have htaken (following : OcString) : uuidTaken val following = some val := by
      unfold uuidTaken
      rw [if_neg (by omega), if_neg (by omega)]
    simp only [htaken, forall_const, ReadAsItSays]
    cases hfound : firstAt (ascii "uuid:") val with
    | none =>
      rw [uuidOfValue_none hfound, if_pos (by omega), List.take_of_length_le (by omega)]
      exact iff_of_true rfl (.inr (.inl ⟨hexact, rfl⟩))
    | some o =>
      rw [uuidOfValue_some hfound, if_neg (by omega)]
      refine iff_of_false (by simp) ?_
      rintro (hshort | ⟨-, hnone⟩ | ⟨hlong, -⟩)
      · omega
      · cases hnone
      · omega
  · rw [uuidTaken_long_iff hlong hsize]
    unfold ReadAsItSays
    constructor
    · intro h
      exact .inr (.inr ⟨hlong, h⟩)
    · rintro (hshort | ⟨hexact, -⟩ | ⟨-, h⟩)
      · omega
      · omega
      · exact h

/-! ## The property -/

theorem SameSubject.find? {c c' : Crt} (h : SameSubject c c') :
    (c'.subject.find? (·.oid == oidAtCn)).map X509Name.val = (c.subject.find? (·.oid == oidAtCn)).map X509Name.val := by
  have hmap (names : List X509Name) : (names.find? (·.oid == oidAtCn)).map X509Name.val =
      ((names.map fun n => (n.oid, n.val)).find? (·.1 == oidAtCn)).map Prod.snd := by
    rw [List.find?_map, Option.map_map]
    rfl
  rw [hmap, hmap, h]

/-- The same certificate with other bytes behind its values. -/
def Crt.withFollowing (c : Crt) (following : OcString) : Crt :=
  { c with subject := c.subject.map fun n => { n with following := following } }

theorem sameSubject_withFollowing (c : Crt) (following : OcString) : SameSubject c (c.withFollowing following) := by
  simp [SameSubject, Crt.withFollowing]

theorem find?_withFollowing {c : Crt} {cn : X509Name} (h : c.subject.find? (·.oid == oidAtCn) = some cn)
    (following : OcString) : (c.withFollowing following).subject.find? (·.oid == oidAtCn) =
      some { cn with following := following } := by
  have hsame : ((fun n : X509Name => n.oid == oidAtCn) ∘ fun n : X509Name => { n with following := following }) =
      fun n => n.oid == oidAtCn := rfl
  rw [Crt.withFollowing, List.find?_map, hsame, h]
  rfl

/-- The identity that is taken out of a certificate is the one that its subject says, whatever is behind the values of the
subject, if and only if the value of its first common name is read as it says. -/
theorem ocCertsParseCNForUUID_own_iff (c : Crt) (hsize : ∀ n ∈ c.subject, n.val.length < 2 ^ 64) :
    (∀ c', SameSubject c c' → ocCertsParseCNForUUID c' = uuidOfSubject c.subject) ↔
      ∀ cn, c.subject.find? (·.oid == oidAtCn) = some cn → ReadAsItSays cn.val := by
  constructor
  · intro h cn hcn
    refine (uuidTaken_own_iff (hsize cn (List.mem_of_find?_eq_some hcn))).1 fun following => ?_
    have hread := h _ (sameSubject_withFollowing c following)
    rw [ocCertsParseCNForUUID_eq, find?_withFollowing hcn, uuidOfSubject, hcn] at hread
    exact hread
  · intro h c' hsame
    have hfind := hsame.find?
    rw [ocCertsParseCNForUUID_eq, uuidOfSubject]
    cases hcn : c.subject.find? (·.oid == oidAtCn) with
    | none =>
      rw [hcn, Option.map_none, Option.map_eq_none_iff] at hfind
      rw [hfind]
      rfl
    | some cn =>
      rw [hcn] at hfind
      obtain ⟨cn', hcn', hval⟩ := Option.map_eq_some_iff.1 hfind
      have hown := (uuidTaken_own_iff (hsize cn (List.mem_of_find?_eq_some hcn))).2 (h cn hcn) cn'.following
      rw [hcn', Option.bind_some, Option.bind_some, hval, hown]

/-- A certificate of the device `11111111-1111-1111-1111-111111111111`, and one with a common name of 37 letters, behind
which an organisational unit brings a `uuid:` of its own. -/
def crtWithSubject (subject : List X509Name) : Crt where
  raw := [3]
  version := 3
  sigMdIsSha256 := true
  sigPkIsEcdsa := true
  curveIsSecp256r1 := true
  validFrom := 0
  validTo := 100
  issuerRaw := ascii "Root"
  subjectRaw := ascii "Device"
  issuer := []
  subject := subject
  subjectAltNames := []
  keyUsage := kuDigitalSignature ||| kuKeyAgreement
  caIstrue := false
  maxPathlen := 0
  extKeyUsage := none
  pubkeyDer := some [5]

def ownNameCrt : Crt := crtWithSubject [⟨oidAtCn, ascii "uuid:11111111-1111-1111-1111-111111111111", []⟩]

def otherNameCrt : Crt :=
  crtWithSubject [⟨oidAtCn, List.replicate 37 97, [0x31, 0x32, 0x30, 0x30, 0x06, 0x03, 0x55, 0x04, 0x0b, 0x0c, 0x29] ++
      ascii "uuid:22222222-2222-2222-2222-222222222222"⟩,
    ⟨oidAtOrgUnit, ascii "uuid:22222222-2222-2222-2222-222222222222", []⟩]

/-- What the first one says is taken. -/
theorem ocCertsParseCNForUUID_ownName : ocCertsParseCNForUUID ownNameCrt = uuidOfSubject ownNameCrt.subject := by
  refine (ocCertsParseCNForUUID_own_iff ownNameCrt (by decide)).2 ?_ ownNameCrt rfl
  rintro cn hcn
  cases hcn
  exact .inr (.inr ⟨by decide, .inl ⟨0, by decide, by decide⟩⟩)

/-- The identity of the second one is not in its common name. -/
theorem ocCertsParseCNForUUID_otherName :
    ¬∀ c', SameSubject otherNameCrt c' → ocCertsParseCNForUUID c' = uuidOfSubject otherNameCrt.subject := by
  intro h
  have hread := h otherNameCrt rfl
  revert hread
  decide

end SmartGarage
