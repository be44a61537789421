/-
The lookup of core resources by URI: which texts it reads as they are, and for which ones it comes to another resource,
or to none.
-/
import SmartGarage.Api.CoreResources

namespace SmartGarage.CoreOptions

variable {uri : OcString} {announced : Bool}

variable {o : CoreOptions}

/-! ## What the lookup comes to -/

theorem uriIs_iff {uri name : OcString} {n : Nat} (hn : name.length = n) : uriIs uri n name = true ↔ uri = name := by
  unfold uriIs
  rw [Bool.and_eq_true, beq_iff_eq, beq_iff_eq, List.take_of_length_le (Nat.le_of_eq hn)]
  constructor
  · rintro ⟨hlen, htake⟩
    rwa [List.take_of_length_le (Nat.le_of_eq hlen)] at htake
  · rintro rfl
    exact ⟨hn, List.take_of_length_le (Nat.le_of_eq hn)⟩

/-- The resource of a URI. -/
def typeNamed (uri : OcString) : Option CoreType := coreTypes.find? fun t => coreName t == uri

theorem coreName_inj {a b : CoreType} : coreName a = coreName b ↔ a = b := by
  have hinverse (t : CoreType) : typeNamed (coreName t) = some t := by cases t <;> rfl
  refine ⟨fun h => ?_, fun h => by rw [h]⟩
  have ha := hinverse a
  rw [h, hinverse b] at ha
  exact (Option.some.inj ha).symm

/-- The texts that the nested tests leave to the default: those of five characters that are no URI, and those of twelve;
`"oic/sec/pstat"` is compared in twelve characters only, and `"oic/sec/ael"` among texts of twelve. -/
def Misread (o : CoreOptions) (uri : OcString) : Prop :=
  uri.length = 5 ∧ uri ≠ coreName .p ∧ uri ≠ coreName .d ∨
    o.security = true ∧
      (uri.length = 12 ∧ uri ≠ coreName .secDoxm ∧ uri ≠ coreName .secAcl ∧ uri ≠ coreName .secCred ∨
        uri = coreName .secPstat ∨ uri = coreName .secAel)

theorem uriType_coreName {t : CoreType} (ht : o.has t = true) (hp : t ≠ .p)
    (hmisread : ¬o.Misread (coreName t)) (hcon : t = .con → announced = true) :
    o.uriType announced (coreName t) = .device t := by
  obtain ⟨mnt, cloud, softwareUpdate, wifi, esim, security, pki⟩ := o
  cases t
  case p => exact absurd rfl hp
  case con =>
    rw [hcon rfl]
    rfl
  case mnt =>
    cases mnt with
    | true => rfl
    | false => cases ht
  case coapcloudconf =>
    cases cloud with
    | true => rfl
    | false => cases ht
  case swUpdate =>
    cases softwareUpdate with
    | true => rfl
    | false => cases ht
  case wes | wesWifi | wesDevice =>
    cases wifi with
    | true => rfl
    | false => cases ht
  case ees | eesRsp | eesRspcap =>
    cases esim with
    | true => rfl
    | false => cases ht
  case secDoxm | secAcl | secCred | secSdi | secSp =>
    cases security with
    | true => rfl
    | false => cases ht
  case secPstat =>
    cases security with
    | true => exact absurd (.inr ⟨rfl, .inr (.inl rfl)⟩) hmisread
    | false => cases ht
  case secAel =>
    cases security with
    | true => exact absurd (.inr ⟨rfl, .inr (.inr rfl)⟩) hmisread
    | false => cases ht
  case secCsr | secRoles =>
    cases security with
    | false => cases ht
    | true =>
      cases pki with
      | true => rfl
      | false => cases ht
  all_goals rfl

/-- What a text is looked up as, if it is not misread. -/
structure LookedUp (o : CoreOptions) (announced : Bool) (uri : OcString) (t : CoreType) : Prop where
  name : uri = coreName t
  has : o.has t = true
  con : t = .con → announced = true

theorem LookedUp.of_guard {announced guard : Bool} {uri name : OcString} {t : CoreType} {n : Nat}
    (h : (uriIs uri n name && guard) = true) (hname : name = coreName t) (hn : name.length = n)
    (hhas : guard = true → o.has t = true) (hcon : t ≠ .con) : o.LookedUp announced uri t := by
  rw [Bool.and_eq_true, uriIs_iff hn, hname] at h
  exact ⟨h.1, hhas h.2, fun heq => absurd heq hcon⟩

theorem uriTypeFive_device {t : CoreType} (hlen : uri.length = 5)
    (h : uriTypeFive uri = .device t) : o.LookedUp announced uri t ∨ o.Misread uri := by
  unfold uriTypeFive at h
  split at h
  · cases h
  · rename_i hp
    split at h
    · rename_i hd
      cases h
      exact .inl ⟨(uriIs_iff rfl).1 hd, rfl, fun heq => by cases heq⟩
    · rename_i hd
      exact .inr (.inl ⟨hlen, fun heq => hp ((uriIs_iff rfl).2 heq), fun heq => hd ((uriIs_iff rfl).2 heq)⟩)

/-- Of the texts of twelve characters three are URIs; the others are taken for a resource that they do not name. -/
theorem uriTypeTwelve_cases (hlen : uri.length = 12) :
    (uriTypeTwelve uri = .device .secDoxm ∧ uri = coreName .secDoxm ∨
      uriTypeTwelve uri = .device .secAcl ∧ uri = coreName .secAcl ∨
        uriTypeTwelve uri = .device .secCred ∧ uri = coreName .secCred) ∨
    (uri ≠ coreName .secDoxm ∧ uri ≠ coreName .secAcl ∧ uri ≠ coreName .secCred) ∧
      (uriTypeTwelve uri = .device .secPstat ∨ uriTypeTwelve uri = .device .secAel ∨ uriTypeTwelve uri = .device .p) := by
  have htake : uri.take 12 = uri := List.take_of_length_le (Nat.le_of_eq hlen)
  unfold uriTypeTwelve
  rw [htake]
  split
  · rename_i hdoxm
    exact .inl (.inl ⟨rfl, hdoxm⟩)
  · rename_i hdoxm
    split
    · rename_i hpstat
      refine .inr ⟨⟨hdoxm, ?_, ?_⟩, .inl rfl⟩
      · rw [hpstat]
        decide
      · rw [hpstat]
        decide
    · split
      · rename_i hacl
        exact .inl (.inr (.inl ⟨rfl, hacl⟩))
      · rename_i hacl
        split
        · rename_i hael
          refine .inr ⟨⟨hdoxm, hacl, fun hcred => ?_⟩, .inr (.inl rfl)⟩
          rw [hcred] at hael
          exact absurd hael (by decide)
        · split
          · rename_i hcred
            exact .inl (.inr (.inr ⟨rfl, hcred⟩))
          · rename_i hcred
            exact .inr ⟨⟨hdoxm, hacl, hcred⟩, .inr (.inr rfl)⟩

theorem uriType_device {t : CoreType}
    (h : o.uriType announced uri = .device t) : o.LookedUp announced uri t ∨ o.Misread uri := by
  have hplain {n : Nat} {name : OcString} (hc : uriIs uri n name = true) (hname : name = coreName t)
      (hn : name.length = n) (hhas : o.has t = true) (hcon : t ≠ .con) : o.LookedUp announced uri t ∨ o.Misread uri :=
    .inl ⟨((uriIs_iff hn).1 hc).trans hname, hhas, fun heq => absurd heq hcon⟩
  unfold uriType at h
  obtain ⟨hlen, h⟩ | ⟨-, h⟩ := ite_eq_iff.1 h
  · exact uriTypeFive_device hlen h
  obtain ⟨hc, h⟩ | ⟨-, h⟩ := ite_eq_iff.1 h
  · cases h
    exact hplain hc rfl rfl rfl (by decide)
  obtain ⟨hc, h⟩ | ⟨-, h⟩ := ite_eq_iff.1 h
  · cases h
    rw [Bool.and_eq_true] at hc
    exact .inl ⟨(uriIs_iff rfl).1 hc.1, rfl, fun _ => hc.2⟩
  iterate 2
    obtain ⟨hc, h⟩ | ⟨-, h⟩ := ite_eq_iff.1 h
    · cases h
      exact hplain hc rfl rfl rfl (by decide)
  iterate 8
    obtain ⟨hc, h⟩ | ⟨-, h⟩ := ite_eq_iff.1 h
    · cases h
      exact .inl (.of_guard hc rfl rfl id (by decide))
  obtain ⟨hc, h⟩ | ⟨-, h⟩ := ite_eq_iff.1 h
  · rw [Bool.and_eq_true, beq_iff_eq] at hc
    obtain (⟨heq, hname⟩ | ⟨heq, hname⟩ | ⟨heq, hname⟩) | ⟨hnone, -⟩ := uriTypeTwelve_cases hc.1
    · rw [heq] at h
      cases h
      exact .inl ⟨hname, hc.2, fun heq => by cases heq⟩
    · rw [heq] at h
      cases h
      exact .inl ⟨hname, hc.2, fun heq => by cases heq⟩
    · rw [heq] at h
      cases h
      exact .inl ⟨hname, hc.2, fun heq => by cases heq⟩
    · exact .inr (.inr ⟨hc.2, .inl ⟨hc.1, hnone⟩⟩)
  iterate 5
    obtain ⟨hc, h⟩ | ⟨-, h⟩ := ite_eq_iff.1 h
    · cases h
      exact .inl (.of_guard hc rfl rfl id (by decide))
  cases h

theorem uriTypeTwelve_ne (hlen : uri.length = 12) : uriTypeTwelve uri ≠ .platform := by
  obtain (⟨heq, -⟩ | ⟨heq, -⟩ | ⟨heq, -⟩) | ⟨-, heq | heq | heq⟩ := uriTypeTwelve_cases hlen <;>
  · rw [heq]
    exact UriType.noConfusion

theorem uriType_platform :
    o.uriType announced uri = .platform ↔ uri = coreName .p := by
  constructor
  · intro h
    unfold uriType at h
    obtain ⟨hlen, h⟩ | ⟨-, h⟩ := ite_eq_iff.1 h
    · unfold uriTypeFive at h
      obtain ⟨hp, -⟩ | ⟨-, h⟩ := ite_eq_iff.1 h
      · exact (uriIs_iff rfl).1 hp
      · obtain ⟨-, h⟩ | ⟨-, h⟩ := ite_eq_iff.1 h <;> cases h
    iterate 12
      obtain ⟨-, h⟩ | ⟨-, h⟩ := ite_eq_iff.1 h
      · cases h
    obtain ⟨hc, h⟩ | ⟨-, h⟩ := ite_eq_iff.1 h
    · rw [Bool.and_eq_true, beq_iff_eq] at hc
      exact absurd h (uriTypeTwelve_ne hc.1)
    iterate 5
      obtain ⟨-, h⟩ | ⟨-, h⟩ := ite_eq_iff.1 h
      · cases h
    cases h
  · rintro rfl
    rfl

/-- A misread text is looked up as a resource with another URI, or not found although it is one. -/
theorem uriType_misread (announced : Bool) (h : o.Misread uri) :
    (∃ t, o.uriType announced uri = .device t ∧ uri ≠ coreName t ∧ (t = .p ∨ o.has t = true ∧ fixed t = true)) ∨
      ∃ t, o.uriType announced uri = .unknown ∧ uri = coreName t ∧ t ≠ .p ∧ o.has t = true ∧ fixed t = true := by
  obtain ⟨hlen, hp, hd⟩ | ⟨hsecurity, ⟨hlen, hne⟩ | rfl | rfl⟩ := h
  · refine .inl ⟨.p, ?_, hp, .inl rfl⟩
    have hnot (name : OcString) (hn : name.length = 5) (hname : uri ≠ name) : ¬uriIs uri 5 name = true :=
      fun h => hname ((uriIs_iff hn).1 h)
    unfold uriType uriTypeFive
    rw [if_pos hlen, if_neg (hnot (ascii "oic/p") rfl hp), if_neg (hnot (ascii "oic/d") rfl hd)]
  · have htwelve : o.uriType announced uri = uriTypeTwelve uri := by
      have hnot {n : Nat} {name : OcString} (hn : n ≠ 12) : uriIs uri n name = false := by
        unfold uriIs
        rw [hlen, Bool.and_eq_false_iff]
        exact .inl (beq_eq_false_iff_ne.2 fun h => hn h.symm)
      unfold uriType
      rw [if_neg (by omega)]
      simp only [hnot (show 7 ≠ 12 by decide), hnot (show 6 ≠ 12 by decide), hnot (show 19 ≠ 12 by decide),
        hnot (show 16 ≠ 12 by decide), hnot (show 9 ≠ 12 by decide), hnot (show 8 ≠ 12 by decide),
        hnot (show 13 ≠ 12 by decide), Bool.false_and, Bool.false_eq_true, if_false, hlen, hsecurity, beq_self_eq_true,
        Bool.and_self, if_true]
    have hlength (t : CoreType) (h : (coreName t).length ≠ 12) : uri ≠ coreName t := by
      rintro rfl
      exact h hlen
    rw [htwelve]
    obtain (⟨-, h⟩ | ⟨-, h⟩ | ⟨-, h⟩) | ⟨-, heq | heq | heq⟩ := uriTypeTwelve_cases hlen
    · exact absurd h hne.1
    · exact absurd h hne.2.1
    · exact absurd h hne.2.2
    · exact .inl ⟨.secPstat, heq, hlength _ (by decide), .inr ⟨hsecurity, rfl⟩⟩
    · exact .inl ⟨.secAel, heq, hlength _ (by decide), .inr ⟨hsecurity, rfl⟩⟩
    · exact .inl ⟨.p, heq, hlength _ (by decide), .inl rfl⟩
  · exact .inr ⟨.secPstat, rfl, rfl, by decide, hsecurity, rfl⟩
  · exact .inr ⟨.secAel, rfl, rfl, by decide, hsecurity, rfl⟩

/-! ## The property -/

/-- The lookup finds the resources of the device and of the platform whose URI the text is, and nothing else. -/
def Answers (o : CoreOptions) (s : CoreState) (uri : OcString) (device : Nat) : Prop :=
  ∀ i, o.ocCoreGetResourceByUri s uri device = some i ↔
    o.IsCore device i ∧ ∃ r, s.resources i = some r ∧ r.uri = some (47 :: behindSlash uri)

/-- The condition: the text is not misread; the device's own URI is the one that it is looked up under; the
configuration is announced if and only if it was when the device was added. -/
structure Answerable (o : CoreOptions) (s : CoreState) (uri : OcString) (device : Nat) : Prop where
  misread : ¬o.Misread (behindSlash uri)
  own : behindSlash uri = coreName .d ↔
    ∃ r, s.resources (o.cell device .d) = some r ∧ r.uri = some (47 :: behindSlash uri)
  con : behindSlash uri = coreName .con →
    (s.announced = true ↔ ∃ r, s.resources (o.cell device .con) = some r ∧ r.uri ≠ none)

section Property

variable {s : CoreState} {uri : OcString} {device : Nat}

theorem pointer_eq_some {i j : Nat} : pointer s i = some j ↔ (s.resources i).isSome = true ∧ i = j := by
  unfold pointer
  cases s.resources i with
  | none => simp
  | some r => simp

theorem kind_cases (t : CoreType) : t = .p ∨ t = .d ∨ t = .con ∨ fixed t = true := by
  cases t <;> simp [fixed, early, svr]

theorem coreUri_inj {t : CoreType} {d : Nat} {w : OcString} : (ownResource d t).uri = some (47 :: w) ↔ w = coreName t := by
  constructor
  · intro h
    exact (List.cons.inj (Option.some.inj h)).2.symm
  · rintro rfl
    rfl

theorem platform_uri (h : o.Started s) {w : OcString} :
    (∃ r, s.resources 0 = some r ∧ r.uri = some (47 :: w)) ↔ w = coreName .p := by
  obtain ⟨hplaced, hname⟩ := started_placed h
  rw [hplaced.platform, hname, if_pos rfl]
  constructor
  · rintro ⟨r, hr, huri⟩
    cases hr
    exact coreUri_inj.1 huri
  · rintro rfl
    exact ⟨_, rfl, rfl⟩

theorem fixed_uri (h : o.Started s) (hd : device < s.deviceCount) {t : CoreType} (ht : o.has t = true)
    (hfixed : fixed t = true) {w : OcString} :
    (∃ r, s.resources (o.cell device t) = some r ∧ r.uri = some (47 :: w)) ↔ w = coreName t := by
  rw [(started_placed h).1.own device hd t ht hfixed]
  constructor
  · rintro ⟨r, hr, huri⟩
    cases hr
    exact coreUri_inj.1 huri
  · rintro rfl
    exact ⟨_, rfl, rfl⟩

theorem con_uri (h : o.Started s) (hd : device < s.deviceCount) {w : OcString} :
    (∃ r, s.resources (o.cell device .con) = some r ∧ r.uri = some (47 :: w)) ↔
      w = coreName .con ∧ ∃ r, s.resources (o.cell device .con) = some r ∧ r.uri ≠ none := by
  obtain hown | hcleared := (started_placed h).1.con device hd
  · rw [hown]
    constructor
    · rintro ⟨r, hr, huri⟩
      cases hr
      exact ⟨coreUri_inj.1 huri, _, rfl, by simp [ownResource]⟩
    · rintro ⟨rfl, -⟩
      exact ⟨_, rfl, rfl⟩
  · rw [hcleared]
    constructor
    · rintro ⟨r, hr, huri⟩
      cases hr
      cases huri
    · rintro ⟨-, r, hr, hne⟩
      cases hr
      exact absurd rfl hne

/-- The first device has the platform in front of its resources, and another one the device in front of it. -/
theorem there_base (h : o.Started s) (hd : device < s.deviceCount) :
    (s.resources (o.ocfD * device + o.index .p)).isSome = true := by
  obtain ⟨hplaced, hname⟩ := started_placed h
  rw [index_p, Nat.add_zero]
  cases device with
  | zero =>
    rw [Nat.mul_zero, hplaced.platform, hname]
    rfl
  | succ n => exact hplaced.there n (Nat.lt_of_succ_lt hd) .d rfl (by decide)

theorem not_isCore_base (t : CoreType) (ht : o.has t = true) (hp : t ≠ .p) :
    o.ocfD * device + o.index .p ≠ o.cell device t := by
  have hpos := index_pos ht hp
  rw [index_p]
  unfold cell
  omega

theorem not_answers_device (h : o.Started s) (hd : device < s.deviceCount) {t : CoreType}
    (htype : o.uriType s.announced (behindSlash uri) = .device t) (hname : behindSlash uri ≠ coreName t)
    (ht : t = .p ∨ o.has t = true ∧ fixed t = true) : ¬o.Answers s uri device := by
  have hplaced := (started_placed h).1
  intro hanswers
  have hsome : (s.resources (o.ocfD * device + o.index t)).isSome = true := by
    obtain rfl | ⟨hhas, hfixed⟩ := ht
    · exact there_base h hd
    · rw [show o.ocfD * device + o.index t = o.cell device t from rfl, hplaced.own device hd t hhas hfixed]
      rfl
  have hfound : o.ocCoreGetResourceByUri s uri device = some (o.ocfD * device + o.index t) := by
    unfold ocCoreGetResourceByUri
    rw [htype]
    exact pointer_eq_some.2 ⟨hsome, rfl⟩
  obtain ⟨hcore, hr⟩ := (hanswers _).1 hfound
  obtain rfl | ⟨hhas, hfixed⟩ := ht
  · obtain hzero | ⟨t, ht, hp, heq⟩ := isCore_iff.1 hcore
    · rw [hzero] at hr
      exact hname ((platform_uri h).1 hr)
    · exact not_isCore_base t ht hp heq
  · exact hname ((fixed_uri h hd hhas hfixed).1 hr)

theorem isCore_uri (h : o.Started s) (hd : device < s.deviceCount) (hown : behindSlash uri = coreName .d ↔
      ∃ r, s.resources (o.cell device .d) = some r ∧ r.uri = some (47 :: behindSlash uri))
    (hcon : behindSlash uri = coreName .con →
      (s.announced = true ↔ ∃ r, s.resources (o.cell device .con) = some r ∧ r.uri ≠ none)) {i : Nat} :
    (o.IsCore device i ∧ ∃ r, s.resources i = some r ∧ r.uri = some (47 :: behindSlash uri)) ↔
      i = 0 ∧ behindSlash uri = coreName .p ∨
        ∃ t, o.LookedUp s.announced (behindSlash uri) t ∧ t ≠ .p ∧ i = o.cell device t := by
  rw [isCore_iff]
  constructor
  · rintro ⟨rfl | ⟨t, ht, hp, rfl⟩, hr⟩
    · exact .inl ⟨rfl, (platform_uri h).1 hr⟩
    · refine .inr ⟨t, ?_, hp, rfl⟩
      obtain rfl | rfl | rfl | hfixed := kind_cases t
      · exact absurd rfl hp
      · exact ⟨hown.2 hr, ht, fun heq => by cases heq⟩
      · obtain ⟨hname, hpopulated⟩ := (con_uri h hd).1 hr
        exact ⟨hname, ht, fun _ => (hcon hname).2 hpopulated⟩
      · refine ⟨(fixed_uri h hd ht hfixed).1 hr, ht, fun heq => ?_⟩
        rw [heq] at hfixed
        cases hfixed
  · rintro (⟨rfl, hname⟩ | ⟨t, ⟨hname, ht, hannounced⟩, hp, rfl⟩)
    · exact ⟨.inl rfl, (platform_uri h).2 hname⟩
    · refine ⟨.inr ⟨t, ht, hp, rfl⟩, ?_⟩
      obtain rfl | rfl | rfl | hfixed := kind_cases t
      · exact absurd rfl hp
      · exact hown.1 hname
      · exact (con_uri h hd).2 ⟨hname, (hcon hname).1 (hannounced rfl)⟩
      · exact (fixed_uri h hd ht hfixed).2 hname

theorem lookup_iff (h : o.Started s) (hd : device < s.deviceCount) (hmisread : ¬o.Misread (behindSlash uri)) {i : Nat} :
    o.ocCoreGetResourceByUri s uri device = some i ↔ i = 0 ∧ behindSlash uri = coreName .p ∨
      ∃ t, o.LookedUp s.announced (behindSlash uri) t ∧ t ≠ .p ∧ i = o.cell device t := by
  obtain ⟨hplaced, hname⟩ := started_placed h
  have hzero : (s.resources 0).isSome = true := by
    rw [hplaced.platform, hname]
    rfl
  have hplatform (t : CoreType) (hlooked : o.LookedUp s.announced (behindSlash uri) t)
      (hp : behindSlash uri = coreName .p) : t = .p := (coreName_inj.1 (hp.symm.trans hlooked.name)).symm
  unfold ocCoreGetResourceByUri
  cases htype : o.uriType s.announced (behindSlash uri) with
  | unknown =>
    refine iff_of_false (by simp) ?_
    rintro (⟨-, hp⟩ | ⟨t, ⟨heq, ht, hcon⟩, hp, -⟩)
    · rw [uriType_platform.2 hp] at htype
      cases htype
    · rw [heq] at htype hmisread
      rw [uriType_coreName ht hp hmisread hcon] at htype
      cases htype
  | platform =>
    have hp := uriType_platform.1 htype
    show pointer s 0 = some i ↔ _
    rw [pointer_eq_some]
    constructor
    · rintro ⟨-, rfl⟩
      exact .inl ⟨rfl, hp⟩
    · rintro (⟨rfl, -⟩ | ⟨t, hlooked, hne, -⟩)
      · exact ⟨hzero, rfl⟩
      · exact absurd (hplatform t hlooked hp) hne
  | device t =>
    have hlooked := (uriType_device htype).resolve_right hmisread
    have hne : t ≠ .p := by
      rintro rfl
      rw [uriType_platform.2 hlooked.name] at htype
      cases htype
    show pointer s (o.cell device t) = some i ↔ _
    rw [pointer_eq_some]
    constructor
    · rintro ⟨-, rfl⟩
      exact .inr ⟨t, hlooked, hne, rfl⟩
    · rintro (⟨-, hp⟩ | ⟨u, hu, -, rfl⟩)
      · exact absurd (hplatform t hlooked hp) hne
      · have heq : t = u := coreName_inj.1 (hlooked.name.symm.trans hu.name)
        rw [heq]
        exact ⟨hplaced.there device hd u hu.has (heq ▸ hne), rfl⟩

theorem lookup_named (h : o.Started s) (hd : device < s.deviceCount) {t : CoreType} (ht : o.has t = true) (hp : t ≠ .p)
    (hmisread : ¬o.Misread (coreName t)) (hname : behindSlash uri = coreName t) (hcon : t = .con → s.announced = true) :
    o.ocCoreGetResourceByUri s uri device = some (o.cell device t) :=
  (lookup_iff h hd (hname ▸ hmisread)).2 (.inr ⟨t, ⟨hname, ht, hcon⟩, hp, rfl⟩)

/-- The lookup by URI is right if and only if the condition holds. -/
theorem ocCoreGetResourceByUri_iff (h : o.Started s) (hd : device < s.deviceCount) :
    o.Answers s uri device ↔ o.Answerable s uri device := by
  have hnotMisread (t : CoreType) (hlen : (coreName t).length ≠ 12) (hfive : (coreName t).length ≠ 5 ∨ t = .d)
      (hpstat : t ≠ .secPstat) (hael : t ≠ .secAel) : ¬o.Misread (coreName t) := by
    rintro (⟨h5, -, hne⟩ | ⟨-, ⟨h12, -⟩ | heq | heq⟩)
    · exact hfive.elim (fun hne5 => hne5 h5) fun heq => hne (by rw [heq])
    · exact hlen h12
    · exact hpstat (coreName_inj.1 heq)
    · exact hael (coreName_inj.1 heq)
  constructor
  · intro hanswers
    have hmisread : ¬o.Misread (behindSlash uri) := fun hmisread => by
      obtain ⟨t, htype, hname, ht⟩ | ⟨t, htype, hname, hp, ht, hfixed⟩ :=
        uriType_misread s.announced hmisread
      · exact not_answers_device h hd htype hname ht hanswers
      · have hfound := (hanswers (o.cell device t)).2
          ⟨isCore_iff.2 (.inr ⟨t, ht, hp, rfl⟩), (fixed_uri h hd ht hfixed).2 hname⟩
        unfold ocCoreGetResourceByUri at hfound
        rw [htype] at hfound
        cases hfound
    refine ⟨hmisread, ⟨fun hname => ?_, fun hr => ?_⟩, fun hname => ⟨fun hannounced => ?_, fun hpopulated => ?_⟩⟩
    · have hfound := lookup_named h hd rfl (by decide) (hnotMisread .d (by decide) (.inr rfl) (by decide) (by decide)) hname
        (fun heq => by cases heq)
      exact ((hanswers _).1 hfound).2
    · have hfound := (hanswers (o.cell device .d)).2 ⟨isCore_iff.2 (.inr ⟨.d, rfl, by decide, rfl⟩), hr⟩
      obtain ⟨hzero, -⟩ | ⟨t, hlooked, hp, heq⟩ := (lookup_iff h hd hmisread).1 hfound
      · exact absurd (cell_pos (d := device) (o := o) (t := .d) rfl (by decide)) (by omega)
      · rw [((cell_inj (o := o) (a := .d) rfl hlooked.has (by decide) hp).1 heq).2]
        exact hlooked.name
    · have hfound := lookup_named h hd rfl (by decide)
        (hnotMisread .con (by decide) (.inl (by decide)) (by decide) (by decide)) hname fun _ => hannounced
      exact ((con_uri h hd).1 ((hanswers _).1 hfound).2).2
    · have hfound := (hanswers (o.cell device .con)).2
        ⟨isCore_iff.2 (.inr ⟨.con, rfl, by decide, rfl⟩), (con_uri h hd).2 ⟨hname, hpopulated⟩⟩
      obtain ⟨hzero, -⟩ | ⟨t, hlooked, hp, heq⟩ := (lookup_iff h hd hmisread).1 hfound
      · exact absurd (cell_pos (d := device) (o := o) (t := .con) rfl (by decide)) (by omega)
      · exact hlooked.con ((cell_inj (o := o) (a := .con) rfl hlooked.has (by decide) hp).1 heq).2.symm
  · rintro ⟨hmisread, hown, hcon⟩ i
    rw [lookup_iff h hd hmisread, isCore_uri h hd hown hcon]

end Property

/-- A build with security only. -/
def secureOptions : CoreOptions := ⟨false, false, false, false, false, true, false⟩

/-- The calls of an application with one device. -/
def oneDevice : List InitCall := [.initPlatform, .addDevice (ascii "/oic/d")]

theorem started_oneDevice : secureOptions.Started (secureOptions.ocMainInit oneDevice) :=
  ⟨oneDevice, false, by simp [oneDevice], rfl⟩

/-- The URI of the device's own `doxm` is found. -/
theorem ocCoreGetResourceByUri_doxm : secureOptions.Answers (secureOptions.ocMainInit oneDevice) (ascii "/oic/sec/doxm") 0 := by
  have hdevice : (secureOptions.ocMainInit oneDevice).resources (secureOptions.cell 0 .d) =
      some ⟨0, some (ascii "/oic/d")⟩ := rfl
  refine (ocCoreGetResourceByUri_iff started_oneDevice (show 0 < 1 by decide)).2 ⟨?_, ?_, ?_⟩
  · rintro (⟨hlen, -⟩ | ⟨-, ⟨-, hne, -⟩ | heq | heq⟩)
    · exact absurd hlen (by decide)
    · exact hne rfl
    · exact absurd heq (by decide)
    · exact absurd heq (by decide)
  · rw [hdevice]
    refine iff_of_false (by decide) ?_
    rintro ⟨r, hr, huri⟩
    cases hr
    exact absurd huri (by decide)
  · intro hcon
    exact absurd hcon (by decide)

/-- The URI of `pstat` is not found. -/
theorem ocCoreGetResourceByUri_pstat :
    ¬secureOptions.Answers (secureOptions.ocMainInit oneDevice) (ascii "/oic/sec/pstat") 0 := by
  intro hanswers
  have hfound := (hanswers (secureOptions.cell 0 .secPstat)).2
    ⟨isCore_iff.2 (.inr ⟨.secPstat, rfl, by decide, rfl⟩),
      (fixed_uri started_oneDevice (show 0 < 1 by decide) (t := .secPstat) rfl rfl).2 rfl⟩
  have hnone : secureOptions.ocCoreGetResourceByUri (secureOptions.ocMainInit oneDevice) (ascii "/oic/sec/pstat") 0 = none :=
    rfl
  rw [hnone] at hfound
  cases hfound

end SmartGarage.CoreOptions
