/-
`oc_sdi.c`: the security domain information `/oic/sec/sdi` of a device. Its decoder, like the one of `/oic/sec/sp`, writes
to the resource while it goes through a payload; what is left of a payload that is refused in the end.
-/
import SmartGarage.Security.SpRuns

namespace SmartGarage

/-! ## The resource -/

/-- `oc_sec_sdi_t` -/
@[ext]
structure OcSecSdi where
  priv : Bool
  uuid : OcUuid
  name : OcString
deriving DecidableEq

/-- The states in which `name` and `priv` can be set. -/
def sdiWritable (s : OcDostype) : Bool := s = .rfotm ∨ s = .rfpro ∨ s = .sreset

/-- One property of the payload, with whether it is a known one: `none` where the decoder gives up. -/
def decodeSdiProperty (fromStorage : Bool) (s : OcDostype) (sdi : OcSecSdi) : OcRep → Option (Bool × OcSecSdi)
  | .string n v =>
    if nameIs n "uuid" then
      if fromStorage = false ∧ s ≠ .rfotm then none else some (true, { sdi with uuid := ocStrToUuid v sdi.uuid })
    else if nameIs n "name" then
      if fromStorage = false ∧ sdiWritable s = false then none else some (true, { sdi with name := v })
    else some (false, sdi)
  | .bool n b =>
    if nameIs n "priv" then
      if fromStorage = false ∧ sdiWritable s = false then none else some (true, { sdi with priv := b })
    else some (false, sdi)
  | _ => some (false, sdi)

/-- The loop of `oc_sec_decode_sdi`. -/
def decodeSdiLoop (fromStorage : Bool) (s : OcDostype) (suc : Bool) (sdi : OcSecSdi) : List OcRep → Bool × OcSecSdi
  | [] => (suc, sdi)
  | r :: rep =>
    match decodeSdiProperty fromStorage s sdi r with
    | some (known, sdi) => decodeSdiLoop fromStorage s (suc || known) sdi rep
    | none => (false, sdi)

/-- `oc_sec_decode_sdi` in the device state `s`. -/
def ocSecDecodeSdi (fromStorage : Bool) (s : OcDostype) (sdi : OcSecSdi) (rep : List OcRep) : Bool × OcSecSdi :=
  decodeSdiLoop fromStorage s false sdi rep

/-! ## What takes effect of a payload -/

/-- What a property sets. -/
def propertyUuid : OcRep → Option OcString
  | .string n v => if nameIs n "uuid" then some v else none
  | _ => none

def propertyName : OcRep → Option OcString
  | .string n v => if nameIs n "name" then some v else none
  | _ => none

def propertyPriv : OcRep → Option Bool
  | .bool n b => if nameIs n "priv" then some b else none
  | _ => none

/-- The name and the flag behind some properties. -/
def nameAfter (name : OcString) (l : List OcRep) : OcString := (l.filterMap propertyName).getLastD name

def privAfter (priv : Bool) (l : List OcRep) : Bool := (l.filterMap propertyPriv).getLastD priv

/-- Where `uuid` cannot be set but the others can, what is in front of the first `uuid` comes to the present name and
flag. -/
def SdiKept (s : OcDostype) (sdi : OcSecSdi) (rep : List OcRep) : Prop :=
  s = .rfpro ∨ s = .sreset → ∀ before r after, rep = before ++ r :: after → (propertyUuid r).isSome →
    (∀ x ∈ before, propertyUuid x = none) → nameAfter sdi.name before = sdi.name ∧ privAfter sdi.priv before = sdi.priv

/-- What is in front of the first property that is refused comes to the present profiles. -/
def SpKept (s : OcDostype) (sp : OcSecSp) (rep : List OcRep) : Prop :=
  s ≠ .rfnop → ∀ r after, rep = spApplied sp.supportedProfiles rep ++ r :: after →
    currentAfter sp.currentProfile (spApplied sp.supportedProfiles rep) = sp.currentProfile ∧
      supportedAfter sp.supportedProfiles (spApplied sp.supportedProfiles rep) = sp.supportedProfiles

/-- The property is known. -/
def sdiKnown (r : OcRep) : Bool := (propertyUuid r).isSome || (propertyName r).isSome || (propertyPriv r).isSome

/-- The property is refused. -/
def sdiRefuses (s : OcDostype) (r : OcRep) : Bool :=
  ((propertyUuid r).isSome && s ≠ .rfotm) || (((propertyName r).isSome || (propertyPriv r).isSome) && !sdiWritable s)

/-- What a property leaves that is not refused. -/
def sdiWith (sdi : OcSecSdi) (r : OcRep) : OcSecSdi :=
  { uuid := ((propertyUuid r).map fun v => ocStrToUuid v sdi.uuid).getD sdi.uuid
    name := (propertyName r).getD sdi.name
    priv := (propertyPriv r).getD sdi.priv }

section Loop

variable {s : OcDostype} {sdi : OcSecSdi} {r : OcRep}

theorem decodeSdiProperty_eq : decodeSdiProperty false s sdi r =
    if sdiRefuses s r then none else some (sdiKnown r, sdiWith sdi r) := by
  cases r with
  | string n v =>
    by_cases huuid : nameIs n "uuid" = true
    · have hname : nameIs n "name" = false := by
        obtain rfl := of_decide_eq_true huuid
        decide
      by_cases hs : s = .rfotm <;>
        simp [decodeSdiProperty, sdiRefuses, sdiKnown, sdiWith, propertyUuid, propertyName, propertyPriv, huuid, hname, hs]
    · by_cases hname : nameIs n "name" = true
      · cases hs : sdiWritable s <;>
          simp [decodeSdiProperty, sdiRefuses, sdiKnown, sdiWith, propertyUuid, propertyName, propertyPriv, huuid, hname, hs]
      · simp [decodeSdiProperty, sdiRefuses, sdiKnown, sdiWith, propertyUuid, propertyName, propertyPriv, huuid, hname]
  | bool n b =>
    by_cases hpriv : nameIs n "priv" = true
    · cases hs : sdiWritable s <;>
        simp [decodeSdiProperty, sdiRefuses, sdiKnown, sdiWith, propertyUuid, propertyName, propertyPriv, hpriv, hs]
    · simp [decodeSdiProperty, sdiRefuses, sdiKnown, sdiWith, propertyUuid, propertyName, propertyPriv, hpriv]
  | _ => simp [decodeSdiProperty, sdiRefuses, sdiKnown, sdiWith, propertyUuid, propertyName, propertyPriv]

theorem decodeSdiLoop_append : ∀ {before : List OcRep} (rest : List OcRep) (suc : Bool) (sdi : OcSecSdi),
    (∀ x ∈ before, sdiRefuses s x = false) →
      decodeSdiLoop false s suc sdi (before ++ rest) =
        decodeSdiLoop false s (suc || before.any sdiKnown) (before.foldl sdiWith sdi) rest
  | [], rest, suc, sdi, _ => by simp
  | x :: before, rest, suc, sdi, h => by
    obtain ⟨hx, hbefore⟩ := List.forall_mem_cons.1 h
    rw [List.cons_append, decodeSdiLoop, decodeSdiProperty_eq, hx]
    simp only [Bool.false_eq_true, if_false]
    rw [decodeSdiLoop_append rest _ _ hbefore, List.any_cons, List.foldl_cons, Bool.or_assoc]

theorem foldl_sdiWith_name (l : List OcRep) (sdi : OcSecSdi) : (l.foldl sdiWith sdi).name = nameAfter sdi.name l := by
  induction l generalizing sdi with
  | nil => rfl
  | cons r l ih =>
    rw [List.foldl_cons, ih, nameAfter, nameAfter, getLastD_filterMap_cons]
    rfl

theorem foldl_sdiWith_priv (l : List OcRep) (sdi : OcSecSdi) : (l.foldl sdiWith sdi).priv = privAfter sdi.priv l := by
  induction l generalizing sdi with
  | nil => rfl
  | cons r l ih =>
    rw [List.foldl_cons, ih, privAfter, privAfter, getLastD_filterMap_cons]
    rfl

theorem foldl_sdiWith_uuid {l : List OcRep} (h : ∀ x ∈ l, propertyUuid x = none) (sdi : OcSecSdi) :
    (l.foldl sdiWith sdi).uuid = sdi.uuid := by
  induction l generalizing sdi with
  | nil => rfl
  | cons r l ih =>
    obtain ⟨hr, hl⟩ := List.forall_mem_cons.1 h
    rw [List.foldl_cons, ih hl]
    simp [sdiWith, hr]

/-- Without a known property everything stays. -/
theorem foldl_sdiWith_unknown {l : List OcRep} (h : ∀ x ∈ l, sdiKnown x = false) (sdi : OcSecSdi) :
    l.foldl sdiWith sdi = sdi := by
  induction l with
  | nil => rfl
  | cons r l ih =>
    obtain ⟨hr, hl⟩ := List.forall_mem_cons.1 h
    simp only [sdiKnown, Bool.or_eq_false_iff, Option.isSome_eq_false_iff, Option.isNone_iff_eq_none] at hr
    obtain ⟨⟨huuid, hname⟩, hpriv⟩ := hr
    have hsame : sdiWith sdi r = sdi := by simp [sdiWith, huuid, hname, hpriv]
    rw [List.foldl_cons, hsame, ih hl]

theorem sdi_split (s : OcDostype) (rep : List OcRep) : (∀ x ∈ rep, sdiRefuses s x = false) ∨
    ∃ before r after, rep = before ++ r :: after ∧ sdiRefuses s r = true ∧ ∀ x ∈ before, sdiRefuses s x = false := by
  induction rep with
  | nil => exact .inl fun _ h => absurd h List.not_mem_nil
  | cons x rep ih =>
    cases hx : sdiRefuses s x with
    | true => exact .inr ⟨[], x, rep, rfl, hx, fun _ h => absurd h List.not_mem_nil⟩
    | false =>
      rcases ih with hall | ⟨before, r, after, rfl, hr, hbefore⟩
      · exact .inl (List.forall_mem_cons.2 ⟨hx, hall⟩)
      · exact .inr ⟨x :: before, r, after, rfl, hr, List.forall_mem_cons.2 ⟨hx, hbefore⟩⟩

theorem ocSecDecodeSdi_accepted {rep : List OcRep} (h : ∀ x ∈ rep, sdiRefuses s x = false)
    (hfalse : (ocSecDecodeSdi false s sdi rep).1 = false) : (ocSecDecodeSdi false s sdi rep).2 = sdi := by
  have hloop := decodeSdiLoop_append [] false sdi h
  rw [List.append_nil] at hloop
  unfold ocSecDecodeSdi at hfalse ⊢
  rw [hloop] at hfalse ⊢
  exact foldl_sdiWith_unknown (fun x hx => by simpa using List.any_eq_false.1 hfalse x hx) sdi

theorem ocSecDecodeSdi_refused {before after : List OcRep} (hr : sdiRefuses s r = true)
    (hbefore : ∀ x ∈ before, sdiRefuses s x = false) :
    ocSecDecodeSdi false s sdi (before ++ r :: after) = (false, before.foldl sdiWith sdi) := by
  unfold ocSecDecodeSdi
  rw [decodeSdiLoop_append _ _ _ hbefore, decodeSdiLoop, decodeSdiProperty_eq, hr]
  rfl

theorem sdiWritable_of_ne (hs : s ≠ .rfotm) : sdiWritable s = true ↔ s = .rfpro ∨ s = .sreset := by
  simp [sdiWritable, hs]

theorem takeWhile_first {before after : List OcRep} (hnone : ∀ x ∈ before, propertyUuid x = none)
    (hsome : (propertyUuid r).isSome = true) :
    (before ++ r :: after).takeWhile (fun x => (propertyUuid x).isNone) = before := by
  rw [List.takeWhile_append_of_pos fun x hx => by rw [hnone x hx]; rfl, List.takeWhile_cons_of_neg (by simpa [Option.isSome_iff_ne_none] using hsome),
    List.append_nil]

/-- A payload that is refused leaves the resource as it was, if and only if what takes effect of it changes nothing. -/
theorem ocSecDecodeSdi_kept_iff (s : OcDostype) (sdi : OcSecSdi) (rep : List OcRep) :
    ((ocSecDecodeSdi false s sdi rep).1 = false → (ocSecDecodeSdi false s sdi rep).2 = sdi) ↔ SdiKept s sdi rep := by
  by_cases hstate : s = .rfpro ∨ s = .sreset
  · -- only a `uuid` is refused
    have hotm : s ≠ .rfotm := by rcases hstate with rfl | rfl <;> decide
    have hwritable : sdiWritable s = true := (sdiWritable_of_ne hotm).2 hstate
    have hrefuses (x : OcRep) : sdiRefuses s x = (propertyUuid x).isSome := by simp [sdiRefuses, hotm, hwritable]
    rcases sdi_split s rep with hall | ⟨before, r, after, rfl, hr, hbefore⟩
    · refine iff_of_true (ocSecDecodeSdi_accepted hall) ?_
      rintro - before r after rfl hsome -
      have hnot := hall r (by simp)
      rw [hrefuses, hsome] at hnot
      cases hnot
    · have hnone : ∀ x ∈ before, propertyUuid x = none := fun x hx => by
        have hx := hbefore x hx
        rwa [hrefuses, Option.isSome_eq_false_iff, Option.isNone_iff_eq_none] at hx
      rw [ocSecDecodeSdi_refused hr hbefore]
      constructor
      · rintro hsame - before' r' after' heq hsome hnone'
        have hbefore' : before = before' := by
          have hfirst : (before ++ r :: after).takeWhile (fun x => (propertyUuid x).isNone) = before :=
            takeWhile_first hnone (hrefuses r ▸ hr)
          rw [← hfirst, heq, takeWhile_first hnone' hsome]
        rw [← hbefore', ← foldl_sdiWith_name, ← foldl_sdiWith_priv]
        exact ⟨congrArg OcSecSdi.name (hsame rfl), congrArg OcSecSdi.priv (hsame rfl)⟩
      · rintro hkept -
        obtain ⟨hname, hpriv⟩ := hkept hstate before r after rfl (hrefuses r ▸ hr) hnone
        have huuid := foldl_sdiWith_uuid hnone sdi
        rw [← foldl_sdiWith_name] at hname
        rw [← foldl_sdiWith_priv] at hpriv
        exact OcSecSdi.ext hpriv huuid hname
  · -- every property is refused, or none
    refine iff_of_true (fun hfalse => ?_) fun h => absurd h hstate
    rcases sdi_split s rep with hall | ⟨before, r, after, rfl, hr, hbefore⟩
    · exact ocSecDecodeSdi_accepted hall hfalse
    · rw [ocSecDecodeSdi_refused hr hbefore]
      refine foldl_sdiWith_unknown (fun x hx => ?_) sdi
      have hotm : s ≠ .rfotm := by
        rintro rfl
        simp [sdiRefuses, sdiWritable] at hr
      have hwritable : sdiWritable s = false := Bool.eq_false_iff.2 fun h => hstate ((sdiWritable_of_ne hotm).1 h)
      simpa [sdiRefuses, hotm, hwritable, sdiKnown, and_assoc] using hbefore x hx

end Loop

/-! ## Profiles -/

theorem decodeSpLoop_fst : ∀ (rep : List OcRep) (sp : OcSecSp),
    (decodeSpLoop sp rep).1 = false ↔ ∃ r after, rep = spApplied sp.supportedProfiles rep ++ r :: after
  | [], sp => by simp [decodeSpLoop, spApplied]
  | r :: rep, sp => by
    rw [decodeSpLoop, decodeSpProperty_eq, spApplied]
    by_cases haccept : spAccepts sp.supportedProfiles r = true
    · rw [if_pos haccept, if_pos haccept]
      simpa using decodeSpLoop_fst rep _
    · rw [if_neg haccept, if_neg haccept]
      exact iff_of_true rfl ⟨r, rep, rfl⟩

theorem ocSecDecodeSp_kept_iff (s : OcDostype) (sp : OcSecSp) (rep : List OcRep) :
    ((ocSecDecodeSp s sp rep).1 = false → (ocSecDecodeSp s sp rep).2 = sp) ↔ SpKept s sp rep := by
  unfold ocSecDecodeSp SpKept
  by_cases hs : s = .rfnop
  · rw [if_pos hs]
    exact iff_of_true (fun _ => rfl) fun h => absurd hs h
  · rw [if_neg hs, decodeSpLoop_fst, decodeSpLoop_eq]
    constructor
    · intro h _ r after hrep
      have hsame := h ⟨r, after, hrep⟩
      exact ⟨congrArg OcSecSp.currentProfile hsame, congrArg OcSecSp.supportedProfiles hsame⟩
    · rintro h ⟨r, after, hrep⟩
      obtain ⟨hcurrent, hsupported⟩ := h hs r after hrep
      rw [hcurrent, hsupported]

/-! ## The property -/

/-- Where the decoder of `/oic/sec/sdi` or of `/oic/sec/sp` returns false the resource is as it was before, if and only
if what it has applied by then comes to the present values. -/
theorem decode_kept_iff (s : OcDostype) (sdi : OcSecSdi) (sp : OcSecSp) (rep : List OcRep) :
    (((ocSecDecodeSdi false s sdi rep).1 = false → (ocSecDecodeSdi false s sdi rep).2 = sdi) ↔ SdiKept s sdi rep) ∧
      (((ocSecDecodeSp s sp rep).1 = false → (ocSecDecodeSp s sp rep).2 = sp) ↔ SpKept s sp rep) :=
  ⟨ocSecDecodeSdi_kept_iff s sdi rep, ocSecDecodeSp_kept_iff s sp rep⟩

/-- In RFPRO a new name is kept though the identity behind it is refused, and so are new profiles in front of a property
of another type. -/
theorem decode_refused_changes :
    ocSecDecodeSdi false .rfpro ⟨false, OcUuid.nil, []⟩ [.string (some (ascii "name")) (ascii "x"),
        .string (some (ascii "uuid")) (ascii "11111111-1111-1111-1111-111111111111")] =
      (false, ⟨false, OcUuid.nil, ascii "x"⟩) ∧
    ocSecDecodeSp .rfpro .mfgDefault [.stringArray (some (ascii "supportedprofiles")) [spBlackOid],
        .int (some (ascii "credid")) 1] = (false, ⟨spBlack, spBaseline, -1⟩) := by
  decide

end SmartGarage
