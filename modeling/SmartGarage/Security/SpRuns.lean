/-
The current profile over runs: POST requests to `/oic/sec/sp` with any payloads in any states of the device,
`oc_sec_sp_default`, loads from the storage and restarts. A payload takes effect up to the first property that the
decoder refuses; the current profile is checked against the supported ones, but not the other way round.
-/
import Mathlib.Data.List.Induction
import SmartGarage.Lib.Run
import SmartGarage.Security.Sp

namespace SmartGarage

/-! ## What takes effect of a payload -/

/-- The profile that a property makes the current one. -/
def propertyCurrent : OcRep → Option OcSpTypes
  | .string n v => if nameIs n "currentprofile" then some (stringToSp v) else none
  | _ => none

/-- The mask that a property makes the supported one. -/
def propertySupported : OcRep → Option OcSpTypes
  | .stringArray n values => if nameIs n "supportedprofiles" then some (arrayToSp values) else none
  | _ => none

/-- The decoder goes on behind the property while `supported` is the mask in force. -/
def spAccepts (supported : OcSpTypes) (r : OcRep) : Bool :=
  match r with
  | .string .. => (propertyCurrent r).all (· &&& supported != 0)
  | .stringArray .. => true
  | _ => false

/-- The properties that take effect: those in front of the first one the decoder refuses. -/
def spApplied (supported : OcSpTypes) : List OcRep → List OcRep
  | [] => []
  | r :: rep => if spAccepts supported r then r :: spApplied ((propertySupported r).getD supported) rep else []

/-- The current profile after the properties `l`. -/
def currentAfter (current : OcSpTypes) (l : List OcRep) : OcSpTypes := (l.filterMap propertyCurrent).getLastD current

/-- The supported profiles after the properties `l`. -/
def supportedAfter (supported : OcSpTypes) (l : List OcRep) : OcSpTypes :=
  (l.filterMap propertySupported).getLastD supported

/-- The property is neither of the two that the decoder stores. -/
def NoProfile (r : OcRep) : Prop := propertyCurrent r = none ∧ propertySupported r = none

/-- Where the last profile property that takes effect is a list of supported profiles, it names the profile that is
current when it comes. -/
def ProfilesKept (sp : OcSecSp) (rep : List OcRep) : Prop :=
  ∀ l r l' mask, spApplied sp.supportedProfiles rep = l ++ r :: l' → propertySupported r = some mask →
    (∀ x ∈ l', NoProfile x) → currentAfter sp.currentProfile l &&& mask ≠ 0

theorem getLastD_filterMap_cons {α β : Type} (f : α → Option β) (d : β) (a : α) (l : List α) :
    ((a :: l).filterMap f).getLastD d = (l.filterMap f).getLastD ((f a).getD d) := by
  cases h : f a with
  | none => rw [List.filterMap_cons_none h, Option.getD_none]
  | some v => rw [List.filterMap_cons_some h, List.getLastD_cons, Option.getD_some]

theorem currentAfter_cons (current : OcSpTypes) (r : OcRep) (l : List OcRep) :
    currentAfter current (r :: l) = currentAfter ((propertyCurrent r).getD current) l := getLastD_filterMap_cons _ _ _ _

theorem supportedAfter_cons (supported : OcSpTypes) (r : OcRep) (l : List OcRep) :
    supportedAfter supported (r :: l) = supportedAfter ((propertySupported r).getD supported) l :=
  getLastD_filterMap_cons _ _ _ _

theorem currentAfter_concat (r : OcRep) : ∀ (l : List OcRep) (current : OcSpTypes),
    currentAfter current (l ++ [r]) = (propertyCurrent r).getD (currentAfter current l)
  | [], current => currentAfter_cons current r []
  | x :: l, current => by
    rw [List.cons_append, currentAfter_cons, currentAfter_concat r l, currentAfter_cons current x l]

theorem supportedAfter_concat (r : OcRep) : ∀ (l : List OcRep) (supported : OcSpTypes),
    supportedAfter supported (l ++ [r]) = (propertySupported r).getD (supportedAfter supported l)
  | [], supported => supportedAfter_cons supported r []
  | x :: l, supported => by
    rw [List.cons_append, supportedAfter_cons, supportedAfter_concat r l, supportedAfter_cons supported x l]

/-! ## The decoder -/

theorem decodeSpProperty_eq (sp : OcSecSp) (r : OcRep) :
    decodeSpProperty sp r =
      if spAccepts sp.supportedProfiles r then
        some { sp with
          currentProfile := (propertyCurrent r).getD sp.currentProfile,
          supportedProfiles := (propertySupported r).getD sp.supportedProfiles }
      else none := by
  cases r with
  | string n v =>
    by_cases hn : nameIs n "currentprofile" = true
    · by_cases hmask : stringToSp v &&& sp.supportedProfiles = 0 <;>
        simp [decodeSpProperty, spAccepts, propertyCurrent, propertySupported, hn, hmask]
    · simp [decodeSpProperty, spAccepts, propertyCurrent, propertySupported, hn]
  | stringArray n values =>
    by_cases hn : nameIs n "supportedprofiles" = true <;>
      simp [decodeSpProperty, spAccepts, propertyCurrent, propertySupported, hn]
  | _ => rfl

theorem decodeSpLoop_eq : ∀ (rep : List OcRep) (sp : OcSecSp),
    (decodeSpLoop sp rep).2 =
      { sp with
        currentProfile := currentAfter sp.currentProfile (spApplied sp.supportedProfiles rep),
        supportedProfiles := supportedAfter sp.supportedProfiles (spApplied sp.supportedProfiles rep) }
  | [], sp => rfl
  | r :: rep, sp => by
    rw [decodeSpLoop, decodeSpProperty_eq, spApplied]
    by_cases haccept : spAccepts sp.supportedProfiles r = true
    · rw [if_pos haccept, if_pos haccept, currentAfter_cons, supportedAfter_cons]
      exact decodeSpLoop_eq rep _
    · rw [if_neg haccept, if_neg haccept]
      rfl

theorem spApplied_accepts {l' : List OcRep} {r : OcRep} : ∀ {rep : List OcRep} {supported : OcSpTypes} {l₁ : List OcRep},
    spApplied supported rep = l₁ ++ r :: l' → spAccepts (supportedAfter supported l₁) r = true
  | [], _, l₁, h => by simp [spApplied] at h
  | x :: rep, supported, l₁, h => by
    rw [spApplied] at h
    split at h
    · next haccept =>
      cases l₁ with
      | nil =>
        obtain ⟨rfl, -⟩ := List.cons.inj h
        exact haccept
      | cons y l₁ =>
        obtain ⟨rfl, htail⟩ := List.cons.inj h
        rw [supportedAfter_cons]
        exact spApplied_accepts htail
    · simp at h

theorem concat_eq_split {α : Type} {l l₁ l₂ : List α} {r x : α} (h : l ++ [r] = l₁ ++ x :: l₂) :
    (l₂ = [] ∧ l = l₁ ∧ r = x) ∨ ∃ l₃, l₂ = l₃ ++ [r] ∧ l = l₁ ++ x :: l₃ := by
  rcases List.eq_nil_or_concat l₂ with rfl | ⟨l₃, y, rfl⟩
  · obtain ⟨rfl, hlast⟩ := List.append_inj' h rfl
    exact .inl ⟨rfl, rfl, (List.cons.inj hlast).1⟩
  · rw [List.concat_eq_append, ← List.cons_append, ← List.append_assoc] at h
    obtain ⟨rfl, hlast⟩ := List.append_inj' h rfl
    obtain ⟨rfl, -⟩ := List.cons.inj hlast
    exact .inr ⟨l₃, List.concat_eq_append, rfl⟩

/-- The properties `l` in front of a list of accepted ones leave a current profile that is supported exactly if the
last list of supported profiles among them names it, unless a current profile follows that list. -/
theorem applied_consistent {sp : OcSecSp} (hsp : sp.Consistent) (l : List OcRep)
    (haccept : ∀ l₁ r l₂, l = l₁ ++ r :: l₂ → spAccepts (supportedAfter sp.supportedProfiles l₁) r = true) :
    currentAfter sp.currentProfile l ∈ spProfiles ∧
    (currentAfter sp.currentProfile l &&& supportedAfter sp.supportedProfiles l ≠ 0 ↔
      ∀ l₁ r l₂ mask, l = l₁ ++ r :: l₂ → propertySupported r = some mask → (∀ x ∈ l₂, NoProfile x) →
        currentAfter sp.currentProfile l₁ &&& mask ≠ 0) := by
  induction l using List.reverseRecOn with
  | nil => exact ⟨hsp.single, iff_of_true hsp.supported fun l₁ r l₂ mask h => by simp at h⟩
  | append_singleton l r ih =>
    obtain ⟨hsingle, hiff⟩ := ih fun l₁ x l₂ h => haccept l₁ x (l₂ ++ [r]) (by rw [h]; simp)
    have hr := haccept l r [] rfl
    rw [currentAfter_concat, supportedAfter_concat]
    cases hcur : propertyCurrent r with
    | some p =>
      -- a current profile is accepted only if it is supported, and nothing can be a list behind it
      obtain ⟨n, v, rfl⟩ : ∃ n v, r = .string n v := by
        cases r <;> first | exact ⟨_, _, rfl⟩ | exact absurd hcur (by simp [propertyCurrent])
      have hp : p &&& supportedAfter sp.supportedProfiles l ≠ 0 := by
        simpa [spAccepts, hcur] using hr
      have hne : p ≠ 0 := by
        rintro rfl
        exact hp BitVec.zero_and
      have hmem : p ∈ spProfiles := by
        rw [propertyCurrent] at hcur
        split at hcur
        · cases hcur
          exact stringToSp_mem v hne
        · cases hcur
      refine ⟨hmem, iff_of_true hp fun l₁ x l₂ mask hl hx hl₂ => ?_⟩
      rcases concat_eq_split hl with ⟨-, -, rfl⟩ | ⟨l₃, rfl, -⟩
      · cases hx
      · exact absurd (hl₂ _ List.mem_concat_self).1 (by rw [hcur]; exact Option.some_ne_none p)
    | none =>
      refine ⟨hsingle, ?_⟩
      cases hsup : propertySupported r with
      | some m =>
        rw [Option.getD_none, Option.getD_some]
        constructor
        · intro hm l₁ x l₂ mask hl hx hl₂
          rcases concat_eq_split hl with ⟨-, rfl, rfl⟩ | ⟨l₃, rfl, -⟩
          · cases hsup.symm.trans hx
            exact hm
          · exact absurd (hl₂ _ List.mem_concat_self).2 (by rw [hsup]; exact Option.some_ne_none m)
        · intro hall
          exact hall l r [] m rfl hsup fun x hx => absurd hx List.not_mem_nil
      | none =>
        -- a property that the decoder does not store
        refine hiff.trans ⟨fun hall l₁ x l₂ mask hl hx hl₂ => ?_, fun hall l₁ x l₂ mask hl hx hl₂ => ?_⟩
        · rcases concat_eq_split hl with ⟨-, -, rfl⟩ | ⟨l₃, rfl, hl'⟩
          · cases hsup.symm.trans hx
          · exact hall l₁ x l₃ mask hl' hx fun y hy => hl₂ y (List.mem_append_left _ hy)
        · refine hall l₁ x (l₂ ++ [r]) mask (by rw [hl]; simp) hx fun y hy => ?_
          rcases List.mem_append.1 hy with hy | hy
          · exact hl₂ y hy
          · rw [List.mem_singleton.1 hy]
            exact ⟨hcur, hsup⟩

theorem decodeSpLoop_consistent {sp : OcSecSp} (hsp : sp.Consistent) (rep : List OcRep) :
    (decodeSpLoop sp rep).2.Consistent ↔ ProfilesKept sp rep := by
  obtain ⟨hsingle, hiff⟩ := applied_consistent hsp (spApplied sp.supportedProfiles rep) fun l₁ r l₂ h =>
    spApplied_accepts h
  rw [decodeSpLoop_eq]
  exact ⟨fun h => hiff.1 h.supported, fun h => ⟨hsingle, hiff.2 h⟩⟩

theorem ocSecDecodeSp_consistent {sp : OcSecSp} (hsp : sp.Consistent) (s : OcDostype) (rep : List OcRep) :
    (ocSecDecodeSp s sp rep).2.Consistent ↔ s = .rfnop ∨ ProfilesKept sp rep := by
  unfold ocSecDecodeSp
  split
  · next h => exact iff_of_true hsp (.inl h)
  · next h => exact (decodeSpLoop_consistent hsp rep).trans (or_iff_right h).symm

/-! ## Runs -/

/-- The device, its two records of the profile, and the record that was written to the storage, if there is one. -/
structure SpState where
  s : OcDostype
  sp : OcSecSp
  spMfgDefault : OcSecSp
  stored : Option OcSecSp

/-- What happens to the profile of a device. -/
inductive SpEvent
  /-- the device goes into another state -/
  | dos (s : OcDostype)
  /-- `post_sp` -/
  | post (rep : List OcRep)
  /-- `oc_sec_sp_default` -/
  | default
  /-- `oc_pki_set_security_profile`, which the application calls -/
  | preset (supported current : OcSpTypes) (mfgCredid : Int)
  /-- `oc_sec_load_sp` -/
  | load
  /-- `oc_sec_sp_init`, and the load sequence of a device that comes up in the state `s` -/
  | restart (s : OcDostype)

/-- `post_sp`: the resource is written to the storage only where the whole payload was accepted. -/
def postSp (st : SpState) (rep : List OcRep) : OcStatus × SpState :=
  match ocSecDecodeSp st.s st.sp rep with
  | (true, sp) => (.changed, { st with sp := sp, stored := some sp })
  | (false, sp) => (.badRequest, { st with sp := sp })

/-- The state after an event. -/
def spStep (st : SpState) : SpEvent → SpState
  | .dos s => { st with s := s }
  | .post rep => (postSp st rep).2
  | .default => { st with sp := st.spMfgDefault }
  | .preset supported current mfgCredid =>
    let (mfg, sp) := ocPkiSetSecurityProfile st.spMfgDefault supported current mfgCredid
    { st with sp := sp, spMfgDefault := mfg }
  | .load => { st with sp := ocSecLoadSp st.s st.spMfgDefault st.sp (st.stored.map ocSecEncodeSp) }
  | .restart s => { st with
      s := s, sp := ocSecLoadSp s .mfgDefault .zero (st.stored.map ocSecEncodeSp), spMfgDefault := .mfgDefault }

/-- The condition on a step: the payload, sent or stored, keeps the relation of the two profiles, the default that is
taken and the profile that is preset have it, and a device restarts only while nothing is stored. -/
def ProfileGuard (st : SpState) : SpEvent → Prop
  | .dos _ => True
  | .post rep => st.s = .rfnop ∨ ProfilesKept st.sp rep
  | .default => st.spMfgDefault.Consistent
  | .preset supported current _ =>
    current ∈ spProfiles ∧ current &&& (st.spMfgDefault.supportedProfiles ||| supported) ≠ 0
  | .load =>
    match st.stored with
    | some stored => st.s = .rfnop ∨ ProfilesKept st.sp (ocSecEncodeSp stored)
    | none => st.spMfgDefault.Consistent
  | .restart _ => st.stored = none

@[simp] theorem postSp_sp (st : SpState) (rep : List OcRep) :
    (postSp st rep).2.sp = (ocSecDecodeSp st.s st.sp rep).2 := by
  unfold postSp
  split <;> next h => rw [h]

theorem spStep_consistent {st : SpState} (hsp : st.sp.Consistent) (e : SpEvent) :
    (spStep st e).sp.Consistent ↔ ProfileGuard st e := by
  cases e with
  | dos s => exact iff_of_true hsp trivial
  | post rep =>
    rw [spStep, postSp_sp]
    exact ocSecDecodeSp_consistent hsp st.s rep
  | default => exact Iff.rfl
  | preset supported current mfgCredid => exact OcSecSp.consistent_iff _
  | load =>
    simp only [spStep, ProfileGuard]
    cases st.stored with
    | none => exact Iff.rfl
    | some stored => exact ocSecDecodeSp_consistent hsp st.s _
  | restart s =>
    simp only [spStep, ProfileGuard]
    cases st.stored with
    | none => exact iff_of_true mfgDefault_consistent rfl
    | some stored =>
      refine iff_of_false ?_ (Option.some_ne_none stored)
      show ¬(ocSecDecodeSp s OcSecSp.zero (ocSecEncodeSp stored)).2.Consistent
      rw [ocSecDecodeSp_encode_unsupported s rfl]
      exact zero_not_consistent

/-- The current profile is one supported profile in every state of a run exactly if every step meets its condition. -/
theorem currentProfile_always (st : SpState) (hsp : st.sp.Consistent) (l : List SpEvent) :
    (∀ l', l' <+: l → (Runs.runFrom spStep st l').sp.Consistent) ↔ Runs.Guarded spStep ProfileGuard st l :=
  @Runs.always_iff_guarded _ _ spStep ProfileGuard (fun st => st.sp.Consistent) (fun st => st.sp.Consistent)
    (fun _ h => h) (fun _ e h => (spStep_consistent h e).2) (fun _ e h hguard => mt (spStep_consistent h e).1 hguard)
    l st hsp

/-- A device in RFPRO with the profile Baseline. -/
def baselineState : SpState := ⟨.rfpro, .mfgDefault, .mfgDefault, none⟩

/-- A payload that lists Black as the only supported profile, without a current profile. -/
def blackOnly : List OcRep := [.stringArray (some (ascii "supportedprofiles")) [spBlackOid]]

theorem currentProfile_default :
    (Runs.runFrom spStep baselineState [.default, .dos .rfnop, .restart .rfotm]).sp.Consistent :=
  have hrun : Runs.Guarded spStep ProfileGuard baselineState [.default, .dos .rfnop, .restart .rfotm] :=
    ⟨mfgDefault_consistent, trivial, rfl, trivial⟩
  (currentProfile_always baselineState mfgDefault_consistent _).2 hrun _ List.prefix_rfl

/-- One POST with a list of supported profiles leaves a current profile that is none of them. -/
theorem currentProfile_unsupported :
    baselineState.sp.Consistent ∧ (postSp baselineState blackOnly).1 = .changed ∧
    ¬(Runs.runFrom spStep baselineState [.post blackOnly]).sp.Consistent := by
  refine ⟨mfgDefault_consistent, by decide, by decide⟩

end SmartGarage
