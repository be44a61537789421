/-
The canonical text of a UUID (8-4-4-4-12 hexadecimal digits): what `oc_uuid_to_str` writes has this form and is read back
by `oc_str_to_uuid`, and every text of this form is written as it has been read, in lower case.
-/
import SmartGarage.Api.Uuid

namespace SmartGarage

/-! ## The canonical form -/

/-- A hexadecimal digit in lower case. -/
def isLowerHex (c : UInt8) : Bool := (48 ≤ c ∧ c ≤ 57) ∨ (97 ≤ c ∧ c ≤ 102)

/-- A hexadecimal digit in either case. -/
def isHex (c : UInt8) : Bool := isLowerHex c || decide (65 ≤ c ∧ c ≤ 70)

/-- `tolower` -/
def lowerCase (c : UInt8) : UInt8 := if 65 ≤ c ∧ c ≤ 90 then c + 32 else c

/-- Groups of 8, 4, 4, 4 and 12 digits with a dash between two of them. -/
structure UuidForm (digit : UInt8 → Bool) (s : OcString) : Prop where
  groups : ∃ a b c d e, s = a ++ 45 :: (b ++ 45 :: (c ++ 45 :: (d ++ 45 :: e))) ∧
    (a.length = 8 ∧ b.length = 4 ∧ c.length = 4 ∧ d.length = 4 ∧ e.length = 12) ∧
    ∀ x, x ∈ a ∨ x ∈ b ∨ x ∈ c ∨ x ∈ d ∨ x ∈ e → digit x = true

theorem UuidForm.length {digit : UInt8 → Bool} {s : OcString} (h : UuidForm digit s) : s.length = 36 := by
  obtain ⟨a, b, c, d, e, rfl, ⟨ha, hb, hc, hd, he⟩, -⟩ := h.groups
  simp [ha, hb, hc, hd, he]

/-! ## Digits -/

theorem isLowerHex_hexDigit : ∀ b : UInt8, b ≤ 15 → isLowerHex (hexDigit b) = true := forall_nibble (by decide)

set_option maxRecDepth 2000 in
theorem hexDigit_hexNibble : ∀ c : UInt8, isLowerHex c = true → hexNibble c ≤ 15 ∧ hexDigit (hexNibble c) = c :=
  forall_byte (by decide)

set_option maxRecDepth 2000 in
theorem lowerCase_digit : ∀ c : UInt8, isHex c = true →
    isLowerHex (lowerCase c) = true ∧ hexNibble (lowerCase c) = hexNibble c ∧ lowerCase c ≠ 45 ∧ c ≠ 45 ∧ c ≠ 42 ∧ c ≠ 0 :=
  forall_byte (by decide)

theorem nibbles_join : ∀ x : UInt8, x ≤ 15 → ∀ y : UInt8, y ≤ 15 →
    (x <<< 4 ||| y) >>> 4 = x ∧ (x <<< 4 ||| y) &&& 15 = y := by
  have hall : ∀ m n : Fin 16, (UInt8.ofNat m <<< 4 ||| UInt8.ofNat n) >>> 4 = UInt8.ofNat m ∧
      (UInt8.ofNat m <<< 4 ||| UInt8.ofNat n) &&& 15 = UInt8.ofNat n := by decide
  exact forall_nibble fun m => forall_nibble (hall m)

/-- The digits of some bytes. -/
def hexText (bytes : List UInt8) : OcString := bytes.flatMap fun (b : UInt8) => [hexDigit (b >>> 4), hexDigit (b &&& 15)]

theorem isLowerHex_hexText {bytes : List UInt8} : ∀ x ∈ hexText bytes, isLowerHex x = true := by
  intro x hx
  obtain ⟨b, -, hb⟩ := List.mem_flatMap.1 hx
  rcases List.mem_pair.1 hb with rfl | rfl
  · exact isLowerHex_hexDigit _ (high_le b)
  · exact isLowerHex_hexDigit _ (low_le b)

theorem exists_hexText : ∀ {n : Nat} {s : OcString}, s.length = 2 * n → (∀ x ∈ s, isLowerHex x = true) →
    ∃ bytes, bytes.length = n ∧ s = hexText bytes
  | 0, [], _, _ => ⟨[], rfl, rfl⟩
  | n + 1, [], hlen, _ => by simp at hlen
  | n + 1, [x], hlen, _ => by
    simp only [List.length_cons, List.length_nil] at hlen
    omega
  | n + 1, x :: y :: s, hlen, hall => by
    simp only [List.length_cons] at hlen
    obtain ⟨bytes, hbytes, rfl⟩ := exists_hexText (s := s) (n := n) (by omega) fun z hz => hall z (by simp [hz])
    obtain ⟨hx, hxdigit⟩ := hexDigit_hexNibble x (hall x (by simp))
    obtain ⟨hy, hydigit⟩ := hexDigit_hexNibble y (hall y (by simp))
    obtain ⟨hhigh, hlow⟩ := nibbles_join _ hx _ hy
    refine ⟨(hexNibble x <<< 4 ||| hexNibble y) :: bytes, by simp [hbytes], ?_⟩
    simp only [hexText, List.flatMap_cons, hhigh, hlow, hxdigit, hydigit, List.cons_append, List.nil_append]

theorem hexText_length (bytes : List UInt8) : (hexText bytes).length = 2 * bytes.length := by
  induction bytes with
  | nil => rfl
  | cons b bytes ih =>
    rw [hexText, List.flatMap_cons, List.length_append, ← hexText, ih, List.length_cons, List.length_cons, List.length_cons,
      List.length_nil]
    omega

/-! ## Texts and their bytes -/

/-- The groups of sixteen bytes. -/
def groupedText (bytes : List UInt8) : OcString :=
  hexText (bytes.take 4) ++ 45 :: (hexText ((bytes.drop 4).take 2) ++ 45 :: (hexText ((bytes.drop 6).take 2) ++
    45 :: (hexText ((bytes.drop 8).take 2) ++ 45 :: hexText (bytes.drop 10))))

theorem flatMap_byteText : ∀ {bytes : List UInt8}, bytes.length = 16 →
    ((List.range 16).flatMap fun i => byteText i (bytes.getD i 0)) = groupedText bytes
  | [_, _, _, _, _, _, _, _, _, _, _, _, _, _, _, _], _ => rfl

theorem ocUuidToStr_grouped {u : OcUuid} (h : u ≠ OcUuid.wildcard) : ocUuidToStr u = groupedText u.id.toList := by
  rw [ocUuidToStr_of_ne h, flatMap_byteText (by simp)]

theorem groupedText_form {bytes : List UInt8} (h : bytes.length = 16) : UuidForm isLowerHex (groupedText bytes) := by
  refine ⟨_, _, _, _, _, rfl, ?_, ?_⟩
  · simp [hexText_length, h]
  · rintro x (hx | hx | hx | hx | hx) <;> exact isLowerHex_hexText x hx

theorem UuidForm.exists_bytes {s : OcString} (h : UuidForm isLowerHex s) :
    ∃ u : OcUuid, s = groupedText u.id.toList := by
  obtain ⟨a, b, c, d, e, rfl, ⟨ha, hb, hc, hd, he⟩, hdigits⟩ := h.groups
  obtain ⟨as, hlena, rfl⟩ := exists_hexText (n := 4) ha fun x hx => hdigits x (.inl hx)
  obtain ⟨bs, hlenb, rfl⟩ := exists_hexText (n := 2) hb fun x hx => hdigits x (.inr (.inl hx))
  obtain ⟨cs, hlenc, rfl⟩ := exists_hexText (n := 2) hc fun x hx => hdigits x (.inr (.inr (.inl hx)))
  obtain ⟨ds, hlend, rfl⟩ := exists_hexText (n := 2) hd fun x hx => hdigits x (.inr (.inr (.inr (.inl hx))))
  obtain ⟨es, hlene, rfl⟩ := exists_hexText (n := 6) he fun x hx => hdigits x (.inr (.inr (.inr (.inr hx))))
  have hlen : (as ++ (bs ++ (cs ++ (ds ++ es)))).length = 16 := by simp [hlena, hlenb, hlenc, hlend, hlene]
  refine ⟨⟨⟨(as ++ (bs ++ (cs ++ (ds ++ es)))).toArray, by simpa using hlen⟩⟩, ?_⟩
  have hdrop (n : Nat) (l l' : List UInt8) (hl : l.length = n) : (l ++ l').drop n = l' := List.drop_left' hl
  have htake (n : Nat) (l l' : List UInt8) (hl : l.length = n) : (l ++ l').take n = l := List.take_left' hl
  have h4 := hdrop 4 as (bs ++ (cs ++ (ds ++ es))) hlena
  have h6 : (as ++ (bs ++ (cs ++ (ds ++ es)))).drop (4 + 2) = cs ++ (ds ++ es) := by
    rw [← List.drop_drop, h4, hdrop 2 bs _ hlenb]
  have h8 : (as ++ (bs ++ (cs ++ (ds ++ es)))).drop (4 + 2 + 2) = ds ++ es := by
    rw [← List.drop_drop, h6, hdrop 2 cs _ hlenc]
  have h10 : (as ++ (bs ++ (cs ++ (ds ++ es)))).drop (4 + 2 + 2 + 2) = es := by
    rw [← List.drop_drop, h8, hdrop 2 ds _ hlend]
  show _ = groupedText (as ++ (bs ++ (cs ++ (ds ++ es))))
  unfold groupedText
  rw [h4, h6, h8, h10, htake 4 as _ hlena, htake 2 bs _ hlenb, htake 2 cs _ hlenc, htake 2 ds _ hlend]

/-! ## Lower case -/

theorem UuidForm.toLowerCase {s : OcString} (h : UuidForm isHex s) : UuidForm isLowerHex (s.map lowerCase) := by
  obtain ⟨a, b, c, d, e, rfl, ⟨ha, hb, hc, hd, he⟩, hdigits⟩ := h.groups
  refine ⟨a.map lowerCase, b.map lowerCase, c.map lowerCase, d.map lowerCase,
    e.map lowerCase, ?_, ?_, ?_⟩
  · simp only [List.map_append, List.map_cons]
    rfl
  · simp [ha, hb, hc, hd, he]
  · intro x hx
    simp only [List.mem_map] at hx
    rcases hx with ⟨y, hy, rfl⟩ | ⟨y, hy, rfl⟩ | ⟨y, hy, rfl⟩ | ⟨y, hy, rfl⟩ | ⟨y, hy, rfl⟩
    · exact (lowerCase_digit y (hdigits y (.inl hy))).1
    · exact (lowerCase_digit y (hdigits y (.inr (.inl hy)))).1
    · exact (lowerCase_digit y (hdigits y (.inr (.inr (.inl hy))))).1
    · exact (lowerCase_digit y (hdigits y (.inr (.inr (.inr (.inl hy)))))).1
    · exact (lowerCase_digit y (hdigits y (.inr (.inr (.inr (.inr hy)))))).1

theorem foldl_round_map {s : OcString} (h : ∀ x ∈ s, x = 45 ∨ isHex x = true) :
    ∀ scan : UuidScan, (s.map lowerCase).foldl UuidScan.round scan = s.foldl UuidScan.round scan := by
  induction s with
  | nil => exact fun _ => rfl
  | cons x s ih =>
    intro scan
    have hround : scan.round (lowerCase x) = scan.round x := by
      rcases h x List.mem_cons_self with rfl | hx
      · rfl
      · obtain ⟨-, hsame, hlower, hupper, -⟩ := lowerCase_digit x hx
        simp only [UuidScan.round, if_neg hlower, if_neg hupper, hsame]
    rw [List.map_cons, List.foldl_cons, List.foldl_cons, hround, ih fun y hy => h y (List.mem_cons_of_mem _ hy)]

theorem ocStrToUuid_lowerCase {s : OcString} (h : UuidForm isHex s) (v : OcUuid) :
    ocStrToUuid (s.map lowerCase) v = ocStrToUuid s v := by
  obtain ⟨x, s', hs, hx⟩ : ∃ x s', s = x :: s' ∧ isHex x = true := by
    obtain ⟨a, b, c, d, e, hs, ⟨ha, -⟩, hdigits⟩ := h.groups
    cases a with
    | nil => cases ha
    | cons x a => exact ⟨x, _, hs, hdigits x (.inl List.mem_cons_self)⟩
  have hchars : ∀ y ∈ s, y = 45 ∨ isHex y = true := by
    obtain ⟨a, b, c, d, e, rfl, -, hdigits⟩ := h.groups
    intro y hy
    simp only [List.mem_append, List.mem_cons] at hy
    grind
  obtain ⟨hlower, -, -, -, hstar, hzero⟩ := lowerCase_digit x hx
  have hnot : lowerCase x ≠ 42 ∧ lowerCase x ≠ 0 := by
    constructor
    · intro heq
      rw [heq] at hlower
      cases hlower
    · intro heq
      rw [heq] at hlower
      cases hlower
  have hcstr : cstr s ≠ [42] := by simp [hs, cstr, hzero, hstar]
  have hcstr' : cstr (s.map lowerCase) ≠ [42] := by simp [hs, cstr, hnot.1, hnot.2]
  have hfold := foldl_range_getD UuidScan.round 0 s ⟨v, 0, 1, 0⟩
  have hfold' := foldl_range_getD UuidScan.round 0 (s.map lowerCase) ⟨v, 0, 1, 0⟩
  rw [h.length] at hfold
  rw [h.toLowerCase.length] at hfold'
  unfold ocStrToUuid
  rw [if_neg hcstr, if_neg hcstr', hfold, hfold', foldl_round_map hchars]

/-! ## The property -/

/-- The text of a UUID is `*` for the wildcard and has the canonical form, in lower case, for every other one, and it is
read back; and a text of the form, in either case, is written as it has been read, in lower case, unless it stands for the
wildcard. -/
theorem ocUuid_text_bijection (u v : OcUuid) (s : OcString) :
    (u = OcUuid.wildcard → ocUuidToStr u = ascii "*") ∧
      (u ≠ OcUuid.wildcard → UuidForm isLowerHex (ocUuidToStr u)) ∧
      ocStrToUuid (ocUuidToStr u) v = u ∧
      (UuidForm isHex s → ocStrToUuid s v ≠ OcUuid.wildcard → ocUuidToStr (ocStrToUuid s v) = s.map lowerCase) := by
  refine ⟨?_, ?_, ocStrToUuid_ocUuidToStr u v, ?_⟩
  · rintro rfl
    rfl
  · intro hne
    rw [ocUuidToStr_grouped hne]
    exact groupedText_form (by simp)
  · intro hform hne
    obtain ⟨u', hu'⟩ := hform.toLowerCase.exists_bytes
    have hread : ocStrToUuid s v = u' := by
      rw [← ocStrToUuid_lowerCase hform, hu', ← flatMap_byteText (by simp), ocStrToUuid_digits]
    rw [hread] at hne ⊢
    rw [ocUuidToStr_grouped hne, hu']

end SmartGarage
