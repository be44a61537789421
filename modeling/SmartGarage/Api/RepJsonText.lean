/-
What `oc_rep_to_json` (`oc_rep.c`) writes, read as JSON: the value that a tree of `oc_rep_t` records stands for, and when
the text is a document for it.
-/
import SmartGarage.Api.RepJson
import SmartGarage.Lib.JsonGrammar

namespace SmartGarage

open TextBuffer (Program LikeSnprintf)
open Json (ReadsAs ItemsAs MembersAs NotMember QuietText Spaces spaces_nil)

/-! ## The tree -/

mutual

/-- The value of a record: integers and doubles as they are printed, byte strings in Base64. -/
def OcRep.toJson : OcRep → Json.Value
  | .nil _ => .null
  | .int _ v => .number (printInt64 v)
  | .double _ bits => .number (printDouble bits)
  | .bool _ b => .bool b
  | .byteString _ b => .string (base64Text b)
  | .string _ s => .string s
  | .object _ entries => .object (membersOf entries)
  | .intArray _ values => .array (values.map fun v => .number (printInt64 v))
  | .doubleArray _ values => .array (values.map fun bits => .number (printDouble bits))
  | .boolArray _ values => .array (values.map .bool)
  | .byteStringArray _ values => .array (values.map fun b => .string (base64Text b))
  | .stringArray _ values => .array (values.map .string)
  | .objectArray _ items => .array (itemsOf items)

/-- The members of an object. -/
def membersOf : List OcRep → List (OcString × Json.Value)
  | [] => []
  | e :: rest => (e.name.getD [], e.toJson) :: membersOf rest

/-- The objects of an array. -/
def itemsOf : List (List OcRep) → List Json.Value
  | [] => []
  | item :: rest => .object (membersOf item) :: itemsOf rest

end

/-- A list of objects without names. -/
def UnnamedObjects (rep : List OcRep) : Prop := rep ≠ [] ∧ ∀ e ∈ rep, e.type = .object ∧ e.name = none

instance (rep : List OcRep) : Decidable (UnnamedObjects rep) := by
  unfold UnnamedObjects
  infer_instance

/-- The value of a list: an array of objects without names, or else an object. -/
def jsonDocument (rep : List OcRep) : Json.Value :=
  if UnnamedObjects rep then .array (rep.map OcRep.toJson) else .object (membersOf rep)

mutual

/-- Nothing in a value needs an escape sequence, all of its numbers are finite, and none of its arrays of objects is
empty. -/
def OcRep.JsonSound : OcRep → Prop
  | .double _ bits => doubleFinite bits = true
  | .string _ s => Json.Plain s
  | .object _ entries => SoundEntries entries
  | .doubleArray _ values => ∀ bits ∈ values, doubleFinite bits = true
  | .stringArray _ values => ∀ s ∈ values, Json.Plain s
  | .objectArray _ items => items ≠ [] ∧ SoundItems items
  | _ => True

/-- The keys of an object are not empty, and neither they nor the values need an escape sequence. -/
def SoundEntries : List OcRep → Prop
  | [] => True
  | e :: rest => ((e.name.getD [] ≠ [] ∧ Json.Plain (e.name.getD [])) ∧ e.JsonSound) ∧ SoundEntries rest

/-- All objects of an array are so. -/
def SoundItems : List (List OcRep) → Prop
  | [] => True
  | item :: rest => SoundEntries item ∧ SoundItems rest

end

/-- What is needed of a list. -/
def SoundDocument (rep : List OcRep) : Prop :=
  if UnnamedObjects rep then ∀ e ∈ rep, e.JsonSound else SoundEntries rep

/-- In every buffer with room for it and a zero a program leaves a text and the zero, and it counts the text. -/
def WritesText (p : Program) (text : OcString) : Prop :=
  ∀ mem n, text.length < n → ∃ mem', p.fill mem n = some (mem', text.length) ∧
    (∀ j < text.length, mem' j = text.getD j 0) ∧ mem' text.length = 0

theorem writes_iff {p : Program} {t : OcString} (h : LikeSnprintf p.fill t) (text : OcString) :
    WritesText p text ↔ text = t := by
  have hwrites : WritesText p t := by
    intro mem n hn
    obtain ⟨mem', hfill, -, hbuffer⟩ := h mem n
    obtain ⟨k, -, -, hall, hzero, htext⟩ := hbuffer (Nat.zero_lt_of_lt hn)
    obtain rfl := hall hn
    exact ⟨mem', hfill, htext, hzero⟩
  constructor
  · intro hother
    obtain ⟨mem₁, hfill₁, htext₁, -⟩ := hother (fun _ => 0) (text.length + t.length + 1) (by omega)
    obtain ⟨mem₂, hfill₂, htext₂, -⟩ := hwrites (fun _ => 0) (text.length + t.length + 1) (by omega)
    rw [hfill₁] at hfill₂
    obtain ⟨rfl, hlength⟩ := Prod.mk.inj (Option.some.inj hfill₂)
    refine List.ext_getElem hlength fun j h₁ h₂ => ?_
    have hsame := (htext₁ j h₁).symm.trans (htext₂ j h₂)
    rwa [List.getD_eq_getElem _ _ h₁, List.getD_eq_getElem _ _ h₂] at hsame
  · rintro rfl
    exact hwrites

/-! ## Numbers and strings -/

theorem isDigit_bounds {b : UInt8} (h : Decimal.isDigit b = true) :
    Json.isDigit b = true ∧ b ≠ 34 ∧ b ≠ 92 ∧ b ≠ 45 ∧ Json.isSpace b = false := by
  have hbounds : 48 ≤ b.toNat ∧ b.toNat ≤ 57 := of_decide_eq_true h
  have hne {c : UInt8} (hc : c.toNat < 48 ∨ 57 < c.toNat) : b ≠ c := by
    rintro rfl
    omega
  refine ⟨decide_eq_true ⟨UInt8.le_iff_toNat_le.2 hbounds.1, UInt8.le_iff_toNat_le.2 hbounds.2⟩, hne (.inl (by decide)),
    hne (.inr (by decide)), hne (.inl (by decide)), decide_eq_false ?_⟩
  rintro (heq | heq | heq | heq) <;> exact absurd heq (hne (.inl (by decide)))

theorem digits_of_isDigit {t : OcString} (hne : t ≠ []) (h : ∀ b ∈ t, Decimal.isDigit b = true) : Json.Digits t :=
  ⟨hne, fun b hb => (isDigit_bounds (h b hb)).1⟩

theorem isDigit_sixDigits (n : Nat) : ∀ b ∈ sixDigits n, Decimal.isDigit b = true := by
  intro b hb
  obtain ⟨d, -, rfl⟩ := List.mem_map.1 hb
  have hlt : n / d % 10 < 10 := Nat.mod_lt _ (by decide)
  unfold Decimal.isDigit
  rw [Decimal.digit_toNat hlt]
  exact decide_eq_true ⟨by omega, by omega⟩

/-- A number has no zeros in front. -/
theorem print_leading {n : Nat} (h : (Decimal.print n).head? = some 48) : Decimal.print n = [48] := by
  have hzero : n = 0 := by
    induction n using Decimal.print_induction with
    | single d hd =>
      rw [Decimal.print_of_lt hd] at h
      have heq := congrArg UInt8.toNat (Option.some.inj h)
      rw [Decimal.digit_toNat hd] at heq
      exact Nat.add_left_cancel heq
    | digit n hn ih =>
      rw [Decimal.print_of_le hn, List.head?_append_of_ne_nil _ (Decimal.print_ne_nil _)] at h
      have := ih h
      omega
  rw [hzero]
  rfl

theorem isNumber_decimal {sign frac : OcString} (n : Nat) (hsign : sign = [] ∨ sign = [45])
    (hfrac : frac = [] ∨ ∃ ds, frac = 46 :: ds ∧ Json.Digits ds) : Json.IsNumber (sign ++ (Decimal.print n ++ frac)) :=
  ⟨sign, Decimal.print n, frac, [], by rw [List.append_nil], hsign,
    ⟨digits_of_isDigit (Decimal.print_ne_nil n) (Decimal.isDigit_print n), print_leading⟩, hfrac, .inl rfl⟩

theorem isNumber_first {t : OcString} (h : Json.IsNumber t) :
    ∃ d rest, Json.isDigit d = true ∧ (t = d :: rest ∨ t = 45 :: d :: rest) := by
  obtain ⟨sign, int, frac, exp, rfl, hsign, ⟨⟨hne, hdigits⟩, -⟩, -⟩ := h
  obtain ⟨d, ds, rfl⟩ := List.exists_cons_of_ne_nil hne
  refine ⟨d, ds ++ (frac ++ exp), hdigits d List.mem_cons_self, ?_⟩
  rcases hsign with rfl | rfl
  · exact .inl rfl
  · exact .inr rfl

theorem isNumber_printDouble (bits : UInt64) : Json.IsNumber (printDouble bits) ↔ doubleFinite bits = true := by
  unfold printDouble
  generalize hsigned : (if 2 ^ 63 ≤ bits.toNat then [(45 : UInt8)] else []) = sign
  have hsign : sign = [] ∨ sign = [45] := by
    rw [← hsigned]
    split
    · exact .inr rfl
    · exact .inl rfl
  cases hfinite : doubleFinite bits with
  | true =>
    refine iff_of_true (isNumber_decimal _ hsign (.inr ⟨_, rfl, ?_⟩)) rfl
    exact digits_of_isDigit (by simp [sixDigits]) (isDigit_sixDigits _)
  | false =>
    refine iff_of_false (fun hnumber => ?_) Bool.false_ne_true
    obtain ⟨d, rest, hdigit, htext⟩ := isNumber_first hnumber
    rw [if_neg Bool.false_ne_true] at htext
    -- behind the sign there is a letter
    obtain ⟨b, word, hword, hletter, hminus⟩ : ∃ b word, (if doubleFraction bits = 0 then ascii "inf" else ascii "nan") =
        b :: word ∧ Json.isDigit b = false ∧ b ≠ 45 := by
      split
      · exact ⟨_, _, rfl, rfl, by decide⟩
      · exact ⟨_, _, rfl, rfl, by decide⟩
    rw [hword] at htext
    rcases hsign with rfl | rfl <;> rcases htext with htext | htext
    · rw [(List.cons.inj htext).1, hdigit] at hletter
      cases hletter
    · exact hminus (List.cons.inj htext).1
    · rw [← (List.cons.inj htext).1] at hdigit
      cases hdigit
    · rw [(List.cons.inj (List.cons.inj htext).2).1, hdigit] at hletter
      cases hletter

/-- The texts of numbers have neither quotes nor backslashes, and do not begin with white space. -/
structure NumberText (t : OcString) : Prop where
  nonempty : t ≠ []
  chars : ∀ b ∈ t, b ≠ 34 ∧ b ≠ 92 ∧ Json.isSpace b = false

theorem NumberText.append {sign t : OcString} (hsign : ∀ b ∈ sign, b = 45) (h : NumberText t) : NumberText (sign ++ t) := by
  refine ⟨fun hnil => h.nonempty (List.append_eq_nil_iff.1 hnil).2, fun b hb => ?_⟩
  rcases List.mem_append.1 hb with hb | hb
  · rw [hsign b hb]
    decide
  · exact h.chars b hb

theorem NumberText.head {t : OcString} (h : NumberText t) : ∃ b rest, t = b :: rest ∧ Json.isSpace b = false ∧ b ≠ 34 := by
  obtain ⟨b, rest, rfl⟩ := List.exists_cons_of_ne_nil h.nonempty
  obtain ⟨hquote, -, hspace⟩ := h.chars b List.mem_cons_self
  exact ⟨b, rest, rfl, hspace, hquote⟩

theorem NumberText.readsAs {t : OcString} (h : NumberText t) : ReadsAs t (.number t) (Json.IsNumber t) := by
  obtain ⟨b, rest, heq, hspace, -⟩ := h.head
  refine Json.readsAs_number ⟨b, rest, heq, hspace⟩ (Json.quietText_plain ?_ ?_)
  · exact fun hmem => (h.chars _ hmem).1 rfl
  · exact fun hmem => (h.chars _ hmem).2.1 rfl

theorem numberText_print (n : Nat) : NumberText (Decimal.print n) :=
  ⟨Decimal.print_ne_nil n, fun b hb =>
    have hbounds := isDigit_bounds (Decimal.isDigit_print n b hb)
    ⟨hbounds.2.1, hbounds.2.2.1, hbounds.2.2.2.2⟩⟩

theorem numberText_printInt64 (v : Int) : NumberText (printInt64 v) := by
  refine (numberText_print _).append fun b hb => ?_
  split at hb
  · exact List.mem_singleton.1 hb
  · cases hb

theorem numberText_printDouble (bits : UInt64) : NumberText (printDouble bits) := by
  have hsign : ∀ b ∈ (if 2 ^ 63 ≤ bits.toNat then [(45 : UInt8)] else []), b = 45 := by
    intro b hb
    split at hb
    · exact List.mem_singleton.1 hb
    · cases hb
  unfold printDouble
  refine NumberText.append hsign ?_
  split
  · refine ⟨fun hnil => Decimal.print_ne_nil _ (List.append_eq_nil_iff.1 hnil).1, fun b hb => ?_⟩
    rcases List.mem_append.1 hb with hb | hb
    · exact (numberText_print _).chars b hb
    · rcases List.mem_cons.1 hb with rfl | hb
      · decide
      · have hbounds := isDigit_bounds (isDigit_sixDigits _ b hb)
        exact ⟨hbounds.2.1, hbounds.2.2.1, hbounds.2.2.2.2⟩
  · have hword {t : OcString} (hne : t ≠ []) (hall : (t.all fun b => b ≠ 34 ∧ b ≠ 92 ∧ Json.isSpace b = false) = true) :
        NumberText t := ⟨hne, fun b hb => of_decide_eq_true (List.all_eq_true.1 hall b hb)⟩
    split
    · exact hword (by decide) (by decide)
    · exact hword (by decide) (by decide)

theorem readsAs_printInt64 (v : Int) : ReadsAs (printInt64 v) (.number (printInt64 v)) True := by
  have hsign : (if v < 0 then [(45 : UInt8)] else []) = [] ∨ (if v < 0 then [(45 : UInt8)] else []) = [45] := by
    split
    · exact .inr rfl
    · exact .inl rfl
  have hnumber := isNumber_decimal v.natAbs hsign (.inl rfl)
  rw [List.append_nil] at hnumber
  exact (numberText_printInt64 v).readsAs.congr (iff_of_true hnumber trivial)

theorem readsAs_printDouble (bits : UInt64) :
    ReadsAs (printDouble bits) (.number (printDouble bits)) (doubleFinite bits = true) :=
  (numberText_printDouble bits).readsAs.congr (isNumber_printDouble bits)

theorem readsAs_printBool (b : Bool) : ReadsAs (printBool b) (.bool b) True := by
  have hreads := Json.readsAs_bool b
  cases b
  · exact hreads
  · exact hreads

theorem cstr_plain (s : OcString) : ∃ y, s = cstr s ++ y ∧ (Json.Plain (cstr s) ∧ y = [] ↔ Json.Plain s) := by
  refine ⟨s.dropWhile (· ≠ 0), List.takeWhile_append_dropWhile.symm, ?_⟩
  constructor
  · rintro ⟨hplain, hy⟩
    have hsame : s = cstr s ++ s.dropWhile (· ≠ 0) := List.takeWhile_append_dropWhile.symm
    rw [hy, List.append_nil] at hsame
    rwa [hsame]
  · intro hplain
    have hcstr : cstr s = s := cstr_eq_self_iff.2 hplain.zero_notMem
    refine ⟨hcstr.symm ▸ hplain, ?_⟩
    have hsame : cstr s ++ s.dropWhile (· ≠ 0) = s := List.takeWhile_append_dropWhile
    rw [hcstr] at hsame
    exact List.append_right_eq_self.1 hsame

theorem readsAs_quoted (s : OcString) : ReadsAs (quoted s) (.string s) (Json.Plain s) := by
  obtain ⟨y, hs, hiff⟩ := cstr_plain s
  have hreads := (Json.readsAs_string (cstr s) y).congr hiff
  rwa [← hs] at hreads

theorem notMember_quoted (s : OcString) : NotMember (quoted s) (.string s) := by
  obtain ⟨y, hs, -⟩ := cstr_plain s
  have hnot := Json.notMember_string (cstr s) y
  rwa [← hs] at hnot

theorem base64Text_plain (b : OcString) : ∀ ch ∈ base64Text b, 0x20 ≤ ch ∧ ch < 0x80 ∧ ch ≠ 34 ∧ ch ≠ 92 := by
  have halphabet : (base64Alphabet.all fun ch => 0x20 ≤ ch ∧ ch < 0x80 ∧ ch ≠ 34 ∧ ch ≠ 92) = true := by decide
  intro ch hch
  rw [base64Text_eq] at hch
  rcases base64Groups_alphabet b ch hch with hmem | rfl
  · exact of_decide_eq_true (List.all_eq_true.1 halphabet ch hmem)
  · decide

/-- The text of a byte string. -/
def base64Quoted (b : OcString) : OcString := 34 :: base64Text b ++ [34]

theorem base64Quoted_text (b : OcString) :
    (Program.call (ocRepToJsonBase64EncodedByteString b)).text = some (base64Quoted b) := rfl

theorem quoted_text (s : OcString) : (Program.print (quoted s)).text = some (quoted s) := rfl

theorem readsAs_base64 (b : OcString) : ReadsAs (base64Quoted b) (.string (base64Text b)) True := by
  have hreads := Json.readsAs_string (base64Text b) []
  rw [List.append_nil] at hreads
  exact hreads.congr (iff_of_true ⟨Json.Plain.of_ascii (base64Text_plain b), rfl⟩ trivial)

theorem notMember_base64 (b : OcString) (v : Json.Value) : NotMember (base64Quoted b) v :=
  Json.notMember_quoted (fun hmem => (base64Text_plain b _ hmem).2.2.1 rfl) v

/-! ## White space -/

section Format

variable {prettyPrint : Bool} {rep : List OcRep}

theorem pretty_newline : ∃ ws, (pretty prettyPrint (.print (ascii "\n"))).text = some ws ∧ Spaces ws := by
  unfold pretty
  split
  · exact ⟨_, rfl, by decide⟩
  · exact ⟨_, rfl, spaces_nil⟩

theorem spaced_text (text : String) {space : String} (h : Spaces (ascii space)) :
    ∃ ws, (spaced prettyPrint text space).text = some (ascii text ++ ws) ∧ Spaces ws := by
  unfold spaced
  split
  · exact ⟨_, rfl, h⟩
  · exact ⟨[], by rw [List.append_nil]; rfl, spaces_nil⟩

theorem jsonTab_text (depth : Nat) : ∃ ws, (jsonTab prettyPrint depth).text = some ws ∧ Spaces ws := by
  have htab : ∀ n, ∃ ws, (Program.all (List.replicate n (.print (ascii "  ")))).text = some ws ∧ Spaces ws := by
    intro n
    induction n with
    | zero => exact ⟨_, rfl, spaces_nil⟩
    | succ n ih =>
      obtain ⟨ws, htext, hws⟩ := ih
      refine ⟨_, Program.seq_text.2 ⟨_, ws, rfl, htext, rfl⟩, .append (by decide) hws⟩
  unfold jsonTab pretty
  split
  · exact htab depth
  · exact ⟨_, rfl, spaces_nil⟩

/-! ## Arrays -/

theorem itemsAs_jsonItems {α β : Type} {f : α → β} {item : β → Program} {between last : Program} {value : α → Json.Value}
    {good : α → Prop} (hbetween : ∃ ws, between.text = some (44 :: ws) ∧ Spaces ws)
    (hlast : ∃ ws, last.text = some ws ∧ Spaces ws) : ∀ {items : List α}, items ≠ [] →
      (∀ x, ∃ ws t, (item (f x)).text = some (ws ++ t) ∧ Spaces ws ∧ ReadsAs t (value x) (good x)) →
        ∃ t, (jsonItems item between last (items.map f)).text = some t ∧
          ItemsAs t (items.map value) (∀ x ∈ items, good x)
  | [], hne, _ => absurd rfl hne
  | [x], _, h => by
    obtain ⟨ws, t, htext, hws, hreads⟩ := h x
    obtain ⟨ws', hend, hws'⟩ := hlast
    refine ⟨ws ++ (t ++ ws'), Program.seq_text.2 ⟨_, _, htext, hend, by rw [List.append_assoc]⟩, ?_⟩
    exact (ItemsAs.last hws hreads hws').congr (by simp)
  | x :: y :: rest, _, h => by
    obtain ⟨ws, t, htext, hws, hreads⟩ := h x
    obtain ⟨ws', hcomma, hws'⟩ := hbetween
    obtain ⟨more, hmore, hitems⟩ := itemsAs_jsonItems ⟨ws', hcomma, hws'⟩ hlast (List.cons_ne_nil y rest) h
    refine ⟨ws ++ (t ++ ([] ++ 44 :: (ws' ++ more))), ?_, ?_⟩
    · refine Program.seq_text.2 ⟨_, _, htext, Program.seq_text.2 ⟨_, _, hcomma, hmore, rfl⟩, ?_⟩
      simp
    · exact (ItemsAs.cons hws hreads spaces_nil (hitems.leading hws')).congr (by simp)

theorem jsonArray_readsAs {α : Type} {print : α → OcString} {value : α → Json.Value} {good : α → Prop}
    (h : ∀ x, ReadsAs (print x) (value x) (good x)) (values : List α) :
    ∃ t, (jsonArray prettyPrint (values.map print)).text = some (91 :: t) ∧
      ReadsAs (91 :: t) (.array (values.map value)) (∀ x ∈ values, good x) := by
  by_cases hnil : values = []
  · rw [hnil]
    exact ⟨_, rfl, (Json.readsAs_emptyArray spaces_nil).congr (by simp)⟩
  · obtain ⟨t, htext, hitems⟩ : ∃ t, (jsonItems .print (spaced prettyPrint "," " ") .skip (values.map print)).text = some t ∧
        ItemsAs t (values.map value) (∀ x ∈ values, good x) :=
      itemsAs_jsonItems (spaced_text "," (by decide)) ⟨_, rfl, spaces_nil⟩ hnil fun x => ⟨[], print x, rfl, spaces_nil, h x⟩
    exact ⟨t ++ [93], Program.seq_text.2 ⟨_, _, rfl, Program.seq_text.2 ⟨_, _, htext, rfl, rfl⟩, rfl⟩, hitems.readsAs⟩

theorem jsonLines_readsAs {α : Type} {program : α → Program} {print : α → OcString} {value : α → Json.Value}
    {good : α → Prop} (hprogram : ∀ x, (program x).text = some (print x)) (h : ∀ x, ReadsAs (print x) (value x) (good x))
    (depth : Nat) (values : List α) : ∃ t, (jsonLines prettyPrint depth (values.map program)).text = some (91 :: t) ∧
      ReadsAs (91 :: t) (.array (values.map value)) (∀ x ∈ values, good x) := by
  obtain ⟨front, hfront, hspaces⟩ := @spaced_text prettyPrint "[" "\n" (by decide)
  obtain ⟨tab, htab, htabs⟩ := @jsonTab_text prettyPrint (depth + 1)
  have hwhole {t : OcString} (hitems : (jsonItems (fun item => .all [jsonTab prettyPrint (depth + 2), item])
      (spaced prettyPrint "," "\n") (pretty prettyPrint (.print (ascii "\n"))) (values.map program)).text = some t) :
      (jsonLines prettyPrint depth (values.map program)).text = some (91 :: (front ++ (t ++ tab) ++ [93])) := by
    refine Program.seq_text.2 ⟨_, _, hfront, Program.seq_text.2 ⟨_, _, hitems, Program.seq_text.2 ⟨_, _, htab, rfl, rfl⟩,
      rfl⟩, ?_⟩
    show 91 :: (front ++ (t ++ tab) ++ [93]) = 91 :: ([] ++ front) ++ (t ++ (tab ++ [93]))
    simp
  by_cases hnil : values = []
  · rw [hnil] at hwhole ⊢
    exact ⟨_, hwhole rfl, (Json.readsAs_emptyArray (hspaces.append htabs)).congr (by simp)⟩
  · obtain ⟨line, hline, hlines⟩ := @jsonTab_text prettyPrint (depth + 2)
    obtain ⟨t, htext, hitems⟩ : ∃ t, (jsonItems (fun item => .all [jsonTab prettyPrint (depth + 2), item])
        (spaced prettyPrint "," "\n") (pretty prettyPrint (.print (ascii "\n"))) (values.map program)).text = some t ∧
          ItemsAs t (values.map value) (∀ x ∈ values, good x) :=
      itemsAs_jsonItems (spaced_text "," (by decide)) pretty_newline hnil fun x =>
        ⟨line, print x, Program.seq_text.2 ⟨_, _, hline, Program.seq_text.2 ⟨_, _, hprogram x, rfl, rfl⟩,
          by rw [List.append_nil]⟩, hlines, h x⟩
    exact ⟨_, hwhole htext, ((hitems.trailing htabs).leading hspaces).readsAs⟩

/-! ## Values -/

/-- The text of a value: it is not read as a member without a key, and if the value has been found under its name it is
read as the value. -/
structure PrintedAs (found : Prop) (t : OcString) (v : Json.Value) (good : Prop) : Prop where
  quiet : QuietText t
  notMember : NotMember t v
  reads : found → ReadsAs t v good

theorem readsAs_printed {found good good' : Prop} {t : OcString} {v v' : Json.Value} (h : ReadsAs t v' good')
    (hnot : NotMember t v) (hfound : found → v' = v ∧ (good' ↔ good)) : PrintedAs found t v good :=
  ⟨h.quiet, hnot, fun hf => by
    obtain ⟨rfl, hiff⟩ := hfound hf
    exact h.congr hiff⟩

theorem printed_other {found good good' : Prop} {b : UInt8} {t : OcString} {v v' : Json.Value}
    (h : ReadsAs (b :: t) v' good') (hspace : Json.isSpace b = false) (hquote : b ≠ 34)
    (hfound : found → v' = v ∧ (good' ↔ good)) : PrintedAs found (b :: t) v good :=
  readsAs_printed h (Json.notMember_of_head hspace hquote v) hfound

theorem printed_number {found good : Prop} {t : OcString} (htext : NumberText t) (h : ReadsAs t (.number t) good) :
    PrintedAs found t (.number t) good := by
  obtain ⟨b, rest, rfl, hspace, hquote⟩ := htext.head
  exact printed_other h hspace hquote fun _ => ⟨rfl, Iff.rfl⟩

theorem printed_array {α : Type} {found good : Prop} {value : α → Json.Value} {each : α → Prop} {values others : List α}
    {p : Program} {t : OcString} (hothers : found → others = values)
    (harray : ∃ t, p.text = some (91 :: t) ∧ ReadsAs (91 :: t) (.array (others.map value)) (∀ x ∈ others, each x))
    (hgood : (∀ x ∈ values, each x) ↔ good) (h : p.text = some t) : PrintedAs found t (.array (values.map value)) good := by
  obtain ⟨u, htext, hreads⟩ := harray
  rw [htext] at h
  cases h
  refine printed_other hreads (by decide) (by decide) fun hfound => ?_
  rw [hothers hfound]
  exact ⟨rfl, hgood⟩

theorem printed_scalar {depth : Nat} {e : OcRep} (hobject : e.type ≠ .object)
    (harray : e.type ≠ .array .object) {t : OcString} (h : (jsonScalar prettyPrint depth rep e).text = some t) :
    PrintedAs (jsonLookup rep e.name e.type = some e) t e.toJson e.JsonSound := by
  have htrue {α : Type} {values : List α} : (∀ x ∈ values, True) ↔ True := iff_of_true (fun _ _ => trivial) trivial
  cases e with
  | nil name =>
    cases h
    exact printed_other Json.readsAs_null (by decide) (by decide) fun _ => ⟨rfl, Iff.rfl⟩
  | int name v =>
    cases h
    exact printed_number (numberText_printInt64 v) (readsAs_printInt64 v)
  | double name bits =>
    cases h
    exact printed_number (numberText_printDouble bits) (readsAs_printDouble bits)
  | bool name b =>
    cases h
    cases b
    · exact printed_other (readsAs_printBool false) (by decide) (by decide) fun _ => ⟨rfl, Iff.rfl⟩
    · exact printed_other (readsAs_printBool true) (by decide) (by decide) fun _ => ⟨rfl, Iff.rfl⟩
  | byteString name b =>
    simp only [jsonScalar] at h
    split at h
    · rename_i other hlookup
      cases h
      refine readsAs_printed (readsAs_base64 _) (notMember_base64 _ _) fun hfound => ?_
      cases hlookup.symm.trans hfound
      exact ⟨rfl, Iff.rfl⟩
    · cases h
  | string name s =>
    cases h
    exact readsAs_printed (readsAs_quoted s) (notMember_quoted s) fun _ => ⟨rfl, Iff.rfl⟩
  | intArray name values =>
    -- an array is looked up by its name, and may be another one's
    simp only [jsonScalar] at h
    split at h
    · rename_i hlookup
      refine printed_array (fun hfound => ?_) (jsonArray_readsAs readsAs_printInt64 _) htrue h
      cases hlookup.symm.trans hfound
      rfl
    · rename_i hother
      exact printed_array (fun hfound => absurd hfound (hother _ _))
        (jsonArray_readsAs readsAs_printInt64 []) htrue h
  | doubleArray name values =>
    simp only [jsonScalar] at h
    split at h
    · rename_i hlookup
      refine printed_array (fun hfound => ?_) (jsonArray_readsAs readsAs_printDouble _) Iff.rfl h
      cases hlookup.symm.trans hfound
      rfl
    · rename_i hother
      exact printed_array (fun hfound => absurd hfound (hother _ _))
        (jsonArray_readsAs readsAs_printDouble []) Iff.rfl h
  | boolArray name values =>
    simp only [jsonScalar] at h
    split at h
    · rename_i hlookup
      refine printed_array (fun hfound => ?_) (jsonArray_readsAs readsAs_printBool _) htrue h
      cases hlookup.symm.trans hfound
      rfl
    · rename_i hother
      exact printed_array (fun hfound => absurd hfound (hother _ _))
        (jsonArray_readsAs readsAs_printBool []) htrue h
  | byteStringArray name values =>
    simp only [jsonScalar] at h
    split at h
    · rename_i hlookup
      refine printed_array (fun hfound => ?_) (jsonLines_readsAs base64Quoted_text readsAs_base64 depth _) htrue h
      cases hlookup.symm.trans hfound
      rfl
    · rename_i hother
      exact printed_array (fun hfound => absurd hfound (hother _ _))
        (jsonLines_readsAs base64Quoted_text readsAs_base64 depth []) htrue h
  | stringArray name values =>
    simp only [jsonScalar] at h
    split at h
    · rename_i hlookup
      refine printed_array (fun hfound => ?_) (jsonLines_readsAs quoted_text readsAs_quoted depth _) Iff.rfl h
      cases hlookup.symm.trans hfound
      rfl
    · rename_i hother
      exact printed_array (fun hfound => absurd hfound (hother _ _))
        (jsonLines_readsAs quoted_text readsAs_quoted depth []) Iff.rfl h
  | object name entries => exact absurd rfl hobject
  | objectArray name items => exact absurd rfl harray

theorem object_readsAs {entries : List OcRep} {front t tab : OcString} (hfront : Spaces front) (htab : Spaces tab)
    (h : entries = [] ∧ t = [] ∨ MembersAs t (membersOf entries) (SoundEntries entries)) :
    ReadsAs (123 :: (front ++ (t ++ tab) ++ [125])) (.object (membersOf entries)) (SoundEntries entries) := by
  rcases h with ⟨rfl, rfl⟩ | hmembers
  · exact Json.readsAs_emptyObject (hfront.append htab)
  · exact ((hmembers.trailing htab).leading hfront).readsAs

theorem jsonLookup_self {e : OcRep} (rest : List OcRep) (hname : e.name.getD [] ≠ [])
    (hplain : Json.Plain (e.name.getD [])) : jsonLookup (e :: rest) e.name e.type = some e := by
  cases hcases : e.name with
  | none => exact absurd (by rw [hcases]; rfl) hname
  | some k =>
    rw [hcases] at hplain
    have hcstr : cstr k = k := cstr_eq_self_iff.2 hplain.zero_notMem
    rw [jsonLookup, Option.bind_some, List.find?_cons_of_pos]
    rw [hcases, hcstr]
    exact decide_eq_true ⟨rfl, rfl⟩

theorem membersAs_cons {e : OcRep} {rest : List OcRep} {tab key t newline more : OcString} (htab : Spaces tab)
    (hnewline : Spaces newline) (hkey : (jsonKey prettyPrint e.name).text = some key)
    (hvalue : PrintedAs (jsonLookup (e :: rest) e.name e.type = some e) t e.toJson e.JsonSound)
    (hmore : rest = [] ∧ more = [] ∨ MembersAs more (membersOf rest) (SoundEntries rest)) :
    MembersAs (tab ++ (key ++ (t ++ ((if rest.isEmpty then [] else [44]) ++ (newline ++ more)))))
      (membersOf (e :: rest)) (SoundEntries (e :: rest)) := by
  by_cases hname : e.name.getD [] = []
  · -- a member without a name is printed as a bare value
    have hnot : False ↔ SoundEntries (e :: rest) := iff_of_false id fun h => h.1.1.1 hname
    unfold jsonKey at hkey
    rw [if_pos hname] at hkey
    cases hkey
    rw [membersOf, hname]
    rcases hmore with ⟨rfl, rfl⟩ | hmembers
    · rw [List.append_nil]
      exact (MembersAs.unnamed htab (hvalue.quiet.append hnewline.quietText) (hvalue.notMember.spaces hnewline)).congr hnot
    · have hquiet := hnewline.quietText.append hmembers.quiet
      cases rest with
      | nil => exact absurd rfl hmembers.ne_nil
      | cons next rest =>
        have htail : QuietText (44 :: (newline ++ more)) := fun u hu => Json.quiet_cons (by decide) (by decide) (hquiet u hu)
        exact (MembersAs.unnamed htab (hvalue.quiet.append htail) (hvalue.notMember.comma spaces_nil hquiet)).congr hnot
  · obtain ⟨k, hk⟩ : ∃ k, e.name = some k := by
      cases hcases : e.name with
      | none => exact absurd (by rw [hcases]; rfl) hname
      | some k => exact ⟨k, rfl⟩
    obtain ⟨y, hsplit, hplain⟩ := cstr_plain k
    have hfound (h : Json.Plain (cstr k) ∧ y = []) : jsonLookup (e :: rest) e.name e.type = some e :=
      jsonLookup_self rest hname (by rw [hk]; exact hplain.1 h)
    have hgood : ((Json.Plain (cstr k) ∧ y = []) ∧ e.JsonSound) ∧ SoundEntries rest ↔ SoundEntries (e :: rest) := by
      rw [SoundEntries, hplain, hk, Option.getD_some]
      rw [hk, Option.getD_some] at hname
      simp [hname]
    obtain ⟨gap, hgap, hcolon⟩ :
        ∃ gap, Spaces gap ∧ (if prettyPrint then ascii " : " else ascii ":") = gap ++ 58 :: gap := by
      split
      · exact ⟨[32], by decide, rfl⟩
      · exact ⟨[], spaces_nil, rfl⟩
    unfold jsonKey at hkey
    rw [if_neg hname, hk, hcolon] at hkey
    cases hkey
    rw [membersOf, hk, Option.getD_some]
    rcases hmore with ⟨rfl, rfl⟩ | hmembers
    · have hlast := MembersAs.last htab hgap hgap hvalue.quiet (fun h => hvalue.reads (hfound h)) hnewline
      rw [← hsplit] at hlast
      simpa [quoted, membersOf] using hlast.congr ((and_iff_left trivial).symm.trans hgood)
    · have hcons := MembersAs.cons htab hgap hgap hvalue.quiet (fun h => hvalue.reads (hfound h)) spaces_nil
        (hmembers.leading hnewline)
      rw [← hsplit] at hcons
      cases rest with
      | nil => exact absurd rfl hmembers.ne_nil
      | cons next rest => simpa [quoted] using hcons.congr hgood

theorem object_text {depth : Nat} {rep entries : List OcRep} {name : Option OcString} {t : OcString}
    (h : (jsonValue prettyPrint depth rep (.object name entries)).text = some t)
    (hformat : ∀ {body}, (ocRepToJsonFormat prettyPrint (depth + 1) entries).text = some body →
      entries = [] ∧ body = [] ∨ MembersAs body (membersOf entries) (SoundEntries entries)) :
    ∃ u, t = 123 :: u ∧ ReadsAs (123 :: u) (.object (membersOf entries)) (SoundEntries entries) := by
  obtain ⟨front, hfront, hspaces⟩ := @spaced_text prettyPrint "\x7b" "\n" (by decide)
  obtain ⟨tab, htab, htabs⟩ := @jsonTab_text prettyPrint (depth + 1)
  simp only [jsonValue, Program.all_cons, Program.all_nil, Program.seq_text] at h
  obtain ⟨_, _, hopen, ⟨body, _, hbody, ⟨_, _, hline, ⟨_, _, ⟨⟩, ⟨⟩, rfl⟩, rfl⟩, rfl⟩, rfl⟩ := h
  cases hfront.symm.trans hopen
  cases htab.symm.trans hline
  refine ⟨front ++ (body ++ tab) ++ [125], ?_, object_readsAs hspaces htabs (hformat hbody)⟩
  show [123] ++ front ++ (body ++ (tab ++ ([125] ++ []))) = _
  simp

mutual

theorem printed_value (depth : Nat) (rep : List OcRep) :
    ∀ (e : OcRep) {t : OcString}, (jsonValue prettyPrint depth rep e).text = some t →
      PrintedAs (jsonLookup rep e.name e.type = some e) t e.toJson e.JsonSound
  | .object name entries, t, h => by
    obtain ⟨u, rfl, hobject⟩ := object_text h fun hbody => format_membersAs (depth + 1) entries hbody
    exact printed_other hobject (by decide) (by decide) fun _ => ⟨rfl, Iff.rfl⟩
  | .objectArray name items, t, h => by
    obtain ⟨newline, hnewline, hspaces⟩ := @pretty_newline prettyPrint
    simp only [jsonValue, Program.all_cons, Program.all_nil, Program.seq_text] at h
    obtain ⟨_, _, ⟨⟩, ⟨_, _, hline, ⟨_, _, hobjects, ⟨⟩, rfl⟩, rfl⟩, rfl⟩ := h
    cases hnewline.symm.trans hline
    obtain ⟨u, rfl, hitems⟩ := objects_itemsAs depth items hobjects
    have harray := (hitems.leading hspaces).readsAs
    have htext : ascii "[" ++ (newline ++ (u ++ [93] ++ [])) = 91 :: (newline ++ u ++ [93]) := by
      show [91] ++ (newline ++ (u ++ [93] ++ [])) = _
      simp
    rw [htext]
    refine printed_other harray (by decide) (by decide) fun _ => ⟨rfl, ?_⟩
    refine ⟨fun hsound => ⟨?_, hsound⟩, fun hsound => hsound.2⟩
    rintro rfl
    exact hitems.ne_nil rfl
  | .nil _, t, h | .int _ _, t, h | .double _ _, t, h | .bool _ _, t, h | .byteString _ _, t, h | .string _ _, t, h
  | .intArray _ _, t, h | .doubleArray _ _, t, h | .boolArray _ _, t, h | .byteStringArray _ _, t, h
  | .stringArray _ _, t, h => by
    rw [jsonValue] at h
    · exact printed_scalar (by simp [OcRep.type]) (by simp [OcRep.type]) h
    · rintro name entries heq
      cases heq
    · rintro name items heq
      cases heq

theorem format_membersAs (depth : Nat) :
    ∀ (entries : List OcRep) {t : OcString}, (ocRepToJsonFormat prettyPrint depth entries).text = some t →
      entries = [] ∧ t = [] ∨ MembersAs t (membersOf entries) (SoundEntries entries)
  | [], t, h => .inl ⟨rfl, by cases h; rfl⟩
  | e :: rest, t, h => by
    obtain ⟨tab, htab, htabs⟩ := @jsonTab_text prettyPrint (depth + 1)
    obtain ⟨newline, hnewline, hspaces⟩ := @pretty_newline prettyPrint
    simp only [ocRepToJsonFormat, Program.all_cons, Program.all_nil, Program.seq_text] at h
    obtain ⟨_, _, hfront, ⟨key, _, hkey, ⟨_, _, hvalue, ⟨comma, _, hcomma, ⟨_, _, hline, ⟨more, _, hmore, ⟨⟩, rfl⟩, rfl⟩,
      rfl⟩, rfl⟩, rfl⟩, rfl⟩ := h
    cases htab.symm.trans hfront
    cases hnewline.symm.trans hline
    have hbehind : comma = if rest.isEmpty then [] else [44] := by
      cases rest with
      | nil =>
        cases hcomma
        rfl
      | cons next rest =>
        cases hcomma
        rfl
    have hmembers := membersAs_cons htabs hspaces hkey (printed_value depth (e :: rest) e hvalue)
      (format_membersAs depth rest hmore)
    rw [hbehind, List.append_nil]
    exact .inr hmembers

theorem objects_itemsAs (depth : Nat) :
    ∀ (items : List (List OcRep)) {t : OcString}, (jsonObjects prettyPrint depth items).text = some t →
      ∃ u, t = u ++ [93] ∧ ItemsAs u (itemsOf items) (SoundItems items)
  | [], t, h => by cases h
  | item :: rest, t, h => by
    obtain ⟨front, hfront, hspaces⟩ := @spaced_text prettyPrint "\x7b" "\n" (by decide)
    obtain ⟨tab, htab, htabs⟩ := @jsonTab_text prettyPrint (depth + 2)
    simp only [jsonObjects, Program.all_cons, Program.all_nil, Program.seq_text] at h
    obtain ⟨_, _, hline, ⟨_, _, hopen, ⟨body, _, hbody, ⟨_, _, hline', ⟨close, _, hclose, ⟨⟩, rfl⟩, rfl⟩, rfl⟩, rfl⟩,
      rfl⟩ := h
    cases htab.symm.trans hline
    cases htab.symm.trans hline'
    cases hfront.symm.trans hopen
    have hobject := object_readsAs hspaces htabs (format_membersAs (depth + 2) item hbody)
    cases rest with
    | nil =>
      cases hclose
      refine ⟨tab ++ (123 :: (front ++ (body ++ tab) ++ [125]) ++ []), ?_, ?_⟩
      · show tab ++ ([123] ++ front ++ (body ++ (tab ++ ([125, 93] ++ [])))) = _
        simp
      · exact (ItemsAs.last htabs hobject spaces_nil).congr (and_iff_left trivial).symm
    | cons next rest =>
      obtain ⟨newline, hnewline, hnewlines⟩ := @spaced_text prettyPrint "\x7d," "\n" (by decide)
      obtain ⟨_, _, hcomma, hmore, rfl⟩ := Program.seq_text.1 hclose
      cases hnewline.symm.trans hcomma
      obtain ⟨u, rfl, hitems⟩ := objects_itemsAs depth (next :: rest) hmore
      refine ⟨tab ++ (123 :: (front ++ (body ++ tab) ++ [125]) ++ ([] ++ 44 :: (newline ++ u))), ?_, ?_⟩
      · show tab ++ ([123] ++ front ++ (body ++ (tab ++ ([125, 44] ++ newline ++ (u ++ [93]) ++ [])))) = _
        simp
      · exact .cons htabs hobject spaces_nil (hitems.leading hnewlines)

end

theorem format_itemsAs {depth : Nat} : ∀ {rep : List OcRep} {t : OcString}, UnnamedObjects rep →
    (ocRepToJsonFormat prettyPrint depth rep).text = some t →
      ItemsAs t (rep.map OcRep.toJson) (∀ e ∈ rep, e.JsonSound)
  | [], t, hrep, _ => absurd rfl hrep.1
  | e :: rest, t, hrep, h => by
    obtain ⟨tab, htab, htabs⟩ := @jsonTab_text prettyPrint (depth + 1)
    obtain ⟨newline, hnewline, hspaces⟩ := @pretty_newline prettyPrint
    obtain ⟨htype, hname⟩ := hrep.2 e List.mem_cons_self
    cases e with
    | object name entries =>
      cases hname
      simp only [ocRepToJsonFormat, Program.all_cons, Program.all_nil, Program.seq_text] at h
      obtain ⟨_, _, hfront, ⟨key, _, ⟨⟩, ⟨_, _, hvalue, ⟨comma, _, hcomma, ⟨_, _, hline, ⟨more, _, hmore, ⟨⟩, rfl⟩, rfl⟩,
        rfl⟩, rfl⟩, rfl⟩, rfl⟩ := h
      cases htab.symm.trans hfront
      cases hnewline.symm.trans hline
      obtain ⟨u, rfl, hobject⟩ := object_text hvalue fun hbody => format_membersAs (depth + 1) entries hbody
      cases rest with
      | nil =>
        cases hcomma
        cases hmore
        rw [List.append_nil, List.append_nil]
        refine (ItemsAs.last htabs hobject hspaces).congr ?_
        rw [List.forall_mem_singleton]
        exact Iff.rfl
      | cons next rest =>
        cases hcomma
        have hothers : UnnamedObjects (next :: rest) :=
          ⟨List.cons_ne_nil _ _, fun e he => hrep.2 e (List.mem_cons_of_mem _ he)⟩
        have hitems := format_itemsAs hothers hmore
        rw [List.append_nil]
        refine (ItemsAs.cons htabs hobject spaces_nil (hitems.leading hspaces)).congr ?_
        rw [List.forall_mem_cons (l := next :: rest)]
        exact Iff.rfl
    | _ => cases htype

end Format

/-! ## What is sound can be printed -/

mutual

theorem OcRep.JsonSound.printable : ∀ {e : OcRep}, e.JsonSound →
    (e.type = .byteString → jsonLookup rep e.name e.type = some e) → e.Printable rep
  | .byteString name b, _, hfound => by
    have hsome : (jsonLookup rep name .byteString).isSome = true := by
      rw [show jsonLookup rep name .byteString = _ from hfound rfl]
      rfl
    exact jsonLookup_isSome.1 hsome
  | .object _ _, h, _ => printableEntries_of_sound h
  | .objectArray _ _, h, _ => ⟨h.1, printableItems_of_sound h.2⟩
  | .nil _, _, _ | .int _ _, _, _ | .double _ _, _, _ | .bool _ _, _, _ | .string _ _, _, _ | .intArray _ _, _, _
  | .doubleArray _ _, _, _ | .boolArray _ _, _, _ | .byteStringArray _ _, _, _ | .stringArray _ _, _, _ => trivial

theorem printableEntries_of_sound : ∀ {entries : List OcRep}, SoundEntries entries → PrintableEntries entries
  | [], _ => trivial
  | _ :: rest, h =>
    ⟨h.1.2.printable fun _ => jsonLookup_self rest h.1.1.1 h.1.1.2, printableEntries_of_sound h.2⟩

theorem printableItems_of_sound : ∀ {items : List (List OcRep)}, SoundItems items → PrintableItems items
  | [], _ => trivial
  | _ :: _, h => ⟨printableEntries_of_sound h.1, printableItems_of_sound h.2⟩

end

theorem printable_of_unnamed : ∀ {rep : List OcRep}, (∀ e ∈ rep, e.type = .object) → (∀ e ∈ rep, e.JsonSound) →
    PrintableEntries rep
  | [], _, _ => trivial
  | e :: rest, htype, h => by
    refine ⟨(h e List.mem_cons_self).printable fun hbytes => ?_, ?_⟩
    · rw [htype e List.mem_cons_self] at hbytes
      cases hbytes
    · exact printable_of_unnamed (fun e he => htype e (List.mem_cons_of_mem _ he)) fun e he =>
        h e (List.mem_cons_of_mem _ he)

theorem SoundDocument.printable (h : SoundDocument rep) : PrintableEntries rep := by
  unfold SoundDocument at h
  split at h
  · rename_i hunnamed
    exact printable_of_unnamed (fun e he => (hunnamed.2 e he).1) h
  · exact printableEntries_of_sound h

/-! ## The document -/

theorem isObjectArray_iff :
    isObjectArray rep = true ↔ ∃ e rest, rep = e :: rest ∧ e.type = .object ∧ e.name.getD [] = [] := by
  cases rep with
  | nil => simp [isObjectArray]
  | cons e rest => simp [isObjectArray]

theorem isDocument_iff {prettyPrint : Bool} {t : OcString}
    (h : (ocRepToJson prettyPrint rep).text = some t) : Json.IsDocument t (jsonDocument rep) ↔ SoundDocument rep := by
  obtain ⟨_, _, hfirst, hend, rfl⟩ := Program.seq_text.1 h
  obtain ⟨_, body, hopen, hbody, rfl⟩ := Program.seq_text.1 hfirst
  unfold jsonDocument SoundDocument
  by_cases hunnamed : UnnamedObjects rep
  · rw [if_pos hunnamed, if_pos hunnamed]
    have harray : isObjectArray rep = true := by
      obtain ⟨e, rest, rfl⟩ := List.exists_cons_of_ne_nil hunnamed.1
      obtain ⟨htype, hname⟩ := hunnamed.2 e List.mem_cons_self
      exact isObjectArray_iff.2 ⟨e, rest, rfl, htype, by rw [hname]; rfl⟩
    rw [if_pos harray] at hopen hend
    obtain ⟨front, hfront, hspaces⟩ := @spaced_text prettyPrint "[" "\n" (by decide)
    obtain ⟨back, hback, hspaces'⟩ := @spaced_text prettyPrint "]" "\n" (by decide)
    cases hfront.symm.trans hopen
    cases hback.symm.trans hend
    have hreads := ((format_itemsAs hunnamed hbody).leading hspaces).readsAs
    have hdocument := hreads.isDocument spaces_nil hspaces'
    rw [← hdocument]
    show Json.IsDocument ([91] ++ front ++ body ++ ([93] ++ back)) _ ↔ _
    simp
  · rw [if_neg hunnamed, if_neg hunnamed]
    cases harray : isObjectArray rep with
    | true =>
      rw [harray, if_pos rfl] at hopen hend
      obtain ⟨front, hfront, -⟩ := @spaced_text prettyPrint "[" "\n" (by decide)
      cases hfront.symm.trans hopen
      obtain ⟨e, rest, rfl, -, hname⟩ := isObjectArray_iff.1 harray
      refine iff_of_false (fun hdocument => ?_) fun hsound => hsound.1.1.1 hname
      -- the text begins with the bracket of an array
      obtain ⟨r, hreads, -⟩ := hdocument
      generalize hvalue : Json.Value.object (membersOf (e :: rest)) = v at hreads
      generalize htext : Json.skipSpace (ascii "[" ++ front ++ body ++ _) = text at hreads
      have hbracket : text.head? = some 91 := by
        rw [← htext]
        rfl
      cases hvalue
      cases hreads with
      | object _ => cases hbracket
    | false =>
      rw [harray, if_neg Bool.false_ne_true] at hopen hend
      obtain ⟨front, hfront, hspaces⟩ := @spaced_text prettyPrint "\x7b" "\n" (by decide)
      obtain ⟨back, hback, hspaces'⟩ := @spaced_text prettyPrint "\x7d" "\n" (by decide)
      cases hfront.symm.trans hopen
      cases hback.symm.trans hend
      have hreads := object_readsAs hspaces spaces_nil (format_membersAs 0 rep hbody)
      rw [← hreads.isDocument spaces_nil hspaces']
      show Json.IsDocument ([123] ++ front ++ body ++ ([125] ++ back)) _ ↔ _
      simp

/-- A string with a quote. -/
def quoteInString : List OcRep := [.string (some [97]) [34]]

end SmartGarage
