/-
The grammar of JSON over bytes (RFC 8259, with the characters of UTF-8 of RFC 3629), as relations between a text, what is
read from its beginning, and what is left. A string that stands between quotes as it is reads back as itself only if it
is plain.
-/
import Mathlib.Data.List.TakeWhile

namespace Json

variable {t ws : List UInt8} {vs : List Value} {members : List (List UInt8 × Value)}

/-! ## Characters -/

/-- A byte behind the first one of a character. -/
def IsTail (b : UInt8) : Prop := 0x80 ≤ b ∧ b ≤ 0xBF

/-- A character that stands for itself in a string. -/
inductive Unescaped : List UInt8 → Prop
  | one {a : UInt8} : 0x20 ≤ a → a < 0x80 → a ≠ 34 → a ≠ 92 → Unescaped [a]
  | two {a b : UInt8} : 0xC2 ≤ a → a ≤ 0xDF → IsTail b → Unescaped [a, b]
  | three {a b c : UInt8} : 0xE0 ≤ a → a ≤ 0xEF → IsTail b → IsTail c → (a = 0xE0 → 0xA0 ≤ b) → (a = 0xED → b ≤ 0x9F) →
    Unescaped [a, b, c]
  | four {a b c d : UInt8} : 0xF0 ≤ a → a ≤ 0xF4 → IsTail b → IsTail c → IsTail d → (a = 0xF0 → 0x90 ≤ b) →
    (a = 0xF4 → b ≤ 0x8F) → Unescaped [a, b, c, d]

/-- A hexadecimal digit and its value. -/
def hexDigit? (b : UInt8) : Option Nat :=
  if 48 ≤ b ∧ b ≤ 57 then some (b.toNat - 48)
  else if 65 ≤ b ∧ b ≤ 70 then some (b.toNat - 55)
  else if 97 ≤ b ∧ b ≤ 102 then some (b.toNat - 87)
  else none

/-- Four hexadecimal digits and their value. -/
def Hex (digits : List UInt8) (v : Nat) : Prop :=
  ∃ a b c d p q r s, digits = [a, b, c, d] ∧ hexDigit? a = some p ∧ hexDigit? b = some q ∧ hexDigit? c = some r ∧
    hexDigit? d = some s ∧ v = ((p * 16 + q) * 16 + r) * 16 + s

/-- The bytes of a character. -/
def utf8 (v : Nat) : List UInt8 :=
  if v < 0x80 then [UInt8.ofNat v]
  else if v < 0x800 then [UInt8.ofNat (0xC0 + v / 0x40), UInt8.ofNat (0x80 + v % 0x40)]
  else if v < 0x10000 then
    [UInt8.ofNat (0xE0 + v / 0x1000), UInt8.ofNat (0x80 + v / 0x40 % 0x40), UInt8.ofNat (0x80 + v % 0x40)]
  else
    [UInt8.ofNat (0xF0 + v / 0x40000), UInt8.ofNat (0x80 + v / 0x1000 % 0x40), UInt8.ofNat (0x80 + v / 0x40 % 0x40),
      UInt8.ofNat (0x80 + v % 0x40)]

/-- An escape sequence and the bytes of its character. -/
inductive Escape : List UInt8 → List UInt8 → Prop
  | quote : Escape [92, 34] [34]
  | backslash : Escape [92, 92] [92]
  | slash : Escape [92, 47] [47]
  | backspace : Escape [92, 98] [8]
  | formFeed : Escape [92, 102] [12]
  | lineFeed : Escape [92, 110] [10]
  | return : Escape [92, 114] [13]
  | tab : Escape [92, 116] [9]
  | unicode {digits : List UInt8} {v : Nat} : Hex digits v → ¬(0xD800 ≤ v ∧ v < 0xE000) →
    Escape (92 :: 117 :: digits) (utf8 v)
  | pair {high low : List UInt8} {v w : Nat} : Hex high v → Hex low w → 0xD800 ≤ v → v < 0xDC00 → 0xDC00 ≤ w →
    w < 0xE000 → Escape (92 :: 117 :: high ++ 92 :: 117 :: low) (utf8 (0x10000 + (v - 0xD800) * 0x400 + (w - 0xDC00)))

/-- What is behind the first quote of a string: its bytes, and what is left behind its last quote. -/
inductive Chars : List UInt8 → List UInt8 → List UInt8 → Prop
  | done {rest : List UInt8} : Chars (34 :: rest) [] rest
  | plain {u t s rest : List UInt8} : Unescaped u → Chars t s rest → Chars (u ++ t) (u ++ s) rest
  | escape {e d t s rest : List UInt8} : Escape e d → Chars t s rest → Chars (e ++ t) (d ++ s) rest

/-- A string of characters that stand for themselves. -/
inductive Plain : List UInt8 → Prop
  | nil : Plain []
  | cons {u s : List UInt8} : Unescaped u → Plain s → Plain (u ++ s)

/-! ## Values -/

/-- A value, with its numbers as they are written, and the members of its objects in their order. -/
inductive Value
  | null
  | bool (b : Bool)
  | number (text : List UInt8)
  | string (s : List UInt8)
  | array (items : List Value)
  | object (members : List (List UInt8 × Value))

/-- White space. -/
def isSpace (b : UInt8) : Bool := b = 32 ∨ b = 9 ∨ b = 10 ∨ b = 13

/-- A text behind its white space. -/
def skipSpace (t : List UInt8) : List UInt8 := t.dropWhile isSpace

/-- A decimal digit. -/
def isDigit (b : UInt8) : Bool := 48 ≤ b ∧ b ≤ 57

/-- The characters of numbers. -/
def isNumberChar (b : UInt8) : Bool := isDigit b || b = 43 || b = 45 || b = 46 || b = 69 || b = 101

/-- Digits, at least one. -/
def Digits (t : List UInt8) : Prop := t ≠ [] ∧ ∀ b ∈ t, isDigit b = true

/-- A number: an integer without needless zeros, with or without a fraction and an exponent. -/
def IsNumber (t : List UInt8) : Prop :=
  ∃ sign int frac exp, t = sign ++ (int ++ (frac ++ exp)) ∧ (sign = [] ∨ sign = [45]) ∧
    (Digits int ∧ (int.head? = some 48 → int = [48])) ∧ (frac = [] ∨ ∃ ds, frac = 46 :: ds ∧ Digits ds) ∧
    (exp = [] ∨ ∃ e s ds, exp = e :: (s ++ ds) ∧ (e = 69 ∨ e = 101) ∧ (s = [] ∨ s = [43] ∨ s = [45]) ∧ Digits ds)

mutual

/-- A value at the beginning of a text. -/
inductive Reads : List UInt8 → Value → List UInt8 → Prop
  | null {rest : List UInt8} : Reads ([110, 117, 108, 108] ++ rest) .null rest
  | true {rest : List UInt8} : Reads ([116, 114, 117, 101] ++ rest) (.bool true) rest
  | false {rest : List UInt8} : Reads ([102, 97, 108, 115, 101] ++ rest) (.bool false) rest
  | number {n rest : List UInt8} : IsNumber n → (∀ b ∈ rest.head?, isNumberChar b = Bool.false) →
    Reads (n ++ rest) (.number n) rest
  | string {t s rest : List UInt8} : Chars t s rest → Reads (34 :: t) (.string s) rest
  | emptyArray {t rest : List UInt8} : skipSpace t = 93 :: rest → Reads (91 :: t) (.array []) rest
  | array {t rest : List UInt8} {items : List Value} : ReadsItems t items rest → Reads (91 :: t) (.array items) rest
  | emptyObject {t rest : List UInt8} : skipSpace t = 125 :: rest → Reads (123 :: t) (.object []) rest
  | object {t rest : List UInt8} {members : List (List UInt8 × Value)} : ReadsMembers t members rest →
    Reads (123 :: t) (.object members) rest

/-- The items of an array and the bracket behind them. -/
inductive ReadsItems : List UInt8 → List Value → List UInt8 → Prop
  | last {t t' rest : List UInt8} {v : Value} : Reads (skipSpace t) v t' → skipSpace t' = 93 :: rest →
    ReadsItems t [v] rest
  | cons {t t' next rest : List UInt8} {v : Value} {items : List Value} : Reads (skipSpace t) v t' →
    skipSpace t' = 44 :: next → ReadsItems next items rest → ReadsItems t (v :: items) rest

/-- The members of an object and the bracket behind them. -/
inductive ReadsMembers : List UInt8 → List (List UInt8 × Value) → List UInt8 → Prop
  | last {t key colon value t' rest k : List UInt8} {v : Value} : skipSpace t = 34 :: key → Chars key k colon →
    skipSpace colon = 58 :: value → Reads (skipSpace value) v t' → skipSpace t' = 125 :: rest →
    ReadsMembers t [(k, v)] rest
  | cons {t key colon value t' next rest k : List UInt8} {v : Value} {members : List (List UInt8 × Value)} :
    skipSpace t = 34 :: key → Chars key k colon → skipSpace colon = 58 :: value → Reads (skipSpace value) v t' →
    skipSpace t' = 44 :: next → ReadsMembers next members rest → ReadsMembers t ((k, v) :: members) rest

end

/-- A text is a document: a value, and nothing but white space around it. -/
def IsDocument (t : List UInt8) (v : Value) : Prop := ∃ rest, Reads (skipSpace t) v rest ∧ skipSpace rest = []

/-! ## Strings -/

theorem ne_of_tail {b : UInt8} (h : 0x80 ≤ b) : (34 : UInt8) ≠ b ∧ (92 : UInt8) ≠ b := by
  constructor
  · rintro rfl
    exact absurd h (by decide)
  · rintro rfl
    exact absurd h (by decide)

/-- A character that stands for itself has neither a quote nor a backslash. -/
theorem Unescaped.notMem {u : List UInt8} (h : Unescaped u) : 34 ∉ u ∧ 92 ∉ u ∧ u ≠ [] := by
  have hlead {a : UInt8} (ha : 0xC2 ≤ a) : (34 : UInt8) ≠ a ∧ (92 : UInt8) ≠ a :=
    ne_of_tail (UInt8.le_trans (by decide) ha)
  cases h with
  | one _ _ hquote hslash => simp [hquote.symm, hslash.symm]
  | two ha _ hb =>
    have ha := hlead ha
    have hb := ne_of_tail hb.1
    simp [ha.1, ha.2, hb.1, hb.2]
  | three ha _ hb hc =>
    have ha := hlead (UInt8.le_trans (by decide) ha)
    have hb := ne_of_tail hb.1
    have hc := ne_of_tail hc.1
    simp [ha.1, ha.2, hb.1, hb.2, hc.1, hc.2]
  | four ha _ hb hc hd =>
    have ha := hlead (UInt8.le_trans (by decide) ha)
    have hb := ne_of_tail hb.1
    have hc := ne_of_tail hc.1
    have hd := ne_of_tail hd.1
    simp [ha.1, ha.2, hb.1, hb.2, hc.1, hc.2, hd.1, hd.2]

theorem Hex.shape {digits : List UInt8} {v : Nat} (h : Hex digits v) : digits.length = 4 ∧ 34 ∉ digits := by
  obtain ⟨a, b, c, d, p, q, r, s, rfl, ha, hb, hc, hd, -⟩ := h
  have hne {x : UInt8} {n : Nat} (hx : hexDigit? x = some n) : (34 : UInt8) ≠ x := by
    rintro rfl
    cases hx
  exact ⟨rfl, by simp [hne ha, hne hb, hne hc, hne hd]⟩

theorem utf8_length (v : Nat) : utf8 v ≠ [] ∧ (utf8 v).length ≤ 4 := by
  unfold utf8
  split
  · simp
  · split
    · simp
    · split <;> simp

/-- An escape sequence begins with a backslash and is longer than what it stands for; only one of them has a quote. -/
theorem Escape.shape {e d : List UInt8} (h : Escape e d) :
    e.head? = some 92 ∧ d ≠ [] ∧ d.length < e.length ∧ (34 ∈ e → e = [92, 34] ∧ d = [34]) := by
  cases h with
  | quote => simp
  | unicode hhex =>
    obtain ⟨hlen, hquote⟩ := hhex.shape
    obtain ⟨hne, hle⟩ := utf8_length _
    refine ⟨rfl, hne, ?_, fun hmem => absurd hmem (by simpa using hquote)⟩
    simp only [List.length_cons]
    omega
  | pair hhigh hlow =>
    obtain ⟨hlen, hquote⟩ := hhigh.shape
    obtain ⟨hlen', hquote'⟩ := hlow.shape
    obtain ⟨hne, hle⟩ := utf8_length _
    refine ⟨rfl, hne, ?_, fun hmem => absurd hmem (by simpa using ⟨hquote, hquote'⟩)⟩
    simp only [List.length_cons, List.length_append]
    omega
  | _ => simp

/-- There is no backslash in front of the first quote of a text. -/
def Quiet (t : List UInt8) : Prop := 92 ∉ t.takeWhile (· ≠ 34)

theorem quiet_quote (t : List UInt8) : Quiet (34 :: t) := by simp [Quiet]

theorem quiet_append {u t : List UInt8} (h : 34 ∉ u) : Quiet (u ++ t) ↔ 92 ∉ u ∧ Quiet t := by
  have hall : ∀ b ∈ u, decide (b ≠ 34) = true := fun b hb => decide_eq_true fun heq => h (heq ▸ hb)
  unfold Quiet
  rw [List.takeWhile_append_of_pos hall, List.mem_append, not_or]

/-- Out of a text that is quiet neither a quote nor a backslash is read. -/
theorem Chars.quiet {t s rest : List UInt8} (h : Chars t s rest) (hquiet : Quiet t) : 34 ∉ s ∧ 92 ∉ s := by
  induction h with
  | done => simp
  | plain hu _ ih =>
    obtain ⟨hquote, hslash, -⟩ := hu.notMem
    obtain ⟨hq, hs⟩ := ih ((quiet_append hquote).1 hquiet).2
    simp [hquote, hslash, hq, hs]
  | escape he _ ih =>
    obtain ⟨hhead, -⟩ := he.shape
    rename_i e d t s rest hchars
    cases e with
    | nil => cases hhead
    | cons b e =>
      cases hhead
      exact absurd hquiet (by simp [Quiet])

theorem Plain.chars {s : List UInt8} (h : Plain s) (rest : List UInt8) : Chars (s ++ 34 :: rest) s rest := by
  induction h with
  | nil => exact .done
  | cons hu _ ih =>
    rw [List.append_assoc]
    exact .plain hu ih

theorem split_quote {u t x rest : List UInt8} (h : u ++ t = x ++ 34 :: rest) :
    (∃ a, x = u ++ a ∧ t = a ++ 34 :: rest) ∨ ∃ c, u = x ++ 34 :: c ∧ rest = c ++ t := by
  obtain ⟨a, hx, ht⟩ | ⟨c, hu, ht⟩ := List.append_eq_append_iff.1 h
  · exact .inl ⟨a, hx, ht⟩
  · cases c with
    | nil => exact .inl ⟨[], by rw [hu, List.append_nil, List.append_nil], ht.symm⟩
    | cons b c =>
      obtain ⟨rfl, hrest⟩ := List.cons.inj ht
      exact .inr ⟨c, hu, hrest⟩

theorem split_shorter {d s z e w : List UInt8} (h : d ++ s = z ++ (e ++ w)) (hlen : d.length ≤ z.length + e.length) :
    ∃ z', s = z' ++ w ∧ z'.length + d.length = z.length + e.length ∧ z ++ e = d ++ z' := by
  rw [← List.append_assoc] at h
  obtain ⟨z', hz, hs⟩ | ⟨c, hd, hw⟩ := List.append_eq_append_iff.1 h
  · have hlength := congrArg List.length hz
    rw [List.length_append, List.length_append] at hlength
    exact ⟨z', hs, by omega, hz⟩
  · have hlength := congrArg List.length hd
    rw [List.length_append, List.length_append] at hlength
    obtain rfl : c = [] := List.length_eq_zero_iff.1 (by omega)
    rw [List.append_nil] at hd
    exact ⟨[], hw.symm, by simp; omega, by rw [List.append_nil, hd]⟩

theorem Escape.beyond {e d x c : List UInt8} (h : Escape e d) (he : e = x ++ 34 :: c) : x = [92] ∧ c = [] ∧ d = [34] := by
  obtain ⟨-, -, -, hquote⟩ := h.shape
  obtain ⟨heq, hd⟩ := hquote (by rw [he]; simp)
  rw [heq] at he
  cases x with
  | nil => cases he
  | cons a x =>
    obtain ⟨rfl, he⟩ := List.cons.inj he
    cases x with
    | nil =>
      cases he
      exact ⟨rfl, rfl, hd⟩
    | cons b x => exact absurd (congrArg List.length he) (by simp)

/-- What has once got behind its own text does not catch up: a string never reads as itself behind something else. -/
theorem Chars.shifted {t s r rest : List UInt8} (h : Chars t s r) (hquiet : Quiet rest) : ∀ {x y z : List UInt8},
    t = x ++ 34 :: rest → s = z ++ (x ++ y) → z = [] := by
  -- by induction on what is read: an escape sequence only adds to what is in front
  induction h with
  | done =>
    rintro x y z - hs
    exact (List.append_eq_nil_iff.1 hs.symm).1
  | plain hu _ ih =>
    rintro x y z ht hs
    obtain ⟨a, rfl, hnext⟩ | ⟨c, rfl, -⟩ := split_quote ht
    · rw [List.append_assoc] at hs
      obtain ⟨z', hs, hlen, -⟩ := split_shorter hs (by omega)
      have hz := ih hnext hs
      rw [hz, List.length_nil] at hlen
      exact List.length_eq_zero_iff.1 (by omega)
    · exact absurd hu.notMem.1 (by simp)
  | escape he hchars ih =>
    rintro x y z ht hs
    obtain ⟨-, -, hshort, -⟩ := he.shape
    obtain ⟨a, rfl, hnext⟩ | ⟨c, heq, hrest⟩ := split_quote ht
    · rw [List.append_assoc] at hs
      obtain ⟨z', hs, hlen, -⟩ := split_shorter hs (by omega)
      have hz := ih hnext hs
      rw [hz, List.length_nil] at hlen
      omega
    · obtain ⟨rfl, rfl, rfl⟩ := he.beyond heq
      rw [List.nil_append] at hrest
      cases z with
      | nil => rfl
      | cons b z =>
        -- the text goes on behind its quote, where there is no backslash to read
        have hbehind := (List.cons.inj hs).2
        rw [List.append_eq, List.append_eq, List.nil_append] at hbehind
        have hslash := (hchars.quiet (hrest ▸ hquiet)).2
        exact absurd hslash (by rw [hbehind]; simp)

/-- A string that reads as itself, or as a beginning of something longer, is plain, and is all that is read. -/
theorem Chars.same {t s r rest : List UInt8} (h : Chars t s r) (hquiet : Quiet rest) : ∀ {x y : List UInt8},
    t = x ++ 34 :: rest → s = x ++ y → Plain x ∧ y = [] ∧ r = rest := by
  induction h with
  | done =>
    rintro x y ht hs
    obtain ⟨rfl, rfl⟩ := List.append_eq_nil_iff.1 hs.symm
    exact ⟨.nil, rfl, (List.cons.inj ht).2⟩
  | plain hu _ ih =>
    rintro x y ht hs
    obtain ⟨a, rfl, hnext⟩ | ⟨c, rfl, -⟩ := split_quote ht
    · rw [List.append_assoc] at hs
      obtain ⟨hplain, hy, hr⟩ := ih hnext (List.append_cancel_left hs)
      exact ⟨.cons hu hplain, hy, hr⟩
    · exact absurd hu.notMem.1 (by simp)
  | escape he hchars _ =>
    rintro x y ht hs
    obtain ⟨-, -, hshort, -⟩ := he.shape
    obtain ⟨a, rfl, hnext⟩ | ⟨c, heq, -⟩ := split_quote ht
    · rw [List.append_assoc] at hs
      obtain ⟨z, hs, hlen, -⟩ := split_shorter (z := []) hs (by simp; omega)
      have hz := hchars.shifted hquiet hnext hs
      rw [hz] at hlen
      simp only [List.length_nil] at hlen
      omega
    · obtain ⟨rfl, rfl, rfl⟩ := he.beyond heq
      cases hs

theorem Plain.quote_notMem {s : List UInt8} (h : Plain s) : 34 ∉ s := by
  induction h with
  | nil => exact List.not_mem_nil
  | cons hu _ ih => exact List.not_mem_append hu.notMem.1 ih

theorem Plain.zero_notMem {s : List UInt8} (h : Plain s) : 0 ∉ s := by
  have hne {b c : UInt8} (hc : 0 < c) (hb : c ≤ b) : (0 : UInt8) ≠ b := by
    rintro rfl
    exact absurd (UInt8.lt_of_lt_of_le hc hb) (by decide)
  induction h with
  | nil => exact List.not_mem_nil
  | cons hu _ ih =>
    refine List.not_mem_append ?_ ih
    cases hu with
    | one ha => simpa using hne (by decide) ha
    | two ha _ hb => simpa using ⟨hne (by decide) ha, hne (by decide) hb.1⟩
    | three ha _ hb hc => simpa using ⟨hne (by decide) ha, hne (by decide) hb.1, hne (by decide) hc.1⟩
    | four ha _ hb hc hd =>
      simpa using ⟨hne (by decide) ha, hne (by decide) hb.1, hne (by decide) hc.1, hne (by decide) hd.1⟩

theorem Plain.of_ascii : ∀ {s : List UInt8}, (∀ b ∈ s, 0x20 ≤ b ∧ b < 0x80 ∧ b ≠ 34 ∧ b ≠ 92) → Plain s
  | [], _ => .nil
  | b :: s, h => by
    obtain ⟨hlow, hhigh, hquote, hslash⟩ := h b List.mem_cons_self
    exact .cons (.one hlow hhigh hquote hslash) (Plain.of_ascii fun c hc => h c (List.mem_cons_of_mem b hc))

/-! ## White space -/

/-- A text of white space only. -/
def Spaces (t : List UInt8) : Prop := ∀ b ∈ t, isSpace b = true

instance (t : List UInt8) : Decidable (Spaces t) := List.decidableBAll (fun b => isSpace b = true) t

theorem spaces_nil : Spaces [] := fun _ h => absurd h List.not_mem_nil

theorem Spaces.append {t u : List UInt8} (ht : Spaces t) (hu : Spaces u) : Spaces (t ++ u) :=
  fun b hb => (List.mem_append.1 hb).elim (ht b) (hu b)

theorem skipSpace_append (h : Spaces ws) (t : List UInt8) : skipSpace (ws ++ t) = skipSpace t := by
  unfold skipSpace
  rw [List.dropWhile_append_of_pos h]

theorem skipSpace_cons {b : UInt8} (h : isSpace b = false) (t : List UInt8) : skipSpace (b :: t) = b :: t := by
  unfold skipSpace
  rw [List.dropWhile_cons_of_neg (by simp [h])]

theorem readsMembers_spaces {ws t r : List UInt8} (h : Spaces ws) :
    ReadsMembers (ws ++ t) members r ↔ ReadsMembers t members r := by
  have hsame := skipSpace_append h t
  constructor
  · intro hreads
    cases hreads with
    | last hquote hkey hcolon hvalue hclose => exact .last (hsame ▸ hquote) hkey hcolon hvalue hclose
    | cons hquote hkey hcolon hvalue hcomma hrest => exact .cons (hsame ▸ hquote) hkey hcolon hvalue hcomma hrest
  · intro hreads
    cases hreads with
    | last hquote hkey hcolon hvalue hclose => exact .last (hsame.symm ▸ hquote) hkey hcolon hvalue hclose
    | cons hquote hkey hcolon hvalue hcomma hrest => exact .cons (hsame.symm ▸ hquote) hkey hcolon hvalue hcomma hrest

theorem not_readsItems_nil {t r : List UInt8} : ¬ReadsItems t [] r := by
  intro h
  cases h

theorem not_readsMembers_nil {t r : List UInt8} : ¬ReadsMembers t [] r := by
  intro h
  cases h

/-! ## Texts and their values -/

/-- What may be behind a number. -/
def Delimits (t : List UInt8) : Prop := ∀ b ∈ t.head?, isNumberChar b = false

/-- A text that is quiet in front of one that is. -/
def QuietText (t : List UInt8) : Prop := ∀ rest, Quiet rest → Quiet (t ++ rest)

theorem QuietText.append {t u : List UInt8} (ht : QuietText t) (hu : QuietText u) : QuietText (t ++ u) := fun rest h => by
  rw [List.append_assoc]
  exact ht _ (hu rest h)

theorem quietText_quote (t : List UInt8) : QuietText (34 :: t) := fun rest _ => quiet_quote (t ++ rest)

theorem quietText_plain (hquote : 34 ∉ t) (hslash : 92 ∉ t) : QuietText t :=
  fun _ h => (quiet_append hquote).2 ⟨hslash, h⟩

theorem Spaces.quietText (h : Spaces ws) : QuietText ws :=
  quietText_plain (fun hmem => absurd (h _ hmem) (by decide)) fun hmem => absurd (h _ hmem) (by decide)

/-- In front of a text that is quiet, a text is read as a value if and only if something holds, and then up to its end. -/
structure ReadsAs (t : List UInt8) (v : Value) (good : Prop) : Prop where
  head : ∃ b rest, t = b :: rest ∧ isSpace b = false
  quiet : QuietText t
  exact : ∀ rest r, Quiet rest → Reads (t ++ rest) v r → good ∧ r = rest
  reads : good → ∀ rest, Delimits rest → Reads (t ++ rest) v rest

theorem ReadsAs.congr {v : Value} {good good' : Prop} (h : ReadsAs t v good) (hiff : good ↔ good') :
    ReadsAs t v good' :=
  ⟨h.head, h.quiet, fun rest r hquiet hreads => (h.exact rest r hquiet hreads).imp_left hiff.1, fun hgood =>
    h.reads (hiff.2 hgood)⟩

theorem ReadsAs.skipSpace {v : Value} {good : Prop} (h : ReadsAs t v good) (hws : Spaces ws) (rest : List UInt8) :
    Json.skipSpace (ws ++ (t ++ rest)) = t ++ rest := by
  obtain ⟨b, t', rfl, hb⟩ := h.head
  rw [skipSpace_append hws, List.cons_append, skipSpace_cons hb]

theorem readsAs_null : ReadsAs [110, 117, 108, 108] .null True where
  head := ⟨_, _, rfl, rfl⟩
  quiet := quietText_plain (by decide) (by decide)
  exact := by
    intro rest r _ h
    generalize ht : [110, 117, 108, 108] ++ rest = t at h
    cases h with
    | null => exact ⟨trivial, (List.append_cancel_left ht).symm⟩
  reads := fun _ _ _ => .null

theorem readsAs_bool (b : Bool) :
    ReadsAs (if b then [116, 114, 117, 101] else [102, 97, 108, 115, 101]) (.bool b) True := by
  cases b with
  | true =>
    refine ⟨⟨_, _, rfl, rfl⟩, quietText_plain (by decide) (by decide), ?_, fun _ _ _ => .true⟩
    intro rest r _ h
    generalize ht : (if Bool.true = Bool.true then [116, 114, 117, 101] else [102, 97, 108, 115, 101]) ++ rest = t at h
    cases h with
    | true => exact ⟨trivial, (List.append_cancel_left ht).symm⟩
  | false =>
    refine ⟨⟨_, _, rfl, rfl⟩, quietText_plain (by decide) (by decide), ?_, fun _ _ _ => .false⟩
    intro rest r _ h
    generalize ht : (if Bool.false = Bool.true then [116, 114, 117, 101] else [102, 97, 108, 115, 101]) ++ rest = t at h
    cases h with
    | false => exact ⟨trivial, (List.append_cancel_left ht).symm⟩

theorem readsAs_number {n : List UInt8} (hhead : ∃ b rest, n = b :: rest ∧ isSpace b = false) (hquiet : QuietText n) :
    ReadsAs n (.number n) (IsNumber n) := by
  refine ⟨hhead, hquiet, ?_, fun h rest hrest => .number h hrest⟩
  intro rest r _ h
  generalize ht : n ++ rest = t at h
  cases h with
  | number hnumber _ => exact ⟨hnumber, (List.append_cancel_left ht).symm⟩

/-- A string between quotes, of which the text is only a part, is read if it is plain and there is nothing missing. -/
theorem readsAs_string (x y : List UInt8) : ReadsAs (34 :: (x ++ [34])) (.string (x ++ y)) (Plain x ∧ y = []) := by
  refine ⟨⟨_, _, rfl, rfl⟩, quietText_quote _, ?_, ?_⟩
  · intro rest r hquiet h
    generalize ht : 34 :: (x ++ [34]) ++ rest = t at h
    cases h with
    | string hchars =>
      have ht := (List.cons.inj ht).2
      obtain ⟨hplain, hy, hr⟩ := hchars.same hquiet (by rw [← ht]; simp) rfl
      exact ⟨⟨hplain, hy⟩, hr⟩
  · rintro ⟨hplain, rfl⟩ rest -
    rw [List.append_nil, List.cons_append, List.append_assoc]
    exact .string (hplain.chars rest)

/-! ## Arrays and objects -/

theorem quiet_cons {b : UInt8} (hquote : b ≠ 34) (hslash : b ≠ 92) (h : Quiet t) : Quiet (b :: t) :=
  (quiet_append (u := [b]) (by simpa using hquote.symm)).2 ⟨by simpa using hslash.symm, h⟩

theorem delimits_spaces (h : Spaces ws) {b : UInt8} (hb : isNumberChar b = false) (t : List UInt8) :
    Delimits (ws ++ b :: t) := by
  cases ws with
  | nil =>
    rintro _ ⟨⟩
    exact hb
  | cons a ws =>
    rintro _ ⟨⟩
    have ha := h a List.mem_cons_self
    unfold isSpace at ha
    rcases of_decide_eq_true ha with rfl | rfl | rfl | rfl <;> rfl

/-- A text between two brackets is read as it is read from behind the first one up to the second. -/
theorem readsAs_bracketed {first last : UInt8} {v : Value} {good : Prop} (hspace : isSpace first = false)
    (hfirst : first ≠ 34 ∧ first ≠ 92) (hlast : last ≠ 34 ∧ last ≠ 92) (hquiet : QuietText t)
    (hexact : ∀ rest r, Quiet rest → Reads (first :: (t ++ last :: rest)) v r → good ∧ r = rest)
    (hreads : good → ∀ rest, Reads (first :: (t ++ last :: rest)) v rest) : ReadsAs (first :: (t ++ [last])) v good := by
  have hbehind (rest : List UInt8) : first :: (t ++ [last]) ++ rest = first :: (t ++ last :: rest) := by
    rw [List.cons_append, List.append_assoc, List.singleton_append]
  refine ⟨⟨_, _, rfl, hspace⟩, fun rest hrest => ?_, fun rest r hrest h => ?_, fun hgood rest _ => ?_⟩
  · rw [hbehind]
    exact quiet_cons hfirst.1 hfirst.2 (hquiet _ (quiet_cons hlast.1 hlast.2 hrest))
  · rw [hbehind] at h
    exact hexact rest r hrest h
  · rw [hbehind]
    exact hreads hgood rest

/-- The items of an array as they are written, with white space around each of them and a comma between two. -/
inductive ItemsAs : List UInt8 → List Value → Prop → Prop
  | last {ws t ws' : List UInt8} {v : Value} {good : Prop} : Spaces ws → ReadsAs t v good → Spaces ws' →
    ItemsAs (ws ++ (t ++ ws')) [v] good
  | cons {ws t ws' more : List UInt8} {v : Value} {vs : List Value} {good rest : Prop} : Spaces ws → ReadsAs t v good →
    Spaces ws' → ItemsAs more vs rest → ItemsAs (ws ++ (t ++ (ws' ++ 44 :: more))) (v :: vs) (good ∧ rest)

section

variable {t : List UInt8} {vs : List Value} {good : Prop}

theorem ItemsAs.quiet (h : ItemsAs t vs good) : QuietText t := by
  induction h with
  | last hws hvalue hws' => exact hws.quietText.append (hvalue.quiet.append hws'.quietText)
  | cons hws hvalue hws' _ ih =>
    refine hws.quietText.append (hvalue.quiet.append (hws'.quietText.append ?_))
    exact fun rest hrest => quiet_cons (by decide) (by decide) (ih rest hrest)

theorem ItemsAs.exact (h : ItemsAs t vs good) :
    ∀ {rest r : List UInt8}, Quiet rest → ReadsItems (t ++ 93 :: rest) vs r → good ∧ r = rest := by
  induction h with
  | @last ws t ws' v good hws hvalue hws' =>
    intro rest r hrest hreads
    rw [List.append_assoc, List.append_assoc] at hreads
    cases hreads with
    | last hfirst hclose =>
      rw [hvalue.skipSpace hws] at hfirst
      obtain ⟨hgood, rfl⟩ := hvalue.exact _ _ (hws'.quietText _ (quiet_cons (by decide) (by decide) hrest)) hfirst
      rw [skipSpace_append hws', skipSpace_cons (by decide)] at hclose
      exact ⟨hgood, (List.cons.inj hclose).2.symm⟩
    | cons _ _ hmore => exact absurd hmore not_readsItems_nil
  | @cons ws t ws' more v vs good rest' hws hvalue hws' hmore ih =>
    intro rest r hrest hreads
    rw [List.append_assoc, List.append_assoc, List.append_assoc, List.cons_append] at hreads
    have hquiet := hws'.quietText _ (quiet_cons (b := 44) (by decide) (by decide)
      (hmore.quiet _ (quiet_cons (b := 93) (by decide) (by decide) hrest)))
    cases hreads with
    | last hfirst hclose =>
      rw [hvalue.skipSpace hws] at hfirst
      obtain ⟨-, rfl⟩ := hvalue.exact _ _ hquiet hfirst
      rw [skipSpace_append hws', skipSpace_cons (by decide)] at hclose
      exact absurd (List.cons.inj hclose).1 (by decide)
    | cons hfirst hcomma hreads =>
      rw [hvalue.skipSpace hws] at hfirst
      obtain ⟨hgood, rfl⟩ := hvalue.exact _ _ hquiet hfirst
      rw [skipSpace_append hws', skipSpace_cons (by decide)] at hcomma
      obtain ⟨-, rfl⟩ := List.cons.inj hcomma
      obtain ⟨hgoods, hr⟩ := ih hrest hreads
      exact ⟨⟨hgood, hgoods⟩, hr⟩

theorem ItemsAs.reads (h : ItemsAs t vs good) (hgood : good)
    (rest : List UInt8) : ReadsItems (t ++ 93 :: rest) vs rest := by
  induction h with
  | @last ws t ws' v good hws hvalue hws' =>
    rw [List.append_assoc, List.append_assoc]
    have hclose : skipSpace (ws' ++ 93 :: rest) = 93 :: rest := by rw [skipSpace_append hws', skipSpace_cons (by decide)]
    refine .last ?_ hclose
    rw [hvalue.skipSpace hws]
    exact hvalue.reads hgood _ (delimits_spaces hws' (by decide) _)
  | @cons ws t ws' more v vs good rest' hws hvalue hws' hmore ih =>
    rw [List.append_assoc, List.append_assoc, List.append_assoc, List.cons_append]
    have hcomma : skipSpace (ws' ++ 44 :: (more ++ 93 :: rest)) = 44 :: (more ++ 93 :: rest) := by
      rw [skipSpace_append hws', skipSpace_cons (by decide)]
    refine .cons ?_ hcomma (ih hgood.2)
    rw [hvalue.skipSpace hws]
    exact hvalue.reads hgood.1 _ (delimits_spaces hws' (by decide) _)

theorem ItemsAs.ne_nil (h : ItemsAs t vs good) : vs ≠ [] := by
  cases h <;> simp

theorem ItemsAs.leading {good : Prop} (h : ItemsAs t vs good) (hws : Spaces ws) : ItemsAs (ws ++ t) vs good := by
  cases h with
  | last hfront hvalue hbehind =>
    rw [← List.append_assoc]
    exact .last (hws.append hfront) hvalue hbehind
  | cons hfront hvalue hbehind hmore =>
    rw [← List.append_assoc]
    exact .cons (hws.append hfront) hvalue hbehind hmore

theorem ItemsAs.trailing {good : Prop} (h : ItemsAs t vs good) (hws : Spaces ws) : ItemsAs (t ++ ws) vs good := by
  induction h with
  | last hfront hvalue hbehind =>
    rw [List.append_assoc, List.append_assoc]
    exact .last hfront hvalue (hbehind.append hws)
  | cons hfront hvalue hbehind _ ih =>
    simp only [List.append_assoc, List.cons_append]
    exact .cons hfront hvalue hbehind ih

theorem ItemsAs.congr {good good' : Prop} (h : ItemsAs t vs good) (hiff : good ↔ good') :
    ItemsAs t vs good' := propext hiff ▸ h

theorem ItemsAs.readsAs (h : ItemsAs t vs good) : ReadsAs (91 :: (t ++ [93])) (.array vs) good := by
  refine readsAs_bracketed rfl (by decide) (by decide) h.quiet (fun rest r hrest hreads => ?_) fun hgood rest =>
    .array (h.reads hgood rest)
  generalize htext : 91 :: (t ++ 93 :: rest) = text at hreads
  cases hreads with
  | emptyArray _ => exact absurd rfl h.ne_nil
  | array hitems =>
    obtain ⟨-, rfl⟩ := List.cons.inj htext
    exact h.exact hrest hitems

end

theorem readsAs_emptyArray (h : Spaces ws) : ReadsAs (91 :: (ws ++ [93])) (.array []) True := by
  have hclose (rest : List UInt8) : Json.skipSpace (ws ++ 93 :: rest) = 93 :: rest := by
    rw [skipSpace_append h, skipSpace_cons (by decide)]
  refine readsAs_bracketed rfl (by decide) (by decide) h.quietText (fun rest r _ hreads => ?_) fun _ rest =>
    .emptyArray (hclose rest)
  generalize htext : 91 :: (ws ++ 93 :: rest) = text at hreads
  cases hreads with
  | emptyArray hempty =>
    obtain ⟨-, rfl⟩ := List.cons.inj htext
    rw [hclose] at hempty
    exact ⟨trivial, (List.cons.inj hempty).2.symm⟩
  | array hitems => exact absurd hitems not_readsItems_nil

/-- A text is not read as a member with an empty key and some value if there is no colon behind it. -/
def NotMember (t : List UInt8) (v : Value) : Prop :=
  ∀ rest members r, Quiet rest → (skipSpace rest).head? ≠ some 58 → ¬ReadsMembers (t ++ rest) (([], v) :: members) r

theorem NotMember.spaces {t e : List UInt8} {v : Value} (h : NotMember t v) (he : Spaces e) : NotMember (t ++ e) v := by
  rintro rest members r hrest hcolon
  rw [List.append_assoc]
  exact h _ _ _ (he.quietText _ hrest) (by rwa [skipSpace_append he])

theorem NotMember.comma {t e more : List UInt8} {v : Value} (h : NotMember t v) (he : Spaces e) (hmore : QuietText more) :
    NotMember (t ++ (e ++ 44 :: more)) v := by
  rintro rest members r hrest -
  simp only [List.append_assoc, List.cons_append]
  refine h _ _ _ (he.quietText _ (quiet_cons (by decide) (by decide) (hmore _ hrest))) ?_
  rw [skipSpace_append he, skipSpace_cons (by decide)]
  exact fun heq => absurd (Option.some.inj heq) (by decide)

theorem ReadsMembers.empty_key {t r : List UInt8} {v : Value} (h : ReadsMembers t (([], v) :: members) r) :
    ∃ colon value t', skipSpace t = 34 :: 34 :: colon ∧
      skipSpace colon = 58 :: value ∧ Reads (skipSpace value) v t' := by
  have hempty {key colon : List UInt8} (hkey : Chars key [] colon) : key = 34 :: colon := by
    generalize hs : ([] : List UInt8) = s at hkey
    cases hkey with
    | done => rfl
    | plain hu _ => exact absurd (List.append_eq_nil_iff.1 hs.symm).1 hu.notMem.2.2
    | escape he _ => exact absurd (List.append_eq_nil_iff.1 hs.symm).1 he.shape.2.1
  cases h with
  | last hquote hkey hcolon hvalue _ => exact ⟨_, _, _, by rw [hquote, hempty hkey], hcolon, hvalue⟩
  | cons hquote hkey hcolon hvalue _ _ => exact ⟨_, _, _, by rw [hquote, hempty hkey], hcolon, hvalue⟩

theorem notMember_of_head {b : UInt8} (hspace : isSpace b = false) (hquote : b ≠ 34) (v : Value) :
    NotMember (b :: t) v := by
  rintro rest members r - - h
  obtain ⟨colon, value, t', hskip, -⟩ := h.empty_key
  rw [List.cons_append, skipSpace_cons hspace] at hskip
  exact hquote (List.cons.inj hskip).1

/-- A string is not a key with something behind it that has no quote in it. -/
theorem notMember_quoted {x : List UInt8} (hx : 34 ∉ x) (v : Value) : NotMember (34 :: (x ++ [34])) v := by
  rintro rest members r - hhead h
  obtain ⟨colon, value, t', hskip, hcolon, -⟩ := h.empty_key
  rw [List.cons_append, List.append_assoc, skipSpace_cons (by decide)] at hskip
  have hkey := (List.cons.inj hskip).2
  cases x with
  | nil =>
    obtain ⟨-, rfl⟩ := List.cons.inj hkey
    exact hhead (by rw [show rest = List.append [] rest from rfl, hcolon, List.head?_cons])
  | cons b x =>
    obtain ⟨rfl, -⟩ := List.cons.inj hkey
    exact hx List.mem_cons_self

theorem skipSpace_split (t : List UInt8) : ∃ ws, Spaces ws ∧ t = ws ++ skipSpace t :=
  ⟨t.takeWhile isSpace, fun _ hb => List.mem_takeWhile_imp hb, List.takeWhile_append_dropWhile.symm⟩

theorem notMember_string (x y : List UInt8) : NotMember (34 :: (x ++ [34])) (.string (x ++ y)) := by
  rintro rest members r hrest hhead h
  cases x with
  | nil => exact notMember_quoted List.not_mem_nil _ _ _ _ hrest hhead h
  | cons b x =>
    obtain ⟨colon, value, t', hskip, hcolon, hvalue⟩ := h.empty_key
    rw [List.cons_append, List.append_assoc, skipSpace_cons (by decide)] at hskip
    obtain ⟨rfl, rfl⟩ := List.cons.inj (List.cons.inj hskip).2
    obtain ⟨ws, hws, hsplit⟩ := skipSpace_split (x ++ ([34] ++ rest))
    obtain ⟨ws', hws', hsplit'⟩ := skipSpace_split value
    rw [List.append_eq] at hcolon
    rw [hcolon] at hsplit
    generalize skipSpace value = text at hvalue hsplit'
    cases hvalue with
    | @string w _ _ hchars =>
      -- the value would begin behind an empty key, white space and a colon
      have hwhole : (ws ++ 58 :: ws') ++ 34 :: w = x ++ 34 :: rest := by
        rw [List.singleton_append] at hsplit
        rw [hsplit, hsplit', List.append_assoc, List.cons_append]
      obtain ⟨a, hx, hbehind⟩ | ⟨c, hcut, -⟩ := split_quote hwhole
      · cases a with
        | nil =>
          obtain ⟨-, rfl⟩ := List.cons.inj hbehind
          exact absurd (hchars.quiet hrest).1 (by simp)
        | cons b a =>
          obtain ⟨rfl, hw⟩ := List.cons.inj hbehind
          have hz := hchars.shifted hrest (y := y) (z := 34 :: (ws ++ 58 :: ws') ++ [34]) hw (by simp [hx])
          cases hz
      · -- there is no other quote in front of it
        have hmem : (34 : UInt8) ∈ ws ++ 58 :: ws' := by
          rw [hcut]
          simp
        rcases List.mem_append.1 hmem with hmem | hmem
        · exact absurd (hws _ hmem) (by decide)
        · rcases List.mem_cons.1 hmem with heq | hmem
          · exact absurd heq (by decide)
          · exact absurd (hws' _ hmem) (by decide)

/-- The members of an object as they are written. Of a key the text may be only a part. What is written for a member without
a key is not read as one with an empty key. -/
inductive MembersAs : List UInt8 → List (List UInt8 × Value) → Prop → Prop
  | last {ws x y k m t e : List UInt8} {v : Value} {good : Prop} : Spaces ws → Spaces k → Spaces m → QuietText t →
    (Plain x ∧ y = [] → ReadsAs t v good) → Spaces e →
    MembersAs (ws ++ 34 :: (x ++ 34 :: (k ++ 58 :: (m ++ (t ++ e))))) [(x ++ y, v)] ((Plain x ∧ y = []) ∧ good)
  | cons {ws x y k m t e more : List UInt8} {v : Value} {members : List (List UInt8 × Value)} {good rest : Prop} :
    Spaces ws → Spaces k → Spaces m → QuietText t → (Plain x ∧ y = [] → ReadsAs t v good) → Spaces e →
    MembersAs more members rest →
    MembersAs (ws ++ 34 :: (x ++ 34 :: (k ++ 58 :: (m ++ (t ++ (e ++ 44 :: more)))))) ((x ++ y, v) :: members)
      (((Plain x ∧ y = []) ∧ good) ∧ rest)
  | unnamed {ws t : List UInt8} {v : Value} {members : List (List UInt8 × Value)} : Spaces ws → QuietText t →
    NotMember t v → MembersAs (ws ++ t) (([], v) :: members) False

section

variable {t : List UInt8} {members : List (List UInt8 × Value)} {good : Prop}

theorem MembersAs.quiet (h : MembersAs t members good) : QuietText t := by
  cases h with
  | last hws _ _ _ _ _ => exact hws.quietText.append (quietText_quote _)
  | cons hws _ _ _ _ _ _ => exact hws.quietText.append (quietText_quote _)
  | unnamed hws ht _ => exact hws.quietText.append ht

theorem MembersAs.ne_nil (h : MembersAs t members good) : members ≠ [] := by
  cases h <;> simp

theorem readsMember {ws x y k m t rest key colon value t' : List UInt8} {v : Value} {good : Prop} (hws : Spaces ws)
    (hk : Spaces k) (hm : Spaces m) (ht : QuietText t) (hvalue : Plain x ∧ y = [] → ReadsAs t v good) (hrest : Quiet rest)
    (hquote : skipSpace (ws ++ 34 :: (x ++ 34 :: (k ++ 58 :: (m ++ (t ++ rest))))) = 34 :: key)
    (hkey : Chars key (x ++ y) colon) (hcolon : skipSpace colon = 58 :: value) (hfirst : Reads (skipSpace value) v t') :
    ((Plain x ∧ y = []) ∧ good) ∧ t' = rest := by
  rw [skipSpace_append hws, skipSpace_cons (by decide)] at hquote
  obtain ⟨-, rfl⟩ := List.cons.inj hquote
  have hbehind : Quiet (k ++ 58 :: (m ++ (t ++ rest))) :=
    hk.quietText _ (quiet_cons (by decide) (by decide) (hm.quietText _ (ht _ hrest)))
  obtain ⟨hplain, hy, rfl⟩ := hkey.same hbehind rfl rfl
  rw [skipSpace_append hk, skipSpace_cons (by decide)] at hcolon
  obtain ⟨-, rfl⟩ := List.cons.inj hcolon
  have hreads := hvalue ⟨hplain, hy⟩
  rw [hreads.skipSpace hm] at hfirst
  obtain ⟨hgood, hr⟩ := hreads.exact _ _ hrest hfirst
  exact ⟨⟨⟨hplain, hy⟩, hgood⟩, hr⟩

theorem MembersAs.exact (h : MembersAs t members good) : ∀ {rest r : List UInt8}, Quiet rest → ReadsMembers
    (t ++ 125 :: rest) members r →
      good ∧ r = rest := by
  induction h with
  | last hws hk hm ht hvalue he =>
    intro rest r hrest hreads
    simp only [List.append_assoc, List.cons_append] at hreads
    have hquiet := he.quietText _ (quiet_cons (b := 125) (by decide) (by decide) hrest)
    cases hreads with
    | last hquote hkey hcolon hfirst hclose =>
      obtain ⟨hgood, rfl⟩ := readsMember hws hk hm ht hvalue hquiet hquote hkey hcolon hfirst
      rw [skipSpace_append he, skipSpace_cons (by decide)] at hclose
      exact ⟨hgood, (List.cons.inj hclose).2.symm⟩
    | cons _ _ _ _ _ hmore => exact absurd hmore not_readsMembers_nil
  | cons hws hk hm ht hvalue he hmore ih =>
    intro rest r hrest hreads
    simp only [List.append_assoc, List.cons_append] at hreads
    have hquiet := he.quietText _ (quiet_cons (b := 44) (by decide) (by decide)
      (hmore.quiet _ (quiet_cons (b := 125) (by decide) (by decide) hrest)))
    cases hreads with
    | last hquote hkey hcolon hfirst hclose => exact absurd rfl hmore.ne_nil
    | cons hquote hkey hcolon hfirst hcomma hreads =>
      obtain ⟨hgood, rfl⟩ := readsMember hws hk hm ht hvalue hquiet hquote hkey hcolon hfirst
      rw [skipSpace_append he, skipSpace_cons (by decide)] at hcomma
      obtain ⟨-, rfl⟩ := List.cons.inj hcomma
      obtain ⟨hgoods, hr⟩ := ih hrest hreads
      exact ⟨⟨hgood, hgoods⟩, hr⟩
  | unnamed hws ht hnot =>
    intro rest r hrest hreads
    rw [List.append_assoc, readsMembers_spaces hws] at hreads
    refine absurd hreads (hnot _ _ _ (quiet_cons (by decide) (by decide) hrest) ?_)
    rw [skipSpace_cons (by decide)]
    exact fun heq => absurd (Option.some.inj heq) (by decide)

theorem member_reads {ws x k m t rest : List UInt8} {v : Value} {good : Prop} (hws : Spaces ws) (hk : Spaces k)
    (hm : Spaces m) (hreads : ReadsAs t v good) (hgood : good) (hrest : Delimits rest) :
    skipSpace (ws ++ 34 :: (x ++ 34 :: (k ++ 58 :: (m ++ (t ++ rest))))) =
        34 :: (x ++ 34 :: (k ++ 58 :: (m ++ (t ++ rest)))) ∧
      skipSpace (k ++ 58 :: (m ++ (t ++ rest))) = 58 :: (m ++ (t ++ rest)) ∧
        Reads (skipSpace (m ++ (t ++ rest))) v rest := by
  refine ⟨?_, ?_, ?_⟩
  · rw [skipSpace_append hws, skipSpace_cons (by decide)]
  · rw [skipSpace_append hk, skipSpace_cons (by decide)]
  · rw [hreads.skipSpace hm]
    exact hreads.reads hgood _ hrest

theorem MembersAs.reads (h : MembersAs t members good) (hgood : good) (rest : List UInt8) : ReadsMembers
    (t ++ 125 :: rest) members rest := by
  induction h with
  | @last ws x y k m t e v good hws hk hm ht hvalue he =>
    obtain ⟨⟨hplain, rfl⟩, hgood⟩ := hgood
    have hclose : skipSpace (e ++ 125 :: rest) = 125 :: rest := by rw [skipSpace_append he, skipSpace_cons (by decide)]
    obtain ⟨hquote, hcolon, hfirst⟩ := member_reads (x := x) hws hk hm (hvalue ⟨hplain, rfl⟩) hgood
      (delimits_spaces he (b := 125) (by decide) rest)
    simp only [List.append_assoc, List.cons_append, List.append_nil]
    exact .last hquote (hplain.chars _) hcolon hfirst hclose
  | @cons ws x y k m t e more v members good rest' hws hk hm ht hvalue he hmore ih =>
    obtain ⟨⟨⟨hplain, rfl⟩, hgood⟩, hgoods⟩ := hgood
    have hcomma : skipSpace (e ++ 44 :: (more ++ 125 :: rest)) = 44 :: (more ++ 125 :: rest) := by
      rw [skipSpace_append he, skipSpace_cons (by decide)]
    obtain ⟨hquote, hcolon, hfirst⟩ := member_reads (x := x) hws hk hm (hvalue ⟨hplain, rfl⟩) hgood
      (delimits_spaces he (b := 44) (by decide) (more ++ 125 :: rest))
    simp only [List.append_assoc, List.cons_append, List.append_nil]
    exact .cons hquote (hplain.chars _) hcolon hfirst hcomma (ih hgoods)
  | unnamed _ _ _ => exact hgood.elim

theorem MembersAs.leading {good : Prop} (h : MembersAs t members good) (hws : Spaces ws) :
    MembersAs (ws ++ t) members good := by
  cases h with
  | last hfront hk hm ht hvalue he =>
    rw [← List.append_assoc]
    exact .last (hws.append hfront) hk hm ht hvalue he
  | cons hfront hk hm ht hvalue he hmore =>
    rw [← List.append_assoc]
    exact .cons (hws.append hfront) hk hm ht hvalue he hmore
  | unnamed hfront ht hnot =>
    rw [← List.append_assoc]
    exact .unnamed (hws.append hfront) ht hnot

theorem MembersAs.trailing {good : Prop} (h : MembersAs t members good) (hws : Spaces ws) :
    MembersAs (t ++ ws) members good := by
  induction h with
  | last hfront hk hm ht hvalue he =>
    simp only [List.append_assoc, List.cons_append]
    exact .last hfront hk hm ht hvalue (he.append hws)
  | cons hfront hk hm ht hvalue he _ ih =>
    simp only [List.append_assoc, List.cons_append]
    exact .cons hfront hk hm ht hvalue he ih
  | unnamed hfront ht hnot =>
    rw [List.append_assoc]
    exact .unnamed hfront (ht.append hws.quietText) (hnot.spaces hws)

theorem MembersAs.congr {good good' : Prop} (h : MembersAs t members good) (hiff : good ↔ good') :
    MembersAs t members good' := propext hiff ▸ h

theorem MembersAs.readsAs (h : MembersAs t members good) : ReadsAs (123 :: (t ++ [125])) (.object members) good := by
  refine readsAs_bracketed rfl (by decide) (by decide) h.quiet (fun rest r hrest hreads => ?_) fun hgood rest =>
    .object (h.reads hgood rest)
  generalize htext : 123 :: (t ++ 125 :: rest) = text at hreads
  cases hreads with
  | emptyObject _ => exact absurd rfl h.ne_nil
  | object hmembers =>
    obtain ⟨-, rfl⟩ := List.cons.inj htext
    exact h.exact hrest hmembers

end

theorem readsAs_emptyObject (h : Spaces ws) : ReadsAs (123 :: (ws ++ [125])) (.object []) True := by
  have hclose (rest : List UInt8) : Json.skipSpace (ws ++ 125 :: rest) = 125 :: rest := by
    rw [skipSpace_append h, skipSpace_cons (by decide)]
  refine readsAs_bracketed rfl (by decide) (by decide) h.quietText (fun rest r _ hreads => ?_) fun _ rest =>
    .emptyObject (hclose rest)
  generalize htext : 123 :: (ws ++ 125 :: rest) = text at hreads
  cases hreads with
  | emptyObject hempty =>
    obtain ⟨-, rfl⟩ := List.cons.inj htext
    rw [hclose] at hempty
    exact ⟨trivial, (List.cons.inj hempty).2.symm⟩
  | object hmembers => exact absurd hmembers not_readsMembers_nil

theorem ReadsAs.isDocument {t ws ws' : List UInt8} {v : Value} {good : Prop} (h : ReadsAs t v good) (hws : Spaces ws)
    (hws' : Spaces ws') : IsDocument (ws ++ (t ++ ws')) v ↔ good := by
  have hquiet : Quiet ws' := by
    have hend := hws'.quietText [] (by simp [Quiet])
    rwa [List.append_nil] at hend
  have hdelimits : Delimits ws' := by
    intro b hb
    have hspace := hws' b (List.mem_of_mem_head? hb)
    unfold isSpace at hspace
    rcases of_decide_eq_true hspace with rfl | rfl | rfl | rfl <;> rfl
  unfold IsDocument
  rw [h.skipSpace hws]
  constructor
  · rintro ⟨rest, hreads, -⟩
    exact (h.exact _ _ hquiet hreads).1
  · intro hgood
    refine ⟨ws', h.reads hgood _ hdelimits, ?_⟩
    have hend := skipSpace_append hws' []
    rwa [List.append_nil] at hend

end Json
