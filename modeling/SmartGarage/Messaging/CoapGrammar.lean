/-
The format of a message, as a grammar, against what `coap_udp_parse_message` accepts. The parser splits
the bytes behind the token into options and a tail; it takes reserved nibbles for ordinary ones and
does not look at what is missing, so that a message it accepts need not be well formed.
-/
import SmartGarage.Messaging.CoapParsed

namespace SmartGarage

/-! ## The grammar -/

/-- The extension bytes behind an option header that give a delta or length whose nibble is `nibble`. -/
inductive Extended : UInt8 → OcString → Nat → Prop
  | small {nibble : UInt8} : nibble < 13 → Extended nibble [] nibble.toNat
  | one (x : UInt8) : Extended 13 [x] (13 + x.toNat)
  | two (x y : UInt8) : Extended 14 [x, y] (269 + x.toNat * 256 + y.toNat)

/-- The bytes behind the token: options, and perhaps a marker with a payload. -/
inductive BodyFormed : OcString → Prop
  | nil : BodyFormed []
  | payload {payload : OcString} : payload ≠ [] → BodyFormed (0xFF :: payload)
  | option {head : UInt8} {delta length value rest : OcString} {d : Nat} : Extended (head >>> 4) delta d →
      Extended (head &&& 0x0F) length value.length → BodyFormed rest →
      BodyFormed (head :: (delta ++ length ++ value ++ rest))

/-- A well-formed message: four bytes of header with the version 1, the token, options and payload. -/
def MessageFormed (data : OcString) : Prop :=
  ∃ b code mid₁ mid₂ token body, data = b :: code :: mid₁ :: mid₂ :: (token ++ body) ∧
    b >>> 6 = 1 ∧ token.length = (b &&& 0x0F).toNat ∧ token.length ≤ coapTokenLen ∧ BodyFormed body

/-! ## The split the parser makes -/

/-- An option as it stands in the message. -/
structure RawOption where
  head : UInt8
  number : Nat
  value : OcString
deriving DecidableEq

/-- The options that the loop of `coap_parse_token_option` finds, and the bytes at which it stops: none, a
marker, or an option that does not fit. -/
def splitOptions : Nat → Nat → OcString → List RawOption × OcString
  | 0, _, bytes => ([], bytes)
  | _ + 1, _, [] => ([], [])
  | rounds + 1, number, b :: rest =>
    if b &&& 0xF0 = 0xF0 then ([], b :: rest)
    else
      let (delta, n) := readExtended (b >>> 4) rest
      let (length, k) := readExtended (b &&& 0x0F) (rest.drop n)
      let number := (number + delta) % 2 ^ 32
      if n + k + length > rest.length then ([], b :: rest)
      else
        let (options, tail) := splitOptions rounds number (rest.drop (n + k + length))
        (⟨b, number, (rest.drop (n + k)).take length⟩ :: options, tail)

/-- The numbers and values of options. -/
def rawValues (l : List RawOption) : List (Nat × OcString) := l.map fun o => (o.number, o.value)

theorem error_ite {P : UInt8 → Prop} {c : Prop} [Decidable c] {a b : Except UInt8 CoapPacket}
    (ha : ∀ code, a = .error code → P code) (hb : ∀ code, b = .error code → P code) :
    ∀ code, (if c then a else b) = .error code → P code := by
  intro code h
  split at h
  · exact ha code h
  · exact hb code h

theorem parseOption_error {p : CoapPacket} {number : Nat} {value : OcString} :
    ∀ code, parseOption p number value = .error code → code ≠ coapNoError := by
  unfold parseOption parseRequestOption
  dsimp only
  repeat' apply error_ite
  all_goals
    intro code h
    cases h
  all_goals decide

theorem parseOptions_split (B : BufferSettings) : ∀ (rounds : Nat) (p : CoapPacket) (number : Nat) (bytes : OcString),
    bytes.length ≤ rounds → (parseOptions B rounds p number bytes).1 = coapNoError →
    ∃ q, parseAll p (rawValues (splitOptions rounds number bytes).1) = .ok q ∧
      (parseOptions B rounds p number bytes).2.block1 = q.block1 ∧
      (parseOptions B rounds p number bytes).2.block2 = q.block2
  | 0, p, _, [], _, _ => ⟨p, rfl, rfl, rfl⟩
  | _ + 1, p, _, [], _, _ => ⟨p, rfl, rfl, rfl⟩
  | rounds + 1, p, number, b :: rest, hlen, hok => by
    rw [parseOptions] at hok ⊢
    rw [splitOptions]
    split at hok
    · rename_i hmarker
      rw [if_pos hmarker, if_pos hmarker]
      exact ⟨p, rfl, rfl, rfl⟩
    · rename_i hmarker
      rw [if_neg hmarker, if_neg hmarker]
      generalize readExtended (b >>> 4) rest = x at hok ⊢
      obtain ⟨delta, n⟩ := x
      simp only at hok ⊢
      generalize readExtended (b &&& 0x0F) (rest.drop n) = y at hok ⊢
      obtain ⟨length, k⟩ := y
      simp only at hok ⊢
      split at hok
      · simp [badOption402, coapNoError] at hok
      · rename_i hfits
        rw [if_neg hfits, if_neg hfits]
        cases hone : parseOption p ((number + delta) % 2 ^ 32) ((rest.drop (n + k)).take length) with
        | error code =>
          simp only [hone] at hok
          exact absurd hok (parseOption_error code hone)
        | ok q =>
          simp only [hone] at hok ⊢
          have hdrop : (rest.drop (n + k + length)).length ≤ rounds := by
            rw [List.length_drop]
            rw [List.length_cons] at hlen
            omega
          obtain ⟨r, hr, hb1, hb2⟩ := parseOptions_split B rounds q _ _ hdrop hok
          refine ⟨r, ?_, hb1, hb2⟩
          unfold parseAll rawValues at hr ⊢
          rw [List.map_cons, List.foldlM_cons, hone]
          exact hr

/-! ## The grammar and the split -/

theorem byte_forall {P : UInt8 → Prop} (h : ∀ x : Fin 256, P (UInt8.ofNat x.1)) (b : UInt8) : P b := by
  have hb := h ⟨b.toNat, b.toNat_lt⟩
  rwa [UInt8.ofNat_toNat] at hb

/-- The marker test looks at the upper nibble. -/
theorem marker_iff (b : UInt8) : b &&& 0xF0 = 0xF0 ↔ b >>> 4 = 15 := by
  revert b
  apply byte_forall
  decide +kernel

theorem highNibble_lt (b : UInt8) : (b >>> 4).toNat < 16 := by
  have hlt := b.toNat_lt
  rw [UInt8.toNat_shiftRight]
  show b.toNat >>> 4 < 16
  rw [Nat.shiftRight_eq_div_pow]
  omega

theorem lowNibble_lt (b : UInt8) : (b &&& 0x0F).toNat < 16 := by
  rw [UInt8.toNat_and]
  exact Nat.lt_succ_of_le Nat.and_le_right

theorem Extended.read {nibble : UInt8} {bytes : OcString} {d : Nat} (h : Extended nibble bytes d) (rest : OcString) :
    readExtended nibble (bytes ++ rest) = (d, bytes.length) := by
  cases h with
  | small hlt =>
    have h13 : nibble ≠ 13 := fun h => by subst h; exact absurd hlt (by decide)
    have h14 : nibble ≠ 14 := fun h => by subst h; exact absurd hlt (by decide)
    simp [readExtended, h13, h14]
  | one x => simp [readExtended]
  | two x y => simp [readExtended]

theorem readExtended_formed {nibble : UInt8} {rest : OcString} {d n : Nat} (h : readExtended nibble rest = (d, n))
    (hlt : nibble.toNat < 16) (hreserved : nibble ≠ 15) (hn : n ≤ rest.length) : Extended nibble (rest.take n) d := by
  unfold readExtended at h
  split at h
  · rename_i h13
    cases h
    subst h13
    match rest, hn with
    | x :: rest, _ => exact .one x
  · split at h
    · rename_i h14
      cases h
      subst h14
      match rest, hn with
      | x :: y :: rest, _ => exact .two x y
    · rename_i h13 h14
      cases h
      refine .small (UInt8.lt_iff_toNat_lt.2 ?_)
      rw [← UInt8.toNat_inj] at h13 h14
      rw [Ne, ← UInt8.toNat_inj] at hreserved
      have e13 : (13 : UInt8).toNat = 13 := rfl
      have e14 : (14 : UInt8).toNat = 14 := rfl
      have e15 : (15 : UInt8).toNat = 15 := rfl
      omega

theorem Extended.ne_reserved {nibble : UInt8} {bytes : OcString} {d : Nat} (h : Extended nibble bytes d) :
    nibble ≠ 15 := by
  rintro rfl
  cases h with
  | small hlt => exact absurd hlt (by decide)

/-- No option has the reserved length, and what is left is nothing, or the marker with a payload. -/
def SplitFormed (s : List RawOption × OcString) : Prop :=
  (∀ o ∈ s.1, o.head &&& 0x0F ≠ 0x0F) ∧ (s.2 = [] ∨ ∃ payload, payload ≠ [] ∧ s.2 = 0xFF :: payload)

theorem marker_formed {b : UInt8} {rest : OcString} (hmarker : b &&& 0xF0 = 0xF0) :
    BodyFormed (b :: rest) ↔ SplitFormed ([], b :: rest) := by
  constructor
  · intro h
    cases h with
    | payload hne => exact ⟨fun o ho => absurd ho List.not_mem_nil, .inr ⟨rest, hne, rfl⟩⟩
    | option hdelta hlength hrest => exact absurd ((marker_iff b).1 hmarker) hdelta.ne_reserved
  · rintro ⟨-, hnil | ⟨payload, hne, heq⟩⟩
    · cases hnil
    · cases heq
      exact .payload hne

theorem bodyFormed_iff : ∀ (rounds number : Nat) (bytes : OcString), bytes.length ≤ rounds →
    (BodyFormed bytes ↔ SplitFormed (splitOptions rounds number bytes))
  | 0, _, [], _ => ⟨fun _ => ⟨fun o ho => absurd ho List.not_mem_nil, .inl rfl⟩, fun _ => .nil⟩
  | _ + 1, _, [], _ => ⟨fun _ => ⟨fun o ho => absurd ho List.not_mem_nil, .inl rfl⟩, fun _ => .nil⟩
  | rounds + 1, number, b :: rest, hlen => by
    rw [splitOptions]
    by_cases hmarker : b &&& 0xF0 = 0xF0
    · rw [if_pos hmarker]
      exact marker_formed hmarker
    · rw [if_neg hmarker]
      have hne : b >>> 4 ≠ 15 := fun h => hmarker ((marker_iff b).2 h)
      cases hdelta : readExtended (b >>> 4) rest with
      | mk delta n =>
      cases hlength : readExtended (b &&& 0x0F) (rest.drop n) with
      | mk length k =>
      simp only [hlength]
      by_cases hfits : n + k + length > rest.length
      · -- more bytes are announced than are there
        rw [if_pos hfits]
        constructor
        · intro h
          cases h with
          | payload _ => exact absurd rfl hmarker
          | @option _ db lb value rest' d hd hl hrest =>
            have h₁ := hd.read (lb ++ value ++ rest')
            have h₂ := hl.read (value ++ rest')
            simp only [List.append_assoc] at h₁ hdelta hlength hfits
            rw [h₁, Prod.mk.injEq] at hdelta
            obtain ⟨rfl, rfl⟩ := hdelta
            rw [List.drop_left, h₂, Prod.mk.injEq] at hlength
            obtain ⟨rfl, rfl⟩ := hlength
            simp only [List.length_append] at hfits
            omega
        · rintro ⟨-, hnil | ⟨payload, -, heq⟩⟩
          · cases hnil
          · cases heq
            exact absurd rfl hmarker
      · rw [if_neg hfits]
        have hdrop : (rest.drop (n + k + length)).length ≤ rounds := by
          rw [List.length_drop]
          rw [List.length_cons] at hlen
          omega
        -- the grammar and the loop split off the same option
        have ih := bodyFormed_iff rounds ((number + delta) % 2 ^ 32) (rest.drop (n + k + length)) hdrop
        have hsplit : SplitFormed (⟨b, (number + delta) % 2 ^ 32, (rest.drop (n + k)).take length⟩ ::
              (splitOptions rounds ((number + delta) % 2 ^ 32) (rest.drop (n + k + length))).1,
            (splitOptions rounds ((number + delta) % 2 ^ 32) (rest.drop (n + k + length))).2) ↔
            b &&& 0x0F ≠ 0x0F ∧ BodyFormed (rest.drop (n + k + length)) := by
          rw [ih, SplitFormed, SplitFormed, List.forall_mem_cons, and_assoc]
        rw [hsplit]
        constructor
        · intro h
          cases h with
          | payload _ => exact absurd rfl hmarker
          | @option _ db lb value rest' d hd hl hrest =>
            have h₁ := hd.read (lb ++ value ++ rest')
            have h₂ := hl.read (value ++ rest')
            simp only [List.append_assoc] at h₁ hdelta hlength ⊢
            rw [h₁, Prod.mk.injEq] at hdelta
            obtain ⟨rfl, rfl⟩ := hdelta
            rw [List.drop_left, h₂, Prod.mk.injEq] at hlength
            obtain ⟨rfl, rfl⟩ := hlength
            refine ⟨hl.ne_reserved, ?_⟩
            rw [← List.drop_drop, ← List.drop_drop, List.drop_left, List.drop_left, List.drop_left]
            exact hrest
        · rintro ⟨hlow, hrest⟩
          have hd : Extended (b >>> 4) (rest.take n) delta :=
            readExtended_formed hdelta (highNibble_lt b) hne (by omega)
          have hl : Extended (b &&& 0x0F) ((rest.drop n).take k) length :=
            readExtended_formed hlength (lowNibble_lt b) hlow (by rw [List.length_drop]; omega)
          have hvalue : ((rest.drop (n + k)).take length).length = length := by
            rw [List.length_take, List.length_drop]
            omega
          have hbytes : rest = rest.take n ++ (rest.drop n).take k ++ (rest.drop (n + k)).take length ++
              rest.drop (n + k + length) := by
            have htail : rest.drop (n + k + length) = (rest.drop (n + k)).drop length := by rw [List.drop_drop]
            rw [htail, List.append_assoc, List.append_assoc, List.take_append_drop, ← List.drop_drop,
              List.take_append_drop, List.take_append_drop]
          rw [← hvalue] at hl
          have hform := BodyFormed.option hd hl hrest
          rwa [← hbytes] at hform

/-! ## Block options -/

/-- The value of the last option with a number. -/
def lastValue (number : Nat) (l : List RawOption) : Option OcString :=
  ((l.filter (·.number == number)).getLast?).map (·.value)

/-- The block number of the value, times the size it encodes, fits 32 bits. -/
def BlockFits (value : OcString) : Prop :=
  (coapParseIntOption value).toNat / 16 * (16 * 2 ^ ((coapParseIntOption value).toNat % 8)) < 2 ^ 32

/-- The offset is the block number times the block size. -/
def CoapBlock.Exact (b : CoapBlock) : Prop := b.offset.toNat = b.num.toNat * b.size.toNat

theorem parseBlock_exact_iff (value : OcString) : (parseBlock value).Exact ↔ BlockFits value := by
  obtain ⟨hnum, hsize, hoffset⟩ := parseBlock_nat value
  unfold CoapBlock.Exact BlockFits
  rw [hnum, hsize, hoffset]
  exact Nat.mod_eq_iff_lt (by decide)

theorem parseRequestOption_blocks (p : CoapPacket) (n : Nat) (value : OcString) :
    ∀ q, parseRequestOption p n value = .ok q →
      q.block1 = (if n = coapOptionBlock1 then parseBlock value else p.block1) ∧
      q.block2 = if n = coapOptionBlock2 then parseBlock value else p.block2 := by
  by_cases h1 : n = coapOptionBlock1
  · subst h1
    intro q h
    cases h
    exact ⟨rfl, rfl⟩
  · by_cases h2 : n = coapOptionBlock2
    · subst h2
      intro q h
      cases h
      exact ⟨rfl, rfl⟩
    · rw [if_neg h1, if_neg h2]
      unfold parseRequestOption
      rw [if_neg h1, if_neg h2]
      repeat' apply ok_ite
      all_goals
        intro q h
        cases h
      all_goals exact ⟨rfl, rfl⟩

theorem parseOption_blocks {p q : CoapPacket} {n : Nat} {value : OcString} (h : parseOption p n value = .ok q) :
    (coapCheckSignalMessage q = coapCheckSignalMessage p) ∧
    q.block1 = (if coapCheckSignalMessage p = false ∧ n = coapOptionBlock1 then parseBlock value else p.block1) ∧
    q.block2 = if coapCheckSignalMessage p = false ∧ n = coapOptionBlock2 then parseBlock value else p.block2 := by
  have hcode : coapCheckSignalMessage q = coapCheckSignalMessage p := by
    rw [coapCheckSignalMessage, coapCheckSignalMessage, (optionStep_parse h).header.code]
  refine ⟨hcode, ?_⟩
  unfold parseOption at h
  have hset : ∀ p' : CoapPacket, p' = (if n ≤ coapOptionSize1 then p.setOption n else p) →
      p'.block1 = p.block1 ∧ p'.block2 = p.block2 ∧ coapCheckSignalMessage p' = coapCheckSignalMessage p := by
    intro p' hp'
    subst hp'
    split
    · exact ⟨rfl, rfl, rfl⟩
    · exact ⟨rfl, rfl, rfl⟩
  generalize hp' : (if n ≤ coapOptionSize1 then p.setOption n else p) = p' at h
  obtain ⟨h1, h2, hsignal⟩ := hset p' hp'.symm
  rw [← h1, ← h2, ← hsignal]
  cases hs : coapCheckSignalMessage p' with
  | true =>
    simp only [hs, reduceIte, Except.ok.injEq] at h
    subst h
    simpa using signal_blocks p' n value
  | false =>
    simp only [hs, Bool.false_eq_true, reduceIte] at h
    simpa using parseRequestOption_blocks p' n value q h

theorem lastValue_cons (number : Nat) (o : RawOption) (l : List RawOption) :
    lastValue number (o :: l) = (lastValue number l).or (if o.number = number then some o.value else none) := by
  unfold lastValue
  by_cases hn : o.number = number
  · rw [if_pos hn, List.filter_cons_of_pos (by simpa using hn), List.getLast?_cons]
    cases (l.filter (·.number == number)).getLast? <;> simp
  · rw [if_neg hn, List.filter_cons_of_neg (by simpa using hn)]
    simp

theorem parseAll_blocks : ∀ (l : List RawOption) {p q : CoapPacket}, parseAll p (rawValues l) = .ok q →
    q.block1 = (if coapCheckSignalMessage p then p.block1
      else ((lastValue coapOptionBlock1 l).map parseBlock).getD p.block1) ∧
    q.block2 = if coapCheckSignalMessage p then p.block2
      else ((lastValue coapOptionBlock2 l).map parseBlock).getD p.block2
  | [], p, q, h => by
    cases h
    simp [lastValue]
  | o :: l, p, q, h => by
    unfold parseAll rawValues at h
    rw [List.map_cons, List.foldlM_cons] at h
    cases hone : parseOption p o.number o.value with
    | error code =>
      rw [hone] at h
      cases h
    | ok r =>
      rw [hone] at h
      obtain ⟨hsignal, h1, h2⟩ := parseOption_blocks hone
      obtain ⟨hq1, hq2⟩ := parseAll_blocks l h
      rw [hq1, hq2, hsignal, lastValue_cons, lastValue_cons, h1, h2]
      cases hs : coapCheckSignalMessage p with
      | true => simp
      | false =>
        refine ⟨?_, ?_⟩
        · cases lastValue coapOptionBlock1 l with
          | some v => simp
          | none => by_cases hn : o.number = coapOptionBlock1 <;> simp [hn]
        · cases lastValue coapOptionBlock2 l with
          | some v => simp
          | none => by_cases hn : o.number = coapOptionBlock2 <;> simp [hn]

/-! ## Messages -/

/-- The token length in the header. -/
def tokenLenOf (data : OcString) : Nat := (0x0F &&& data.getD 0 0).toNat

/-- The split of the bytes behind the token. -/
def messageSplit (data : OcString) : List RawOption × OcString :=
  splitOptions (data.drop coapHeaderLen).length 0 ((data.drop coapHeaderLen).drop (tokenLenOf data))

/-- The message is a signal. -/
def isSignal (data : OcString) : Bool := coapCheckSignalMessage { CoapPacket.zero with code := data.getD 1 0 }

/-- What the parser does not check: the message has its header and token, no option has the reserved length, the
tail is nothing or the marker with a payload, and the number of a block, times its size, fits 32 bits. -/
structure ReadAsFormed (data : OcString) : Prop where
  token : coapHeaderLen + tokenLenOf data ≤ data.length
  body : SplitFormed (messageSplit data)
  blocks : isSignal data = false → ∀ number ∈ [coapOptionBlock1, coapOptionBlock2],
    ∀ value ∈ lastValue number (messageSplit data).1, BlockFits value

theorem messageFormed_iff {data : OcString} (hversion : (0xC0 &&& data.getD 0 0) >>> 6 = 1)
    (htoken : tokenLenOf data ≤ coapTokenLen) :
    MessageFormed data ↔ coapHeaderLen + tokenLenOf data ≤ data.length ∧ SplitFormed (messageSplit data) := by
  have hbody := bodyFormed_iff (data.drop coapHeaderLen).length 0 ((data.drop coapHeaderLen).drop (tokenLenOf data))
    (by rw [List.length_drop]; omega)
  have hv : ∀ b : UInt8, (0xC0 &&& b) >>> 6 = b >>> 6 := by
    apply byte_forall
    decide +kernel
  rw [messageSplit, ← hbody]
  constructor
  · rintro ⟨b, code, mid₁, mid₂, token, body, rfl, -, hlen, -, hformed⟩
    have hl : tokenLenOf (b :: code :: mid₁ :: mid₂ :: (token ++ body)) = token.length := by
      rw [hlen, UInt8.and_comm]
      rfl
    rw [hl]
    refine ⟨?_, ?_⟩
    · simp only [coapHeaderLen, List.length_cons, List.length_append]
      omega
    · have hdrop : (b :: code :: mid₁ :: mid₂ :: (token ++ body)).drop coapHeaderLen = token ++ body := rfl
      rw [hdrop, List.drop_left]
      exact hformed
  · rintro ⟨hlen, hformed⟩
    rcases data with _ | ⟨b, _ | ⟨code, _ | ⟨mid₁, _ | ⟨mid₂, rest⟩⟩⟩⟩
    iterate 4
      simp only [coapHeaderLen, List.length_cons, List.length_nil] at hlen
      omega
    have hdrop : (b :: code :: mid₁ :: mid₂ :: rest).drop coapHeaderLen = rest := rfl
    rw [hdrop] at hformed
    have htake : (rest.take (tokenLenOf (b :: code :: mid₁ :: mid₂ :: rest))).length =
        tokenLenOf (b :: code :: mid₁ :: mid₂ :: rest) := by
      rw [List.length_take]
      simp only [coapHeaderLen, List.length_cons] at hlen
      omega
    refine ⟨b, code, mid₁, mid₂, rest.take _, rest.drop _, by rw [List.take_append_drop], ?_, ?_, ?_, hformed⟩
    · rw [← hv]
      exact hversion
    · rw [htake, UInt8.and_comm]
      rfl
    · rw [htake]
      exact htoken

theorem CoapBlock.zero_exact : CoapBlock.zero.Exact := rfl

theorem lastBlock_exact_iff (value : Option OcString) :
    ((value.map parseBlock).getD CoapBlock.zero).Exact ↔ ∀ v ∈ value, BlockFits v := by
  cases value with
  | none => simp [CoapBlock.zero_exact]
  | some v => simp [parseBlock_exact_iff]

/-- A message that `coap_udp_parse_message` accepts is well formed, and its block offsets are exact, iff what the
parser does not check holds of it. -/
theorem coapUdpParseMessage_formed_iff (B : BufferSettings) {data : OcString} {p : CoapPacket}
    (h : coapUdpParseMessage B data = (coapNoError, p)) :
    (MessageFormed data ∧ p.block1.Exact ∧ p.block2.Exact) ↔ ReadAsFormed data := by
  unfold coapUdpParseMessage at h
  dsimp only at h
  split at h
  · cases h
  · rename_i hversion
    split at h
    · cases h
    · rename_i htoken
      rw [ne_eq, not_not] at hversion
      have hformed := messageFormed_iff hversion (Nat.le_of_not_lt htoken)
      unfold coapParseTokenOption at h
      obtain ⟨q, hq, hb1, hb2⟩ := parseOptions_split B _ _ 0 _ (by rw [List.length_drop]; omega) (congrArg Prod.fst h)
      obtain ⟨hq1, hq2⟩ := parseAll_blocks _ hq
      rw [h] at hb1 hb2
      rw [hformed, hb1, hb2, hq1, hq2]
      have hsignal (token : OcString) (t : CoapTransportType) (v : UInt8) (type : CoapMessageType) (mid : UInt16) :
          coapCheckSignalMessage { CoapPacket.zero with
            transportType := t, version := v, type := type, code := data.getD 1 0, mid := mid, token := token } =
          isSignal data := rfl
      rw [hsignal]
      cases hs : isSignal data with
      | true =>
        constructor
        · rintro ⟨⟨hlen, hbody⟩, -⟩
          exact ⟨hlen, hbody, fun h => by rw [hs] at h; cases h⟩
        · rintro ⟨hlen, hbody, -⟩
          exact ⟨⟨hlen, hbody⟩, CoapBlock.zero_exact, CoapBlock.zero_exact⟩
      | false =>
        have h1 := lastBlock_exact_iff (lastValue coapOptionBlock1 (messageSplit data).1)
        have h2 := lastBlock_exact_iff (lastValue coapOptionBlock2 (messageSplit data).1)
        constructor
        · rintro ⟨⟨hlen, hbody⟩, he1, he2⟩
          refine ⟨hlen, hbody, fun _ number hnumber => ?_⟩
          rcases List.mem_cons.1 hnumber with rfl | hnumber
          · exact h1.1 he1
          · rw [List.mem_singleton.1 hnumber]
            exact h2.1 he2
        · rintro ⟨hlen, hbody, hblocks⟩
          exact ⟨⟨hlen, hbody⟩, h1.2 (hblocks hs _ List.mem_cons_self),
            h2.2 (hblocks hs _ (List.mem_cons_of_mem _ List.mem_cons_self))⟩

/-- A PUT to a/b?k=v with a token, a Block1 option and a payload. -/
def blockPut : OcString :=
  [0x42, 3, 0x12, 0x34, 7, 8, 0xB1, 0x61, 0x01, 0x62, 0x12, 0x27, 0x10, 0x33, 0x6B, 0x3D, 0x76, 0xC1, 0x10, 0xFF] ++
    ascii "xy"

/-- It is well formed and its block offset is exact, as the parser does not check it. -/
theorem coapUdpParseMessage_formed_iff_get :
    ((MessageFormed blockPut ∧ (coapUdpParseMessage defaultSettings blockPut).2.block1.Exact ∧
      (coapUdpParseMessage defaultSettings blockPut).2.block2.Exact) ↔ ReadAsFormed blockPut) ∧ ReadAsFormed blockPut := by
  have haccepted : (coapUdpParseMessage defaultSettings blockPut).1 = coapNoError := by decide
  refine ⟨coapUdpParseMessage_formed_iff defaultSettings (Prod.ext haccepted rfl), by decide,
    ⟨by decide, .inr ⟨ascii "xy", by decide, by decide⟩⟩, fun _ number hnumber value hvalue => ?_⟩
  rcases List.mem_pair.1 hnumber with rfl | rfl
  · have hlast : lastValue coapOptionBlock1 (messageSplit blockPut).1 = some [0x10] := by decide
    rw [hlast] at hvalue
    cases hvalue
    unfold BlockFits
    decide
  · have hlast : lastValue coapOptionBlock2 (messageSplit blockPut).1 = none := by decide
    rw [hlast] at hvalue
    cases hvalue

/-- A marker without a payload is accepted. -/
theorem coapUdpParseMessage_empty_payload :
    (coapUdpParseMessage defaultSettings [0x40, 1, 0, 0, 0xFF]).1 = coapNoError ∧ ¬ MessageFormed [0x40, 1, 0, 0, 0xFF] := by
  refine ⟨by decide, fun h => ?_⟩
  obtain ⟨-, -, htail⟩ := (messageFormed_iff (by decide) (by decide)).1 h
  have hsplit : (messageSplit [0x40, 1, 0, 0, 0xFF]).2 = [0xFF] := by decide
  rw [hsplit] at htail
  rcases htail with hnil | ⟨payload, hne, heq⟩
  · cases hnil
  · cases heq
    exact hne rfl

end SmartGarage
