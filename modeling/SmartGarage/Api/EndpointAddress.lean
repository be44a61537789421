/-
The addresses that `oc_parse_ipv4_address` and `oc_parse_ipv6_address` are for: dotted ones, and groups with `::` in the
place of zeros. They are read as what they say, but for a dotted end of an IPv6 address.
-/
import SmartGarage.Api.EndpointEnds

namespace SmartGarage

variable {segments pre post : List OcString} {rest : OcString} {split : Option Nat}

/-! ## Numbers -/

/-- A decimal number. -/
structure DecimalText where
  text : OcString
  ne : text ≠ []
  digits : ∀ c ∈ text, Decimal.isDigit c = true

/-- The number. -/
def DecimalText.value (d : DecimalText) : Nat := Decimal.value d.text

/-- A decimal number of an octet. -/
structure OctetText extends DecimalText where
  lt : toDecimalText.value < 256

/-- A dotted address. -/
structure Ipv4Text where
  a : OctetText
  b : OctetText
  c : OctetText
  d : OctetText

/-- The text of a dotted address. -/
def Ipv4Text.text (t : Ipv4Text) : OcString := t.a.text ++ 46 :: (t.b.text ++ 46 :: (t.c.text ++ 46 :: t.d.text))

/-- Its octets. -/
def Ipv4Text.octets (t : Ipv4Text) : OcString := [t.a, t.b, t.c, t.d].map fun x => UInt8.ofNat x.value

/-- The value of a hexadecimal digit. -/
def hexDigitValue (c : UInt8) : Option Nat :=
  if 48 ≤ c ∧ c ≤ 57 then some (c.toNat - 48)
  else if 97 ≤ c ∧ c ≤ 102 then some (c.toNat - 87)
  else if 65 ≤ c ∧ c ≤ 70 then some (c.toNat - 55)
  else none

/-- One to four hexadecimal digits. -/
structure HexGroup where
  text : OcString
  ne : text ≠ []
  short : text.length ≤ 4
  digits : ∀ c ∈ text, (hexDigitValue c).isSome = true

/-- The number of a group. -/
def HexGroup.value (g : HexGroup) : Nat := g.text.foldl (fun n c => n * 16 + (hexDigitValue c).getD 0) 0

/-- Its octets. -/
def HexGroup.octets (g : HexGroup) : OcString := [UInt8.ofNat (g.value / 256), UInt8.ofNat g.value]

/-- The octets of groups. -/
def groupOctets (groups : List HexGroup) : OcString := groups.flatMap HexGroup.octets

/-! ## Addresses -/

/-- An IPv6 address: all of its groups, or those in front of `::` and behind it; the last four octets may be dotted. -/
inductive Ipv6Text
  | full (groups : List HexGroup) (eight : groups.length = 8)
  | compressed (pre post : List HexGroup) (seven : pre.length + post.length ≤ 7)
  | fullDotted (groups : List HexGroup) (six : groups.length = 6) (tail : Ipv4Text)
  | compressedDotted (pre post : List HexGroup) (five : pre.length + post.length ≤ 5) (tail : Ipv4Text)

/-- Segments with a colon between them. -/
def joinSegments (segments : List OcString) : OcString := [58].intercalate segments

/-- The text of an IPv6 address. -/
def Ipv6Text.text : Ipv6Text → OcString
  | full groups _ => joinSegments (groups.map HexGroup.text)
  | compressed pre post _ => joinSegments (pre.map HexGroup.text) ++ 58 :: 58 :: joinSegments (post.map HexGroup.text)
  | fullDotted groups _ tail => joinSegments (groups.map HexGroup.text ++ [tail.text])
  | compressedDotted pre post _ tail =>
    joinSegments (pre.map HexGroup.text) ++ 58 :: 58 :: joinSegments (post.map HexGroup.text ++ [tail.text])

/-- Its octets: `::` stands for as many zeros as are missing. -/
def Ipv6Text.octets : Ipv6Text → OcString
  | full groups _ => groupOctets groups
  | compressed pre post _ => groupOctets pre ++ List.replicate (16 - 2 * (pre.length + post.length)) 0 ++ groupOctets post
  | fullDotted groups _ tail => groupOctets groups ++ tail.octets
  | compressedDotted pre post _ tail =>
    groupOctets pre ++ List.replicate (12 - 2 * (pre.length + post.length)) 0 ++ groupOctets post ++ tail.octets

/-- The address ends with a dotted one. -/
def Ipv6Text.hasDotted : Ipv6Text → Bool
  | full _ _ | compressed _ _ _ => false
  | fullDotted _ _ _ | compressedDotted _ _ _ _ => true

/-- The address ends with `::`, with seven groups in front of it. -/
def Ipv6Text.sevenInFront : Ipv6Text → Bool
  | compressed pre _ _ => pre.length = 7
  | full _ _ | fullDotted _ _ _ | compressedDotted _ _ _ _ => false

/-! ## Reading numbers -/

theorem DecimalText.strtoul (d : DecimalText) (hlt : d.value < 2 ^ 64)
    (hrest : ∀ c ∈ rest.head?, Decimal.isDigit c = false) : Decimal.strtoul (d.text ++ rest) = (d.value, rest) :=
  Decimal.strtoul_digits rest d.ne d.digits hlt hrest

theorem DecimalText.notMem (d : DecimalText) {c : UInt8} (hc : Decimal.isDigit c = false) : c ∉ d.text := fun h => by
  rw [d.digits c h] at hc
  cases hc

theorem OctetText.lt_64 (x : OctetText) : x.value < 2 ^ 64 := Nat.lt_of_lt_of_le x.lt (by decide)

theorem OctetText.length_pos (x : OctetText) : 0 < x.text.length := List.length_pos_iff.2 x.ne

theorem parseIpv4Octets_digits (x : OctetText) {n len : Nat} (hlen : len ≠ 0)
    (hrest : ∀ c ∈ rest.head?, Decimal.isDigit c = false) : parseIpv4Octets (n + 1) len (x.text ++ rest) =
      UInt8.ofNat x.value :: parseIpv4Octets n (len - (x.text.length + 1)) (rest.drop 1) := by
  rw [parseIpv4Octets, if_neg hlen]
  simp only [x.strtoul x.lt_64 hrest]
  rw [List.length_append, Nat.add_sub_cancel]

/-- The octets of a dotted address, with whatever the address goes on. -/
theorem ocParseIpv4Address_text (t : Ipv4Text) {len : Nat} (hlen : t.text.length ≤ len)
    (hrest : ∀ c ∈ rest.head?, Decimal.isDigit c = false) : ocParseIpv4Address (t.text ++ rest) len = t.octets := by
  have ha := t.a.length_pos
  have hb := t.b.length_pos
  have hc := t.c.length_pos
  have hd := t.d.length_pos
  have hdot : ∀ (tail : OcString), ∀ c ∈ (46 :: tail).head?, Decimal.isDigit c = false := fun tail c hc => by
    cases hc
    decide
  have htext : t.text ++ rest =
      t.a.text ++ 46 :: (t.b.text ++ 46 :: (t.c.text ++ 46 :: (t.d.text ++ rest))) := by simp [Ipv4Text.text]
  unfold Ipv4Text.text at hlen
  simp only [List.length_append, List.length_cons] at hlen
  rw [ocParseIpv4Address, htext, parseIpv4Octets_digits t.a (by omega) (hdot _), List.drop_one, List.tail_cons,
    parseIpv4Octets_digits t.b (by omega) (hdot _), List.drop_one, List.tail_cons,
    parseIpv4Octets_digits t.c (by omega) (hdot _), List.drop_one, List.tail_cons,
    parseIpv4Octets_digits t.d (by omega) hrest]
  rfl

/-! ## Reading groups -/

theorem hexValue_eq : ∀ c : UInt8, (hexDigitValue c).isSome = true →
    hexValue c < 16 ∧ (hexDigitValue c).getD 0 = (hexValue c).toNat ∧ c ≠ 58 ∧ c ≠ 93 ∧ c ≠ 47 :=
  forall_byte (by decide +kernel)

theorem nibbles_toNat {a b : UInt8} (ha : a < 16) (hb : b < 16) : ((a <<< 4) ||| b).toNat = a.toNat * 16 + b.toNat := by
  have hall : ∀ m n : Fin 16, (((UInt8.ofNat m) <<< 4) ||| UInt8.ofNat n).toNat = m * 16 + n := by decide
  have h := hall ⟨a.toNat, UInt8.lt_iff_toNat_lt.1 ha⟩ ⟨b.toNat, UInt8.lt_iff_toNat_lt.1 hb⟩
  rwa [UInt8.ofNat_toNat, UInt8.ofNat_toNat] at h

theorem octets_of_nat (high low : UInt8) {n : Nat} (h : n = high.toNat * 256 + low.toNat) :
    [UInt8.ofNat (n / 256), UInt8.ofNat n] = [high, low] := by
  have hlow := UInt8.toNat_lt low
  have hofNat : UInt8.ofNat n = low := UInt8.toNat_inj.1 (by rw [UInt8.toNat_ofNat']; omega)
  rw [show n / 256 = high.toNat by omega, UInt8.ofNat_toNat, hofNat]

/-- What the loop reads of a segment. -/
def segmentOctets (p : OcString) : OcString := ((parseSegment p).map Prod.fst).getD []

/-- A segment that the loop passes. -/
structure Segment (p : OcString) : Prop where
  ne : p ≠ []
  colon : 58 ∉ p
  short : p.length ≤ 4

theorem ends_nil : Ends [] := fun c hc => by cases hc

theorem takeWhile_segment {p rest : OcString} (hp : 58 ∉ p) (hrest : Ends rest) :
    (p ++ rest).takeWhile (· ≠ 58) = p := by
  rw [List.takeWhile_append_of_pos fun x hx => by simpa using fun heq : x = 58 => hp (heq ▸ hx)]
  cases rest with
  | nil => simp
  | cons c rest => rw [hrest c rfl, List.takeWhile_cons_of_neg (by simp), List.append_nil]

theorem Segment.parse {p rest : OcString} (h : Segment p) (hrest : Ends rest) :
    parseSegment (p ++ rest) = some (segmentOctets p, rest) ∧ (segmentOctets p).length = 2 := by
  have htake := takeWhile_segment h.colon hrest
  have hself := takeWhile_segment h.colon ends_nil
  rw [List.append_nil] at hself
  unfold segmentOctets parseSegment
  rw [htake, hself]
  obtain ⟨hne, -, hshort⟩ := h
  rcases p with _ | ⟨a, _ | ⟨b, _ | ⟨c, _ | ⟨d, _ | ⟨e, p⟩⟩⟩⟩⟩
  · exact absurd rfl hne
  · exact ⟨rfl, rfl⟩
  · exact ⟨rfl, rfl⟩
  · exact ⟨rfl, rfl⟩
  · exact ⟨rfl, rfl⟩
  · exact absurd hshort (by simp)

theorem HexGroup.segment (g : HexGroup) : Segment g.text :=
  ⟨g.ne, fun h => (hexValue_eq 58 (g.digits 58 h)).2.2.1 rfl, g.short⟩

theorem HexGroup.segmentOctets (g : HexGroup) : segmentOctets g.text = g.octets := by
  obtain ⟨text, hne, hshort, hdigits⟩ := g
  have hvalue (c : UInt8) (hc : c ∈ text) : (hexDigitValue c).getD 0 = (hexValue c).toNat :=
    (hexValue_eq c (hdigits c hc)).2.1
  have hlt (c : UInt8) (hc : c ∈ text) : hexValue c < 16 := (hexValue_eq c (hdigits c hc)).1
  have hnat (c : UInt8) (hc : c ∈ text) : (hexValue c).toNat < 16 := UInt8.lt_iff_toNat_lt.1 (hlt c hc)
  have hsegment : Segment text := (HexGroup.mk text hne hshort hdigits).segment
  have htake : text.takeWhile (· ≠ 58) = text := by
    have htext := takeWhile_segment hsegment.colon ends_nil
    rwa [List.append_nil] at htext
  unfold SmartGarage.segmentOctets parseSegment HexGroup.octets HexGroup.value
  rw [htake]
  rcases text with _ | ⟨a, _ | ⟨b, _ | ⟨c, _ | ⟨d, _ | ⟨e, p⟩⟩⟩⟩⟩
  · exact absurd rfl hne
  · have ha := hnat a (by simp)
    simp only [List.foldl_cons, List.foldl_nil, hvalue a (by simp)]
    show [0, hexValue a] = _
    rw [Nat.div_eq_of_lt (by omega), Nat.zero_mul, Nat.zero_add, UInt8.ofNat_toNat]
    rfl
  · have ha := hnat a (by simp)
    have hb := hnat b (by simp)
    simp only [List.foldl_cons, List.foldl_nil, hvalue a (by simp), hvalue b (by simp)]
    show ([0, (hexValue a <<< 4) ||| hexValue b] : OcString) = _
    rw [Nat.div_eq_of_lt (by omega), Nat.zero_mul, Nat.zero_add, ← nibbles_toNat (hlt a (by simp)) (hlt b (by simp)),
      UInt8.ofNat_toNat]
    rfl
  · have ha := hnat a (by simp)
    have hb := hnat b (by simp)
    have hc := hnat c (by simp)
    have hlow := nibbles_toNat (hlt b (by simp)) (hlt c (by simp))
    simp only [List.foldl_cons, List.foldl_nil, hvalue a (by simp), hvalue b (by simp), hvalue c (by simp)]
    show ([hexValue a, (hexValue b <<< 4) ||| hexValue c] : OcString) = _
    rw [Nat.zero_mul, Nat.zero_add, octets_of_nat (hexValue a) ((hexValue b <<< 4) ||| hexValue c) (by omega)]
  · have ha := hnat a (by simp)
    have hb := hnat b (by simp)
    have hc := hnat c (by simp)
    have hd := hnat d (by simp)
    have hhigh := nibbles_toNat (hlt a (by simp)) (hlt b (by simp))
    have hlow := nibbles_toNat (hlt c (by simp)) (hlt d (by simp))
    simp only [List.foldl_cons, List.foldl_nil, hvalue a (by simp), hvalue b (by simp), hvalue c (by simp),
      hvalue d (by simp)]
    show ([(hexValue a <<< 4) ||| hexValue b, (hexValue c <<< 4) ||| hexValue d] : OcString) = _
    rw [Nat.zero_mul, Nat.zero_add]
    exact (octets_of_nat (hexValue a <<< 4 ||| hexValue b) (hexValue c <<< 4 ||| hexValue d) (by omega)).symm
  · exact absurd hshort (by simp)

/-! ## Reading segments -/

/-- The text of segments behind one. -/
def segmentsBehind (segments : List OcString) : OcString := segments.flatMap fun p => 58 :: p

theorem joinSegments_cons (p : OcString) (segments : List OcString) :
    joinSegments (p :: segments) = p ++ segmentsBehind segments := by
  unfold joinSegments segmentsBehind
  induction segments generalizing p with
  | nil => simp
  | cons q segments ih =>
    rw [List.intercalate_cons_cons, ih q]
    simp

theorem joinSegments_concat (segments : List OcString) (p : OcString) : joinSegments (segments ++ [p]) =
    (if segments = [] then [] else joinSegments segments ++ [58]) ++ p := by
  cases segments with
  | nil => simp [joinSegments]
  | cons q segments => simp [joinSegments_cons, segmentsBehind]

/-- The octets of segments. -/
def segmentsOctets (segments : List OcString) : OcString := segments.flatMap segmentOctets

theorem Segment.length_octets {p : OcString} (h : Segment p) : (segmentOctets p).length = 2 :=
  (h.parse ends_nil).2

theorem length_segmentsOctets (h : ∀ p ∈ segments, Segment p) : (segmentsOctets segments).length
    = 2 * segments.length := by
  unfold segmentsOctets
  rw [List.length_flatMap, List.map_congr_left fun p hp => (h p hp).length_octets, List.map_const', List.sum_replicate_nat,
    Nat.mul_comm]

theorem segmentsOctets_groups (groups : List HexGroup) :
    segmentsOctets (groups.map HexGroup.text) = groupOctets groups := by
  unfold segmentsOctets groupOctets
  rw [List.flatMap_map, List.flatMap_congr fun g _ => g.segmentOctets]

theorem segments_groups (groups : List HexGroup) : ∀ p ∈ groups.map HexGroup.text, Segment p := by
  rintro p hp
  obtain ⟨g, -, rfl⟩ := List.mem_map.1 hp
  exact g.segment

theorem Segment.head_ne {p : OcString} (h : Segment p) (rest : OcString) : (p ++ rest).head? ≠ some 58 := by
  obtain ⟨c, cs, hc⟩ := List.exists_cons_of_ne_nil h.ne
  rw [hc]
  rintro heq
  exact h.colon (by rw [hc, Option.some.inj heq]; exact List.mem_cons_self)

theorem parseIpv6Groups_segment {addr p rest : OcString} (h : Segment p) (haddr : addr.length < 15) (hrest : Ends rest) :
    parseIpv6Groups addr split (p ++ rest) = parseIpv6Groups (addr ++ segmentOctets p) split rest := by
  have hsplit : splitAt addr split (p ++ rest) = (split, p ++ rest) := splitAt_single (.inr fun htake => by
    have hhead := h.head_ne rest
    obtain ⟨c, cs, hc⟩ := List.exists_cons_of_ne_nil h.ne
    rw [hc, List.cons_append] at htake hhead
    exact hhead (congrArg some (List.cons.inj htake).1))
  have hstep := parseIpv6Groups_step haddr (show p ++ rest ≠ [] from fun hnil => h.ne (List.append_eq_nil_iff.1 hnil).1)
    (show parseSegment (splitAt addr split (p ++ rest)).2 = some (segmentOctets p, rest) by
      rw [hsplit]
      exact (h.parse hrest).1)
  rw [hstep, hsplit]

theorem ends_segmentsBehind (segments : List OcString) (hrest : Ends rest) :
    Ends (segmentsBehind segments ++ rest) := by
  cases segments with
  | nil => exact hrest
  | cons p segments =>
    rintro c hc
    cases hc
    rfl

theorem parseIpv6Groups_segmentsBehind (hrest : Ends rest) :
    ∀ {segments : List OcString} {addr : OcString}, (∀ p ∈ segments, Segment p) →
      addr.length + 2 * segments.length ≤ 16 → parseIpv6Groups addr split (segmentsBehind segments ++ rest) =
        parseIpv6Groups (addr ++ segmentsOctets segments) split rest
  | [], addr, _, _ => by simp [segmentsBehind, segmentsOctets]
  | p :: segments, addr, h, hlen => by
    rw [List.length_cons] at hlen
    have hp : Segment p := h p List.mem_cons_self
    have haddr : addr.length < 15 := by omega
    have htext : segmentsBehind (p :: segments) ++ rest = 58 :: (p ++ (segmentsBehind segments ++ rest)) := by
      simp [segmentsBehind]
    rw [htext, parseIpv6Groups_colon haddr (.inr (hp.head_ne _)),
      parseIpv6Groups_segment hp haddr (ends_segmentsBehind segments hrest),
      parseIpv6Groups_segmentsBehind hrest (fun q hq => h q (List.mem_cons_of_mem _ hq))
        (by rw [List.length_append, hp.length_octets]; omega), List.append_assoc]
    rfl

theorem parseIpv6Groups_segments {rest addr : OcString} (hrest : Ends rest) (h : ∀ p ∈ segments, Segment p)
    (hlen : addr.length + 2 * segments.length ≤ 16) :
    parseIpv6Groups addr split (joinSegments segments ++ rest) =
      parseIpv6Groups (addr ++ segmentsOctets segments) split rest := by
  cases segments with
  | nil => simp [joinSegments, segmentsOctets]
  | cons p segments =>
    rw [List.length_cons] at hlen
    have hp : Segment p := h p List.mem_cons_self
    rw [joinSegments_cons, List.append_assoc, parseIpv6Groups_segment hp (by omega) (ends_segmentsBehind segments hrest),
      parseIpv6Groups_segmentsBehind hrest (fun q hq => h q (List.mem_cons_of_mem _ hq))
        (by rw [List.length_append, hp.length_octets]; omega), List.append_assoc]
    rfl

theorem ocParseIpv6Address_full (h : ∀ p ∈ segments, Segment p) (hlen : segments.length = 8) :
    ocParseIpv6Address (joinSegments segments) = some (segmentsOctets segments) := by
  have hparse : parseIpv6Groups [] none (joinSegments segments ++ []) = _ :=
    parseIpv6Groups_segments ends_nil h (by simp [hlen])
  rw [List.append_nil, parseIpv6Groups_done, List.nil_append] at hparse
  rw [ocParseIpv6Address, hparse]
  show some (segmentsOctets segments ++ List.replicate (16 - (segmentsOctets segments).length) 0) = _
  rw [length_segmentsOctets h, hlen]
  exact congrArg some (List.append_nil _)

theorem parseIpv6Groups_compressed (hpre : ∀ p ∈ pre, Segment p) (hpost : ∀ p ∈ post, Segment p)
    (hroom : pre.length ≤ 7) (hlen : pre.length + post.length ≤ 8) :
    parseIpv6Groups [] none (joinSegments pre ++ 58 :: 58 :: joinSegments post) =
      some (segmentsOctets pre ++ segmentsOctets post, some (segmentsOctets pre).length) := by
  have hoctets := length_segmentsOctets hpre
  have hread : parseIpv6Groups (segmentsOctets pre) (some (segmentsOctets pre).length) (joinSegments post ++ []) = _ :=
    parseIpv6Groups_segments ends_nil hpost (by omega)
  rw [List.append_nil, parseIpv6Groups_done] at hread
  rw [parseIpv6Groups_segments (fun c hc => by cases hc; rfl) hpre (by simp; omega), List.nil_append,
    parseIpv6Groups_double (by omega), hread]

theorem ocParseIpv6Address_compressed (hpre : ∀ p ∈ pre, Segment p) (hpost : ∀ p ∈ post, Segment p)
    (hlen : pre.length + post.length ≤ 7) :
    ocParseIpv6Address (joinSegments pre ++ 58 :: 58 :: joinSegments post) = some (segmentsOctets pre ++
      List.replicate (16 - 2 * (pre.length + post.length)) 0 ++ segmentsOctets post) := by
  have hfront := length_segmentsOctets hpre
  have hbehind := length_segmentsOctets hpost
  have hmove := moveOctets_eq (segmentsOctets pre) (segmentsOctets post)
    (15 - ((segmentsOctets pre).length + (segmentsOctets post).length)) []
  rw [ocParseIpv6Address, parseIpv6Groups_compressed hpre hpost (by omega) (by omega)]
  show some (moveOctets (segmentsOctets pre).length ((segmentsOctets pre ++ segmentsOctets post).length -
    (segmentsOctets pre).length) 15 (segmentsOctets pre ++ segmentsOctets post ++
      List.replicate (16 - (segmentsOctets pre ++ segmentsOctets post).length) 0)) = _
  rw [List.append_nil, List.append_nil, Nat.add_sub_cancel' (by omega)] at hmove
  rw [List.length_append, Nat.add_sub_cancel_left, show 16 - ((segmentsOctets pre).length + (segmentsOctets post).length) =
    15 - ((segmentsOctets pre).length + (segmentsOctets post).length) + 1 by omega, hmove, hfront, hbehind,
    show 15 - (2 * pre.length + 2 * post.length) + 1 = 16 - 2 * (pre.length + post.length) by omega]

theorem ocParseIpv6Address_eighth {pre : List OcString} {p : OcString} (hpre : ∀ p ∈ pre, Segment p) (hp : Segment p)
    (hlen : pre.length = 7) :
    ocParseIpv6Address (joinSegments pre ++ 58 :: 58 :: p) = some (segmentsOctets pre ++ [0, 0]) := by
  have hfront := length_segmentsOctets hpre
  have hparse : parseIpv6Groups [] none (joinSegments pre ++ 58 :: 58 :: joinSegments [p]) = _ :=
    parseIpv6Groups_compressed hpre (by simpa using hp) (by omega) (by simp [hlen])
  have hjoin : joinSegments [p] = p := by simp [joinSegments]
  have htwo := hp.length_octets
  have hone : segmentsOctets [p] = segmentOctets p := by simp [segmentsOctets]
  rw [hjoin, hone] at hparse
  rw [ocParseIpv6Address, hparse]
  obtain ⟨a, b, hab⟩ := List.length_eq_two.1 htwo
  rw [hlen] at hfront
  generalize segmentsOctets pre = front at hfront ⊢
  rw [hab]
  show some (moveOctets front.length ((front ++ [a, b]).length - front.length) 15 (front ++ [a, b] ++
    List.replicate (16 - (front ++ [a, b]).length) 0)) = _
  simp [hfront, moveOctets, List.getD_eq_getElem?_getD]

/-! ## Addresses with segments -/

theorem joinSegments_append (segments : List OcString) (p tail : OcString) :
    joinSegments (segments ++ [p]) ++ tail = joinSegments (segments ++ [p ++ tail]) := by
  rw [joinSegments_concat, joinSegments_concat, List.append_assoc]

theorem ipv6Segments_join (hrest : Ends rest) : ∀ {segments : List OcString}, (∀ p ∈ segments, p ≠ [] ∧ 58 ∉ p) →
      ipv6Segments (joinSegments segments ++ rest) = segments ++ ipv6Segments rest := by
  have hbehind : ∀ {segments : List OcString}, (∀ p ∈ segments, p ≠ [] ∧ 58 ∉ p) →
      ipv6Segments (segmentsBehind segments ++ rest) = segments ++ ipv6Segments rest := by
    intro segments
    induction segments with
    | nil => exact fun _ => rfl
    | cons p segments ih =>
      intro h
      obtain ⟨hne, hcolon⟩ := h p List.mem_cons_self
      have htext : segmentsBehind (p :: segments) ++ rest = 58 :: (p ++ (segmentsBehind segments ++ rest)) := by
        simp [segmentsBehind]
      have hends := ends_segmentsBehind segments hrest
      rw [htext, ipv6Segments_colon, ipv6Segments_append hcolon hends, if_neg hne, ipv6Segments_drop hends,
        ih fun q hq => h q (List.mem_cons_of_mem _ hq), List.cons_append]
  intro segments h
  cases segments with
  | nil => rfl
  | cons p segments =>
    obtain ⟨hne, hcolon⟩ := h p List.mem_cons_self
    have hends := ends_segmentsBehind segments hrest
    rw [joinSegments_cons, List.append_assoc, ipv6Segments_append hcolon hends, if_neg hne, ipv6Segments_drop hends,
      hbehind fun q hq => h q (List.mem_cons_of_mem _ hq), List.cons_append]

theorem ipv6Segments_compressed (hpre : ∀ p ∈ pre, p ≠ [] ∧ 58 ∉ p) (hpost : ∀ p ∈ post, p ≠ [] ∧ 58 ∉ p) :
    ipv6Segments (joinSegments pre ++ 58 :: 58 :: joinSegments post) = pre ++ post := by
  have hread := ipv6Segments_join ends_nil hpost
  rw [List.append_nil, ipv6Segments_nil, List.append_nil] at hread
  rw [ipv6Segments_join (fun c hc => by cases hc; rfl) hpre, ipv6Segments_colon, ipv6Segments_colon, hread]

theorem ocParseIpv6Address_long {text p : OcString} (h : ipv6Segments text = segments ++ [p])
    (hroom : segments.length < 8) (hlong : 4 < p.length) : ocParseIpv6Address text = none := by
  have hmem : p ∈ (ipv6Segments text).take 8 := by
    rw [h, List.take_of_length_le (by simp; omega)]
    exact List.mem_append_right _ List.mem_cons_self
  rw [← Option.not_isSome_iff_eq_none, ocParseIpv6Address_ends]
  intro hshort
  exact absurd (hshort p hmem) (by omega)

theorem Segment.plain {p : OcString} (h : Segment p) : p ≠ [] ∧ 58 ∉ p := ⟨h.ne, h.colon⟩

theorem groups_plain (groups : List HexGroup) : ∀ p ∈ groups.map HexGroup.text, p ≠ [] ∧ 58 ∉ p := fun p hp =>
  (segments_groups groups p hp).plain

theorem ocParseIpv6Address_text {a : Ipv6Text} (h : a.hasDotted = false) : ocParseIpv6Address a.text = some a.octets := by
  cases a with
  | full groups eight =>
    have hread := ocParseIpv6Address_full (segments_groups groups) (by rw [List.length_map, eight])
    rwa [segmentsOctets_groups] at hread
  | compressed pre post seven =>
    have hread := ocParseIpv6Address_compressed (segments_groups pre) (segments_groups post)
      (by rwa [List.length_map, List.length_map])
    rwa [segmentsOctets_groups, segmentsOctets_groups, List.length_map, List.length_map] at hread
  | fullDotted groups six tail => cases h
  | compressedDotted pre post five tail => cases h

theorem Ipv4Text.text_chars (t : Ipv4Text) : ∀ c ∈ t.text, c = 46 ∨ Decimal.isDigit c = true := by
  intro c hc
  simp only [Ipv4Text.text, List.mem_append, List.mem_cons] at hc
  obtain h | h | h | h | h | h | h := hc
  · exact .inr (t.a.digits c h)
  · exact .inl h
  · exact .inr (t.b.digits c h)
  · exact .inl h
  · exact .inr (t.c.digits c h)
  · exact .inl h
  · exact .inr (t.d.digits c h)

theorem Ipv4Text.notMem (t : Ipv4Text) {c : UInt8} (hdot : c ≠ 46) (hdigit : Decimal.isDigit c = false) : c ∉ t.text :=
  fun h => by
    obtain rfl | hc := t.text_chars c h
    · exact hdot rfl
    · rw [hdigit] at hc
      cases hc

theorem Ipv4Text.length_text (t : Ipv4Text) : 7 ≤ t.text.length := by
  have ha := t.a.length_pos
  have hb := t.b.length_pos
  have hc := t.c.length_pos
  have hd := t.d.length_pos
  simp only [Ipv4Text.text, List.length_append, List.length_cons]
  omega

theorem ocParseIpv6Address_hasDotted {a : Ipv6Text} (h : a.hasDotted = true) {behind : OcString} (hcolon : 58 ∉ behind) :
    ocParseIpv6Address (a.text ++ behind) = none := by
  have htail (tail : Ipv4Text) : tail.text ++ behind ≠ [] ∧ 58 ∉ tail.text ++ behind := by
    have hlen := tail.length_text
    constructor
    · rintro heq
      rw [(List.append_eq_nil_iff.1 heq).1] at hlen
      exact absurd hlen (by decide)
    · rintro hmem
      obtain hmem | hmem := List.mem_append.1 hmem
      · exact tail.notMem (by decide) (by decide) hmem
      · exact hcolon hmem
  have hlong (tail : Ipv4Text) : 4 < (tail.text ++ behind).length := by
    have hlen := tail.length_text
    rw [List.length_append]
    omega
  have hplain (groups : List HexGroup) (tail : Ipv4Text) :
      ∀ p ∈ groups.map HexGroup.text ++ [tail.text ++ behind], p ≠ [] ∧ 58 ∉ p := by
    rintro p hp
    obtain hp | hp := List.mem_append.1 hp
    · exact groups_plain groups p hp
    · rw [List.mem_singleton.1 hp]
      exact htail tail
  cases a with
  | full groups eight => cases h
  | compressed pre post seven => cases h
  | fullDotted groups six tail =>
    have hsegments := ipv6Segments_join ends_nil (hplain groups tail)
    rw [List.append_nil, ipv6Segments_nil, List.append_nil] at hsegments
    show ocParseIpv6Address (joinSegments _ ++ behind) = none
    rw [joinSegments_append]
    exact ocParseIpv6Address_long hsegments (by rw [List.length_map]; omega) (hlong tail)
  | compressedDotted pre post five tail =>
    have hsegments := ipv6Segments_compressed (groups_plain pre) (hplain post tail)
    rw [← List.append_assoc] at hsegments
    show ocParseIpv6Address (joinSegments _ ++ 58 :: 58 :: joinSegments _ ++ behind) = none
    rw [List.append_assoc, List.cons_append, List.cons_append, joinSegments_append]
    exact ocParseIpv6Address_long hsegments (by rw [List.length_append, List.length_map, List.length_map]; omega)
      (hlong tail)

/-! ## Addresses with a path behind them -/

theorem hexValue_bracket : (hexValue 93 <<< 4) ||| hexValue 47 = 255 := by decide

theorem segmentOctets_bracket {m : OcString} (hcolon : 58 ∉ m) (hshort : m.length ≤ 2) :
    segmentOctets (93 :: 47 :: m) ≠ [0, 0] := by
  have htake : (93 :: 47 :: m).takeWhile (· ≠ 58) = 93 :: 47 :: m := by
    have hread := takeWhile_segment (p := 93 :: 47 :: m) (by simpa using hcolon) ends_nil
    rwa [List.append_nil] at hread
  unfold segmentOctets parseSegment
  rw [htake]
  rcases m with _ | ⟨x, _ | ⟨y, _ | ⟨z, m⟩⟩⟩
  · show ([0, (hexValue 93 <<< 4) ||| hexValue 47] : OcString) ≠ _
    rw [hexValue_bracket]
    decide
  · show [(93 : UInt8), _] ≠ _
    simp
  · show [(hexValue 93 <<< 4) ||| hexValue 47, _] ≠ _
    rw [hexValue_bracket]
    simp
  · simp at hshort

theorem segmentOctets_extended (g : HexGroup) {m : OcString} (hcolon : 58 ∉ m)
    (hshort : (g.text ++ 93 :: 47 :: m).length ≤ 4) : segmentOctets (g.text ++ 93 :: 47 :: m) ≠ segmentOctets g.text := by
  have hplain := g.segment.colon
  have htake : (g.text ++ 93 :: 47 :: m).takeWhile (· ≠ 58) = g.text ++ 93 :: 47 :: m := by
    have hread := takeWhile_segment (p := g.text ++ 93 :: 47 :: m) (by simpa using ⟨hplain, hcolon⟩) ends_nil
    rwa [List.append_nil] at hread
  have hself : g.text.takeWhile (· ≠ 58) = g.text := by
    have hread := takeWhile_segment hplain ends_nil
    rwa [List.append_nil] at hread
  have hnibble (c : UInt8) (hc : c ∈ g.text) : hexValue c ≠ 255 := by
    have hlt := (hexValue_eq c (g.digits c hc)).1
    rintro heq
    rw [heq] at hlt
    exact absurd hlt (by decide)
  have hmixed (h : UInt8) : (h <<< 4) ||| 93 ≠ 0 := by
    rintro heq
    have hle : 93 ≤ ((h <<< 4) ||| 93).toNat := by
      rw [UInt8.toNat_or]
      exact Nat.right_le_or
    rw [heq] at hle
    exact absurd hle (by decide)
  unfold segmentOctets parseSegment
  rw [htake, hself]
  rcases hg : g.text with _ | ⟨a, _ | ⟨b, _ | ⟨c, p⟩⟩⟩
  · exact absurd hg g.ne
  · rw [hg] at hshort hnibble
    rcases m with _ | ⟨x, _ | ⟨y, m⟩⟩
    · show [hexValue a, (hexValue 93 <<< 4) ||| hexValue 47] ≠ [0, hexValue a]
      rw [hexValue_bracket]
      rintro heq
      simp only [List.cons.injEq] at heq
      exact hnibble a (by simp) heq.2.1.symm
    · show [(hexValue a <<< 4) ||| hexValue 93, _] ≠ [0, hexValue a]
      rintro heq
      exact hmixed _ (List.cons.inj heq).1
    · simp only [List.length_append, List.length_cons, List.length_nil] at hshort
      omega
  · rw [hg] at hshort
    rcases m with _ | ⟨x, m⟩
    · show ([(hexValue a <<< 4) ||| hexValue b, (hexValue 93 <<< 4) ||| hexValue 47] : OcString) ≠
        [(0 : UInt8), (hexValue a <<< 4) ||| hexValue b]
      rw [hexValue_bracket]
      rintro heq
      simp only [List.cons.injEq] at heq
      rw [heq.1] at heq
      exact absurd heq.2.1 (by decide)
    · simp only [List.length_append, List.length_cons, List.length_nil] at hshort
      omega
  · rw [hg] at hshort
    simp only [List.length_append, List.length_cons] at hshort
    omega

theorem segment_of_short {p : OcString} (h : p ≠ [] ∧ 58 ∉ p) (hshort : p.length ≤ 4) : Segment p := ⟨h.1, h.2, hshort⟩

/-- With a bracket and a part of the path behind it, an address is read in one case only: seven groups and `::` are in
front of the bracket, and the segment that begins with it is a short one. -/
theorem ocParseIpv6Address_behind {a : Ipv6Text} (h : a.hasDotted = false) {m : OcString} (hcolon : 58 ∉ m) :
    ocParseIpv6Address (a.text ++ 93 :: 47 :: m) = some a.octets ↔ a.sevenInFront = true ∧ m.length ≤ 2 := by
  have hplain (p : OcString) (hp : 58 ∉ p) : p ++ 93 :: 47 :: m ≠ [] ∧ 58 ∉ p ++ 93 :: 47 :: m := by
    refine ⟨by simp, ?_⟩
    simpa using ⟨hp, hcolon⟩
  have hsegments (groups : List HexGroup) {p : OcString} (hp : p ≠ [] ∧ 58 ∉ p) :
      ∀ q ∈ groups.map HexGroup.text ++ [p], q ≠ [] ∧ 58 ∉ q := by
    rintro q hq
    obtain hq | hq := List.mem_append.1 hq
    · exact groups_plain groups q hq
    · rw [List.mem_singleton.1 hq]
      exact hp
  have hall (groups : List HexGroup) {p : OcString} (hp : Segment p) :
      ∀ q ∈ groups.map HexGroup.text ++ [p], Segment q := by
    rintro q hq
    obtain hq | hq := List.mem_append.1 hq
    · exact segments_groups groups q hq
    · rw [List.mem_singleton.1 hq]
      exact hp
  have hoctets (groups : List HexGroup) (p : OcString) :
      segmentsOctets (groups.map HexGroup.text ++ [p]) = groupOctets groups ++ segmentOctets p := by
    rw [← segmentsOctets_groups]
    simp [segmentsOctets]
  have hlast (groups : List HexGroup) (g : HexGroup) :
      groupOctets (groups ++ [g]) = groupOctets groups ++ segmentOctets g.text := by
    rw [g.segmentOctets]
    simp [groupOctets]
  cases a with
  | full groups eight =>
    -- the last group and the path are one segment: another octet pair, or one that is too long
    refine iff_of_false ?_ (by simp [Ipv6Text.sevenInFront])
    obtain rfl | ⟨init, g, rfl⟩ := List.eq_nil_or_concat groups
    · cases eight
    rw [List.concat_eq_append, List.length_append] at eight
    have hq := hplain g.text g.segment.colon
    show ocParseIpv6Address (joinSegments _ ++ 93 :: 47 :: m) ≠ some (groupOctets _)
    rw [List.concat_eq_append, List.map_append, List.map_cons, List.map_nil, joinSegments_append, hlast]
    by_cases hshort : (g.text ++ 93 :: 47 :: m).length ≤ 4
    · rw [ocParseIpv6Address_full (hall init (segment_of_short hq hshort)) (by simpa using eight), hoctets]
      rintro heq
      exact segmentOctets_extended g hcolon hshort (List.append_cancel_left (Option.some.inj heq))
    · have hread := ipv6Segments_join ends_nil (hsegments init hq)
      rw [List.append_nil, ipv6Segments_nil, List.append_nil] at hread
      rw [ocParseIpv6Address_long hread (by simp only [List.length_map, List.length_singleton] at eight ⊢; omega) (by omega)]
      simp
  | compressed pre post seven =>
    obtain rfl | ⟨init, g, rfl⟩ := List.eq_nil_or_concat post
    · -- the bracket begins a segment behind `::`
      have hq : 93 :: 47 :: m ≠ [] ∧ 58 ∉ 93 :: 47 :: m := hplain [] List.not_mem_nil
      have hjoin : joinSegments [] ++ 93 :: 47 :: m = joinSegments [93 :: 47 :: m] := by simp [joinSegments]
      have hone : segmentsOctets [93 :: 47 :: m] = segmentOctets (93 :: 47 :: m) := by simp [segmentsOctets]
      show ocParseIpv6Address (joinSegments _ ++ 58 :: 58 :: joinSegments [] ++ 93 :: 47 :: m) =
        some (groupOctets pre ++ _ ++ groupOctets []) ↔ _
      rw [List.append_assoc, List.cons_append, List.cons_append, hjoin]
      by_cases hshort : (93 :: 47 :: m).length ≤ 4
      · have hsegment := segment_of_short hq hshort
        have hm : m.length ≤ 2 := by
          simp only [List.length_cons] at hshort
          omega
        by_cases hseven : pre.length = 7
        · have hread := ocParseIpv6Address_eighth (segments_groups pre) hsegment (by rw [List.length_map, hseven])
          refine iff_of_true ?_ ⟨decide_eq_true hseven, hm⟩
          rw [← hjoin]
          show ocParseIpv6Address (joinSegments _ ++ 58 :: 58 :: 93 :: 47 :: m) = _
          rw [hread, segmentsOctets_groups, hseven]
          simp [groupOctets, List.replicate]
        · refine iff_of_false ?_ fun hcond => hseven (of_decide_eq_true hcond.1)
          have hsegments : ∀ q ∈ ([93 :: 47 :: m] : List OcString), Segment q := by simpa using hsegment
          rw [ocParseIpv6Address_compressed (segments_groups pre) hsegments
            (by rw [List.length_map, List.length_singleton]; simp at seven; omega), segmentsOctets_groups, hone]
          simp only [List.length_map, List.length_singleton, List.length_nil, Nat.add_zero] at seven ⊢
          -- the address has two zero octets where the bracket's segment is read
          have hzeros : List.replicate (16 - 2 * pre.length) (0 : UInt8) =
              List.replicate (16 - 2 * (pre.length + 1)) 0 ++ [0, 0] := by
            rw [show 16 - 2 * pre.length = 16 - 2 * (pre.length + 1) + 2 by omega, List.replicate_add]
            rfl
          rintro heq
          rw [hzeros, show groupOctets [] = [] from rfl, List.append_nil, ← List.append_assoc] at heq
          exact segmentOctets_bracket hcolon hm (List.append_cancel_left (Option.some.inj heq))
      · have hlong : ¬m.length ≤ 2 := by
          simp only [List.length_cons] at hshort
          omega
        refine iff_of_false ?_ fun hcond => hlong hcond.2
        have hplainLast : ∀ p ∈ ([93 :: 47 :: m] : List OcString), p ≠ [] ∧ 58 ∉ p := by simpa using hq
        have hread := ipv6Segments_compressed (groups_plain pre) hplainLast
        rw [ocParseIpv6Address_long hread (by rw [List.length_map]; simp at seven; omega) (by omega)]
        simp
    · rw [List.concat_eq_append, List.length_append, List.length_singleton] at seven
      have hq := hplain g.text g.segment.colon
      refine iff_of_false ?_ fun hcond => by
        have hseven : pre.length = 7 := of_decide_eq_true hcond.1
        omega
      show ocParseIpv6Address (joinSegments _ ++ 58 :: 58 :: joinSegments _ ++ 93 :: 47 :: m) ≠
        some (groupOctets pre ++ _ ++ groupOctets _)
      rw [List.concat_eq_append, List.map_append, List.map_cons, List.map_nil, List.append_assoc, List.cons_append,
        List.cons_append, joinSegments_append, hlast]
      by_cases hshort : (g.text ++ 93 :: 47 :: m).length ≤ 4
      · rw [ocParseIpv6Address_compressed (segments_groups pre) (hall init (segment_of_short hq hshort))
          (by simpa using seven), hoctets, segmentsOctets_groups]
        simp only [List.length_append, List.length_map, List.length_singleton, ← List.append_assoc]
        rintro heq
        exact segmentOctets_extended g hcolon hshort (List.append_cancel_left (Option.some.inj heq))
      · have hread := ipv6Segments_compressed (groups_plain pre) (hsegments init hq)
        rw [← List.append_assoc] at hread
        rw [ocParseIpv6Address_long hread (by rw [List.length_append, List.length_map, List.length_map]; omega)
          (by omega)]
        simp
  | fullDotted groups six tail => cases h
  | compressedDotted pre post five tail => cases h

end SmartGarage
