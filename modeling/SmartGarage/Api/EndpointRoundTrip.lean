/-
What `oc_endpoint_to_string` prints is read back by `oc_string_to_endpoint`, but for IPv6 addresses with more than
one run of zeros: only the longest run is marked in the text, and the groups of the others are lost.
-/
import SmartGarage.Api.Endpoint
import SmartGarage.Api.Uuid
import Mathlib.Data.List.Induction
import Mathlib.Data.List.TakeWhile

namespace SmartGarage

/-! ## Groups -/

/-- Two octets of an IPv6 address. -/
abbrev Group := UInt8 × UInt8

variable {groups : List Group} {addr rest : OcString} {split : Option Nat}

/-- A group that is printed. -/
def Group.shown (g : Group) : Bool := g ≠ (0, 0)

/-- The octets of groups. -/
def octetsOf (groups : List Group) : OcString := groups.flatMap fun g => [g.1, g.2]

/-- The text of one group. -/
def groupText (g : Group) : OcString := hexGroup g.1 g.2

/-- The groups behind the first one, as far as they are printed. -/
def textBehind (groups : List Group) : OcString :=
  groups.flatMap fun g => if g.shown then 58 :: groupText g else []

/-- The groups of an address, as far as they are printed. -/
def groupsText : List Group → OcString
  | [] => []
  | g :: rest => (if g.shown then groupText g else []) ++ textBehind rest

theorem octetsOf_append (a b : List Group) : octetsOf (a ++ b) = octetsOf a ++ octetsOf b := List.flatMap_append

theorem length_octetsOf (groups : List Group) : (octetsOf groups).length = 2 * groups.length := by
  induction groups with
  | nil => rfl
  | cons g rest ih =>
    show ([g.1, g.2] ++ octetsOf rest).length = _
    rw [List.length_append, ih, List.length_cons]
    simp only [List.length_cons, List.length_nil]
    omega

theorem octetsOf_replicate (k : Nat) : octetsOf (List.replicate k (0, 0)) = List.replicate (2 * k) 0 := by
  induction k with
  | zero => rfl
  | succ k ih =>
    rw [List.replicate_succ]
    show [0, 0] ++ octetsOf (List.replicate k (0, 0)) = _
    rw [ih, show 2 * (k + 1) = 2 * k + 1 + 1 by omega, List.replicate_succ, List.replicate_succ]
    rfl

theorem octetsOf_injective : ∀ {a b : List Group}, octetsOf a = octetsOf b → a = b
  | [], [], _ => rfl
  | [], _ :: _, h => by cases h
  | _ :: _, [], h => by cases h
  | (x, y) :: a, (x', y') :: b, h => by
    obtain ⟨hx, h⟩ := List.cons.inj h
    obtain ⟨hy, h⟩ := List.cons.inj h
    rw [octetsOf_injective (show octetsOf a = octetsOf b from h), show x = x' from hx, show y = y' from hy]

theorem exists_groups : ∀ (n : Nat) {address : OcString}, address.length = 2 * n →
    ∃ groups : List Group, groups.length = n ∧ octetsOf groups = address
  | 0, address, h => ⟨[], rfl, (List.length_eq_zero_iff.1 h).symm⟩
  | n + 1, x :: y :: rest, h => by
    obtain ⟨groups, hlen, heq⟩ := exists_groups n (show rest.length = 2 * n by
      simp only [List.length_cons] at h
      omega)
    exact ⟨(x, y) :: groups, by rw [List.length_cons, hlen], by rw [← heq]; rfl⟩
  | n + 1, [_], h => by
    simp only [List.length_cons, List.length_nil] at h
    omega
  | n + 1, [], h => by
    simp only [List.length_nil] at h
    omega

theorem textBehind_append (a b : List Group) : textBehind (a ++ b) = textBehind a ++ textBehind b :=
  List.flatMap_append

theorem groupsText_append {a : List Group} (ha : a ≠ []) (b : List Group) :
    groupsText (a ++ b) = groupsText a ++ textBehind b := by
  cases a with
  | nil => exact absurd rfl ha
  | cons g rest =>
    show _ ++ textBehind (rest ++ b) = _ ++ textBehind rest ++ textBehind b
    rw [textBehind_append, List.append_assoc]

theorem groupsText_zeros (a b : List Group) : groupsText (a ++ (0, 0) :: b) = groupsText a ++ textBehind b := by
  cases a with
  | nil => rfl
  | cons g rest => rw [groupsText_append (List.cons_ne_nil _ _)]; rfl

/-! ## The scan -/

/-- The text has a run of zeros at `p`: a group of zeros stands there. -/
def RunAt (groups : List Group) (p : Nat) : Prop :=
  ∃ a b, groups = a ++ (0, 0) :: b ∧ p = (groupsText a).length + 1

theorem RunAt.append {p : Nat} (h : RunAt groups p) (g : Group) : RunAt (groups ++ [g]) p := by
  obtain ⟨a, b, rfl, hp⟩ := h
  exact ⟨a, b ++ [g], by rw [List.append_assoc]; rfl, hp⟩

/-- What the loop has found in the groups it has gone through. -/
structure Scanned (s : ZeroScan) (groups : List Group) : Prop where
  ip : s.ip = 91 :: groupsText groups
  last : s.lastZeros + 2 = 2 * groups.length ↔ groups.getLast? = some (0, 0)
  far : s.lastZeros = 16 ∨ s.lastZeros + 2 ≤ 2 * groups.length
  run : s.numZeros ≠ 0 → RunAt groups s.startZeros
  zeros : (0, 0) ∈ groups ↔ s.numZeros ≠ 0
  longest : s.maxZerosNum ≠ 0 → RunAt groups s.maxZerosStart
  none : s.maxZerosNum = 0 → s.maxZerosStart = 0

theorem scanned_start : Scanned .start [] :=
  ⟨rfl, by simp [ZeroScan.start], .inl rfl, fun h => absurd rfl h, by simp [ZeroScan.start], fun h => absurd rfl h, fun _ => rfl⟩

theorem mem_append_zeros (groups : List Group) : (0, 0) ∈ groups ++ [((0, 0) : Group)] :=
  List.mem_append_right _ List.mem_cons_self

section

variable {s : ZeroScan} {groups : List Group}

theorem Scanned.zeros_step (h : Scanned s groups) : Scanned (s.zeros (2 * groups.length)) (groups ++ [(0, 0)]) := by
  have hnew : RunAt (groups ++ [(0, 0)]) s.ip.length := ⟨groups, [], rfl, by rw [h.ip, List.length_cons]⟩
  have hip : groupsText (groups ++ [(0, 0)]) = groupsText groups := by
    rw [groupsText_zeros]
    exact List.append_nil _
  have hlen : (groups ++ [((0, 0) : Group)]).length = groups.length + 1 := by simp
  have hlast : (groups ++ [((0, 0) : Group)]).getLast? = some (0, 0) := by simp
  have hlongest := fun hm => (h.longest hm).append (0, 0)
  unfold ZeroScan.zeros
  split
  · refine ⟨by rw [hip]; exact h.ip, iff_of_true ?_ hlast, .inr ?_, fun _ => hnew,
      iff_of_true (mem_append_zeros _) (Nat.succ_ne_zero _), hlongest, h.none⟩
    · rw [hlen]
      show 2 * groups.length + 2 = _
      omega
    · rw [hlen]
      show 2 * groups.length + 2 ≤ _
      omega
  · rename_i hcont
    -- the run goes on: the group in front is one of zeros, and the run has a start
    have hprev := h.last.1 (not_not.1 hcont)
    have hnum : s.numZeros ≠ 0 := h.zeros.1 (List.mem_of_getLast? hprev)
    refine ⟨by rw [hip]; exact h.ip, iff_of_true ?_ hlast, .inr ?_, fun _ => (h.run hnum).append (0, 0),
      iff_of_true (mem_append_zeros _) (Nat.succ_ne_zero _), hlongest, h.none⟩
    · rw [hlen]
      show 2 * groups.length + 2 = _
      omega
    · rw [hlen]
      show 2 * groups.length + 2 ≤ _
      omega

theorem Scanned.longest_step (h : Scanned s groups) : Scanned s.longest groups := by
  unfold ZeroScan.longest
  split
  · rename_i hmore
    have hnum : s.numZeros ≠ 0 := by omega
    exact ⟨h.ip, h.last, h.far, h.run, h.zeros, fun _ => h.run hnum, fun hz => absurd hz hnum⟩
  · exact h

theorem Scanned.shown_step {g : Group} (h : Scanned s groups) (hlen : groups.length < 8) (hg : g ≠ (0, 0)) :
    let colon : OcString := if 2 * groups.length > 0 ∧ 2 * groups.length ≤ 14 then [58] else []
    Scanned { s with ip := s.ip ++ colon ++ hexGroup g.1 g.2 } (groups ++ [g]) := by
  have hshown : g.shown = true := decide_eq_true hg
  have hip : groupsText (groups ++ [g]) =
      groupsText groups ++ (if 2 * groups.length > 0 ∧ 2 * groups.length ≤ 14 then [58] else []) ++ groupText g := by
    by_cases hne : groups = []
    · subst hne
      show (if g.shown then groupText g else []) ++ textBehind [] = _
      rw [if_pos hshown, if_neg (by simp)]
      simp [groupsText, textBehind]
    · have hpos := List.length_pos_iff.2 hne
      rw [groupsText_append hne, if_pos ⟨by omega, by omega⟩, List.append_assoc]
      show groupsText groups ++ ((if g.shown then 58 :: groupText g else []) ++ []) = _
      rw [if_pos hshown, List.append_nil]
      rfl
  have hzeros : (0, 0) ∈ groups ++ [g] ↔ (0, 0) ∈ groups := by
    rw [List.mem_append, List.mem_singleton]
    exact or_iff_left fun heq => hg heq.symm
  have hlength : (groups ++ [g]).length = groups.length + 1 := by simp
  refine ⟨?_, iff_of_false ?_ ?_, ?_, fun hn => (h.run hn).append g, hzeros.trans h.zeros,
    fun hm => (h.longest hm).append g, h.none⟩
  · show s.ip ++ _ ++ hexGroup g.1 g.2 = _
    rw [hip, h.ip]
    rfl
  · rw [hlength]
    have hfar := h.far
    show ¬s.lastZeros + 2 = _
    omega
  · rw [List.getLast?_concat]
    exact fun heq => hg (Option.some.inj heq)
  · rw [hlength]
    have hfar := h.far
    show s.lastZeros = 16 ∨ s.lastZeros + 2 ≤ _
    omega

end

theorem scanOctets_scanned : ∀ {rest done : List Group} {s : ZeroScan}, Scanned s done →
    done.length + rest.length ≤ 8 →
      Scanned (scanOctets s (2 * done.length) (octetsOf rest)) (done ++ rest)
  | [], done, s, h, _ => by
    rw [List.append_nil]
    exact h
  | g :: rest, done, s, h, hlen => by
    rw [List.length_cons] at hlen
    show Scanned (scanOctets s (2 * done.length) (g.1 :: g.2 :: octetsOf rest)) _
    rw [scanOctets]
    have hnext : ∀ {s' : ZeroScan}, Scanned s' (done ++ [g]) →
        Scanned (scanOctets s' (2 * done.length + 2) (octetsOf rest)) (done ++ g :: rest) := fun h' => by
      have hrest := scanOctets_scanned h' (show (done ++ [g]).length + rest.length ≤ 8 by
        rw [List.length_append, List.length_singleton]
        omega)
      rw [List.length_append, List.length_singleton, List.append_assoc] at hrest
      exact hrest
    split
    · rename_i hzero
      have hg : g = (0, 0) := Prod.ext hzero.1 hzero.2
      refine hnext ?_
      rw [hg]
      exact h.zeros_step
    · rename_i hzero
      have hg : g ≠ (0, 0) := fun heq => hzero (by rw [heq]; exact ⟨rfl, rfl⟩)
      exact hnext (h.longest_step.shown_step (by omega) hg)

/-! ## The text of an address -/

/-- The colon behind an address that ends with zeros. -/
def lastColon (groups : List Group) : OcString := if groups.getLast? = some (0, 0) then [58] else []

theorem ipv6Text_eq (hlen : groups.length = 8) : ∃ p, ipv6Text (octetsOf groups) =
      (let ip := 91 :: (groupsText groups ++ lastColon groups)
       if p ≠ 0 then ip.take p ++ (ip.drop p).take 1 ++ ip.drop p else ip) ∧
    ((0, 0) ∉ groups → p = 0) ∧ ((0, 0) ∈ groups → RunAt groups p) := by
  have hscan : Scanned (scanOctets .start 0 (octetsOf groups)) groups :=
    scanOctets_scanned scanned_start (by rw [List.length_nil, Nat.zero_add, hlen])
  unfold ipv6Text
  generalize scanOctets .start 0 (octetsOf groups) = s at hscan
  have hlast : s.lastZeros = 14 ↔ groups.getLast? = some (0, 0) := by
    rw [← hscan.last, hlen]
    omega
  have hip : (if s.lastZeros = 14 then s.ip ++ [58] else s.ip) = 91 :: (groupsText groups ++ lastColon groups) := by
    unfold lastColon
    simp only [hlast, hscan.ip]
    split
    · rfl
    · rw [List.append_nil]
  refine ⟨if s.numZeros > s.maxZerosNum then s.startZeros else s.maxZerosStart, by simp only [hip], ?_, ?_⟩
  · intro hnone
    have hnum : s.numZeros = 0 := not_not.1 fun hne => hnone (hscan.zeros.2 hne)
    rw [if_neg (by omega)]
    refine hscan.none (not_not.1 fun hne => hnone ?_)
    obtain ⟨a, b, hgroups, -⟩ := hscan.longest hne
    rw [hgroups]
    exact List.mem_append_right _ List.mem_cons_self
  · intro hmem
    have hnum := hscan.zeros.1 hmem
    split
    · exact hscan.run hnum
    · exact hscan.longest (by omega)

theorem ipv6Text_shown (hlen : groups.length = 8) (hnone : (0, 0) ∉ groups) :
    ipv6Text (octetsOf groups) = 91 :: groupsText groups := by
  obtain ⟨p, heq, hp, -⟩ := ipv6Text_eq hlen
  have hlast : lastColon groups = [] := if_neg fun hl => hnone (List.mem_of_getLast? hl)
  rw [heq, hp hnone, hlast, List.append_nil]
  rfl

theorem textBehind_cases (groups : List Group) :
    (textBehind groups = [] ∧ ∀ g ∈ groups, g = (0, 0)) ∨ ∃ rest, textBehind groups = 58 :: rest := by
  induction groups with
  | nil => exact .inl ⟨rfl, fun _ h => absurd h List.not_mem_nil⟩
  | cons g rest ih =>
    by_cases hg : g = (0, 0)
    · have htext : textBehind (g :: rest) = textBehind rest := by rw [hg]; rfl
      rw [htext]
      refine ih.imp_left fun ⟨hnil, hall⟩ => ⟨hnil, fun x hx => ?_⟩
      obtain rfl | hx := List.mem_cons.1 hx
      · exact hg
      · exact hall x hx
    · refine .inr ⟨groupText g ++ textBehind rest, ?_⟩
      show (if g.shown then 58 :: groupText g else []) ++ textBehind rest = _
      rw [if_pos (show g.shown = true from decide_eq_true hg)]
      rfl

theorem ipv6Text_zeros (hlen : groups.length = 8) (hmem : (0, 0) ∈ groups) :
    ∃ a b rest, groups = a ++ (0, 0) :: b ∧ textBehind b ++ lastColon groups = 58 :: rest ∧
      ipv6Text (octetsOf groups) = 91 :: (groupsText a ++ 58 :: 58 :: rest) := by
  obtain ⟨p, heq, -, hrun⟩ := ipv6Text_eq hlen
  obtain ⟨a, b, hgroups, hp⟩ := hrun hmem
  have hrest : ∃ rest, textBehind b ++ lastColon groups = 58 :: rest := by
    obtain ⟨hnil, hall⟩ | ⟨rest, hrest⟩ := textBehind_cases b
    · -- only zeros are behind, and the last colon is there
      have hlast : groups.getLast? = some (0, 0) := by
        rw [hgroups, List.getLast?_append, List.getLast?_cons]
        simp only [Option.some_or, Option.some.injEq]
        obtain rfl | ⟨init, g, rfl⟩ := b.eq_nil_or_concat
        · rfl
        · simpa using hall g (by simp)
      exact ⟨[], by rw [hnil, lastColon, if_pos hlast]; rfl⟩
    · exact ⟨rest ++ lastColon groups, by rw [hrest]; rfl⟩
  obtain ⟨rest, hrest⟩ := hrest
  refine ⟨a, b, rest, hgroups, hrest, ?_⟩
  have hip : (91 :: (groupsText groups ++ lastColon groups) : OcString) = (91 :: groupsText a) ++ 58 :: rest := by
    rw [← hrest]
    conv_lhs => rw [hgroups, groupsText_zeros, ← hgroups]
    simp
  have hlength : (91 :: groupsText a).length = p := by rw [hp]; rfl
  rw [heq]
  simp only [hip]
  rw [if_pos (by omega), List.take_left' hlength, List.drop_left' hlength]
  simp

/-! ## Reading groups -/

theorem digit_notLetter : ∀ c : UInt8, Decimal.isDigit c = true → isLetter c = false := forall_byte (by decide +kernel)

theorem hexDigit_nibble : ∀ b : UInt8, b ≤ 15 → hexDigit b ≠ 58 ∧ hexValue (hexDigit b) = b :=
  forall_nibble (by decide)

theorem hexToBin_one {b : UInt8} (h : b ≤ 15) (rest : OcString) : hexToBin (hexDigit b :: rest) 1 = b :=
  (hexDigit_nibble b h).2

theorem hexToBin_two (b : UInt8) (rest : OcString) :
    hexToBin (hexDigit (b >>> 4) :: hexDigit (b &&& 15) :: rest) 2 = b := by
  show (hexValue (hexDigit (b >>> 4)) <<< 4) ||| hexValue (hexDigit (b &&& 15)) = b
  rw [(hexDigit_nibble _ (high_le b)).2, (hexDigit_nibble _ (low_le b)).2]
  exact join_nibbles b

theorem groupText_cases (g : Group) :
    (g.1 = 0 ∧ g.2 ≤ 15 ∧ groupText g = [hexDigit g.2]) ∨
      (g.1 = 0 ∧ groupText g = [hexDigit (g.2 >>> 4), hexDigit (g.2 &&& 15)]) ∨
      (g.1 ≤ 15 ∧ groupText g = [hexDigit g.1, hexDigit (g.2 >>> 4), hexDigit (g.2 &&& 15)]) ∨
      groupText g = [hexDigit (g.1 >>> 4), hexDigit (g.1 &&& 15), hexDigit (g.2 >>> 4), hexDigit (g.2 &&& 15)] := by
  unfold groupText hexGroup
  by_cases hhigh : g.1 = 0
  · by_cases hlow : g.2 ≤ 0x0f
    · rw [if_pos hhigh, if_pos ⟨hhigh, hlow⟩]
      exact .inl ⟨hhigh, hlow, rfl⟩
    · rw [if_pos hhigh, if_neg fun h => hlow h.2]
      exact .inr (.inl ⟨hhigh, rfl⟩)
  · rw [if_neg hhigh, if_neg (show ¬(g.1 = 0 ∧ g.2 ≤ 0x0f) from fun h => hhigh h.1)]
    by_cases hone : g.1 ≤ 0x0f
    · rw [if_pos hone]
      exact .inr (.inr (.inl ⟨hone, rfl⟩))
    · rw [if_neg hone]
      exact .inr (.inr (.inr rfl))

theorem groupText_noColon (g : Group) : ∀ c ∈ groupText g, c ≠ 58 := by
  have hhigh := fun b => (hexDigit_nibble _ (high_le b)).1
  have hlow := fun b => (hexDigit_nibble _ (low_le b)).1
  obtain ⟨-, hle, h⟩ | ⟨-, h⟩ | ⟨hle, h⟩ | h := groupText_cases g
  · rw [h]
    simpa using (hexDigit_nibble _ hle).1
  · rw [h]
    simpa using ⟨hhigh _, hlow _⟩
  · rw [h]
    simpa using ⟨(hexDigit_nibble _ hle).1, hhigh _, hlow _⟩
  · rw [h]
    simpa using ⟨hhigh _, hlow _, hhigh _, hlow _⟩

/-- What is behind a group starts with a colon, or is the end. -/
def Ends (rest : OcString) : Prop := ∀ c ∈ rest.head?, c = 58

theorem takeWhile_groupText (g : Group) (hrest : Ends rest) : (groupText g ++ rest).takeWhile (· ≠ 58)
    = groupText g := by
  rw [List.takeWhile_append_of_pos fun c hc => decide_eq_true (groupText_noColon g c hc)]
  cases rest with
  | nil => simp
  | cons c rest =>
    have hc : c = 58 := hrest c rfl
    rw [hc, List.takeWhile_cons_of_neg (by decide), List.append_nil]

theorem parseSegment_group (g : Group) (hrest : Ends rest) :
    parseSegment (groupText g ++ rest) = some ([g.1, g.2], rest) := by
  unfold parseSegment
  rw [takeWhile_groupText g hrest]
  obtain ⟨hzero, hle, h⟩ | ⟨hzero, h⟩ | ⟨hle, h⟩ | h := groupText_cases g
  · rw [h, hzero]
    show some ([0, hexToBin (hexDigit g.2 :: rest) 1], rest) = _
    rw [hexToBin_one hle]
  · rw [h, hzero]
    show some ([0, hexToBin (hexDigit (g.2 >>> 4) :: hexDigit (g.2 &&& 15) :: rest) 2], rest) = _
    rw [hexToBin_two]
  · rw [h]
    show some ([hexToBin (hexDigit g.1 :: _) 1, hexToBin (hexDigit (g.2 >>> 4) :: hexDigit (g.2 &&& 15) :: rest) 2], rest)
      = _
    rw [hexToBin_one hle, hexToBin_two]
  · rw [h]
    show some ([hexToBin (hexDigit (g.1 >>> 4) :: hexDigit (g.1 &&& 15) :: _) 2,
      hexToBin (hexDigit (g.2 >>> 4) :: hexDigit (g.2 &&& 15) :: rest) 2], rest) = _
    rw [hexToBin_two, hexToBin_two]

theorem parseIpv6Groups_step {addr octets s rest : OcString} (haddr : addr.length < 15) (hs : s ≠ [])
    (h : parseSegment (splitAt addr split s).2 = some (octets, rest)) :
    parseIpv6Groups addr split s = parseIpv6Groups (addr ++ octets) (splitAt addr split s).1 rest := by
  conv_lhs => rw [parseIpv6Groups]
  rw [dif_neg (by
    rintro (hge | heq)
    · omega
    · exact hs heq)]
  split
  · rename_i octets' rest' heq
    rw [h] at heq
    cases heq
    rfl
  · rename_i heq
    rw [h] at heq
    cases heq

theorem parseIpv6Groups_stuck {addr s : OcString} (haddr : addr.length < 15) (hs : s ≠ [])
    (h : parseSegment (splitAt addr split s).2 = none) : parseIpv6Groups addr split s = none := by
  rw [parseIpv6Groups, dif_neg (by
    rintro (hge | heq)
    · omega
    · exact hs heq)]
  split
  · rename_i heq
    rw [h] at heq
    cases heq
  · rfl

theorem parseIpv6Groups_done (addr : OcString) (split : Option Nat) : parseIpv6Groups addr split [] = some (addr, split) := by
  rw [parseIpv6Groups, dif_pos (.inr rfl)]

theorem splitAt_single {addr s : OcString} (h : split ≠ none ∨ s.take 2 ≠ [58, 58]) :
    splitAt addr split s = (split, s) := by
  unfold splitAt
  rw [if_neg fun hboth => h.elim (fun hs => hs hboth.1) fun ht => ht hboth.2]

theorem parseIpv6Groups_colon (haddr : addr.length < 15) (h : split ≠ none ∨ rest.head? ≠ some 58) :
    parseIpv6Groups addr split (58 :: rest) = parseIpv6Groups addr split rest := by
  have hsplit : splitAt addr split (58 :: rest) = (split, 58 :: rest) := splitAt_single (h.imp_right fun hne htake => by
    cases rest with
    | nil => cases htake
    | cons c rest =>
      have hc : c = 58 := (List.cons.inj (List.cons.inj htake).2).1
      exact hne (by rw [hc]; rfl))
  have hstep := parseIpv6Groups_step haddr (List.cons_ne_nil 58 rest)
    (show parseSegment (splitAt addr split (58 :: rest)).2 = some ([], rest) by rw [hsplit]; rfl)
  rw [hstep, hsplit, List.append_nil]

theorem parseIpv6Groups_double (haddr : addr.length < 15) :
    parseIpv6Groups addr none (58 :: 58 :: rest) = parseIpv6Groups addr (some addr.length) rest := by
  have hsplit : splitAt addr none (58 :: 58 :: rest) = (some addr.length, rest) := rfl
  by_cases hrest : rest = []
  · subst hrest
    have hstep := parseIpv6Groups_step haddr (List.cons_ne_nil 58 [58])
      (show parseSegment (splitAt addr none [58, 58]).2 = some ([], []) from rfl)
    rw [hstep, hsplit, List.append_nil]
  · have hsame : splitAt addr (some addr.length) rest = (some addr.length, rest) := splitAt_single (.inl (by simp))
    cases hseg : parseSegment rest with
    | none =>
      rw [parseIpv6Groups_stuck haddr (List.cons_ne_nil _ _) (by rw [hsplit, hseg]),
        parseIpv6Groups_stuck haddr hrest (by rw [hsame, hseg])]
    | some found =>
      obtain ⟨octets, behind⟩ := found
      have hleft : parseSegment (splitAt addr none (58 :: 58 :: rest)).2 = some (octets, behind) := by rw [hsplit, hseg]
      have hright : parseSegment (splitAt addr (some addr.length) rest).2 = some (octets, behind) := by rw [hsame, hseg]
      rw [parseIpv6Groups_step haddr (List.cons_ne_nil _ _) hleft, parseIpv6Groups_step haddr hrest hright, hsplit, hsame]

theorem parseIpv6Groups_group (g : Group) (haddr : addr.length < 15) (hrest : Ends rest) :
    parseIpv6Groups addr split (groupText g ++ rest) = parseIpv6Groups (addr ++ [g.1, g.2]) split rest := by
  have hne : groupText g ≠ [] := by
    obtain ⟨-, -, h⟩ | ⟨-, h⟩ | ⟨-, h⟩ | h := groupText_cases g <;> rw [h] <;> exact List.cons_ne_nil _ _
  obtain ⟨c, cs, hc⟩ := List.exists_cons_of_ne_nil hne
  have hcolon : c ≠ 58 := groupText_noColon g c (by rw [hc]; exact List.mem_cons_self)
  have hsplit : splitAt addr split (groupText g ++ rest) = (split, groupText g ++ rest) :=
    splitAt_single (.inr fun htake => by
      rw [hc] at htake
      exact hcolon (List.cons.inj htake).1)
  have hstep := parseIpv6Groups_step haddr (show groupText g ++ rest ≠ [] from fun h => hne (List.append_eq_nil_iff.1 h).1)
    (show parseSegment (splitAt addr split (groupText g ++ rest)).2 = some ([g.1, g.2], rest) by
      rw [hsplit]; exact parseSegment_group g hrest)
  rw [hstep, hsplit]

/-- The groups that are printed. -/
def shownOf (groups : List Group) : List Group := groups.filter Group.shown

theorem ends_textBehind (groups : List Group) (hrest : Ends rest) : Ends (textBehind groups ++ rest) := by
  obtain ⟨hnil, -⟩ | ⟨text, htext⟩ := textBehind_cases groups
  · rw [hnil]
    exact hrest
  · rw [htext]
    intro c hc
    cases hc
    rfl

theorem parseIpv6Groups_behind (hrest : Ends rest) :
    ∀ {groups : List Group} {addr : OcString}, addr.length + 2 * (shownOf groups).length ≤ 16 →
      parseIpv6Groups addr split (textBehind groups ++ rest) =
        parseIpv6Groups (addr ++ octetsOf (shownOf groups)) split rest
  | [], addr, _ => by
    show parseIpv6Groups addr split rest = parseIpv6Groups (addr ++ []) split rest
    rw [List.append_nil]
  | g :: groups, addr, hlen => by
    by_cases hg : g.shown = true
    · have hshown : shownOf (g :: groups) = g :: shownOf groups := List.filter_cons_of_pos hg
      have htext : textBehind (g :: groups) = 58 :: (groupText g ++ textBehind groups) := by
        show (if g.shown then 58 :: groupText g else []) ++ textBehind groups = _
        rw [if_pos hg]
        rfl
      rw [hshown, List.length_cons] at hlen
      have hhead : (groupText g ++ textBehind groups ++ rest).head? ≠ some 58 := by
        obtain ⟨c, cs, hc⟩ : ∃ c cs, groupText g = c :: cs := by
          obtain ⟨-, -, h⟩ | ⟨-, h⟩ | ⟨-, h⟩ | h := groupText_cases g <;> exact ⟨_, _, h⟩
        have hcolon : c ≠ 58 := groupText_noColon g c (by rw [hc]; exact List.mem_cons_self)
        rw [hc]
        exact fun heq => hcolon (Option.some.inj heq)
      rw [htext, List.cons_append, parseIpv6Groups_colon (by omega) (.inr hhead), List.append_assoc,
        parseIpv6Groups_group g (by omega) (ends_textBehind groups hrest),
        parseIpv6Groups_behind hrest (by
          rw [List.length_append]
          simp only [List.length_cons, List.length_nil]
          omega), hshown]
      show _ = parseIpv6Groups (addr ++ ([g.1, g.2] ++ octetsOf (shownOf groups))) split rest
      rw [List.append_assoc]
    · have hshown : shownOf (g :: groups) = shownOf groups := List.filter_cons_of_neg hg
      have htext : textBehind (g :: groups) = textBehind groups := by
        show (if g.shown then 58 :: groupText g else []) ++ textBehind groups = _
        rw [if_neg hg]
        rfl
      rw [hshown] at hlen ⊢
      rw [htext]
      exact parseIpv6Groups_behind hrest hlen

theorem parseIpv6Groups_text (rest : OcString) (split : Option Nat) (hrest : Ends rest)
    (hlen : (shownOf groups).length ≤ 8) :
    parseIpv6Groups [] split (groupsText groups ++ rest) = parseIpv6Groups (octetsOf (shownOf groups)) split rest := by
  cases groups with
  | nil => rfl
  | cons g groups =>
    by_cases hg : g.shown = true
    · have hshown : shownOf (g :: groups) = g :: shownOf groups := List.filter_cons_of_pos hg
      rw [hshown, List.length_cons] at hlen
      show parseIpv6Groups [] split ((if g.shown then groupText g else []) ++ textBehind groups ++ rest) = _
      rw [if_pos hg, List.append_assoc, parseIpv6Groups_group g (by decide) (ends_textBehind groups hrest),
        parseIpv6Groups_behind hrest (by
          show 2 + _ ≤ _
          omega), hshown]
      rfl
    · have hshown : shownOf (g :: groups) = shownOf groups := List.filter_cons_of_neg hg
      rw [hshown] at hlen ⊢
      show parseIpv6Groups [] split ((if g.shown then groupText g else []) ++ textBehind groups ++ rest) = _
      rw [if_neg hg]
      exact parseIpv6Groups_behind hrest (by
        show 0 + _ ≤ _
        omega)

/-! ## The octets behind the zeros -/

theorem set_length (xs ys : OcString) (b c : UInt8) {i : Nat} (h : i = xs.length) :
    (xs ++ b :: ys).set i c = xs ++ c :: ys := by
  subst h
  simp

theorem moveOctets_eq (pre : OcString) : ∀ (mid : OcString) (z : Nat) (behind : OcString),
    moveOctets pre.length mid.length (pre.length + mid.length + z) (pre ++ mid ++ List.replicate (z + 1) 0 ++ behind) =
      pre ++ List.replicate (z + 1) 0 ++ mid ++ behind := by
  intro mid
  induction mid using List.reverseRecOn with
  | nil =>
    intro z behind
    rw [List.length_nil, moveOctets, List.append_nil, List.append_nil]
  | append_singleton mid b ih =>
    intro z behind
    have hlength : (mid ++ [b]).length = mid.length + 1 := by simp
    rw [hlength, moveOctets]
    have hget : (pre ++ (mid ++ [b]) ++ List.replicate (z + 1) 0 ++ behind).getD (pre.length + mid.length) 0 = b := by
      simp [List.getD_eq_getElem?_getD]
    have hset : ((pre ++ (mid ++ [b]) ++ List.replicate (z + 1) 0 ++ behind).set (pre.length + (mid.length + 1) + z) b).set
        (pre.length + mid.length) 0 = pre ++ mid ++ List.replicate (z + 1) 0 ++ (b :: behind) := by
      have hlast : pre ++ (mid ++ [b]) ++ List.replicate (z + 1) 0 ++ behind =
          (pre ++ mid ++ [b] ++ List.replicate z 0) ++ 0 :: behind := by
        rw [List.replicate_succ']
        simp
      have hfirst : (pre ++ mid ++ [b] ++ List.replicate z 0) ++ b :: behind =
          (pre ++ mid) ++ b :: (List.replicate z 0 ++ b :: behind) := by
        simp
      rw [hlast, set_length _ _ _ _ (by simp; omega), hfirst, set_length _ _ _ _ (by simp), List.replicate_succ]
      simp
    rw [hget, hset, show pre.length + (mid.length + 1) + z - 1 = pre.length + mid.length + z by omega, ih z (b :: behind)]
    simp

/-! ## Addresses -/

theorem shownOf_zeros {groups a b : List Group} (h : groups = a ++ (0, 0) :: b) :
    (shownOf a).length + (shownOf b).length < groups.length := by
  have ha := List.length_filter_le Group.shown a
  have hb := List.length_filter_le Group.shown b
  rw [h, List.length_append, List.length_cons]
  unfold shownOf
  omega

theorem ends_lastColon (groups : List Group) : Ends (lastColon groups) := by
  unfold lastColon
  split
  · intro c hc
    cases hc
    rfl
  · intro c hc
    cases hc

theorem ocParseIpv6Address_shown (hlen : groups.length = 8) (hnone : (0, 0) ∉ groups) :
    ocParseIpv6Address (groupsText groups) = some (octetsOf groups) := by
  have hall : shownOf groups = groups :=
    List.filter_eq_self.2 fun g hg => decide_eq_true fun heq => hnone (heq ▸ hg)
  have hparse := parseIpv6Groups_text [] none (fun c hc => by cases hc)
    (show (shownOf groups).length ≤ 8 by rw [hall, hlen])
  rw [List.append_nil, hall, parseIpv6Groups_done] at hparse
  rw [ocParseIpv6Address, hparse]
  show some (octetsOf groups ++ List.replicate (16 - (octetsOf groups).length) 0) = _
  rw [length_octetsOf, hlen]
  exact congrArg some (List.append_nil _)

theorem ocParseIpv6Address_zeros {groups a b : List Group} (hlen : groups.length = 8)
    (hgroups : groups = a ++ (0, 0) :: b) (hrest : textBehind b ++ lastColon groups = 58 :: rest) :
    ocParseIpv6Address (groupsText a ++ 58 :: 58 :: rest) = some (octetsOf (shownOf a) ++
      List.replicate (16 - 2 * ((shownOf a).length + (shownOf b).length)) 0 ++ octetsOf (shownOf b)) := by
  have hcount := shownOf_zeros hgroups
  have haddr : (octetsOf (shownOf a)).length < 15 := by
    rw [length_octetsOf]
    omega
  have hboth : (octetsOf (shownOf a) ++ octetsOf (shownOf b)).length < 15 := by
    rw [List.length_append, length_octetsOf, length_octetsOf]
    omega
  have hdone : ∀ {addr : OcString} {i : Nat}, addr.length < 15 →
      parseIpv6Groups addr (some i) (lastColon groups) = some (addr, some i) := fun h => by
    unfold lastColon
    split
    · rw [parseIpv6Groups_colon h (.inl (by simp)), parseIpv6Groups_done]
    · rw [parseIpv6Groups_done]
  have hparse : parseIpv6Groups [] none (groupsText a ++ 58 :: 58 :: rest) =
      some (octetsOf (shownOf a) ++ octetsOf (shownOf b), some (octetsOf (shownOf a)).length) := by
    rw [parseIpv6Groups_text _ _ (fun c hc => by cases hc; rfl) (by omega), parseIpv6Groups_double haddr,
      ← parseIpv6Groups_colon haddr (.inl (by simp)), ← hrest,
      parseIpv6Groups_behind (ends_lastColon groups) (by rw [length_octetsOf]; omega), hdone hboth]
  have hmove := moveOctets_eq (octetsOf (shownOf a)) (octetsOf (shownOf b))
    (15 - ((octetsOf (shownOf a)).length + (octetsOf (shownOf b)).length)) []
  rw [ocParseIpv6Address, hparse]
  show some (moveOctets (octetsOf (shownOf a)).length ((octetsOf (shownOf a) ++ octetsOf (shownOf b)).length -
    (octetsOf (shownOf a)).length) 15 (octetsOf (shownOf a) ++ octetsOf (shownOf b) ++
      List.replicate (16 - (octetsOf (shownOf a) ++ octetsOf (shownOf b)).length) 0)) = _
  rw [List.length_append] at hboth ⊢
  rw [List.append_nil, List.append_nil, Nat.add_sub_cancel' (by omega)] at hmove
  rw [Nat.add_sub_cancel_left, show 16 - ((octetsOf (shownOf a)).length + (octetsOf (shownOf b)).length) =
    15 - ((octetsOf (shownOf a)).length + (octetsOf (shownOf b)).length) + 1 by omega, hmove, length_octetsOf,
    length_octetsOf, show 15 - (2 * (shownOf a).length + 2 * (shownOf b).length) + 1 =
      16 - 2 * ((shownOf a).length + (shownOf b).length) by omega]

/-! ## Zeros that stand together -/

/-- The groups of an address. -/
def groupsOf : OcString → List Group
  | x :: y :: rest => (x, y) :: groupsOf rest
  | _ => []

theorem groupsOf_octetsOf (groups : List Group) : groupsOf (octetsOf groups) = groups := by
  induction groups with
  | nil => rfl
  | cons g rest ih =>
    show (g.1, g.2) :: groupsOf (octetsOf rest) = g :: rest
    rw [ih]

/-- A group that is not printed by itself. -/
def Group.hidden (g : Group) : Bool := !g.shown

/-- Behind the first run of zero groups of an address no group is zero. -/
def ZerosTogether (address : OcString) : Prop :=
  ∀ g ∈ ((groupsOf address).dropWhile Group.shown).dropWhile Group.hidden, Group.shown g = true

instance (address : OcString) : Decidable (ZerosTogether address) := List.decidableBAll _ _

theorem shown_iff {g : Group} : g.shown = true ↔ g ≠ (0, 0) := decide_eq_true_iff

theorem hidden_iff {g : Group} : g.hidden = true ↔ g = (0, 0) := by
  rw [Group.hidden, Bool.not_eq_true', Group.shown, decide_eq_false_iff_not, not_not]

theorem together_iff (groups : List Group) : ZerosTogether (octetsOf groups) ↔
    ∃ a k b, groups = a ++ List.replicate k (0, 0) ++ b ∧ (∀ g ∈ a, Group.shown g = true) ∧
      ∀ g ∈ b, Group.shown g = true := by
  unfold ZerosTogether
  rw [groupsOf_octetsOf]
  constructor
  · intro h
    refine ⟨groups.takeWhile Group.shown, ((groups.dropWhile Group.shown).takeWhile Group.hidden).length,
      (groups.dropWhile Group.shown).dropWhile Group.hidden, ?_, fun g hg => List.mem_takeWhile_imp hg, h⟩
    have hzeros : (groups.dropWhile Group.shown).takeWhile Group.hidden =
        List.replicate ((groups.dropWhile Group.shown).takeWhile Group.hidden).length (0, 0) :=
      List.eq_replicate_iff.2 ⟨rfl, fun g hg => hidden_iff.1 (List.mem_takeWhile_imp hg)⟩
    rw [← hzeros, List.append_assoc, List.takeWhile_append_dropWhile, List.takeWhile_append_dropWhile]
  · rintro ⟨a, k, b, rfl, ha, hb⟩
    have hdrop : ((a ++ List.replicate k (0, 0) ++ b).dropWhile Group.shown).dropWhile Group.hidden ⊆ b := by
      rw [List.append_assoc, List.dropWhile_append_of_pos ha]
      cases k with
      | zero => exact ((List.dropWhile_suffix _).trans (List.dropWhile_suffix _)).subset
      | succ k =>
        have hstop : (List.replicate (k + 1) ((0, 0) : Group) ++ b).dropWhile Group.shown =
            List.replicate (k + 1) (0, 0) ++ b := List.dropWhile_cons_of_neg (by decide)
        rw [hstop, List.dropWhile_append_of_pos fun g hg => hidden_iff.2 (List.eq_of_mem_replicate hg)]
        exact (List.dropWhile_suffix _).subset
    exact fun g hg => hb g (hdrop hg)

theorem shownOf_eq_self (h : ∀ g ∈ groups, Group.shown g = true) : shownOf groups = groups :=
  List.filter_eq_self.2 h

theorem shownOf_together : ∀ {p a b q : List Group} {k : Nat}, a ++ (0, 0) :: b = p ++ List.replicate k (0, 0) ++ q →
    (∀ g ∈ p, Group.shown g = true) → (∀ g ∈ q, Group.shown g = true) → shownOf a = p ∧ shownOf b = q
  | [], [], b, q, 0, h, _, hq => by
    have hmem : ((0, 0) : Group) ∈ q := by
      rw [show q = (0, 0) :: b from h.symm]
      exact List.mem_cons_self
    exact absurd (hq _ hmem) (by decide)
  | [], [], b, q, k + 1, h, _, hq => by
    have hb : b = List.replicate k (0, 0) ++ q := (List.cons.inj h).2
    refine ⟨rfl, ?_⟩
    rw [hb, shownOf, List.filter_append, List.filter_eq_nil_iff.2 fun g hg => by
      rw [List.eq_of_mem_replicate hg]
      decide]
    exact shownOf_eq_self hq
  | [], g :: a, b, q, 0, h, _, hq => by
    have hmem : ((0, 0) : Group) ∈ q := by
      rw [show q = g :: a ++ (0, 0) :: b from h.symm]
      exact List.mem_append_right _ List.mem_cons_self
    exact absurd (hq _ hmem) (by decide)
  | [], g :: a, b, q, k + 1, h, hp, hq => by
    obtain ⟨hg, htail⟩ := List.cons.inj h
    obtain ⟨ha, hb⟩ := shownOf_together (p := []) (k := k) htail hp hq
    refine ⟨?_, hb⟩
    rw [shownOf, List.filter_cons_of_neg (by rw [hg]; decide)]
    exact ha
  | x :: p, [], b, q, k, h, hp, _ => by
    have hx : ((0, 0) : Group) = x := (List.cons.inj h).1
    exact absurd (hp x List.mem_cons_self) (by rw [← hx]; decide)
  | x :: p, g :: a, b, q, k, h, hp, hq => by
    obtain ⟨hg, htail⟩ := List.cons.inj h
    obtain ⟨ha, hb⟩ := shownOf_together htail (fun y hy => hp y (List.mem_cons_of_mem _ hy)) hq
    refine ⟨?_, hb⟩
    rw [shownOf, List.filter_cons_of_pos (by rw [hg]; exact hp x List.mem_cons_self), hg]
    exact congrArg _ ha

theorem ipv6Text_read (hlen : groups.length = 8) : ∃ text read,
    ipv6Text (octetsOf groups) = 91 :: text ∧ ocParseIpv6Address text = some read ∧
      (read = octetsOf groups ↔ ZerosTogether (octetsOf groups)) := by
  by_cases hmem : (0, 0) ∈ groups
  · obtain ⟨a, b, rest, hgroups, hrest, htext⟩ := ipv6Text_zeros hlen hmem
    refine ⟨_, _, htext, ocParseIpv6Address_zeros hlen hgroups hrest, ?_⟩
    have hcount := shownOf_zeros hgroups
    have hread : octetsOf (shownOf a) ++ List.replicate (16 - 2 * ((shownOf a).length + (shownOf b).length)) 0 ++
        octetsOf (shownOf b) = octetsOf (shownOf a ++
          List.replicate (8 - ((shownOf a).length + (shownOf b).length)) (0, 0) ++ shownOf b) := by
      rw [octetsOf_append, octetsOf_append, octetsOf_replicate, Nat.mul_sub]
    rw [hread]
    constructor
    · intro heq
      refine (together_iff groups).2 ⟨_, _, _, (octetsOf_injective heq).symm, ?_, ?_⟩
      · exact fun g hg => (List.mem_filter.1 hg).2
      · exact fun g hg => (List.mem_filter.1 hg).2
    · intro htogether
      obtain ⟨p, k, q, heq, hp, hq⟩ := (together_iff groups).1 htogether
      obtain ⟨ha, hb⟩ := shownOf_together (hgroups.symm.trans heq) hp hq
      have hk : 8 - (p.length + q.length) = k := by
        rw [← hlen, heq]
        simp only [List.length_append, List.length_replicate]
        omega
      rw [ha, hb, hk, ← heq]
  · refine ⟨_, _, ipv6Text_shown hlen hmem, ocParseIpv6Address_shown hlen hmem, iff_of_true rfl ?_⟩
    refine (together_iff groups).2 ⟨groups, 0, [], by simp, fun g hg => shown_iff.2 fun heq => hmem (heq ▸ hg), ?_⟩
    exact fun _ h => absurd h List.not_mem_nil

/-! ## Endpoints -/

/-- The flags of a scheme. -/
def schemeFlags (flags : TransportFlags) : TransportFlags :=
  { TransportFlags.zero with tcp := flags.tcp, secured := flags.secured }

theorem parseScheme_print (flags : TransportFlags) {address : OcString} (hne : address ≠ []) :
    parseScheme (ocScheme flags ++ address) = some (schemeFlags flags, address) := by
  obtain ⟨c, rest, rfl⟩ := List.exists_cons_of_ne_nil hne
  have hcoaps : ascii "coaps+tcp://" = [99, 111, 97, 112, 115, 43, 116, 99, 112, 58, 47, 47] := rfl
  have hcoap : ascii "coap+tcp://" = [99, 111, 97, 112, 43, 116, 99, 112, 58, 47, 47] := rfl
  have hudps : ascii "coaps://" = [99, 111, 97, 112, 115, 58, 47, 47] := rfl
  have hudp : ascii "coap://" = [99, 111, 97, 112, 58, 47, 47] := rfl
  unfold parseScheme ocScheme schemeFlags
  cases htcp : flags.tcp <;> cases hsec : flags.secured <;>
    simp [hcoaps, hcoap, hudps, hudp, TransportFlags.zero]

theorem memchr_eq {c : UInt8} : ∀ {pre : OcString} {n : Nat}, c ∉ pre → pre.length < n →
    memchr (pre ++ c :: rest) c n = some pre.length
  | [], n + 1, _, _ => by
    rw [memchr, List.nil_append, List.take_succ_cons, List.findIdx?_cons, if_pos (decide_eq_true rfl)]
    rfl
  | x :: pre, n + 1, hpre, hn => by
    have hx : x ≠ c := fun heq => hpre (heq ▸ List.mem_cons_self)
    have ih : memchr (pre ++ c :: rest) c n = some pre.length :=
      memchr_eq (fun h => hpre (List.mem_cons_of_mem _ h)) (Nat.lt_of_succ_lt_succ hn)
    rw [memchr] at ih
    rw [memchr, List.cons_append, List.take_succ_cons, List.findIdx?_cons, if_neg (by simpa using hx), ih]
    rfl
  | [], 0, _, h => absurd h (Nat.lt_irrefl 0)
  | _ :: _, 0, _, h => absurd h (Nat.not_lt_zero _)

/-- The characters of an address: the digits and the colon. -/
def TextChar (c : UInt8) : Prop := c = 58 ∨ ∃ n : UInt8, n ≤ 15 ∧ c = hexDigit n

theorem textChar_ne {c : UInt8} (h : TextChar c) : c ≠ 93 := by
  obtain rfl | ⟨n, hn, rfl⟩ := h
  · decide
  · exact (hexDigit_ne n hn).2.2.2.1

theorem textChar_groupText (g : Group) : ∀ c ∈ groupText g, TextChar c := by
  have hnibble : ∀ {b : UInt8}, b ≤ 15 → TextChar (hexDigit b) := fun h => .inr ⟨_, h, rfl⟩
  obtain ⟨-, hle, h⟩ | ⟨-, h⟩ | ⟨hle, h⟩ | h := groupText_cases g
  · rw [h]
    simpa using hnibble hle
  · rw [h]
    simpa using ⟨hnibble (high_le _), hnibble (low_le _)⟩
  · rw [h]
    simpa using ⟨hnibble hle, hnibble (high_le _), hnibble (low_le _)⟩
  · rw [h]
    simpa using ⟨hnibble (high_le _), hnibble (low_le _), hnibble (high_le _), hnibble (low_le _)⟩

theorem textChar_behind (groups : List Group) : ∀ c ∈ textBehind groups, TextChar c := by
  intro c hc
  obtain ⟨g, -, hg⟩ := List.mem_flatMap.1 hc
  split at hg
  · obtain rfl | hg := List.mem_cons.1 hg
    · exact .inl rfl
    · exact textChar_groupText g c hg
  · cases hg

theorem textChar_groups (groups : List Group) : ∀ c ∈ groupsText groups, TextChar c := by
  cases groups with
  | nil => exact fun _ h => absurd h List.not_mem_nil
  | cons g rest =>
    intro c hc
    obtain hc | hc := List.mem_append.1 hc
    · split at hc
      · exact textChar_groupText g c hc
      · cases hc
    · exact textChar_behind rest c hc

theorem textChar_ipv6Text (hlen : groups.length = 8) {text : OcString} (h : ipv6Text (octetsOf groups) = 91 :: text) :
    ∀ c ∈ text, TextChar c := by
  by_cases hmem : (0, 0) ∈ groups
  · obtain ⟨a, b, rest, -, hrest, htext⟩ := ipv6Text_zeros hlen hmem
    have heq := (List.cons.inj (h.symm.trans htext)).2
    have hbehind : ∀ c ∈ (58 :: rest : OcString), TextChar c := fun c hc => by
      rw [← hrest] at hc
      obtain hc | hc := List.mem_append.1 hc
      · exact textChar_behind b c hc
      · unfold lastColon at hc
        split at hc
        · exact .inl (List.mem_singleton.1 hc)
        · cases hc
    intro c hc
    rw [heq] at hc
    obtain hc | hc := List.mem_append.1 hc
    · exact textChar_groups a c hc
    · obtain rfl | hc := List.mem_cons.1 hc
      · exact .inl rfl
      · exact hbehind c hc
  · have heq := (List.cons.inj (h.symm.trans (ipv6Text_shown hlen hmem))).2
    rw [heq]
    exact textChar_groups groups

theorem portColon_ipv6 {text digits : OcString} (htext : ∀ c ∈ text, TextChar c) (hdigits : digits ≠ []) :
    portColon ((91 :: text) ++ 93 :: 58 :: digits) = some (some (text.length + 2)) := by
  have hpos := List.length_pos_iff.2 hdigits
  have hbracket : memchr ((91 :: text) ++ 93 :: 58 :: digits) 93 ((91 :: text) ++ 93 :: 58 :: digits).length =
      some (text.length + 1) :=
    memchr_eq (fun h => by
      obtain h | h := List.mem_cons.1 h
      · exact absurd h (by decide)
      · exact textChar_ne (htext _ h) rfl) (by simp)
  have hdrop : ((91 :: text) ++ 93 :: 58 :: digits : OcString).drop (text.length + 1) = [93] ++ 58 :: digits :=
    List.drop_left' (by simp)
  have hport : memchr ([93] ++ 58 :: digits) 58 (((91 :: text) ++ 93 :: 58 :: digits).length - (text.length + 1 + 1)) =
      some 1 := memchr_eq (by decide) (by
    simp only [List.length_append, List.length_cons, List.length_nil]
    omega)
  unfold portColon
  rw [if_pos (show ((91 :: text) ++ 93 :: 58 :: digits : OcString).head? = some 91 from rfl), hbracket, Option.map_some,
    hdrop, hport]
  rfl

theorem strtoul_port {port : Nat} (h : port < 2 ^ 16) : (Decimal.strtoul (Decimal.print port)).1 % 2 ^ 16 = port := by
  have hread := Decimal.strtoul_print [] (show port < 2 ^ 64 by omega) (fun b hb => by cases hb)
  rw [List.append_nil] at hread
  rw [hread]
  exact Nat.mod_eq_of_lt h

variable (ocDnsLookup : OcString → TransportFlags → Option OcString)

theorem ocStringToEndpoint_ipv6 (flags : TransportFlags) {text read : OcString} {port : Nat}
    (htext : ∀ c ∈ text, TextChar c) (hread : ocParseIpv6Address text = some read) (hport : port < 2 ^ 16) :
    ∃ uri, ocStringToEndpoint ocDnsLookup (ocScheme flags ++ ((91 :: text) ++ 93 :: 58 :: Decimal.print port)) =
      .ok { OcEndpoint.zero with
        flags := { schemeFlags flags with ipv6 := true }, address := read, port := port } uri := by
  have htake : ((91 :: text) ++ 93 :: 58 :: Decimal.print port : OcString).take (text.length + 2) = (91 :: text) ++ [93] := by
    rw [show (91 :: text) ++ 93 :: 58 :: Decimal.print port = ((91 :: text) ++ [93]) ++ 58 :: Decimal.print port by simp]
    exact List.take_left' (by simp)
  have hlast : (((91 :: text) ++ 93 :: 58 :: Decimal.print port : OcString).take (text.length + 2)).getLastD 47 = 93 := by
    rw [htake, List.getLastD_eq_getLast?, List.getLast?_concat]
    rfl
  have hdrop : ((91 :: text) ++ 93 :: 58 :: Decimal.print port : OcString).drop (text.length + 2 + 1) =
      Decimal.print port := by
    rw [show (91 :: text) ++ 93 :: 58 :: Decimal.print port = ((91 :: text) ++ [93, 58]) ++ Decimal.print port by simp]
    exact List.drop_left' (by simp)
  have hinner : (((91 :: text) ++ 93 :: 58 :: Decimal.print port : OcString).take (text.length + 2 - 1)).drop 1 = text := by
    rw [List.take_left' (by simp)]
    rfl
  have hresolve : resolve ocDnsLookup ((91 :: text) ++ 93 :: 58 :: Decimal.print port) (text.length + 2)
      (schemeFlags flags) = some ((91 :: text) ++ 93 :: 58 :: Decimal.print port, text.length + 2) := by
    unfold resolve
    rw [hlast, if_neg (by decide)]
  unfold ocStringToEndpoint ocParseEndpointString
  rw [parseScheme_print flags (by simp)]
  simp only [portColon_ipv6 htext (Decimal.print_ne_nil port), Option.getD_some, hresolve, hdrop, strtoul_port hport,
    hlast, hinner, hread]
  rw [if_pos ⟨rfl, trivial⟩]
  exact ⟨_, rfl⟩

theorem parseIpv4Octets_print {a : UInt8} {n len : Nat} {sep : UInt8} (hlen : len ≠ 0)
    (hsep : Decimal.isDigit sep = false) :
    parseIpv4Octets (n + 1) len (Decimal.print a.toNat ++ sep :: rest) =
      a :: parseIpv4Octets n (len - ((Decimal.print a.toNat).length + 1)) rest := by
  have hlt : a.toNat < 2 ^ 64 := Nat.lt_of_lt_of_le a.toNat_lt (by decide)
  have hread := Decimal.strtoul_print (sep :: rest) hlt (fun b hb => by cases hb; exact hsep)
  rw [parseIpv4Octets, if_neg hlen]
  simp only [hread]
  rw [UInt8.ofNat_toNat, List.length_append, Nat.add_sub_cancel]
  rfl

/-- Four octets with dots. -/
def dotted (a b c d : UInt8) : OcString :=
  Decimal.print a.toNat ++ 46 :: (Decimal.print b.toNat ++ 46 :: (Decimal.print c.toNat ++ 46 :: Decimal.print d.toNat))

theorem digit_ne {x c : UInt8} (h : Decimal.isDigit x = true) (hc : c.toNat < 48 ∨ 57 < c.toNat) : x ≠ c := by
  rintro rfl
  have hbounds : 48 ≤ x.toNat ∧ x.toNat ≤ 57 := of_decide_eq_true h
  omega

theorem dotted_chars {a b c d : UInt8} : ∀ x ∈ dotted a b c d, x = 46 ∨ Decimal.isDigit x = true := by
  intro x hx
  unfold dotted at hx
  simp only [List.mem_append, List.mem_cons] at hx
  obtain h | rfl | h | rfl | h | rfl | h := hx
  · exact .inr (Decimal.isDigit_print _ x h)
  · exact .inl rfl
  · exact .inr (Decimal.isDigit_print _ x h)
  · exact .inl rfl
  · exact .inr (Decimal.isDigit_print _ x h)
  · exact .inl rfl
  · exact .inr (Decimal.isDigit_print _ x h)

theorem ocParseIpv4Address_dotted (a b c d : UInt8) (rest : OcString) :
    ocParseIpv4Address (dotted a b c d ++ 58 :: rest) (dotted a b c d).length = [a, b, c, d] := by
  have hpos := fun n => List.length_pos_iff.2 (Decimal.print_ne_nil n)
  have ha := hpos a.toNat
  have hb := hpos b.toNat
  have hc := hpos c.toNat
  have hd := hpos d.toNat
  have hlength : (dotted a b c d).length = (Decimal.print a.toNat).length + 1 + ((Decimal.print b.toNat).length + 1 +
      ((Decimal.print c.toNat).length + 1 + (Decimal.print d.toNat).length)) := by
    unfold dotted
    simp only [List.length_append, List.length_cons]
    omega
  have htext : dotted a b c d ++ 58 :: rest = Decimal.print a.toNat ++ 46 :: (Decimal.print b.toNat ++
      46 :: (Decimal.print c.toNat ++ 46 :: (Decimal.print d.toNat ++ 58 :: rest))) := by
    simp [dotted]
  rw [ocParseIpv4Address, htext, hlength, parseIpv4Octets_print (by omega) (by decide),
    parseIpv4Octets_print (by omega) (by decide), parseIpv4Octets_print (by omega) (by decide),
    parseIpv4Octets_print (by omega) (by decide)]
  rfl

theorem ocStringToEndpoint_ipv4 (flags : TransportFlags) (a b c d : UInt8) {port : Nat} (hport : port < 2 ^ 16) :
    ∃ uri, ocStringToEndpoint ocDnsLookup (ocScheme flags ++ (dotted a b c d ++ 58 :: Decimal.print port)) =
      .ok { OcEndpoint.zero with
        flags := { schemeFlags flags with ipv4 := true }, address := [a, b, c, d], port := port } uri := by
  have hhead : (dotted a b c d ++ 58 :: Decimal.print port : OcString).head? ≠ some 91 := by
    obtain ⟨x, xs, hx⟩ := List.exists_cons_of_ne_nil (Decimal.print_ne_nil a.toNat)
    have hdigit := Decimal.isDigit_print a.toNat x (by rw [hx]; exact List.mem_cons_self)
    unfold dotted
    rw [hx]
    exact fun heq => digit_ne hdigit (by decide) (Option.some.inj heq)
  have hcolon : portColon (dotted a b c d ++ 58 :: Decimal.print port) = some (some (dotted a b c d).length) := by
    unfold portColon
    rw [if_neg hhead, memchr_eq (fun h => by
      obtain h | h := dotted_chars _ h
      · exact absurd h (by decide)
      · exact absurd h (by decide)) (by simp)]
  have htake : (dotted a b c d ++ 58 :: Decimal.print port : OcString).take (dotted a b c d).length = dotted a b c d :=
    List.take_left' rfl
  have hlast : Decimal.isDigit ((dotted a b c d).getLastD 47) = true := by
    have hne := Decimal.print_ne_nil d.toNat
    have heq : dotted a b c d = (Decimal.print a.toNat ++ 46 :: (Decimal.print b.toNat ++ 46 ::
        (Decimal.print c.toNat ++ [46]))) ++ Decimal.print d.toNat := by simp [dotted]
    rw [List.getLastD_eq_getLast?, heq, List.getLast?_append, List.getLast?_eq_some_getLast hne]
    exact Decimal.isDigit_print _ _ (List.getLast_mem hne)
  have hresolve : resolve ocDnsLookup (dotted a b c d ++ 58 :: Decimal.print port) (dotted a b c d).length
      (schemeFlags flags) = some (dotted a b c d ++ 58 :: Decimal.print port, (dotted a b c d).length) := by
    have hletter : isLetter ((dotted a b c d).getLastD 47) = false := by
      exact digit_notLetter _ hlast
    unfold resolve
    rw [htake, hletter]
    rfl
  have hdrop : (dotted a b c d ++ 58 :: Decimal.print port : OcString).drop ((dotted a b c d).length + 1) =
      Decimal.print port := by
    rw [show dotted a b c d ++ 58 :: Decimal.print port = (dotted a b c d ++ [58]) ++ Decimal.print port by simp]
    exact List.drop_left' (by simp)
  unfold ocStringToEndpoint ocParseEndpointString
  rw [parseScheme_print flags (by simp)]
  simp only [hcolon, Option.getD_some, hresolve, hdrop, strtoul_port hport]
  rw [if_neg fun hboth => hhead hboth.1, ocParseIpv4Address_dotted]
  exact ⟨_, rfl⟩

/-! ## The round trip -/

/-- An IP endpoint: the flags are those of the transport, and the address has the octets of its family. -/
structure OcEndpoint.IsIp (endpoint : OcEndpoint) : Prop where
  flags : endpoint.flags = { schemeFlags endpoint.flags with ipv4 := !endpoint.flags.ipv6, ipv6 := endpoint.flags.ipv6 }
  address : endpoint.address.length = if endpoint.flags.ipv6 then 16 else 4
  port : endpoint.port < 2 ^ 16

/-- What is printed is read back with the same flags, address and port. -/
def RoundTrips (endpoint : OcEndpoint) : Prop :=
  ∃ text read uri, ocEndpointToString endpoint = some text ∧ ocStringToEndpoint ocDnsLookup text = .ok read uri ∧
    read.flags = endpoint.flags ∧ read.address = endpoint.address ∧ read.port = endpoint.port

theorem roundTrips_of_read {endpoint read : OcEndpoint} {text : OcString} {uri : Option OcString}
    (htext : ocEndpointToString endpoint = some text) (hread : ocStringToEndpoint ocDnsLookup text = .ok read uri)
    (hflags : read.flags = endpoint.flags) (hport : read.port = endpoint.port) :
    RoundTrips ocDnsLookup endpoint ↔ read.address = endpoint.address := by
  constructor
  · rintro ⟨text', read', uri', htext', hread', -, haddress, -⟩
    rw [htext] at htext'
    cases htext'
    rw [hread] at hread'
    cases hread'
    exact haddress
  · exact fun haddress => ⟨text, read, uri, htext, hread, hflags, haddress, hport⟩

theorem zero_notMem_scheme (flags : TransportFlags) : 0 ∉ ocScheme flags := by
  unfold ocScheme
  cases flags.tcp <;> cases flags.secured <;> decide

theorem zero_notMem_print (n : Nat) : 0 ∉ Decimal.print n := fun h =>
  digit_ne (Decimal.isDigit_print n 0 h) (.inl (by decide)) rfl

section

variable {endpoint : OcEndpoint}

theorem read_ipv6 (h : endpoint.IsIp) (hipv6 : endpoint.flags.ipv6 = true) :
    ∃ text read uri, ocEndpointToString endpoint = some text ∧ ocStringToEndpoint ocDnsLookup text = .ok read uri ∧
      read.flags = endpoint.flags ∧ read.port = endpoint.port ∧
        (read.address = endpoint.address ↔ ZerosTogether endpoint.address) ∧ 0 ∉ text := by
  have haddress := h.address
  rw [if_pos hipv6] at haddress
  obtain ⟨groups, hlen, hgroups⟩ := exists_groups 8 haddress
  obtain ⟨text, read, htext, hread, hiff⟩ := ipv6Text_read hlen
  obtain ⟨uri, hparsed⟩ := ocStringToEndpoint_ipv6 ocDnsLookup endpoint.flags (textChar_ipv6Text hlen htext) hread
    h.port
  have hprint : ocEndpointToString endpoint =
      some (ocScheme endpoint.flags ++ ((91 :: text) ++ 93 :: 58 :: Decimal.print endpoint.port)) := by
    rw [ocEndpointToString, if_pos hipv6, ocIpv6EndpointToString, ← hgroups, htext]
    simp
  have hflags : { schemeFlags endpoint.flags with ipv6 := true } = endpoint.flags := by
    conv_rhs => rw [h.flags, hipv6]
    rfl
  have hzero : 0 ∉ text := fun hmem => by
    obtain hcolon | ⟨n, hn, hdigit⟩ := textChar_ipv6Text hlen htext 0 hmem
    · exact absurd hcolon (by decide)
    · exact (hexDigit_ne n hn).2.2.1 hdigit.symm
  refine ⟨_, _, uri, hprint, hparsed, hflags, rfl, ?_, ?_⟩
  · rw [← hgroups]
    exact hiff
  · simp [zero_notMem_scheme, hzero, zero_notMem_print]

theorem read_ipv4 (h : endpoint.IsIp) (hipv6 : ¬endpoint.flags.ipv6 = true) :
    ∃ text read uri, ocEndpointToString endpoint = some text ∧ ocStringToEndpoint ocDnsLookup text = .ok read uri ∧
      read.flags = endpoint.flags ∧ read.port = endpoint.port ∧ read.address = endpoint.address ∧ 0 ∉ text := by
  have haddress := h.address
  rw [if_neg hipv6] at haddress
  obtain ⟨a, b, c, d, hoctets⟩ : ∃ a b c d, endpoint.address = [a, b, c, d] := by
    match endpoint.address, haddress with
    | [a, b, c, d], _ => exact ⟨a, b, c, d, rfl⟩
  have hipv4 : endpoint.flags.ipv4 = true := by
    rw [h.flags]
    simpa using hipv6
  obtain ⟨uri, hparsed⟩ := ocStringToEndpoint_ipv4 ocDnsLookup endpoint.flags a b c d h.port
  have hprint : ocEndpointToString endpoint =
      some (ocScheme endpoint.flags ++ (dotted a b c d ++ 58 :: Decimal.print endpoint.port)) := by
    rw [ocEndpointToString, if_neg hipv6, if_pos hipv4, ocIpv4EndpointToString, hoctets]
    simp [dotted]
  have hflags : { schemeFlags endpoint.flags with ipv4 := true } = endpoint.flags := by
    conv_rhs => rw [h.flags]
    rw [Bool.not_eq_true] at hipv6
    rw [hipv6]
    rfl
  have hzero : 0 ∉ dotted a b c d := fun hmem => by
    obtain hdot | hdigit := dotted_chars 0 hmem
    · exact absurd hdot (by decide)
    · exact digit_ne hdigit (.inl (by decide)) rfl
  refine ⟨_, _, uri, hprint, hparsed, hflags, rfl, hoctets.symm, ?_⟩
  simp [zero_notMem_scheme, hzero, zero_notMem_print]

/-- What has been printed can be read, whether the address is the same or not. -/
theorem endpoint_read (h : endpoint.IsIp) : ∃ text read uri,
    ocEndpointToString endpoint = some text ∧ ocStringToEndpoint ocDnsLookup text = .ok read uri ∧
      read.flags = endpoint.flags ∧ 0 ∉ text := by
  by_cases hipv6 : endpoint.flags.ipv6 = true
  · obtain ⟨text, read, uri, htext, hread, hflags, -, -, hzero⟩ := read_ipv6 ocDnsLookup h hipv6
    exact ⟨text, read, uri, htext, hread, hflags, hzero⟩
  · obtain ⟨text, read, uri, htext, hread, hflags, -, -, hzero⟩ := read_ipv4 ocDnsLookup h hipv6
    exact ⟨text, read, uri, htext, hread, hflags, hzero⟩

theorem roundTrips_ipv6 (h : endpoint.IsIp) (hipv6 : endpoint.flags.ipv6 = true) :
    RoundTrips ocDnsLookup endpoint ↔ ZerosTogether endpoint.address := by
  obtain ⟨text, read, uri, htext, hread, hflags, hport, hiff, -⟩ := read_ipv6 ocDnsLookup h hipv6
  rw [roundTrips_of_read ocDnsLookup htext hread hflags hport]
  exact hiff

theorem roundTrips_ipv4 (h : endpoint.IsIp) (hipv6 : ¬endpoint.flags.ipv6 = true) :
    RoundTrips ocDnsLookup endpoint := by
  obtain ⟨text, read, uri, htext, hread, hflags, hport, haddress, -⟩ := read_ipv4 ocDnsLookup h hipv6
  exact (roundTrips_of_read ocDnsLookup htext hread hflags hport).2 haddress

end

/-- Endpoints make the round trip, but for IPv6 addresses with more than one run of zeros. -/
theorem endpoint_roundTrips_iff {endpoint : OcEndpoint} (h : endpoint.IsIp) :
    RoundTrips ocDnsLookup endpoint ↔ (endpoint.flags.ipv6 = true → ZerosTogether endpoint.address) := by
  by_cases hipv6 : endpoint.flags.ipv6 = true
  · rw [roundTrips_ipv6 ocDnsLookup h hipv6]
    exact ⟨fun htogether _ => htogether, fun himp => himp hipv6⟩
  · exact iff_of_true (roundTrips_ipv4 ocDnsLookup h hipv6) fun htrue => absurd htrue hipv6

/-- `fe80::1`, with TCP and port 5683. -/
theorem endpoint_roundTrips_linkLocal : RoundTrips (fun _ _ => none) { OcEndpoint.zero with
    flags := { TransportFlags.zero with tcp := true, ipv6 := true }
    address := [0xfe, 0x80, 0, 0, 0, 0, 0, 0, 0, 0, 0, 0, 0, 0, 0, 1]
    port := 5683 } :=
  (endpoint_roundTrips_iff _ ⟨rfl, rfl, by decide⟩).2 fun _ =>
    (together_iff [(0xfe, 0x80), (0, 0), (0, 0), (0, 0), (0, 0), (0, 0), (0, 0), (0, 1)]).2
      ⟨[(0xfe, 0x80)], 6, [(0, 1)], rfl, List.forall_mem_singleton.2 rfl, List.forall_mem_singleton.2 rfl⟩

/-- `1:0:2:0:0:3:4:5` is printed as `1:2::3:4:5`, and read as `1:2:0:0:0:3:4:5`. -/
theorem endpoint_lostZeros :
    let endpoint : OcEndpoint := { OcEndpoint.zero with
      flags := { TransportFlags.zero with ipv6 := true }
      address := [0, 1, 0, 0, 0, 2, 0, 0, 0, 0, 0, 3, 0, 4, 0, 5]
      port := 5683 }
    ocEndpointToString endpoint = some (ascii "coap://[1:2::3:4:5]:5683") ∧ endpoint.IsIp ∧
      ¬RoundTrips (fun _ _ => none) endpoint := by
  intro endpoint
  have hip : endpoint.IsIp := ⟨rfl, rfl, by decide⟩
  have hapart : ¬ZerosTogether endpoint.address := fun h =>
    absurd (h (0, 0) (by
      show ((0, 0) : Group) ∈ ([(0, 2), (0, 0), (0, 0), (0, 3), (0, 4), (0, 5)] : List Group)
      decide)) (by decide)
  exact ⟨by decide, hip, fun h => hapart ((roundTrips_ipv6 _ hip rfl).1 h)⟩

end SmartGarage
