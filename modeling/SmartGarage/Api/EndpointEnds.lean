/-
When `oc_string_to_endpoint` returns: the loop of `oc_parse_ipv6_address` stays where it is at a segment of more than
four characters, unless the sixteen octets have been read before it comes to one.
-/
import SmartGarage.Api.EndpointRoundTrip

namespace SmartGarage

/-! ## Segments -/

/-- The segments of an address: the texts between its colons that are not empty. -/
def ipv6Segments (text : OcString) : List OcString := (text.splitOn 58).filter (· ≠ [])

theorem ipv6Segments_nil : ipv6Segments [] = [] := by decide

theorem ipv6Segments_append {p rest : OcString} (hp : 58 ∉ p) (hrest : Ends rest) :
    ipv6Segments (p ++ rest) = if p = [] then ipv6Segments (rest.drop 1) else p :: ipv6Segments (rest.drop 1) := by
  have hsplit : (p ++ rest).splitOn 58 = p :: (rest.drop 1).splitOn 58 ∨ rest = [] ∧ (p ++ rest).splitOn 58 = [p] := by
    cases rest with
    | nil => exact .inr ⟨rfl, by rw [List.append_nil, List.splitOn_eq_singleton hp]⟩
    | cons c rest =>
      rw [hrest c rfl, List.splitOn_append_cons_self, List.splitOn_eq_singleton hp]
      exact .inl rfl
  unfold ipv6Segments
  obtain hsplit | ⟨rfl, hsplit⟩ := hsplit
  · rw [hsplit, List.filter_cons]
    by_cases hnil : p = []
    · rw [if_pos hnil, if_neg (by simp [hnil])]
    · rw [if_neg hnil, if_pos (by simp [hnil])]
  · rw [hsplit, List.drop_nil, List.filter_cons]
    by_cases hnil : p = []
    · rw [if_pos hnil, if_neg (by simp [hnil])]
      rfl
    · rw [if_neg hnil, if_pos (by simp [hnil])]
      rfl

theorem ipv6Segments_colon (rest : OcString) : ipv6Segments (58 :: rest) = ipv6Segments rest := by
  have happend := ipv6Segments_append (p := []) (List.not_mem_nil) (show Ends (58 :: rest) from fun c hc => by cases hc; rfl)
  rw [List.nil_append, if_pos rfl] at happend
  exact happend

theorem ipv6Segments_drop {rest : OcString} (hrest : Ends rest) : ipv6Segments (rest.drop 1) = ipv6Segments rest := by
  cases rest with
  | nil => rfl
  | cons c rest =>
    rw [hrest c rfl, ipv6Segments_colon]
    rfl

/-- `::` has no segments. -/
theorem ipv6Segments_splitAt (addr : OcString) (split : Option Nat) (s : OcString) :
    ipv6Segments (splitAt addr split s).2 = ipv6Segments s := by
  unfold splitAt
  split
  · rename_i hcolons
    obtain ⟨-, htake⟩ := hcolons
    rcases s with _ | ⟨c, _ | ⟨d, rest⟩⟩
    · cases htake
    · cases htake
    · cases htake
      rw [ipv6Segments_colon, ipv6Segments_colon]
      rfl
  · rfl

/-! ## The loop -/

/-- The segments that the loop comes to, with `m` of them behind it, have at most four characters. -/
def ShortFrom (m : Nat) (text : OcString) : Prop := ∀ p ∈ (ipv6Segments text).take (8 - m), p.length ≤ 4

theorem exists_segment (t : OcString) : ∃ p rest, t = p ++ rest ∧ 58 ∉ p ∧ Ends rest ∧ t.takeWhile (· ≠ 58) = p := by
  refine ⟨t.takeWhile (· ≠ 58), t.dropWhile (· ≠ 58), List.takeWhile_append_dropWhile.symm, fun h => ?_, fun c hc => ?_, rfl⟩
  · simpa using List.mem_takeWhile_imp h
  · have hhead := List.head?_dropWhile_not (fun c : UInt8 => decide (c ≠ 58)) t
    rw [Option.mem_def.1 hc] at hhead
    simpa using hhead

theorem parseSegment_cases {p rest : OcString} (htake : (p ++ rest).takeWhile (· ≠ 58) = p) :
    (p = [] ∧ parseSegment (p ++ rest) = some ([], rest.drop 1)) ∨
      (p ≠ [] ∧ p.length ≤ 4 ∧ ∃ octets : OcString, octets.length = 2 ∧ parseSegment (p ++ rest) = some (octets, rest)) ∨
        4 < p.length ∧ parseSegment (p ++ rest) = none := by
  unfold parseSegment
  rw [htake]
  rcases p with _ | ⟨a, _ | ⟨b, _ | ⟨c, _ | ⟨d, _ | ⟨e, p⟩⟩⟩⟩⟩
  · exact .inl ⟨rfl, rfl⟩
  · exact .inr (.inl ⟨List.cons_ne_nil _ _, by simp, _, rfl, rfl⟩)
  · exact .inr (.inl ⟨List.cons_ne_nil _ _, by simp, _, rfl, rfl⟩)
  · exact .inr (.inl ⟨List.cons_ne_nil _ _, by simp, _, rfl, rfl⟩)
  · exact .inr (.inl ⟨List.cons_ne_nil _ _, by simp, _, rfl, rfl⟩)
  · exact .inr (.inr ⟨by simp, rfl⟩)

theorem parseIpv6Groups_ends : ∀ {s addr : OcString} {m : Nat} (split : Option Nat), addr.length = 2 * m →
    ((parseIpv6Groups addr split s).isSome = true ↔ ShortFrom m s) := by
  intro s
  induction hlen : s.length using Nat.strong_induction_on generalizing s with
  | h n ih =>
    intro addr m split haddr
    by_cases hend : addr.length ≥ 15 ∨ s = []
    · rw [parseIpv6Groups, dif_pos hend]
      refine iff_of_true rfl fun p hp => ?_
      obtain hfull | rfl := hend
      · rw [show 8 - m = 0 by omega, List.take_zero] at hp
        cases hp
      · rw [ipv6Segments_nil, List.take_nil] at hp
        cases hp
    · rw [not_or, Nat.not_le] at hend
      obtain ⟨hroom, hs⟩ := hend
      have hsegments := ipv6Segments_splitAt addr split s
      have hshorter := fun {octets rest : OcString} (h : parseSegment (splitAt addr split s).2 = some (octets, rest)) =>
        show rest.length < n from by
          have hle := parseSegment_length h
          have hpos := List.length_pos_iff.2 hs
          rw [← hlen]
          unfold splitAt at hle
          split at hle
          · have hdrop := hle.1
            rw [List.length_drop] at hdrop
            omega
          · exact hle.2 hs
      obtain ⟨p, rest, ht, hp, hrest, htake⟩ := exists_segment (splitAt addr split s).2
      rw [ht] at htake
      rw [ht, ipv6Segments_append hp hrest, ipv6Segments_drop hrest] at hsegments
      -- an empty segment stores nothing, a short one an octet pair, and a long one ends the loop
      obtain ⟨hnil, hparse⟩ | ⟨hne, hle, octets, htwo, hparse⟩ | ⟨hlong, hparse⟩ := parseSegment_cases htake
      · rw [← ht] at hparse
        rw [if_pos hnil] at hsegments
        rw [parseIpv6Groups_step hroom hs hparse, List.append_nil, ih _ (hshorter hparse) rfl _ haddr]
        unfold ShortFrom
        rw [ipv6Segments_drop hrest, hsegments]
      · rw [← ht] at hparse
        rw [if_neg hne] at hsegments
        have hnext : (addr ++ octets).length = 2 * (m + 1) := by
          rw [List.length_append, htwo]
          omega
        rw [parseIpv6Groups_step hroom hs hparse, ih _ (hshorter hparse) rfl _ hnext]
        unfold ShortFrom
        rw [← hsegments, show 8 - m = (8 - (m + 1)) + 1 by omega, List.take_succ_cons, List.forall_mem_cons]
        exact (and_iff_right hle).symm
      · rw [← ht] at hparse
        have hne : p ≠ [] := fun h => by
          rw [h] at hlong
          exact absurd hlong (by decide)
        rw [if_neg hne] at hsegments
        rw [parseIpv6Groups_stuck hroom hs hparse]
        refine iff_of_false (by simp) fun hshort => ?_
        unfold ShortFrom at hshort
        rw [← hsegments, show 8 - m = (8 - (m + 1)) + 1 by omega, List.take_succ_cons, List.forall_mem_cons] at hshort
        omega

theorem ocParseIpv6Address_ends (text : OcString) : (ocParseIpv6Address text).isSome = true ↔ ShortFrom 0 text := by
  unfold ocParseIpv6Address
  rw [Option.isSome_map]
  exact parseIpv6Groups_ends none rfl

/-! ## Strings -/

section Strings

variable (ocDnsLookup : OcString → TransportFlags → Option OcString)

/-- The text between the brackets, for a string whose address is one for IPv6. -/
def bracketed (str : OcString) : Option OcString :=
  (parseScheme str).bind fun (flags, address) =>
    (portColon address).bind fun p =>
      (resolve ocDnsLookup address (p.getD ((memchr address 47 address.length).getD address.length)) flags).bind
        fun (address, len) =>
          if address.head? = some 91 ∧ (address.take len).getLastD 47 = 93 then some ((address.take (len - 1)).drop 1)
          else none

theorem ocStringToEndpoint_bracketed (str : OcString) : ocStringToEndpoint ocDnsLookup str = .endless ↔
    ∃ text, bracketed ocDnsLookup str = some text ∧ ocParseIpv6Address text = none := by
  unfold ocStringToEndpoint ocParseEndpointString bracketed
  cases parseScheme str with
  | none => exact iff_of_false (by simp) (by simp)
  | some found =>
    obtain ⟨flags, address⟩ := found
    dsimp only [Option.bind_some]
    cases portColon address with
    | none => exact iff_of_false (by simp) (by simp)
    | some p =>
      dsimp only [Option.bind_some]
      cases resolve ocDnsLookup address (p.getD ((memchr address 47 address.length).getD address.length)) flags with
      | none => exact iff_of_false (by simp) (by simp)
      | some resolved =>
        obtain ⟨address', len⟩ := resolved
        dsimp only [Option.bind_some]
        split
        · cases hparse : ocParseIpv6Address ((address'.take (len - 1)).drop 1) with
          | none => exact iff_of_true rfl ⟨_, rfl, hparse⟩
          | some octets =>
            refine iff_of_false (by simp) ?_
            rintro ⟨text, htext, hnone⟩
            cases htext
            rw [hparse] at hnone
            cases hnone
        · exact iff_of_false (by simp) (by simp)

/-- A string is read, or refused, unless it has an IPv6 address with a segment of more than four characters among its
first eight ones. -/
theorem ocStringToEndpoint_returns_iff (str : OcString) : ocStringToEndpoint ocDnsLookup str ≠ .endless ↔
    ∀ text, bracketed ocDnsLookup str = some text → ∀ p ∈ (ipv6Segments text).take 8, p.length ≤ 4 := by
  rw [Ne, ocStringToEndpoint_bracketed]
  constructor
  · intro h text htext
    refine (ocParseIpv6Address_ends text).1 (Option.isSome_iff_ne_none.2 fun hnone => h ⟨text, htext, hnone⟩)
  · rintro h ⟨text, htext, hnone⟩
    have hsome := (ocParseIpv6Address_ends text).2 (h text htext)
    rw [hnone] at hsome
    exact Bool.false_ne_true hsome

end Strings

/-- A segment of five characters. -/
theorem ocStringToEndpoint_endless : ocStringToEndpoint (fun _ _ => none) (ascii "coap://[12345]:5683") = .endless := by
  have htext : bracketed (fun _ _ => none) (ascii "coap://[12345]:5683") = some (ascii "12345") := by decide
  refine (ocStringToEndpoint_bracketed _ _).2 ⟨_, htext, ?_⟩
  have hends := ocParseIpv6Address_ends (ascii "12345")
  cases hparse : ocParseIpv6Address (ascii "12345") with
  | none => rfl
  | some octets =>
    rw [hparse] at hends
    have hshort := hends.1 rfl (ascii "12345") (by decide)
    exact absurd hshort (by decide)

end SmartGarage
