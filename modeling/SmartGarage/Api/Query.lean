/-
The query of a request: `oc_ri_get_query_nth_key_value` of `oc_ri.c`, the query iterator of `oc_server_api.c`, and
the filter of resources by type that reads a query with it, `oc_filter_resource_by_rt` of `oc_core_res.c`.
-/
import SmartGarage.Api.EndpointRoundTrip
import SmartGarage.Api.Resources

namespace SmartGarage

/-! ## The parameters of a query -/

/-- What is behind the `n`-th `&` of a text, if it has so many. -/
def behindAmpersands : Nat → OcString → Option OcString
  | 0, s => some s
  | n + 1, s => (memchr s 38 s.length).bind fun k => behindAmpersands n (s.drop (k + 1))

/-- What `oc_ri_get_query_nth_key_value` finds, with the position it returns. -/
structure QueryParam where
  key : OcString
  value : OcString
  nextPos : Nat

/-- `oc_ri_get_query_nth_key_value`: the first parameter has the number 1. A parameter without a `=` takes that of a
later one, so that there is a `&` in its key. -/
def ocRiGetQueryNthKeyValue (query : OcString) (n : Nat) : Option QueryParam :=
  (behindAmpersands (n - 1) query).bind fun start =>
    (memchr start 61 start.length).map fun k =>
      let value := start.drop (k + 1)
      let valueLen := (memchr value 38 value.length).getD value.length
      ⟨start.take k, value.take valueLen, query.length - value.length + valueLen + 1⟩

/-- What `oc_iterate_query_get_values` returns: the value, `none` for the length -1, and whether there may be more;
with the iterator. -/
structure IteratedValue where
  value : Option OcString
  more : Bool
  iterator : Nat

/-- `oc_iterate_query_get_values`, for as many rounds as `fuel` says. -/
def ocIterateQueryGetValues (query key : OcString) : (fuel iterator : Nat) → IteratedValue
  | 0, iterator => ⟨none, false, iterator⟩
  | fuel + 1, iterator =>
    match ocRiGetQueryNthKeyValue query (iterator + 1) with
    | none => ⟨none, false, iterator + 1⟩
    | some param =>
      if param.key = key then ⟨some param.value, decide (param.nextPos < query.length), iterator + 1⟩
      else ocIterateQueryGetValues query key fuel (iterator + 1)

/-! ## The filter by type -/

section Filter

variable (types : List OcString) (query : OcString)

/-- The rounds that a query needs: it has one parameter more than `&`, and the search ends behind the last one. -/
def queryRounds : Nat := query.length + 2

/-- The comparison of a value with the types of a resource. -/
def matchesType (rt : OcString) : Bool := types.any fun t => rt.length == t.length && strncmpEq rt t

/-- The loop of `oc_filter_resource_by_rt`. -/
def filterByRt : (fuel : Nat) → (matched : Bool) → (iterator : Nat) → Bool
  | 0, matched, _ => matched
  | fuel + 1, matched, iterator =>
    let found := ocIterateQueryGetValues query (ascii "rt") (queryRounds query) iterator
    let rt := found.value.getD []
    if rt ≠ [] ∧ matchesType types rt then true
    else
      let matched := if rt ≠ [] then false else matched
      if found.more then filterByRt fuel matched found.iterator else matched

/-- `oc_filter_resource_by_rt` for a resource with `types`. -/
def ocFilterResourceByRt : Bool := filterByRt types query (queryRounds query) true 0

end Filter

/-! ## Searching a text for a character -/

theorem memchr_of_mem {s : OcString} {c : UInt8} (h : c ∈ s) : ∃ pre rest, s = pre ++ c :: rest ∧ c ∉ pre ∧
    memchr s c s.length = some pre.length := by
  obtain ⟨pre, rest, rfl, hpre⟩ := List.eq_append_cons_of_mem h
  exact ⟨pre, rest, rfl, hpre, memchr_eq hpre (by simp)⟩

theorem memchr_of_notMem {s : OcString} {c : UInt8} (h : c ∉ s) : memchr s c s.length = none := by
  unfold memchr
  rw [List.take_length, List.findIdx?_eq_none_iff]
  exact fun x hx => decide_eq_false fun heq => h (heq ▸ hx)

/-! ## The segments of a query -/

/-- The texts between the `&` of a query. -/
def segments (query : OcString) : List OcString := query.splitOn 38

theorem segments_of_notMem {s : OcString} (h : 38 ∉ s) : segments s = [s] := List.splitOn_eq_singleton h

theorem segments_append {pre : OcString} (rest : OcString) (h : 38 ∉ pre) :
    segments (pre ++ 38 :: rest) = pre :: segments rest := by
  unfold segments
  rw [List.splitOn_append_cons_self, List.splitOn_eq_singleton h]
  rfl

theorem segments_length_pos (s : OcString) : 0 < (segments s).length :=
  List.length_pos_iff.2 (List.splitOn_ne_nil 38 s)

theorem segments_length_le (s : OcString) : (segments s).length ≤ s.length + 1 := by
  by_cases h : 38 ∈ s
  · obtain ⟨pre, rest, heq, hpre, -⟩ := memchr_of_mem h
    have hlen : s.length = pre.length + (rest.length + 1) := by
      rw [heq, List.length_append, List.length_cons]
    have ih := segments_length_le rest
    rw [heq, segments_append rest hpre, ← heq, List.length_cons]
    omega
  · rw [segments_of_notMem h]
    simp
termination_by s.length

theorem mem_of_mem_segments {s seg : OcString} (hseg : seg ∈ segments s) {c : UInt8} (hc : c ∈ seg) : c ∈ s := by
  by_cases h : 38 ∈ s
  · obtain ⟨pre, rest, heq, hpre, -⟩ := memchr_of_mem h
    have hlen : s.length = pre.length + (rest.length + 1) := by
      rw [heq, List.length_append, List.length_cons]
    rw [heq, segments_append rest hpre] at hseg
    rw [heq]
    obtain rfl | hseg := List.mem_cons.1 hseg
    · exact List.mem_append_left _ hc
    · exact List.mem_append_right _ (List.mem_cons_of_mem _ (mem_of_mem_segments hseg hc))
  · rw [segments_of_notMem h] at hseg
    obtain rfl := List.mem_singleton.1 hseg
    exact hc
termination_by s.length

theorem behindAmpersands_segments : ∀ (n : Nat) (s : OcString),
    match behindAmpersands n s with
    | some start => segments start = (segments s).drop n ∧ start.length ≤ s.length
    | none => (segments s).length ≤ n
  | 0, s => ⟨rfl, Nat.le_refl _⟩
  | n + 1, s => by
    by_cases h : 38 ∈ s
    · obtain ⟨pre, rest, rfl, hpre, hk⟩ := memchr_of_mem h
      have ih := behindAmpersands_segments n rest
      have hdrop : (pre ++ 38 :: rest).drop (pre.length + 1) = rest := by
        rw [List.append_cons]
        exact List.drop_left' (by simp)
      rw [behindAmpersands, hk, Option.bind_some, hdrop, segments_append rest hpre]
      revert ih
      cases behindAmpersands n rest with
      | none => exact fun ih => Nat.succ_le_succ ih
      | some start =>
        refine fun ih => ⟨ih.1, ?_⟩
        have hlen := ih.2
        simp only [List.length_append, List.length_cons]
        omega
    · rw [behindAmpersands, memchr_of_notMem h, segments_of_notMem h]
      exact Nat.le_add_left _ _

/-! ## The values of a key -/

section Values

variable (key : OcString)

/-- The value that a segment gives the key, if it starts with the key and `=`. -/
def keyValue (seg : OcString) : Option OcString :=
  if seg.take (key.length + 1) = key ++ [61] then some (seg.drop (key.length + 1)) else none

/-- The values of the key from a segment on. -/
def valuesFrom (query : OcString) (iterator : Nat) : List OcString :=
  ((segments query).drop iterator).filterMap (keyValue key)

variable {key}

theorem keyValue_of_notMem {seg : OcString} (h : 61 ∉ seg) : keyValue key seg = none := by
  refine if_neg fun heq => h ?_
  have hmem : (61 : UInt8) ∈ seg.take (key.length + 1) := heq ▸ by simp
  exact List.mem_of_mem_take hmem

theorem keyValue_append (hkey : 61 ∉ key) {name : OcString} (hname : 61 ∉ name) (value : OcString) :
    keyValue key (name ++ 61 :: value) = if name = key then some value else none := by
  have hsplit : (name ++ 61 :: value : OcString) = (name ++ [61]) ++ value := by simp
  by_cases heq : name = key
  · subst heq
    have hlen : (name ++ [61]).length = name.length + 1 := by simp
    rw [if_pos rfl, keyValue, hsplit, ← hlen, List.take_left, if_pos rfl, List.drop_left]
  · rw [if_neg heq]
    refine if_neg fun htake => heq ?_
    have hkeyTake := List.take_append_drop (key.length + 1) (name ++ 61 :: value)
    rw [htake, List.append_assoc] at hkeyTake
    -- both are split at the first `=`
    have hk : (key ++ 61 :: (name ++ 61 :: value).drop (key.length + 1)).takeWhile (· ≠ 61) = key := by
      rw [List.takeWhile_append_of_pos fun x hx => by simpa using fun h : x = 61 => hkey (h ▸ hx)]
      simp
    have hn : (name ++ 61 :: value).takeWhile (· ≠ 61) = name := by
      rw [List.takeWhile_append_of_pos fun x hx => by simpa using fun h : x = 61 => hname (h ▸ hx)]
      simp
    have hkeyTake' : key ++ 61 :: (name ++ 61 :: value).drop (key.length + 1) = name ++ 61 :: value := hkeyTake
    rw [hkeyTake', hn] at hk
    exact hk

theorem filterMap_keyValue_cons (hkey : 61 ∉ key) {name : OcString} (hname : 61 ∉ name) (value : OcString)
    (behind : List OcString) : ((name ++ 61 :: value) :: behind).filterMap (keyValue key) =
      (if name = key then [value] else []) ++ behind.filterMap (keyValue key) := by
  rw [List.filterMap_cons, keyValue_append hkey hname]
  by_cases heq : name = key
  · rw [if_pos heq, if_pos heq]
    rfl
  · rw [if_neg heq, if_neg heq]
    rfl

theorem filterMap_eq_nil_of_notMem {s : OcString} (h : 61 ∉ s) : (segments s).filterMap (keyValue key) = [] :=
  List.filterMap_eq_nil_iff.2 fun _ hseg => keyValue_of_notMem fun hc => h (mem_of_mem_segments hseg hc)

/-! ## The iterator -/

variable (hequals : 61 ∉ key) (hampersand : 38 ∉ key)
include hequals hampersand

/-- The values from the parameter with the number `n + 1` on are its own, if it is one of the key, and those behind
it. -/
theorem ocRiGetQueryNthKeyValue_values (query : OcString) (n : Nat) :
    match ocRiGetQueryNthKeyValue query (n + 1) with
    | none => valuesFrom key query n = []
    | some param => n < (segments query).length ∧
        valuesFrom key query n = (if param.key = key then [param.value] else []) ++ valuesFrom key query (n + 1) ∧
          (param.key = key → query.length ≤ param.nextPos → valuesFrom key query (n + 1) = []) := by
  have hbehind := behindAmpersands_segments n query
  unfold ocRiGetQueryNthKeyValue valuesFrom
  rw [Nat.add_sub_cancel]
  revert hbehind
  cases behindAmpersands n query with
  | none =>
    intro hlen
    show List.filterMap _ _ = _
    rw [List.drop_eq_nil_of_le hlen]
    rfl
  | some start =>
    rintro ⟨hsegs, hstart⟩
    have hn : n < (segments query).length := by
      have hpos := segments_length_pos start
      rw [hsegs, List.length_drop] at hpos
      omega
    have htail : (segments query).drop (n + 1) = (segments start).tail := by rw [hsegs, List.tail_drop]
    rw [Option.bind_some, ← hsegs, htail]
    by_cases heq : 61 ∈ start
    · obtain ⟨name, rest, rfl, hname, hk⟩ := memchr_of_mem heq
      have hdrop : (name ++ 61 :: rest).drop (name.length + 1) = rest := by
        rw [List.append_cons]
        exact List.drop_left' (by simp)
      rw [hk, Option.map_some]
      refine ⟨hn, ?_⟩
      simp only [List.take_left, hdrop]
      by_cases hcross : 38 ∈ name
      · -- the `=` belongs to a later segment
        obtain ⟨pre, name', rfl, hpre, -⟩ := memchr_of_mem hcross
        have hne : pre ++ 38 :: name' ≠ key := fun h => hampersand (h ▸ hcross)
        have hpre' : 61 ∉ pre := fun h => hname (List.mem_append_left _ h)
        rw [List.append_assoc, List.cons_append, segments_append _ hpre, if_neg hne, List.filterMap_cons,
          keyValue_of_notMem hpre']
        exact ⟨rfl, fun h => absurd h hne⟩
      · by_cases hend : 38 ∈ rest
        · obtain ⟨value, behind, rfl, hvalue, hl⟩ := memchr_of_mem hend
          have hseg : 38 ∉ name ++ 61 :: value := by
            simp only [List.mem_append, List.mem_cons, not_or]
            exact ⟨hcross, by decide, hvalue⟩
          have hsplit : name ++ 61 :: (value ++ 38 :: behind) = (name ++ 61 :: value) ++ 38 :: behind := by simp
          rw [hsplit, segments_append _ hseg, hl, List.tail_cons,
            filterMap_keyValue_cons hequals hname, Option.getD_some, List.take_left]
          refine ⟨rfl, fun _ hpos => ?_⟩
          simp only [List.length_append, List.length_cons] at hpos hstart
          have hnil : behind = [] := List.length_eq_zero_iff.1 (by omega)
          subst hnil
          exact filterMap_eq_nil_of_notMem (List.not_mem_nil)
        · have hseg : 38 ∉ name ++ 61 :: rest := by
            simp only [List.mem_append, List.mem_cons, not_or]
            exact ⟨hcross, by decide, hend⟩
          rw [segments_of_notMem hseg, memchr_of_notMem hend, List.tail_cons,
            filterMap_keyValue_cons hequals hname, Option.getD_none, List.take_length]
          exact ⟨rfl, fun _ _ => rfl⟩
    · rw [memchr_of_notMem heq, Option.map_none]
      exact filterMap_eq_nil_of_notMem heq

theorem ocIterateQueryGetValues_values (query : OcString) : ∀ (fuel iterator : Nat),
    (segments query).length + 1 ≤ fuel + iterator →
      let found := ocIterateQueryGetValues query key fuel iterator
      match found.value with
      | none => valuesFrom key query iterator = [] ∧ found.more = false
      | some value => iterator < found.iterator ∧
          valuesFrom key query iterator = value :: valuesFrom key query found.iterator ∧
            (found.more = false → valuesFrom key query found.iterator = [])
  | 0, iterator, h => by
    refine ⟨?_, rfl⟩
    unfold valuesFrom
    rw [List.drop_eq_nil_of_le (by omega)]
    rfl
  | fuel + 1, iterator, h => by
    have hparam := ocRiGetQueryNthKeyValue_values hequals hampersand query iterator
    unfold ocIterateQueryGetValues
    revert hparam
    cases ocRiGetQueryNthKeyValue query (iterator + 1) with
    | none => exact fun hnil => ⟨hnil, rfl⟩
    | some param =>
      rintro ⟨hn, hvalues, hend⟩
      by_cases heq : param.key = key
      · rw [if_pos heq] at hvalues
        simp only [heq, if_true]
        refine ⟨Nat.lt_succ_self _, hvalues, fun hmore => hend heq ?_⟩
        exact Nat.le_of_not_lt (of_decide_eq_false hmore)
      · rw [if_neg heq, List.nil_append] at hvalues
        simp only [heq, if_false]
        have ih := ocIterateQueryGetValues_values query fuel (iterator + 1) (by omega)
        rw [hvalues]
        revert ih
        simp only
        cases (ocIterateQueryGetValues query key fuel (iterator + 1)).value with
        | none => exact id
        | some value => exact fun ih => ⟨Nat.lt_of_succ_lt ih.1, ih.2⟩

end Values

/-! ## What the filter lets pass -/

/-- The types that a query asks for: the values of `rt` that are not empty. -/
def rtValues (query : OcString) : List OcString := (valuesFrom (ascii "rt") query 0).filter (· ≠ [])

/-- The resource has one of the types that the query asks for, or the query asks for none. -/
def TypesMatch (types : List OcString) (query : OcString) : Prop :=
  rtValues query = [] ∨ ∃ rt ∈ rtValues query, rt ∈ types

section Match

variable {types : List OcString} (htypes : ∀ t ∈ types, 0 ∉ t)

theorem strncmpEq_self : ∀ s : OcString, strncmpEq s s = true
  | [] => rfl
  | b :: s => by simp [strncmpEq, strncmpEq_self s]

include htypes

theorem matchesType_iff {rt : OcString} : matchesType types rt = true ↔ rt ∈ types := by
  unfold matchesType
  rw [List.any_eq_true]
  constructor
  · rintro ⟨t, ht, heq⟩
    rw [Bool.and_eq_true, beq_iff_eq] at heq
    rw [strncmpEq_eq heq.1 (htypes t ht) heq.2]
    exact ht
  · intro hrt
    exact ⟨rt, hrt, by rw [strncmpEq_self, beq_self_eq_true, Bool.true_and]⟩

theorem filterByRt_iff (query : OcString) : ∀ (fuel : Nat) (matched : Bool) (iterator : Nat),
    (segments query).length + 1 ≤ fuel + iterator →
      let asked := (valuesFrom (ascii "rt") query iterator).filter (· ≠ [])
      (filterByRt types query fuel matched iterator = true ↔
        (asked = [] ∧ matched = true) ∨ ∃ rt ∈ asked, rt ∈ types)
  | 0, matched, iterator, h => by
    have hnil : valuesFrom (ascii "rt") query iterator = [] := by
      unfold valuesFrom
      rw [List.drop_eq_nil_of_le (by omega)]
      rfl
    simp [filterByRt, hnil]
  | fuel + 1, matched, iterator, h => by
    have hrounds := segments_length_le query
    have hfound := @ocIterateQueryGetValues_values (ascii "rt") (by decide) (by decide) query
      (queryRounds query) iterator (by unfold queryRounds; omega)
    intro asked
    unfold filterByRt
    simp only at hfound ⊢
    generalize ocIterateQueryGetValues query (ascii "rt") (queryRounds query) iterator = found at hfound
    obtain ⟨value, more, next⟩ := found
    cases value with
    | none =>
      obtain ⟨hnil, rfl⟩ := hfound
      simp [asked, hnil]
    | some rt =>
      obtain ⟨hlt, hvalues, hend⟩ := hfound
      simp only at hlt hvalues hend
      have ih := fun matched => filterByRt_iff query fuel matched next (by omega)
      simp only [asked, hvalues, Option.getD_some]
      by_cases hrt : rt = []
      · -- an empty value is passed over
        subst hrt
        cases more with
        | true => simpa using ih matched
        | false => simp [hend rfl]
      · by_cases hmem : matchesType types rt = true
        · simp [hrt, hmem, (matchesType_iff htypes).1 hmem]
        · have hnot : rt ∉ types := fun h => hmem ((matchesType_iff htypes).2 h)
          cases more with
          | true => simpa [hrt, hmem, hnot] using ih false
          | false => simp [hrt, hmem, hnot, hend rfl]

/-- A resource passes the filter if it has a type that the query asks for. -/
theorem ocFilterResourceByRt_iff (query : OcString) :
    ocFilterResourceByRt types query = true ↔ TypesMatch types query := by
  have hrounds := segments_length_le query
  have hiff := filterByRt_iff htypes query (queryRounds query) true 0 (by unfold queryRounds; omega)
  simpa [ocFilterResourceByRt, TypesMatch, rtValues] using hiff

example : ocFilterResourceByRt [ascii "core.light"] (ascii "if=oic.if.ll&rt=core.fan&rt=core.light") = true := by
  decide

end Match

end SmartGarage
