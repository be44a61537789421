/-
`oc_ri_get_query_value` of `oc_ri.c` beside what it is for: the value of the first parameter with a key. A parameter
without a `=` is not passed over, it becomes a part of the key of the next one.
-/
import SmartGarage.Api.InvokeAdmitted
import SmartGarage.Api.Query

namespace SmartGarage.QueryValue

open Invoke (lower)

/-! ## The search of the code -/

/-- A value that is found: the index of its first character in the query, and its characters. -/
structure Found where
  position : Nat
  value : OcString
deriving DecidableEq

/-- `kl == strlen(key) && strncasecmp(key, k, kl) == 0` -/
def sameKey (k key : OcString) : Bool := k.map lower = key.map lower

theorem value_lt_nextPos {query : OcString} {param : QueryParam} (h : ocRiGetQueryNthKeyValue query 1 = some param) :
    param.value.length + 1 < param.nextPos := by
  unfold ocRiGetQueryNthKeyValue at h
  obtain ⟨start, hstart, h⟩ := Option.bind_eq_some_iff.1 h
  cases hstart
  obtain ⟨k, hk, rfl⟩ := Option.map_eq_some_iff.1 h
  have hlt : k < query.length := by
    unfold memchr at hk
    have hlt := List.findIdx?_eq_some_iff_findIdx_eq.1 hk
    rw [List.take_length] at hlt
    exact hlt.1
  dsimp only
  rw [List.length_take, List.length_drop]
  omega

/-- The loop of `oc_ri_get_query_value`; `rest` is what is left of the query from the index `pos` on. -/
def queryValueFrom (key : OcString) (pos : Nat) (rest : OcString) : Option Found :=
  if hend : rest = [] then none
  else
    match hparam : ocRiGetQueryNthKeyValue rest 1 with
    | none => none
    | some param =>
      -- the next pair begins behind the `&` that ends the value
      if sameKey param.key key then some ⟨pos + (param.nextPos - 1 - param.value.length), param.value⟩
      else queryValueFrom key (pos + param.nextPos) (rest.drop param.nextPos)
termination_by rest.length
decreasing_by
  have hpos := List.length_pos_iff.2 hend
  have hnext := value_lt_nextPos hparam
  rw [List.length_drop]
  omega

/-- `oc_ri_get_query_value`: the length it returns is that of the value, or -1. -/
def ocRiGetQueryValue (query key : OcString) : Option Found := queryValueFrom key 0 query

/-! ## The first value of a key -/

/-- What is in front of the first `=` of a token. -/
def nameOf (token : OcString) : OcString := token.takeWhile (· ≠ 61)

/-- The first token of the form `key=value` among those from the index `pos` on. -/
def firstValue (key : OcString) (pos : Nat) : List OcString → Option Found
  | [] => none
  | token :: tokens =>
    if 61 ∈ token ∧ sameKey (nameOf token) key = true then
      some ⟨pos + (nameOf token).length + 1, token.drop ((nameOf token).length + 1)⟩
    else firstValue key (pos + token.length + 1) tokens

/-- Behind tokens without a `=`, which are `skipped` with the `&` behind each of them, there is no token with the key up
to the first one that has a `=`; neither are they, with the key of that one, the wanted key. -/
def InPlace (key : OcString) : OcString → List OcString → Prop
  | _, [] => True
  | skipped, token :: tokens =>
    if 61 ∉ token then InPlace key (skipped ++ token ++ [38]) tokens
    else if skipped = [] then sameKey (nameOf token) key = true ∨ InPlace key [] tokens
    else sameKey (nameOf token) key = false ∧ sameKey (skipped ++ nameOf token) key = false ∧ InPlace key [] tokens

/-- The query of some tokens. -/
def joined (tokens : List OcString) : OcString := [38].intercalate tokens

/-! ## One pair -/

theorem takeWhile_ne_append {c : UInt8} {pre : OcString} (h : c ∉ pre) (rest : OcString) :
    (pre ++ c :: rest).takeWhile (· ≠ c) = pre := by
  rw [List.takeWhile_append_of_pos fun x hx => by simpa using fun heq : x = c => h (heq ▸ hx)]
  simp

theorem takeWhile_ne_self {c : UInt8} {s : OcString} (h : c ∉ s) : s.takeWhile (· ≠ c) = s :=
  List.takeWhile_eq_self_iff.2 fun x hx => by simpa using fun heq : x = c => h (heq ▸ hx)

/-- The end of the query, or the `&` in front of more of it. -/
def Behind (tail : OcString) : Prop := tail = [] ∨ ∃ rest, tail = 38 :: rest

theorem nthKeyValue_first {k value tail : OcString} (hk : 61 ∉ k) (hvalue : 38 ∉ value) (htail : Behind tail) :
    ocRiGetQueryNthKeyValue (k ++ 61 :: (value ++ tail)) 1 = some ⟨k, value, k.length + 1 + value.length + 1⟩ := by
  have hfirst : memchr (k ++ 61 :: (value ++ tail)) 61 (k ++ 61 :: (value ++ tail)).length = some k.length :=
    memchr_eq hk (by simp)
  have hdrop : (k ++ 61 :: (value ++ tail)).drop (k.length + 1) = value ++ tail := by
    rw [List.append_cons]
    exact List.drop_left' (by simp)
  have hlen : (memchr (value ++ tail) 38 (value ++ tail).length).getD (value ++ tail).length = value.length := by
    obtain rfl | ⟨rest, rfl⟩ := htail
    · rw [List.append_nil, memchr_of_notMem hvalue, Option.getD_none]
    · rw [memchr_eq hvalue (by simp), Option.getD_some]
  have hpos : (k ++ 61 :: (value ++ tail)).length - (value ++ tail).length = k.length + 1 := by
    simp only [List.length_append, List.length_cons]
    omega
  unfold ocRiGetQueryNthKeyValue
  rw [show behindAmpersands (1 - 1) (k ++ 61 :: (value ++ tail)) = some (k ++ 61 :: (value ++ tail)) from rfl,
    Option.bind_some, hfirst, Option.map_some, List.take_left]
  simp only [hdrop]
  rw [hlen, List.take_left, hpos]

theorem nthKeyValue_none {s : OcString} (h : 61 ∉ s) : ocRiGetQueryNthKeyValue s 1 = none := by
  unfold ocRiGetQueryNthKeyValue
  rw [show behindAmpersands (1 - 1) s = some s from rfl, Option.bind_some, memchr_of_notMem h, Option.map_none]

section

variable (key : OcString) (pos : Nat)

theorem queryValueFrom_pair {k value tail : OcString} (hk : 61 ∉ k) (hvalue : 38 ∉ value)
    (htail : Behind tail) : queryValueFrom key pos (k ++ 61 :: (value ++ tail)) =
      if sameKey k key then some ⟨pos + (k.length + 1), value⟩
      else queryValueFrom key (pos + (k.length + 1 + value.length + 1)) (tail.drop 1) := by
  have hne : k ++ 61 :: (value ++ tail) ≠ [] := by simp
  have hparam := nthKeyValue_first hk hvalue htail
  have hrest : (k ++ 61 :: (value ++ tail)).drop (k.length + 1 + value.length + 1) = tail.drop 1 := by
    have hlen : (k ++ 61 :: value).length = k.length + 1 + value.length := by
      simp only [List.length_append, List.length_cons]
      omega
    rw [show k ++ 61 :: (value ++ tail) = (k ++ 61 :: value) ++ tail by simp, ← hlen, List.drop_append,
      List.drop_eq_nil_of_le (Nat.le_succ _), List.nil_append, Nat.add_sub_cancel_left]
  rw [queryValueFrom, dif_neg hne]
  split
  · rename_i hnone
    rw [hparam] at hnone
    cases hnone
  · rename_i param hsome
    rw [hparam] at hsome
    cases hsome
    simp only [hrest]
    rw [show k.length + 1 + value.length + 1 - 1 - value.length = k.length + 1 by omega]

theorem queryValueFrom_none {s : OcString} (h : 61 ∉ s) : queryValueFrom key pos s = none := by
  rw [queryValueFrom]
  split
  · rfl
  · split
    · rfl
    · rename_i param hsome
      rw [nthKeyValue_none h] at hsome
      cases hsome

/-! ## Positions -/

theorem firstValue_position (key : OcString) : ∀ {tokens : List OcString} {pos : Nat} {f : Found},
    firstValue key pos tokens = some f → pos < f.position
  | token :: tokens, pos, f, h => by
    unfold firstValue at h
    split at h
    · cases h
      show pos < pos + (nameOf token).length + 1
      omega
    · have ih := firstValue_position key h
      omega

theorem queryValueFrom_position (rest : OcString) {f : Found}
    (h : queryValueFrom key pos rest = some f) : pos < f.position := by
  fun_induction queryValueFrom key pos rest with
  | case1 => cases h
  | case2 => cases h
  | case3 pos rest hend param hparam hsame =>
    cases h
    have hvalue := value_lt_nextPos hparam
    show pos < pos + (param.nextPos - 1 - param.value.length)
    omega
  | case4 pos rest hend param hparam hsame ih =>
    have hbehind := ih h
    omega

/-! ## The two searches -/

theorem sameKey_length {k key : OcString} (h : sameKey k key = true) : k.length = key.length := by
  have hmap : k.map lower = key.map lower := of_decide_eq_true h
  simpa using congrArg List.length hmap

theorem exists_value {token : OcString} (h : 61 ∈ token) : ∃ value, token = nameOf token ++ 61 :: value ∧
    61 ∉ nameOf token ∧ token.drop ((nameOf token).length + 1) = value := by
  obtain ⟨name, value, rfl, hname, -⟩ := memchr_of_mem h
  have htake : nameOf (name ++ 61 :: value) = name := takeWhile_ne_append hname value
  have hdrop : (name ++ 61 :: value).drop (name.length + 1) = value := by
    rw [List.append_cons]
    exact List.drop_left' (by simp)
  rw [htake]
  exact ⟨value, rfl, hname, hdrop⟩

theorem joined_cons (token next : OcString) (tokens : List OcString) :
    joined (token :: next :: tokens) = token ++ 38 :: joined (next :: tokens) := by
  unfold joined
  rw [List.intercalate_cons_cons]
  simp

theorem joined_singleton (token : OcString) : joined [token] = token := by simp [joined]

theorem queryValueFrom_token {skipped token tail : OcString} (hskipped : 61 ∉ skipped)
    (htoken : 61 ∈ token) (hamp : 38 ∉ token) (htail : Behind tail) :
    queryValueFrom key pos (skipped ++ (token ++ tail)) =
      if sameKey (skipped ++ nameOf token) key then
        some ⟨pos + skipped.length + (nameOf token).length + 1, token.drop ((nameOf token).length + 1)⟩
      else queryValueFrom key (pos + skipped.length + token.length + 1) (tail.drop 1) := by
  obtain ⟨value, heq, hname, hdrop⟩ := exists_value htoken
  have hvalue : 38 ∉ value := fun h => hamp (heq ▸ List.mem_append_right _ (List.mem_cons_of_mem _ h))
  have hk : 61 ∉ skipped ++ nameOf token := by simp [hskipped, hname]
  have htext : skipped ++ (token ++ tail) = (skipped ++ nameOf token) ++ 61 :: (value ++ tail) := by
    conv_lhs => rw [heq]
    simp
  have hlen : token.length = (nameOf token).length + 1 + value.length := by
    have hlen := congrArg List.length heq
    simp only [List.length_append, List.length_cons] at hlen
    omega
  rw [htext, queryValueFrom_pair key pos hk hvalue htail, hdrop, hlen, List.length_append,
    show pos + (skipped.length + (nameOf token).length + 1) = pos + skipped.length + (nameOf token).length + 1 by omega,
    show pos + (skipped.length + (nameOf token).length + 1 + value.length + 1) =
      pos + skipped.length + ((nameOf token).length + 1 + value.length) + 1 by omega]

end

theorem queryValueFrom_eq_iff (key : OcString) : ∀ {tokens : List OcString} {skipped : OcString} (pos : Nat), tokens ≠ [] →
    (∀ t ∈ tokens, 38 ∉ t) → 61 ∉ skipped →
      (queryValueFrom key pos (skipped ++ joined tokens) = firstValue key (pos + skipped.length) tokens ↔
        InPlace key skipped tokens)
  | [], _, _, hne, _, _ => absurd rfl hne
  | token :: tokens, skipped, pos, _, hamp, hskipped => by
    have htokens : ∀ t ∈ tokens, 38 ∉ t := fun t ht => hamp t (List.mem_cons_of_mem _ ht)
    obtain ⟨tail, htail, htext, hrest⟩ : ∃ tail, Behind tail ∧ joined (token :: tokens) = token ++ tail ∧
        (tokens ≠ [] → tail = 38 :: joined tokens) ∧ (tokens = [] → tail = []) := by
      cases tokens with
      | nil => exact ⟨[], .inl rfl, by rw [joined_singleton, List.append_nil], fun h => absurd rfl h, fun _ => rfl⟩
      | cons next tokens => exact ⟨_, .inr ⟨_, rfl⟩, joined_cons token next tokens, fun _ => rfl, fun h => by cases h⟩
    by_cases htoken : 61 ∈ token
    · -- what both searches do behind this token, if they go on
      have hbehind : queryValueFrom key (pos + skipped.length + token.length + 1) (tail.drop 1) =
          firstValue key (pos + skipped.length + token.length + 1) tokens ↔ InPlace key [] tokens := by
        by_cases hnil : tokens = []
        · rw [hrest.2 hnil, hnil]
          exact iff_of_true (queryValueFrom_none key _ List.not_mem_nil) trivial
        · rw [hrest.1 hnil]
          exact queryValueFrom_eq_iff key (pos + skipped.length + token.length + 1) hnil htokens List.not_mem_nil
      have hother (f : Option Found) (hf : ∀ g, f = some g → pos + skipped.length + token.length + 1 < g.position)
          (value : OcString) : some ⟨pos + skipped.length + (nameOf token).length + 1, value⟩ ≠ f := by
        intro heq
        have hlt := hf _ heq.symm
        have hle : (nameOf token).length ≤ token.length := (List.takeWhile_sublist _).length_le
        dsimp only at hlt
        omega
      rw [htext, queryValueFrom_token key pos hskipped htoken (hamp token List.mem_cons_self) htail]
      unfold firstValue InPlace
      rw [if_neg (not_not.2 htoken)]
      by_cases hnil : skipped = []
      · rw [if_pos hnil]
        subst hnil
        rw [List.nil_append]
        by_cases hsame : sameKey (nameOf token) key = true
        · rw [if_pos hsame, if_pos ⟨htoken, hsame⟩]
          exact iff_of_true rfl (.inl hsame)
        · rw [if_neg hsame, if_neg fun h => hsame h.2, hbehind]
          exact ⟨.inr, fun h => h.resolve_left hsame⟩
      · rw [if_neg hnil]
        by_cases hall : sameKey (skipped ++ nameOf token) key = true
        · -- the key is found in the skipped tokens, and the first value is further behind
          have hname : ¬ sameKey (nameOf token) key = true := fun hname => by
            have hlen := (sameKey_length hall).trans (sameKey_length hname).symm
            rw [List.length_append] at hlen
            exact hnil (List.length_eq_zero_iff.1 (by omega))
          rw [if_pos hall, if_neg fun h => hname h.2]
          refine iff_of_false (hother _ (fun g hg => firstValue_position key hg) _) fun h => ?_
          rw [hall] at h
          exact Bool.false_ne_true h.2.1.symm
        · rw [if_neg hall]
          by_cases hname : sameKey (nameOf token) key = true
          · rw [if_pos ⟨htoken, hname⟩]
            refine iff_of_false (hother _ (fun g hg => queryValueFrom_position key _ _ hg) _).symm fun h => ?_
            rw [hname] at h
            exact Bool.false_ne_true h.1.symm
          · rw [if_neg fun h => hname h.2, hbehind]
            exact ⟨fun h => ⟨Bool.eq_false_iff.2 hname, Bool.eq_false_iff.2 hall, h⟩, fun h => h.2.2⟩
    · -- a token without `=` is read as the beginning of the next name
      unfold firstValue InPlace
      rw [if_neg fun h => htoken h.1, if_pos htoken, htext]
      by_cases hnil : tokens = []
      · rw [hrest.2 hnil, hnil, List.append_nil]
        exact iff_of_true (queryValueFrom_none key _ (by simp [hskipped, htoken])) trivial
      · rw [hrest.1 hnil]
        have ih := queryValueFrom_eq_iff key pos hnil htokens
          (show 61 ∉ skipped ++ token ++ [38] by simp [hskipped, htoken])
        rw [List.append_assoc, List.append_assoc, List.singleton_append] at ih
        rw [← ih, List.length_append, List.length_append, List.length_singleton, Nat.add_assoc pos, Nat.add_assoc pos,
          Nat.add_assoc skipped.length]

theorem joined_segments (query : OcString) : joined (segments query) = query := List.intercalate_splitOn 38

theorem ampersand_notMem_segments {query t : OcString} (ht : t ∈ segments query) : 38 ∉ t := by
  by_cases h : 38 ∈ query
  · obtain ⟨pre, rest, heq, hpre, -⟩ := memchr_of_mem h
    have hlen : query.length = pre.length + (rest.length + 1) := by
      rw [heq, List.length_append, List.length_cons]
    rw [heq, segments_append rest hpre] at ht
    obtain rfl | ht := List.mem_cons.1 ht
    · exact hpre
    · exact ampersand_notMem_segments ht
  · rw [segments_of_notMem h] at ht
    rw [List.mem_singleton.1 ht]
    exact h
termination_by query.length

/-- What is found is the value of the first token with the key, if and only if the tokens are in place. -/
theorem ocRiGetQueryValue_iff (query key : OcString) :
    ocRiGetQueryValue query key = firstValue key 0 (segments query) ↔ InPlace key [] (segments query) := by
  have hiff := queryValueFrom_eq_iff key 0 (List.splitOn_ne_nil 38 query) (fun t ht => ampersand_notMem_segments ht)
    List.not_mem_nil
  have hjoined : joined (query.splitOn 38) = query := joined_segments query
  rw [List.nil_append, hjoined] at hiff
  exact hiff

/-- A token without a `=` hides the one behind it. -/
theorem ocRiGetQueryValue_hidden :
    ocRiGetQueryValue (ascii "x&if=b") (ascii "if") ≠ firstValue (ascii "if") 0 (segments (ascii "x&if=b")) := by
  have hfound := queryValueFrom_pair (ascii "if") 0 (show 61 ∉ ascii "x&if" by decide) (show 38 ∉ ascii "b" by decide)
    (.inl rfl)
  rw [if_neg (by decide), List.drop_nil, queryValueFrom_none _ _ List.not_mem_nil] at hfound
  have hnone : ocRiGetQueryValue (ascii "x&if=b") (ascii "if") = none := hfound
  rw [hnone]
  decide

/-! ## The query of a request -/

theorem takeWhile_behind {value tail : OcString} (hvalue : 38 ∉ value) (htail : Behind tail) :
    (value ++ tail).takeWhile (· ≠ 38) = value := by
  obtain rfl | ⟨rest, rfl⟩ := htail
  · rw [List.append_nil, takeWhile_ne_self hvalue]
  · exact takeWhile_ne_append hvalue rest

theorem exists_behind (s : OcString) : ∃ value tail, s = value ++ tail ∧ 38 ∉ value ∧ Behind tail := by
  by_cases h : 38 ∈ s
  · obtain ⟨pre, rest, rfl, hpre, -⟩ := memchr_of_mem h
    exact ⟨pre, 38 :: rest, rfl, hpre, .inr ⟨rest, rfl⟩⟩
  · exact ⟨s, [], (List.append_nil s).symm, h, .inl rfl⟩

theorem firstKeyValue_pair {k value tail : OcString} (hk : 61 ∉ k) (hvalue : 38 ∉ value) (htail : Behind tail) :
    Invoke.firstKeyValue (k ++ 61 :: (value ++ tail)) = some (k, value, tail.drop 1) := by
  have hkey : (k ++ 61 :: (value ++ tail)).takeWhile (· ≠ 61) = k := takeWhile_ne_append hk _
  have hdrop : (k ++ 61 :: (value ++ tail)).drop (k.length + 1) = value ++ tail := by
    rw [List.append_cons]
    exact List.drop_left' (by simp)
  have hrest : (k ++ 61 :: (value ++ tail)).drop (k.length + 1 + value.length + 1) = tail.drop 1 := by
    rw [Nat.add_assoc, ← List.drop_drop, hdrop, ← List.drop_drop, List.drop_left]
  unfold Invoke.firstKeyValue
  dsimp only
  rw [hkey, if_pos (by simp), hdrop, takeWhile_behind hvalue htail, hrest]

theorem queryValue_eq (key : OcString) : ∀ {fuel : Nat} {rest : OcString} (pos : Nat), rest.length ≤ fuel →
    Invoke.queryValue key fuel rest = (queryValueFrom key pos rest).map Found.value
  | 0, rest, pos, h => by
    rw [List.length_eq_zero_iff.1 (Nat.le_zero.1 h), queryValueFrom_none key pos List.not_mem_nil]
    rfl
  | fuel + 1, rest, pos, h => by
    by_cases hequals : 61 ∈ rest
    · obtain ⟨k, behind, rfl, hk, -⟩ := memchr_of_mem hequals
      obtain ⟨value, tail, rfl, hvalue, htail⟩ := exists_behind behind
      have hlen : (tail.drop 1).length ≤ fuel := by
        simp only [List.length_append, List.length_cons] at h
        rw [List.length_drop]
        omega
      rw [queryValueFrom_pair key pos hk hvalue htail]
      unfold Invoke.queryValue
      rw [firstKeyValue_pair hk hvalue htail]
      dsimp only
      by_cases hsame : k.map lower = key.map lower
      · have hkey : sameKey k key = true := decide_eq_true hsame
        rw [if_pos hsame, if_pos hkey]
        rfl
      · have hkey : ¬ sameKey k key = true := fun h => hsame (of_decide_eq_true h)
        rw [if_neg hsame, if_neg hkey]
        exact queryValue_eq key _ hlen
    · have hnone : Invoke.firstKeyValue rest = none := by
        unfold Invoke.firstKeyValue
        dsimp only
        rw [takeWhile_ne_self hequals, if_neg (Nat.lt_irrefl _)]
      rw [queryValueFrom_none key pos hequals]
      unfold Invoke.queryValue
      rw [hnone]
      rfl

theorem invoke_ocRiGetQueryValue (query key : OcString) :
    Invoke.ocRiGetQueryValue query key = (ocRiGetQueryValue query key).map Found.value :=
  queryValue_eq key 0 (Nat.le_refl _)

end SmartGarage.QueryValue
