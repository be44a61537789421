/-
Resumable searches over a list: `next` returns the first match together with what is behind it,
and the loop that restarts the search behind each match until it fails is a fold over the
matching elements.
-/
import Mathlib.Data.List.Basic

namespace Search

variable {α β : Type}

/-- The first element that satisfies `p`, and the rest of the list behind it. -/
def next (p : α → Bool) : List α → Option (α × List α)
  | [] => none
  | a :: l => if p a then some (a, l) else next p l

theorem next_length (p : α → Bool) :
    ∀ (l : List α) {a : α} {r : List α}, next p l = some (a, r) → r.length < l.length
  | b :: l, a, r, h => by
    unfold next at h
    split at h
    · cases h; simp
    · have := next_length p l h
      simp only [List.length_cons]; omega

theorem next_map_fst (p : α → Bool) : ∀ (l : List α), (next p l).map (·.1) = l.find? p
  | [] => rfl
  | b :: l => by
    unfold next
    by_cases hb : p b = true
    · simp [hb]
    · simp only [Bool.not_eq_true] at hb
      simp [hb, next_map_fst p l]

/-- The loop `do { m = next(m); if (m) acc = op(acc, m); } while (m)`. -/
def foldMatches (p : α → Bool) (op : β → α → β) (acc : β) (l : List α) : β :=
  match _h : next p l with
  | none => acc
  | some (a, r) => foldMatches p op (op acc a) r
termination_by l.length
decreasing_by exact next_length p l _h

theorem foldMatches_nil (p : α → Bool) (op : β → α → β) (acc : β) : foldMatches p op acc [] = acc := by
  rw [foldMatches]; rfl

theorem foldMatches_cons (p : α → Bool) (op : β → α → β) (acc : β) (a : α) (l : List α) :
    foldMatches p op acc (a :: l) = foldMatches p op (if p a then op acc a else acc) l := by
  by_cases ha : p a = true
  · have h : next p (a :: l) = some (a, l) := by unfold next; simp [ha]
    rw [foldMatches, if_pos ha]
    split
    · rename_i h'; rw [h] at h'; cases h'
    · rename_i b r h'; rw [h] at h'; cases h'; rfl
  · have h : next p (a :: l) = next p l := by conv_lhs => unfold next; simp [ha]
    rw [if_neg ha, foldMatches, foldMatches]
    split
    · rename_i h'; rw [h] at h'; split
      · rfl
      · rename_i h''; rw [h'] at h''; cases h''
    · rename_i b r h'; rw [h] at h'; split
      · rename_i h''; rw [h'] at h''; cases h''
      · rename_i b' r' h''; rw [h'] at h''; cases h''; rfl

/-- The restarted search visits exactly the matching elements, in order. -/
theorem foldMatches_eq (p : α → Bool) (op : β → α → β) :
    ∀ (l : List α) (acc : β), foldMatches p op acc l = (l.filter p).foldl op acc
  | [], acc => foldMatches_nil p op acc
  | a :: l, acc => by
    rw [foldMatches_cons, foldMatches_eq p op l, List.filter_cons]
    split <;> rfl

/-! ## Lists of keyed records -/

/-- With distinct keys, what is left behind an erased key has other keys. -/
theorem key_ne_of_mem_eraseP {κ : Type} [DecidableEq κ] {key : α → κ} {l : List α} (hn : (l.map key).Nodup) {k : κ}
    {x : α} (hx : x ∈ l.eraseP (fun a => key a == k)) : key x ≠ k := by
  induction l with
  | nil => cases hx
  | cons b l ih =>
    rw [List.map_cons, List.nodup_cons] at hn
    by_cases hb : key b = k
    · rw [List.eraseP_cons_of_pos (by simpa using hb)] at hx
      intro heq
      exact hn.1 (hb ▸ heq ▸ List.mem_map_of_mem hx)
    · rw [List.eraseP_cons_of_neg (by simpa using hb)] at hx
      rcases List.mem_cons.1 hx with rfl | hx
      · exact hb
      · exact ih hn.2 hx

theorem mem_eraseP_key {κ : Type} [DecidableEq κ] {key : α → κ} {l : List α} (hn : (l.map key).Nodup) {k : κ} {x : α} :
    x ∈ l.eraseP (fun a => key a == k) ↔ x ∈ l ∧ key x ≠ k :=
  ⟨fun hx => ⟨List.mem_of_mem_eraseP hx, key_ne_of_mem_eraseP hn hx⟩,
    fun hx => (List.mem_eraseP_of_neg (by simpa using hx.2)).2 hx.1⟩

/-- With distinct keys, erasing a key leaves exactly the records with other keys. -/
theorem eraseP_key_eq_filter {κ : Type} [DecidableEq κ] {key : α → κ} {k : κ} :
    ∀ {l : List α}, (l.map key).Nodup → l.eraseP (fun a => key a == k) = l.filter fun a => key a != k
  | [], _ => rfl
  | a :: l, hn => by
    rw [List.map_cons, List.nodup_cons] at hn
    by_cases ha : key a = k
    · rw [List.eraseP_cons_of_pos (by simpa using ha), List.filter_cons_of_neg (by simpa using ha)]
      refine (List.filter_eq_self.2 fun x hx => ?_).symm
      have hne : key x ≠ k := fun h => hn.1 (ha ▸ h ▸ List.mem_map_of_mem hx)
      simpa using hne
    · rw [List.eraseP_cons_of_neg (by simpa using ha), List.filter_cons_of_pos (by simpa using ha),
        eraseP_key_eq_filter hn.2]

theorem nodup_append_new {κ : Type} {key : α → κ} {l : List α} (hn : (l.map key).Nodup) {x : α}
    (hx : key x ∉ l.map key) : ((l ++ [x]).map key).Nodup := by
  rw [List.map_append, List.nodup_append]
  refine ⟨hn, by simp, ?_⟩
  intro a ha b hb heq
  simp only [List.map_cons, List.map_nil, List.mem_singleton] at hb
  exact hx (by rw [← hb, ← heq]; exact ha)

/-! ## Updating the first match -/

/-- The list with `f` applied to its first element that satisfies `p`. -/
def modify (p : α → Bool) (f : α → α) : List α → List α
  | [] => []
  | a :: l => if p a then f a :: l else a :: modify p f l

/-- A list with a first match is that match between two parts, and the update replaces it. -/
theorem modify_of_find? (p : α → Bool) (f : α → α) :
    ∀ (l : List α) {a : α}, l.find? p = some a →
      ∃ pre post, l = pre ++ a :: post ∧ modify p f l = pre ++ f a :: post ∧ ∀ x ∈ pre, p x = false
  | b :: l, a, h => by
    unfold modify
    by_cases hb : p b = true
    · rw [List.find?_cons_of_pos hb] at h
      cases h
      exact ⟨[], l, rfl, by simp [hb], by simp⟩
    · rw [List.find?_cons_of_neg hb] at h
      obtain ⟨pre, post, rfl, hm, hpre⟩ := modify_of_find? p f l h
      refine ⟨b :: pre, post, rfl, by simp [hb, hm], ?_⟩
      intro x hx
      rcases List.mem_cons.1 hx with rfl | hx
      · simpa using hb
      · exact hpre x hx

theorem modify_append {p : α → Bool} {f : α → α} {post : List α} :
    ∀ {pre : List α}, (∀ x ∈ pre, p x = false) → modify p f (pre ++ post) = pre ++ modify p f post
  | [], _ => rfl
  | x :: pre, h => by
    rw [List.cons_append, modify, if_neg (by simp [h x List.mem_cons_self]),
      modify_append fun y hy => h y (List.mem_cons_of_mem x hy), List.cons_append]

theorem mem_modify {p : α → Bool} {f : α → α} {x : α} : ∀ {l : List α}, x ∈ modify p f l → ∃ a ∈ l, x = a ∨ x = f a
  | b :: l, h => by
    unfold modify at h
    split at h
    · rcases List.mem_cons.1 h with rfl | h
      · exact ⟨b, List.mem_cons_self, .inr rfl⟩
      · exact ⟨x, List.mem_cons_of_mem _ h, .inl rfl⟩
    · rcases List.mem_cons.1 h with rfl | h
      · exact ⟨x, List.mem_cons_self, .inl rfl⟩
      · obtain ⟨a, ha, hx⟩ := mem_modify h
        exact ⟨a, List.mem_cons_of_mem _ ha, hx⟩

theorem map_modify {β : Type} {g : α → β} {p : α → Bool} {f : α → α} (hf : ∀ a, g (f a) = g a) :
    ∀ (l : List α), (modify p f l).map g = l.map g
  | [] => rfl
  | a :: l => by
    unfold modify
    split
    · rw [List.map_cons, List.map_cons, hf]
    · rw [List.map_cons, List.map_cons, map_modify hf l]

/-- The first match stays the first match if the update keeps it matching. -/
theorem find?_modify {p : α → Bool} {f : α → α} {l : List α} {a : α} (h : l.find? p = some a)
    (hf : p (f a) = true) : (modify p f l).find? p = some (f a) := by
  obtain ⟨pre, post, -, hm, hpre⟩ := modify_of_find? p f l h
  rw [hm, List.find?_append, List.find?_eq_none.2 fun x hx => by simp [hpre x hx], List.find?_cons_of_pos hf]
  rfl

/-! ## Places and partners -/

theorem forall_getElem?_cons {p : Nat → α → Prop} {a : α} {l : List α} :
    (∀ i b, (a :: l)[i]? = some b → p i b) ↔ p 0 a ∧ ∀ i b, l[i]? = some b → p (i + 1) b := by
  constructor
  · intro h
    exact ⟨h 0 a rfl, fun i b hb => h (i + 1) b hb⟩
  · rintro ⟨hfirst, hrest⟩ i b hb
    cases i with
    | zero =>
      cases Option.some.inj hb
      exact hfirst
    | succ i => exact hrest i b hb

theorem exists_mem_of_forall₂ {r : α → β → Prop} {l : List α} {l' : List β} (h : List.Forall₂ r l l') {a : α} (ha : a ∈ l) :
    ∃ b ∈ l', r a b := by
  induction h with
  | nil => cases ha
  | cons hab _ ih =>
    rcases List.mem_cons.1 ha with rfl | ha
    · exact ⟨_, List.mem_cons_self, hab⟩
    · obtain ⟨b, hb, hr⟩ := ih ha
      exact ⟨b, List.mem_cons_of_mem _ hb, hr⟩

theorem forall_mem_of_forall₂ {r : α → β → Prop} {p : β → Prop} {l : List α} {l' : List β} (h : List.Forall₂ r l l')
    (hp : ∀ a b, r a b → p b) : ∀ b ∈ l', p b := by
  induction h with
  | nil => simp
  | cons hab _ ih => exact List.forall_mem_cons.2 ⟨hp _ _ hab, ih⟩

end Search
