/-
Runs of a deterministic transition function: a run is the list of the inputs taken one after the
other, a guard is a condition on the state a step is taken from and on its input, and an
invariant that every guarded step keeps holds after every guarded run.
-/
import Mathlib.Data.List.Basic

namespace Runs

variable {σ α : Type} {step : σ → α → σ} {G : σ → α → Prop} {Inv : σ → Prop}

/-- The state after taking the inputs `l` from `s`. -/
def runFrom (step : σ → α → σ) (s : σ) (l : List α) : σ := l.foldl step s

/-- Every step of the run from `s` meets the guard `G` in the state it is taken from. -/
def Guarded (step : σ → α → σ) (G : σ → α → Prop) : σ → List α → Prop
  | _, [] => True
  | s, a :: l => G s a ∧ Guarded step G (step s a) l

/-- Whether a run meets a decidable guard can be computed. -/
instance Guarded.decidable {step : σ → α → σ} {G : σ → α → Prop} [∀ s a, Decidable (G s a)] :
    ∀ (s : σ) (l : List α), Decidable (Guarded step G s l)
  | _, [] => .isTrue trivial
  | s, a :: l =>
    have : Decidable (Guarded step G (step s a) l) := Guarded.decidable (step s a) l
    inferInstanceAs (Decidable (G s a ∧ Guarded step G (step s a) l))

/-- The part of a guarded run before one of its steps is guarded, and so is the step. -/
theorem Guarded.at_step {a : α} {l' : List α} :
    ∀ {l : List α} {s : σ}, Guarded step G s (l ++ a :: l') → Guarded step G s l ∧ G (runFrom step s l) a
  | [], _, h => ⟨trivial, h.1⟩
  | b :: l, s, ⟨hb, hl⟩ => by
    obtain ⟨hpre, ha⟩ := Guarded.at_step (l := l) (s := step s b) hl
    exact ⟨⟨hb, hpre⟩, ha⟩

theorem Guarded.left {l' : List α} :
    ∀ {l : List α} {s : σ}, Guarded step G s (l ++ l') → Guarded step G s l
  | [], _, _ => trivial
  | _ :: _, _, ⟨ha, hl⟩ => ⟨ha, hl.left⟩

/-- A guarded run whose inputs are all of one kind is guarded by both. -/
theorem Guarded.and_forall {A : α → Prop} :
    ∀ {l : List α} {s : σ}, Guarded step G s l → (∀ a ∈ l, A a) → Guarded step (fun s a => A a ∧ G s a) s l
  | [], _, _, _ => trivial
  | a :: _, _, ⟨ha, hl⟩, hall =>
    ⟨⟨hall a List.mem_cons_self, ha⟩, hl.and_forall fun b hb => hall b (List.mem_cons_of_mem a hb)⟩

/-- A guard that implies another one in every state that keeps to an invariant. -/
theorem Guarded.imp {G G' : σ → α → Prop} (hstep : ∀ s a, Inv s → Inv (step s a))
    (himp : ∀ s a, Inv s → G s a → G' s a) :
    ∀ {l : List α} {s : σ}, Inv s → Guarded step G s l → Guarded step G' s l
  | [], _, _, _ => trivial
  | a :: _, s, hi, ⟨ha, hl⟩ => ⟨himp s a hi ha, hl.imp hstep himp (hstep s a hi)⟩

theorem guarded_iff_forall {A : α → Prop} :
    ∀ {l : List α} {s : σ}, Guarded step (fun _ a => A a) s l ↔ ∀ a ∈ l, A a
  | [], _ => iff_of_true trivial fun _ h => nomatch h
  | a :: l, s => by
    rw [List.forall_mem_cons, ← guarded_iff_forall (l := l) (s := step s a)]
    rfl

theorem run_always (hstep : ∀ s a, Inv s → Inv (step s a)) :
    ∀ (l : List α) (s : σ), Inv s → Inv (runFrom step s l)
  | [], _, hi => hi
  | a :: l, s, hi => run_always hstep l (step s a) (hstep s a hi)

/-- A run of a system with more state, seen in a part of that state. -/
theorem runFrom_map {τ : Type} {step' : τ → α → τ} {f : σ → τ}
    (hstep : ∀ s a, f (step s a) = step' (f s) a) : ∀ (l : List α) (s : σ), f (runFrom step s l) = runFrom step' (f s) l
  | [], _ => rfl
  | a :: l, s => by
    have ih := runFrom_map hstep l (step s a)
    rw [hstep] at ih
    exact ih

/-- The invariant rule: what holds at the start and is kept by every guarded step holds at the
end of every guarded run. -/
theorem run_invariant (hstep : ∀ s a, Inv s → G s a → Inv (step s a)) :
    ∀ (l : List α) (s : σ), Inv s → Guarded step G s l → Inv (runFrom step s l)
  | [], _, hi, _ => hi
  | a :: l, s, hi, ⟨hg, hr⟩ => run_invariant hstep l (step s a) (hstep s a hi hg) hr

/-- The exact condition for a property of every state of a run whose steps meet the guard `E`: a step keeps an invariant
that has the property if it meets the guard `G` too, and breaks the property otherwise. -/
theorem always_iff_guarded_of {E G : σ → α → Prop} {Inv P : σ → Prop} (hinv : ∀ s, Inv s → P s)
    (hkeep : ∀ s a, Inv s → E s a → G s a → Inv (step s a))
    (hbreak : ∀ s a, Inv s → E s a → ¬G s a → ¬P (step s a)) :
    ∀ {l : List α} {s : σ}, Inv s → Guarded step E s l →
      ((∀ l', l' <+: l → P (runFrom step s l')) ↔ Guarded step G s l)
  | [], s, hi, _ => by
    refine iff_of_true (fun l' hl' => ?_) trivial
    rw [List.prefix_nil.1 hl']
    exact hinv s hi
  | a :: l, s, hi, ⟨he, hes⟩ => by
    constructor
    · intro hall
      by_cases hguard : G s a
      · refine ⟨hguard, (always_iff_guarded_of hinv hkeep hbreak (hkeep s a hi he hguard) hes).1 fun l' hl' => ?_⟩
        exact hall (a :: l') (List.cons_prefix_cons.2 ⟨rfl, hl'⟩)
      · exact absurd (hall [a] (List.cons_prefix_cons.2 ⟨rfl, List.nil_prefix⟩)) (hbreak s a hi he hguard)
    · rintro ⟨hguard, hrest⟩ l' hl'
      cases l' with
      | nil => exact hinv s hi
      | cons b l' =>
        obtain ⟨rfl, htail⟩ := List.cons_prefix_cons.1 hl'
        exact (always_iff_guarded_of hinv hkeep hbreak (hkeep s b hi he hguard) hes).2 hrest l' htail

/-- The exact condition for a property of every state of a run: each step keeps an invariant that has the property if
it meets the guard, and breaks the property otherwise. -/
theorem always_iff_guarded {Inv P : σ → Prop} (hinv : ∀ s, Inv s → P s)
    (hkeep : ∀ s a, Inv s → G s a → Inv (step s a)) (hbreak : ∀ s a, Inv s → ¬G s a → ¬P (step s a)) {l : List α} {s : σ}
    (hi : Inv s) : (∀ l', l' <+: l → P (runFrom step s l')) ↔ Guarded step G s l :=
  always_iff_guarded_of (E := fun _ _ => True) hinv (fun s a hi _ => hkeep s a hi) (fun s a hi _ => hbreak s a hi) hi
    (guarded_iff_forall.2 fun _ _ => trivial)

end Runs
