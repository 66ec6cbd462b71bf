import Mathlib.Data.Nat.Notation
import Mathlib.Tactic.Lemma

/-!
# One success after another

A step of whatever kind fails or gives an answer, and leaves a state in either case.
`Consecutive act s answers s'` says that the step `act` succeeds as many times in a row as there are
answers, and leads from `s` to `s'`.  Such a run can be cut at any of its steps, and it can be
computed: `answers` makes the steps until one fails.
-/

namespace Chip8

/-- Successes in a row, with the answers that they gave. -/
inductive Consecutive {σ α η : Type} (act : σ → Except η α × σ) : σ → List α → σ → Prop where
  | nil (s : σ) : Consecutive act s [] s
  | cons {s s' s'' : σ} {a : α} {rest : List α} (h : act s = (.ok a, s'))
      (hrest : Consecutive act s' rest s'') : Consecutive act s (a :: rest) s''

namespace Consecutive

variable {σ α η : Type} {act : σ → Except η α × σ} {s s' : σ}

lemma append_iff {first second : List α} :
    Consecutive act s (first ++ second) s' ↔
      ∃ mid, Consecutive act s first mid ∧ Consecutive act mid second s' := by
  induction first generalizing s with
  | nil =>
    constructor
    · exact fun h => ⟨s, .nil s, h⟩
    · rintro ⟨mid, hfirst, hsecond⟩
      cases hfirst
      exact hsecond
  | cons a rest ih =>
    constructor
    · intro h
      cases h with
      | cons ha hrest =>
        obtain ⟨mid, hmid, hsecond⟩ := ih.1 hrest
        exact ⟨mid, .cons ha hmid, hsecond⟩
    · rintro ⟨mid, hfirst, hsecond⟩
      cases hfirst with
      | cons ha hrest => exact .cons ha (ih.2 ⟨mid, hrest, hsecond⟩)

lemma cons_iff {a : α} {rest : List α} :
    Consecutive act s (a :: rest) s' ↔
      ∃ mid, act s = (.ok a, mid) ∧ Consecutive act mid rest s' := by
  constructor
  · rintro (_ | ⟨ha, hrest⟩)
    exact ⟨_, ha, hrest⟩
  · rintro ⟨mid, ha, hrest⟩
    exact .cons ha hrest

/-- A run is cut before and after any of its steps. -/
lemma split {earlier later : List α} {a : α} (h : Consecutive act s (earlier ++ a :: later) s') :
    ∃ s₁ s₂, Consecutive act s earlier s₁ ∧ act s₁ = (.ok a, s₂) ∧
      Consecutive act s₂ later s' := by
  obtain ⟨s₁, hearlier, hrest⟩ := append_iff.1 h
  obtain ⟨s₂, ha, hlater⟩ := cons_iff.1 hrest
  exact ⟨s₁, s₂, hearlier, ha, hlater⟩

/-- The answers of a step that is made so many times, or up to the first time that it fails. -/
def answers (act : σ → Except η α × σ) : ℕ → σ → List α
  | 0, _ => []
  | count + 1, s =>
    match act s with
    | (.ok a, s) => a :: answers act count s
    | (.error _, _) => []

/-- If none fails, they are successes in a row. -/
lemma of_length_answers {count : ℕ} (h : (answers act count s).length = count) :
    ∃ s', Consecutive act s (answers act count s) s' := by
  induction count generalizing s with
  | zero => exact ⟨s, .nil s⟩
  | succ count ih =>
    rcases ha : act s with ⟨e | a, mid⟩
    · rw [answers, ha] at h
      exact absurd h nofun
    · rw [answers, ha] at h ⊢
      obtain ⟨s', hs'⟩ := ih (Nat.succ.inj h)
      exact ⟨s', .cons ha hs'⟩

end Consecutive

end Chip8
