import Chip8.Proofs.Listeners
import Chip8.Tone
import Mathlib.Algebra.BigOperators.Group.List.Basic
import Mathlib.Algebra.Order.Ring.Int
import Mathlib.Data.List.Induction
import Mathlib.Tactic.Linarith
import Mathlib.Tactic.Ring

/-!
# How a timer counts down

Time passes for a timer in pieces of any size, and a piece takes at most one off the value, however
many intervals it spans.  What was too much is not lost: it stands as a debt in what remains of the
interval, and as long as there is a debt every piece takes one off the value.

So the account of a timer is exact (`Timer.OnAccount`): what has passed since it was assigned is one
interval for each step of the value, and what is gone of the present one.  Pieces of an interval at
most leave no debt, and then the value is what a clock would show.  The main result is
`Timer.counts_exactly`.
-/

namespace Chip8

namespace Timer

variable {σ : Type} {listeners : TimerListeners σ}

/-- Listeners who do not assign the timer make no last assignment. -/
lemma lastAssignment?_of_passive (hl : listeners.Passive) (elapsed : Quantity) (p : Timer × σ) :
    lastAssignment? listeners elapsed p = none := by
  have hvoiced : ∀ (others : List (TimerListener σ)),
      (∀ listener ∈ others, ∀ t rest, (listener t rest).1 = []) → ∀ p, voiced others p = [] := by
    intro others hothers
    induction others with
    | nil => exact fun _ => rfl
    | cons listener others ih =>
      intro p
      rw [voiced, hothers listener List.mem_cons_self, List.nil_append]
      exact ih (fun l hl => hothers l (List.mem_cons_of_mem listener hl)) _
  obtain ⟨t, rest⟩ := p
  by_cases h : t.value = 0
  · exact lastAssignment?_of_idle _ _ h
  by_cases hr : 0 < t.remaining - elapsed
  · exact lastAssignment?_of_early _ _ h hr
  simp [lastAssignment?_of_due _ _ h hr, hvoiced _ hl.elapsed, hvoiced _ hl.stopped]

/-- The account of a timer with the interval `n` that was assigned `v₀`, after pieces of time have
passed for it; `r` remains of the present interval. -/
structure OnAccount (n v₀ : ℤ) (pieces : List ℤ) (r : ℤ) (t : Timer) : Prop where
  interval_eq : t.interval = .whole n
  remaining_eq : t.remaining = .whole r
  remaining_le : r ≤ n
  /-- While the timer counts, every step of its value stands for an interval. -/
  counting : t.value ≠ 0 → pieces.sum = n * (v₀ - t.value + 1) - r
  /-- The timer has not stopped too early. -/
  stopped : t.value = 0 → v₀ * n ≤ pieces.sum
  /-- Small pieces leave no debt. -/
  punctual : (∀ e ∈ pieces, e ≤ n) → t.value ≠ 0 → 0 < r

namespace OnAccount

variable {n v₀ r : ℤ} {pieces : List ℤ} {t : Timer}

/-- An assignment opens the account. -/
lemma assign (hn : 0 < n) (hv : 1 ≤ v₀ ∧ v₀ ≤ 255) (ht : t.interval = .whole n) :
    OnAccount n v₀ [] n (t.assign v₀) := by
  have hvalue : ((t.assign v₀).value : ℤ) = v₀ := by
    simp only [Timer.assign]
    omega
  have harmed : (t.assign v₀).remaining = t.interval := if_neg (by omega)
  refine ⟨ht, harmed.trans ht, le_refl n, fun _ => ?_, fun h => ?_, fun _ _ => hn⟩
  · rw [hvalue, List.sum_nil]
    ring
  · exfalso
    omega

/-- A piece of time is entered in the account. -/
lemma pass (hn : 0 < n) (hl : listeners.Passive) (h : OnAccount n v₀ pieces r t) {e : ℤ}
    (he : 0 ≤ e) (rest : σ) :
    ∃ r', OnAccount n v₀ (pieces ++ [e]) r' (t.update listeners (.whole e) rest).1 := by
  have hsum : (pieces ++ [e]).sum = pieces.sum + e := by simp
  have hleft : t.remaining - .whole e = .whole (r - e) := by
    rw [h.remaining_eq]
    rfl
  have hle := h.remaining_le
  have hsmall : (∀ e' ∈ pieces ++ [e], e' ≤ n) → (∀ e' ∈ pieces, e' ≤ n) ∧ e ≤ n := fun hall =>
    ⟨fun e' he' => hall e' (List.mem_append_left _ he'), hall e (by simp)⟩
  have hpassed := update_passed listeners (.whole e) t rest
  rw [lastAssignment?_of_passive hl] at hpassed
  generalize (t.update listeners (.whole e) rest).1 = t' at hpassed ⊢
  cases hpassed with
  | idle h0 =>
    refine ⟨r, h.interval_eq, h.remaining_eq, hle, fun hv => absurd h0 hv, fun _ => ?_,
      fun _ hv => absurd h0 hv⟩
    have hover := h.stopped h0
    omega
  | early h0 hr =>
    rw [hleft] at hr ⊢
    have hpos : 0 < r - e := by simpa using hr
    refine ⟨r - e, h.interval_eq, rfl, by omega, fun hv => ?_, fun hv => absurd hv h0,
      fun _ _ => hpos⟩
    have hcount := h.counting hv
    rw [hsum, hcount]
    ring
  | carried h1 hr =>
    rw [hleft] at hr ⊢
    have hdue : r - e ≤ 0 := by simpa using hr
    have hlower : ((t.value - 1 : ℕ) : ℤ) = t.value - 1 := by omega
    refine ⟨n + (r - e), h.interval_eq, ?_, by omega, fun _ => ?_, fun hv => ?_, fun hall _ => ?_⟩
    · rw [h.interval_eq]
      rfl
    · have hcount := h.counting (by omega)
      dsimp only
      rw [hsum, hcount, hlower]
      ring
    · dsimp only at hv
      omega
    · have hdebt := h.punctual (hsmall hall).1 (by omega)
      have hpiece := (hsmall hall).2
      omega
  | ended h1 hr =>
    rw [hleft] at hr
    have hdue : r - e ≤ 0 := by simpa using hr
    refine ⟨0, h.interval_eq, rfl, hn.le, fun hv => absurd rfl hv, fun _ => ?_,
      fun _ hv => absurd rfl hv⟩
    have hcount := h.counting (by omega)
    rw [h1] at hcount
    have hall : n * (v₀ - (1 : ℕ) + 1) = v₀ * n := by
      push_cast
      ring
    omega

/-- After any pieces of time the account is in order. -/
lemma after (hn : 0 < n) (hv : 1 ≤ v₀ ∧ v₀ ≤ 255) (hl : listeners.Passive)
    (ht : t.interval = .whole n) (rest : σ) (hpieces : ∀ e ∈ pieces, 0 ≤ e) :
    ∃ r, OnAccount n v₀ pieces r
      (Timer.after listeners (t.assign v₀, rest) (pieces.map fun e => .pass (.whole e))).1 := by
  induction pieces using List.reverseRecOn with
  | nil => exact ⟨n, .assign hn hv ht⟩
  | append_singleton pieces e ih =>
    obtain ⟨r, hr⟩ := ih fun e' he' => hpieces e' (List.mem_append_left _ he')
    rw [List.map_append, List.map_singleton, after_concat]
    exact hr.pass hn hl (hpieces e (by simp)) _

variable (h : OnAccount n v₀ pieces r t) (hn : 0 < n)
include h hn

/-- The whole intervals that have passed, and the debt. -/
lemma quotient_eq (h0 : t.value ≠ 0) : pieces.sum / n = v₀ - t.value + (n - r) / n := by
  have hcut : pieces.sum = n - r + n * (v₀ - t.value) := by
    rw [h.counting h0]
    ring
  rw [hcut, Int.add_mul_ediv_left _ _ hn.ne']
  exact add_comm _ _

/-- The value is never behind what whole intervals have passed, and without a debt it is not before
it. -/
lemma steps_le (h0 : t.value ≠ 0) :
    v₀ - t.value ≤ pieces.sum / n ∧ (v₀ - t.value = pieces.sum / n ↔ 0 < r) := by
  have hle := h.remaining_le
  have hnonneg : 0 ≤ (n - r) / n := Int.ediv_nonneg (by omega) hn.le
  have hdebt : 1 ≤ (n - r) / n ↔ r ≤ 0 := by
    rw [Int.le_ediv_iff_mul_le hn]
    omega
  rw [h.quotient_eq hn h0]
  omega

/-- If no piece is longer than an interval, the value is what a clock would show. -/
lemma value_eq (hall : ∀ e ∈ pieces, e ≤ n) :
    (t.value : ℤ) = max 0 (v₀ - pieces.sum / n) := by
  by_cases h0 : t.value = 0
  · have hquotient : v₀ ≤ pieces.sum / n := (Int.le_ediv_iff_mul_le hn).2 (h.stopped h0)
    omega
  · have hsteps := ((h.steps_le hn h0).2).2 (h.punctual hall h0)
    omega

omit hn in
/-- A timer in debt goes down with every piece. -/
lemma lowered_of_debt (hl : listeners.Passive) (h0 : t.value ≠ 0) (hr : r ≤ 0) {e : ℤ} (he : 0 ≤ e)
    (rest : σ) : (t.update listeners (.whole e) rest).1.value = t.value - 1 := by
  have hdue : ¬ 0 < t.remaining - .whole e := by
    rw [h.remaining_eq]
    simp
    omega
  have hpassed := update_passed listeners (.whole e) t rest
  rw [lastAssignment?_of_passive hl] at hpassed
  generalize (t.update listeners (.whole e) rest).1 = t' at hpassed ⊢
  cases hpassed with
  | idle h0' => exact absurd h0' h0
  | early _ hr' => exact absurd hr' hdue
  | carried => rfl
  | ended h1 => rw [h1]

end OnAccount

/-- **A timer counts exactly, and never too early.**  Let a timer with a whole positive interval `n`
be assigned a value `v₀` between 1 and 255, and let whole pieces of time pass for it, none of them
negative, while nobody assigns it.  It can take every such piece.  Write `T` for their sum, `v` for
the value and `r` for what remains of the interval.  While the timer counts, `T` is
`n * (v₀ - v + 1) - r`, and `r` is at most `n`; the value has gone down by as many whole intervals
as have passed or by fewer, by as many exactly if `r` is positive, and if it is not, any further
piece takes one off the value.  The timer does not stop before `v₀` intervals have passed.  And if
no piece was longer than an interval, the value is `v₀` less the whole intervals that have passed,
or zero if they are more than that. -/
theorem counts_exactly {n v₀ : ℤ} {t : Timer} (hn : 0 < n) (hv : 1 ≤ v₀ ∧ v₀ ≤ 255)
    (hl : listeners.Passive) (ht : t.interval = .whole n) (rest : σ) {pieces : List ℤ}
    (hpieces : ∀ e ∈ pieces, 0 ≤ e) :
    let s := after listeners (t.assign v₀, rest) (pieces.map fun e => .pass (.whole e))
    let v : ℤ := s.1.value
    let T := pieces.sum
    (∀ e, s.1.canPass (.whole e) = true) ∧
      (v ≠ 0 → ∃ r, s.1.remaining = .whole r ∧ T = n * (v₀ - v + 1) - r ∧ r ≤ n ∧
        v₀ - v ≤ T / n ∧ (v₀ - v = T / n ↔ 0 < r) ∧
          (r ≤ 0 → ∀ e, 0 ≤ e → (s.1.update listeners (.whole e) s.2).1.value = v - 1)) ∧
      (v = 0 → v₀ * n ≤ T) ∧
      ((∀ e ∈ pieces, e ≤ n) → v = max 0 (v₀ - T / n)) := by
  intro s v T
  obtain ⟨r, h⟩ : ∃ r, OnAccount n v₀ pieces r s.1 :=
    OnAccount.after hn hv hl ht rest hpieces
  refine ⟨fun e => ?_, fun hv0 => ?_, fun hv0 => h.stopped (by omega), h.value_eq hn⟩
  · rw [canPass, h.remaining_eq]
    exact Bool.or_true _
  · have h0 : s.1.value ≠ 0 := by omega
    obtain ⟨hle, hiff⟩ := h.steps_le hn h0
    refine ⟨r, h.remaining_eq, h.counting h0, h.remaining_le, hle, hiff, fun hr e he => ?_⟩
    rw [h.lowered_of_debt hl h0 hr he]
    omega

/-- For one, a piece of two and a half intervals takes one off the sound timer and leaves a debt of
half an interval.  So the next piece takes one off again, however short it is. -/
theorem counts_exactly_indebted :
    let s := after Tone.listeners ((idle (.whole 10)).assign 5, {}) [.pass (.whole 25)]
    Tone.listeners.Passive ∧ s.1.value = 4 ∧ s.1.remaining = .whole (-5) ∧
      (s.1.update Tone.listeners (.whole 1) s.2).1.value = (3 : ℤ) := by
  have hl : Tone.listeners.Passive := ⟨by simp [Tone.listeners], by simp [Tone.listeners]⟩
  intro s
  have hvalue : s.1.value = 4 := rfl
  have hinterval : (idle (.whole 10)).interval = .whole 10 := rfl
  have hpieces : ∀ e ∈ [25], (0 : ℤ) ≤ e := by decide
  obtain ⟨-, hcounting, -⟩ := counts_exactly (by decide : (0 : ℤ) < 10)
    (by decide : (1 : ℤ) ≤ 5 ∧ (5 : ℤ) ≤ 255) hl hinterval ({} : Tone) hpieces
  obtain ⟨r, hr, hT, -, -, -, hnext⟩ := hcounting (by decide)
  have hdebt : r = -5 := by
    have hsum : (25 : ℤ) = 10 * (5 - 4 + 1) - r := hT
    omega
  subst hdebt
  exact ⟨hl, hvalue, hr, hnext (by decide) 1 (by decide)⟩

end Timer

end Chip8
