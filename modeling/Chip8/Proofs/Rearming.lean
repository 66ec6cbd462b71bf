import Chip8.Proofs.Listeners
import Mathlib.Algebra.Order.Ring.Int
import Mathlib.Data.List.Induction
import Mathlib.Tactic.Ring

/-!
# Timers that are assigned by those they tell

An assignment arms one interval.  But when it comes from a listener who was told that the value went
down, the update goes on to begin the next interval, and adds a second interval to the one that was
just armed.  A listener who was told that the timer stopped comes too late for that, and its
assignment arms one interval.

So more than an interval remains exactly if an assignment of the first kind was the last, and less
than an interval has passed since (`Timer.TwiceArmed`); and two intervals are the most.  The main
result is `Timer.rearmed_exactly`.
-/

namespace Chip8

/-- How many intervals are armed by a listener who assigns the timer upon a notice. -/
def TimerNotice.intervals : TimerNotice → ℤ
  | .elapsed => 2
  | .stopped => 1

/-- The move does not let time pass backwards, and time passes by the tick. -/
def TimerMove.Forward : TimerMove → Prop
  | .assign _ => True
  | .pass elapsed => ∃ e : ℤ, 0 ≤ e ∧ elapsed = .whole e

namespace Timer

variable {σ : Type} {listeners : TimerListeners σ} {n : ℤ}

/-- The moves came to a listener who was told that the value went down and was the last to assign
the timer, to a value other than zero; then nothing happened but that `since` ticks have passed. -/
inductive TwiceArmed (listeners : TimerListeners σ) (p : Timer × σ) :
    List TimerMove → ℤ → Prop where
  | now {moves : List TimerMove} {elapsed : Quantity} {value : ℤ}
      (h : lastAssignment? listeners elapsed (after listeners p moves) = some (.elapsed, value))
      (hv : value % 256 ≠ 0) : TwiceArmed listeners p (moves ++ [.pass elapsed]) 0
  | since {moves : List TimerMove} {since : ℤ} (h : TwiceArmed listeners p moves since) (e : ℤ) :
      TwiceArmed listeners p (moves ++ [.pass (.whole e)]) (since + e)

/-- What remains of the interval after the last assignment that a listener makes. -/
lemma remaining_of_lastAssignment {elapsed : Quantity} {p : Timer × σ} {notice : TimerNotice}
    {value : ℤ} (hp : p.1.interval = .whole n)
    (h : lastAssignment? listeners elapsed p = some (notice, value)) (hv : value % 256 ≠ 0) :
    (p.1.update listeners elapsed p.2).1.remaining = .whole (notice.intervals * n) := by
  have hpassed := update_passed listeners elapsed p.1 p.2
  generalize (p.1.update listeners elapsed p.2).1 = t' at hpassed ⊢
  generalize lastAssignment? listeners elapsed p = last at hpassed h
  subst h
  cases hpassed with
  | doubled =>
    dsimp only
    rw [hp, Quantity.whole_add, ← two_mul]
    rfl
  | silenced _ _ hzero => exact absurd hzero hv
  | restarted =>
    have hone : (p.1.assign value).remaining = p.1.interval :=
      if_neg fun hzero => hv ((assign_value_eq_zero_iff p.1 value).1 hzero)
    rw [hone, hp, TimerNotice.intervals, one_mul]

lemma after_interval (listeners : TimerListeners σ) (p : Timer × σ) (moves : List TimerMove) :
    (after listeners p moves).1.interval = p.1.interval := by
  induction moves using List.reverseRecOn with
  | nil => rfl
  | append_singleton moves move ih =>
    rw [after_concat, ← ih]
    cases move with
    | assign => rfl
    | pass elapsed => exact (update_passed _ _ _ _).interval_eq

/-- A timer with the interval `n` of which `r` remains, two intervals at most. -/
structure Armed (n r : ℤ) (t : Timer) : Prop where
  interval_eq : t.interval = .whole n
  remaining_eq : t.remaining = .whole r
  remaining_le : r ≤ 2 * n
  /-- Nothing remains when the timer does not count. -/
  idle : t.value = 0 → r = 0

namespace Armed

variable {n r : ℤ} {t : Timer}

/-- An assignment arms one interval, or none. -/
lemma assign (hn : 0 < n) (ht : t.interval = .whole n) (value : ℤ) :
    ∃ r, Armed n r (t.assign value) ∧ r ≤ n := by
  by_cases h0 : (t.assign value).value = 0
  · have hnone : (t.assign value).remaining = 0 := if_pos h0
    exact ⟨0, ⟨ht, hnone, by omega, fun _ => rfl⟩, hn.le⟩
  · have hone : (t.assign value).remaining = t.interval := if_neg h0
    exact ⟨n, ⟨ht, hone.trans ht, by omega, fun h => absurd h h0⟩, le_refl n⟩

/-- If more than an interval remains after time has passed, then more remained before and nobody was
told anything, or a listener has armed the second interval. -/
lemma pass (hn : 0 < n) (h : Armed n r t) {e : ℤ} (he : 0 ≤ e) (rest : σ) :
    ∃ r', Armed n r' (t.update listeners (.whole e) rest).1 ∧
      (n < r' → n < r ∧ r' = r - e ∨ r' = 2 * n ∧
        ∃ value, value % 256 ≠ 0 ∧
          lastAssignment? listeners (.whole e) (t, rest) = some (.elapsed, value)) := by
  have hleft : t.remaining - .whole e = .whole (r - e) := by
    rw [h.remaining_eq]
    rfl
  have hle := h.remaining_le
  have hpassed := update_passed listeners (.whole e) t rest
  generalize (t.update listeners (.whole e) rest).1 = t' at hpassed ⊢
  generalize lastAssignment? listeners (.whole e) (t, rest) = last at hpassed ⊢
  cases hpassed with
  | idle h0 =>
    have hzero := h.idle h0
    exact ⟨r, h, by omega⟩
  | early h0 hr =>
    rw [hleft]
    exact ⟨r - e, ⟨h.interval_eq, rfl, by omega, fun hv => absurd hv h0⟩,
      fun hmore => .inl ⟨by omega, rfl⟩⟩
  | carried h1 hr =>
    rw [hleft] at hr ⊢
    have hdue : r - e ≤ 0 := by simpa using hr
    refine ⟨n + (r - e), ⟨h.interval_eq, ?_, by omega, fun hv => ?_⟩, by omega⟩
    · rw [h.interval_eq]
      rfl
    · dsimp only at hv
      omega
  | ended => exact ⟨0, ⟨h.interval_eq, rfl, by omega, fun _ => rfl⟩, by omega⟩
  | @doubled _ _ value hv =>
    refine ⟨2 * n, ⟨h.interval_eq, ?_, le_refl _, fun h0 => ?_⟩,
      fun _ => .inr ⟨rfl, value, hv, rfl⟩⟩
    · dsimp only
      rw [h.interval_eq, Quantity.whole_add, ← two_mul]
    · exact absurd ((assign_value_eq_zero_iff t value).1 h0) hv
  | silenced => exact ⟨0, ⟨h.interval_eq, rfl, by omega, fun _ => rfl⟩, by omega⟩
  | restarted _ _ value =>
    obtain ⟨r', hr', hone⟩ := assign hn h.interval_eq value
    exact ⟨r', hr', by omega⟩

/-- As long as something of the second interval remains, nobody is told anything. -/
lemma pass_of_more (hn : 0 < n) (h : Armed n r t) {e : ℤ} (hmore : n < r - e) (he : 0 ≤ e)
    (rest : σ) : Armed n (r - e) (t.update listeners (.whole e) rest).1 := by
  have hleft : t.remaining - .whole e = .whole (r - e) := by
    rw [h.remaining_eq]
    rfl
  have h0 : t.value ≠ 0 := fun hv => by
    have hzero := h.idle hv
    omega
  have hle := h.remaining_le
  rw [update_of_early _ _ h0 (by rw [hleft]; simp; omega), hleft]
  exact ⟨h.interval_eq, rfl, by omega, fun hv => absurd hv h0⟩

end Armed

/-- After moves that let time pass forward two intervals remain at most, and if it is more than one,
then two were armed. -/
lemma exists_armed (hn : 0 < n) (listeners : TimerListeners σ) (rest : σ)
    {history : List TimerMove} (hhistory : ∀ move ∈ history, move.Forward) :
    ∃ r, Armed n r (after listeners (idle (.whole n), rest) history).1 ∧
      (n < r → ∃ since, TwiceArmed listeners (idle (.whole n), rest) history since ∧
        r = 2 * n - since) := by
  induction history using List.reverseRecOn with
  | nil => exact ⟨0, ⟨rfl, rfl, by omega, fun _ => rfl⟩, by omega⟩
  | append_singleton history move ih =>
    obtain ⟨r, h, htwice⟩ := ih fun move hmove => hhistory move (List.mem_append_left _ hmove)
    have hmove := hhistory move (by simp)
    rw [after_concat]
    cases move with
    | assign value =>
      obtain ⟨r', h', hone⟩ := Armed.assign hn h.interval_eq value
      exact ⟨r', h', by omega⟩
    | pass elapsed =>
      obtain ⟨e, he, rfl⟩ := hmove
      obtain ⟨r', h', hmore⟩ := h.pass hn he
        (after listeners (idle (.whole n), rest) history).2
      refine ⟨r', h', fun hr => ?_⟩
      rcases hmore hr with ⟨hbefore, rfl⟩ | ⟨rfl, value, hv, hlast⟩
      · obtain ⟨since, hsince, rfl⟩ := htwice hbefore
        exact ⟨since + e, hsince.since e, by ring⟩
      · exact ⟨0, .now hlast hv, by ring⟩

/-- Once two intervals were armed, what remains of them is what has not passed, as long as it is
more than one. -/
lemma TwiceArmed.remaining_eq (hn : 0 < n) {rest : σ} {history : List TimerMove} {since : ℤ}
    (h : TwiceArmed listeners (idle (.whole n), rest) history since)
    (hhistory : ∀ move ∈ history, move.Forward) (hsince : since < n) :
    (after listeners (idle (.whole n), rest) history).1.remaining = .whole (2 * n - since) := by
  induction h with
  | @now moves elapsed value hlast hv =>
    rw [after_concat, sub_zero]
    exact remaining_of_lastAssignment (after_interval _ _ moves) hlast hv
  | @since moves since _ e ih =>
    have hmoves : ∀ move ∈ moves, move.Forward := fun move hmove =>
      hhistory move (List.mem_append_left _ hmove)
    obtain ⟨e', he, heq⟩ := hhistory (.pass (.whole e)) (by simp)
    obtain rfl : e = e' := Quantity.whole.inj heq
    have hbefore := ih hmoves (by omega)
    obtain ⟨r, harmed, -⟩ := exists_armed hn listeners rest hmoves
    obtain rfl : r = 2 * n - since := Quantity.whole.inj (harmed.remaining_eq.symm.trans hbefore)
    rw [after_concat, ← sub_sub]
    exact (harmed.pass_of_more hn (by omega) he _).remaining_eq

/-- **What a listener's assignment arms, and when more than one interval remains.**  Take a timer
with a whole positive interval `n`, and any history of assignments and of time that passes, with
listeners who may assign it.  If the last assignment that a listener makes in an update is to a
value other than zero, then one interval remains after the update if the listener was told that the
timer stopped, but two if it was told that the value went down.  And if time passes by the tick and
never backwards, two intervals are the most that can remain, and more than one remains exactly if
two were armed in this way and less than an interval has passed since. -/
theorem rearmed_exactly (hn : 0 < n) (listeners : TimerListeners σ) (rest : σ)
    (history : List TimerMove) :
    let s := after listeners (idle (.whole n), rest) history
    (∀ elapsed notice value, lastAssignment? listeners elapsed s = some (notice, value) →
        value % 256 ≠ 0 →
          (s.1.update listeners elapsed s.2).1.remaining = .whole (notice.intervals * n)) ∧
      ((∀ move ∈ history, move.Forward) → ∃ r, s.1.remaining = .whole r ∧ r ≤ 2 * n ∧
        (n < r ↔ ∃ since < n, TwiceArmed listeners (idle (.whole n), rest) history since)) := by
  intro s
  refine ⟨fun elapsed notice value hlast hv => ?_, fun hhistory => ?_⟩
  · exact remaining_of_lastAssignment (after_interval _ _ history) hlast hv
  · obtain ⟨r, harmed, htwice⟩ := exists_armed hn listeners rest hhistory
    refine ⟨r, harmed.remaining_eq, harmed.remaining_le, fun hr => ?_, ?_⟩
    · obtain ⟨since, hsince, rfl⟩ := htwice hr
      exact ⟨since, by omega, hsince⟩
    · rintro ⟨since, hlt, hsince⟩
      have hremaining := hsince.remaining_eq hn hhistory hlt
      obtain rfl : r = 2 * n - since :=
        Quantity.whole.inj (harmed.remaining_eq.symm.trans hremaining)
      omega

/-- For one, a listener who assigns three whenever the value goes down leaves two intervals. -/
theorem rearmed_exactly_withThree :
    let listeners : TimerListeners Unit := ⟨[fun _ rest => ([3], rest)], []⟩
    let s := after listeners (idle (.whole 1000), ()) [.assign 2]
    lastAssignment? listeners (.whole 1000) s = some (.elapsed, 3) ∧
      (s.1.update listeners (.whole 1000) s.2).1.remaining = .whole 2000 ∧
      ∃ r, s.1.remaining = .whole r ∧ r ≤ 2000 := by
  intro listeners s
  have hforward : ∀ move ∈ [TimerMove.assign 2], move.Forward := by simp [TimerMove.Forward]
  have hlast : lastAssignment? listeners (.whole 1000) s = some (.elapsed, 3) := rfl
  obtain ⟨hremaining, hmost⟩ :=
    rearmed_exactly (by decide : (0 : ℤ) < 1000) listeners () [.assign 2]
  obtain ⟨r, hr, hle, -⟩ := hmost hforward
  exact ⟨hlast, hremaining _ _ _ hlast (by decide), r, hr, hle⟩

end Timer

end Chip8
