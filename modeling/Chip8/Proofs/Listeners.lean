import Chip8.Timer
import Mathlib.Data.Int.Notation
import Mathlib.Data.Nat.Notation
import Mathlib.Tactic.Lemma

/-!
# What becomes of a timer while others are told of it

A listener may assign the timer while it is told, and then its assignment comes in the middle of an
update: after the value went down, and before it is decided whether the timer stops.  To see which
assignment was the last, all listeners are made to write down what they assign
(`TimerListeners.recorded`); neither the timer nor the world is touched by that.

An assignment leaves nothing of a timer but its interval.  So of all that listeners assign only the
last counts, and `Timer.Passed` can list what time that passes makes of a timer, whoever listens.
-/

namespace Chip8

/-- What listeners are told about a timer. -/
inductive TimerNotice where
  /-- Its value went down. -/
  | elapsed
  /-- Its value reached zero. -/
  | stopped
deriving DecidableEq, Repr

/-- What can be done to a timer. -/
inductive TimerMove where
  /-- It is assigned a value. -/
  | assign (value : ℤ)
  /-- Time passes for it. -/
  | pass (elapsed : Quantity)

variable {σ : Type}

/-- The listener, if it also writes down what it assigns and upon which notice. -/
def TimerListener.recorded (notice : TimerNotice) (listener : TimerListener σ) :
    TimerListener (σ × List (TimerNotice × ℤ)) :=
  fun t s =>
    let (values, rest) := listener t s.1
    (values, rest, s.2 ++ values.map (notice, ·))

namespace TimerListeners

/-- The listeners, if they also write down what they assign. -/
def recorded (listeners : TimerListeners σ) : TimerListeners (σ × List (TimerNotice × ℤ)) where
  elapsed := listeners.elapsed.map (TimerListener.recorded .elapsed)
  stopped := listeners.stopped.map (TimerListener.recorded .stopped)

/-- Nobody who listens assigns the timer. -/
structure Passive (listeners : TimerListeners σ) : Prop where
  elapsed : ∀ listener ∈ listeners.elapsed, ∀ t rest, (listener t rest).1 = []
  stopped : ∀ listener ∈ listeners.stopped, ∀ t rest, (listener t rest).1 = []

end TimerListeners

namespace Timer

/-- The timer and the rest of the world after a move. -/
def make (listeners : TimerListeners σ) (p : Timer × σ) : TimerMove → Timer × σ
  | .assign value => (p.1.assign value, p.2)
  | .pass elapsed => p.1.update listeners elapsed p.2

/-- The timer and the rest of the world after moves. -/
def after (listeners : TimerListeners σ) (p : Timer × σ) (moves : List TimerMove) : Timer × σ :=
  moves.foldl (make listeners) p

lemma after_concat (listeners : TimerListeners σ) (p : Timer × σ) (moves : List TimerMove)
    (move : TimerMove) :
    after listeners p (moves ++ [move]) = make listeners (after listeners p moves) move :=
  List.foldl_append

/-- The last assignment that a listener makes while time passes, and the notice upon which it is
made. -/
def lastAssignment? (listeners : TimerListeners σ) (elapsed : Quantity) (p : Timer × σ) :
    Option (TimerNotice × ℤ) :=
  (p.1.update listeners.recorded elapsed (p.2, [])).2.2.getLast?

/-! ### Telling -/

/-- What listeners assign who are told in order. -/
def voiced : List (TimerListener σ) → Timer × σ → List ℤ
  | [], _ => []
  | listener :: rest, p => (listener p.1 p.2).1 ++ voiced rest (tell p listener)

/-- Of several assignments the last counts. -/
lemma foldl_assign (values : List ℤ) (t : Timer) :
    values.foldl assign t = values.getLast?.elim t t.assign := by
  induction values generalizing t with
  | nil => rfl
  | cons value rest ih =>
    rw [List.foldl_cons, ih, List.getLast?_cons]
    rcases rest.getLast? with _ | last <;> rfl

lemma tellAll_fst (listeners : List (TimerListener σ)) (p : Timer × σ) :
    (tellAll listeners p).1 = (voiced listeners p).getLast?.elim p.1 p.1.assign := by
  rw [← foldl_assign]
  induction listeners generalizing p with
  | nil => rfl
  | cons listener rest ih =>
    rw [voiced, List.foldl_append]
    exact ih (tell p listener)

/-- Writing down what is assigned changes nothing else. -/
lemma tellAll_recorded (notice : TimerNotice) (listeners : List (TimerListener σ)) (t : Timer)
    (rest : σ) (record : List (TimerNotice × ℤ)) :
    tellAll (listeners.map (TimerListener.recorded notice)) (t, rest, record) =
      ((tellAll listeners (t, rest)).1, (tellAll listeners (t, rest)).2,
        record ++ (voiced listeners (t, rest)).map (notice, ·)) := by
  induction listeners generalizing t rest record with
  | nil => simp [tellAll, voiced]
  | cons listener others ih =>
    have hothers := ih (tell (t, rest) listener).1 (tell (t, rest) listener).2
      (record ++ (listener t rest).1.map (notice, ·))
    rw [List.append_assoc, ← List.map_append] at hothers
    exact hothers

/-! ### Letting time pass -/

/-- The timer when its value has gone down, before anybody is told. -/
def lowered (t : Timer) (elapsed : Quantity) : Timer :=
  { t with remaining := t.remaining - elapsed, value := t.value - 1 }

section Update

variable {t : Timer} {elapsed : Quantity} (listeners : TimerListeners σ) (rest : σ)

lemma update_of_idle (h : t.value = 0) : t.update listeners elapsed rest = (t, rest) := if_pos h

lemma update_of_early (h : t.value ≠ 0) (hr : 0 < t.remaining - elapsed) :
    t.update listeners elapsed rest = ({ t with remaining := t.remaining - elapsed }, rest) := by
  unfold update
  rw [if_neg h, if_pos hr]

lemma update_of_due (h : t.value ≠ 0) (hr : ¬ 0 < t.remaining - elapsed) :
    t.update listeners elapsed rest =
      let told := tellAll listeners.elapsed (t.lowered elapsed, rest)
      if told.1.value = 0 then tellAll listeners.stopped ({ told.1 with remaining := 0 }, told.2)
      else ({ told.1 with remaining := told.1.interval + told.1.remaining }, told.2) := by
  unfold update
  rw [if_neg h, if_neg hr]
  rfl

lemma lastAssignment?_of_idle (h : t.value = 0) :
    lastAssignment? listeners elapsed (t, rest) = none := by
  rw [lastAssignment?, update_of_idle _ _ h]
  rfl

lemma lastAssignment?_of_early (h : t.value ≠ 0) (hr : 0 < t.remaining - elapsed) :
    lastAssignment? listeners elapsed (t, rest) = none := by
  rw [lastAssignment?, update_of_early _ _ h hr]
  rfl

/-- Those who are told that the timer stopped come last, if it does. -/
lemma lastAssignment?_of_due (h : t.value ≠ 0) (hr : ¬ 0 < t.remaining - elapsed) :
    lastAssignment? listeners elapsed (t, rest) =
      let told := tellAll listeners.elapsed (t.lowered elapsed, rest)
      let first := (voiced listeners.elapsed (t.lowered elapsed, rest)).getLast?
      if told.1.value = 0 then
        let second := (voiced listeners.stopped ({ told.1 with remaining := 0 }, told.2)).getLast?
        (second.map (TimerNotice.stopped, ·)).or (first.map (TimerNotice.elapsed, ·))
      else first.map (TimerNotice.elapsed, ·) := by
  rw [lastAssignment?, update_of_due _ _ h hr]
  simp only [TimerListeners.recorded, tellAll_recorded, List.nil_append]
  split
  · rw [List.getLast?_append, List.getLast?_map, List.getLast?_map]
  · exact List.getLast?_map

end Update

/-- What time that passes makes of a timer, and the last assignment that a listener makes. -/
inductive Passed (elapsed : Quantity) (t : Timer) :
    Timer → Option (TimerNotice × ℤ) → Prop where
  /-- The timer does not count. -/
  | idle (h : t.value = 0) : Passed elapsed t t none
  /-- Something of the interval remains. -/
  | early (h : t.value ≠ 0) (hr : 0 < t.remaining - elapsed) :
      Passed elapsed t { t with remaining := t.remaining - elapsed } none
  /-- The next interval begins, and what was too much is taken off it. -/
  | carried (h : 1 < t.value) (hr : ¬ 0 < t.remaining - elapsed) :
      Passed elapsed t
        { t with remaining := t.interval + (t.remaining - elapsed), value := t.value - 1 } none
  /-- The timer stops. -/
  | ended (h : t.value = 1) (hr : ¬ 0 < t.remaining - elapsed) :
      Passed elapsed t { t with remaining := 0, value := 0 } none
  /-- Somebody who was told that the value went down assigned another, and the next interval begins
  behind the one that this has armed. -/
  | doubled (h : t.value ≠ 0) (hr : ¬ 0 < t.remaining - elapsed) {value : ℤ}
      (hv : value % 256 ≠ 0) :
      Passed elapsed t { t.assign value with remaining := t.interval + t.interval }
        (some (.elapsed, value))
  /-- Somebody who was told that the value went down assigned zero, and the timer stops. -/
  | silenced (h : t.value ≠ 0) (hr : ¬ 0 < t.remaining - elapsed) {value : ℤ}
      (hv : value % 256 = 0) :
      Passed elapsed t { t with remaining := 0, value := 0 } (some (.elapsed, value))
  /-- Somebody who was told that the timer stopped assigned it. -/
  | restarted (h : t.value ≠ 0) (hr : ¬ 0 < t.remaining - elapsed) (value : ℤ) :
      Passed elapsed t (t.assign value) (some (.stopped, value))

lemma Passed.interval_eq {elapsed : Quantity} {t t' : Timer} {last : Option (TimerNotice × ℤ)}
    (h : Passed elapsed t t' last) : t'.interval = t.interval := by
  cases h <;> rfl

lemma assign_value_eq_zero_iff (t : Timer) (value : ℤ) :
    (t.assign value).value = 0 ↔ value % 256 = 0 := by
  simp only [assign]
  omega

section Due

variable {t : Timer} {elapsed : Quantity} (h : t.value ≠ 0) (hr : ¬ 0 < t.remaining - elapsed)
include h hr

/-- The outcome if nobody assigns the timer when its value went down; those who are then told that
it stopped may. -/
lemma passed_of_unassigned (second : Option ℤ) :
    Passed elapsed t
      (if (t.lowered elapsed).value = 0 then
        second.elim { t.lowered elapsed with remaining := 0 } t.assign
      else { t.lowered elapsed with remaining := t.interval + (t.remaining - elapsed) })
      (if (t.lowered elapsed).value = 0 then second.map (TimerNotice.stopped, ·) else none) := by
  have hvalue : (t.lowered elapsed).value = t.value - 1 := rfl
  by_cases hzero : (t.lowered elapsed).value = 0
  · rw [if_pos hzero, if_pos hzero]
    rcases second with _ | value
    · have hone : t.value = 1 := by omega
      have hended : { t.lowered elapsed with remaining := 0 } =
          { t with remaining := 0, value := 0 } := by
        rw [lowered, hone]
      rw [Option.elim_none, hended]
      exact .ended hone hr
    · exact .restarted h hr value
  · rw [if_neg hzero, if_neg hzero]
    exact .carried (by omega) hr

/-- The outcome if somebody assigns the timer when its value went down. -/
lemma passed_of_assigned (value : ℤ) (second : Option ℤ) :
    Passed elapsed t
      (if (t.assign value).value = 0 then
        second.elim { t.assign value with remaining := 0 } t.assign
      else { t.assign value with remaining := t.interval + (t.assign value).remaining })
      (if (t.assign value).value = 0 then
        (second.map (TimerNotice.stopped, ·)).or (some (.elapsed, value))
      else some (.elapsed, value)) := by
  have hiff := assign_value_eq_zero_iff t value
  by_cases hzero : (t.assign value).value = 0
  · rw [if_pos hzero, if_pos hzero]
    rcases second with _ | last
    · have hsilent : { t.assign value with remaining := 0 } =
          { t with remaining := 0, value := 0 } := by
        rw [← hzero]
        rfl
      rw [Option.elim_none, hsilent]
      exact .silenced h hr (hiff.1 hzero)
    · exact .restarted h hr last
  · have harmed : (t.assign value).remaining = t.interval := if_neg hzero
    rw [if_neg hzero, if_neg hzero, harmed]
    exact .doubled h hr fun hv => hzero (hiff.2 hv)

end Due

/-- **Time that passes has one of these outcomes, whoever listens.** -/
theorem update_passed (listeners : TimerListeners σ) (elapsed : Quantity) (t : Timer) (rest : σ) :
    Passed elapsed t (t.update listeners elapsed rest).1
      (lastAssignment? listeners elapsed (t, rest)) := by
  by_cases h : t.value = 0
  · rw [update_of_idle _ _ h, lastAssignment?_of_idle _ _ h]
    exact .idle h
  by_cases hr : 0 < t.remaining - elapsed
  · rw [update_of_early _ _ h hr, lastAssignment?_of_early _ _ h hr]
    exact .early h hr
  have htold := tellAll_fst listeners.elapsed (t.lowered elapsed, rest)
  rw [update_of_due _ _ h hr, lastAssignment?_of_due _ _ h hr]
  generalize (voiced listeners.elapsed (t.lowered elapsed, rest)).getLast? = first at htold ⊢
  generalize tellAll listeners.elapsed (t.lowered elapsed, rest) = p at htold ⊢
  obtain ⟨told, world⟩ := p
  dsimp only at htold ⊢
  rw [apply_ite Prod.fst, tellAll_fst]
  generalize (voiced listeners.stopped ({ told with remaining := 0 }, world)).getLast? = second
  rcases first with _ | value
  · obtain rfl : told = t.lowered elapsed := htold
    rw [Option.map_none, Option.or_none]
    exact passed_of_unassigned h hr second
  · obtain rfl : told = t.assign value := htold
    exact passed_of_assigned h hr value second

end Timer

end Chip8
