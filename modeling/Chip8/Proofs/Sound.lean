import Chip8.Tone
import Mathlib.Data.Int.Notation
import Mathlib.Data.Nat.Notation
import Mathlib.Tactic.Lemma

/-!
# The sound timer and its tone

The tone hears of the sound timer only when time passes for it: it is told to begin when the value
goes down, and to end when the value reaches zero by that.  An assignment is not told.  So a zero
that is assigned while the tone sounds leaves it sounding beside a timer that will never end it, and
this file says after which moves exactly this is so.

Only two facts about a single move are needed, `sounding_make` and `hangs_make_iff`; those about
many moves follow by induction.
-/

namespace Chip8

deriving instance DecidableEq for Quantity

/-- The sound timer and the tone that it drives. -/
structure Sound where
  /-- The sound timer. -/
  timer : Timer
  /-- The tone. -/
  tone : Tone

/-- What can be done to the sound timer. -/
inductive SoundMove where
  /-- It is assigned a value. -/
  | assign (value : ℤ)
  /-- Time passes for it. -/
  | pass (elapsed : Quantity)
  /-- It is made new, and the tone is told to end. -/
  | reset (interval : Quantity)
deriving DecidableEq

/-- Whether a move lets time pass. -/
def SoundMove.IsPass : SoundMove → Prop
  | pass _ => True
  | assign _ | reset _ => False

namespace Sound

/-- What a move makes of timer and tone. -/
def make (s : Sound) : SoundMove → Sound
  | .assign value => { s with timer := s.timer.assign value }
  | .pass elapsed =>
    let (timer, tone) := s.timer.update Tone.listeners elapsed s.tone
    ⟨timer, tone⟩
  | .reset interval => ⟨.idle interval, s.tone.stop⟩

/-- What moves make of timer and tone, one after another. -/
def after (s : Sound) (moves : List SoundMove) : Sound := moves.foldl make s

@[simp] lemma after_nil (s : Sound) : s.after [] = s := rfl

@[simp] lemma after_cons (s : Sound) (move : SoundMove) (rest : List SoundMove) :
    s.after (move :: rest) = (s.make move).after rest := rfl

@[simp] lemma after_append (s : Sound) (moves rest : List SoundMove) :
    s.after (moves ++ rest) = (s.after moves).after rest := List.foldl_append

/-- The tone sounds, and the timer that should end it has stopped already. -/
def Hangs (s : Sound) : Prop := s.tone.sounding = true ∧ s.timer.value = 0

/-! ### One move -/

lemma tellAll_elapsed (p : Timer × Tone) :
    Timer.tellAll Tone.listeners.elapsed p = (p.1, p.2.start) := rfl

lemma tellAll_stopped (p : Timer × Tone) :
    Timer.tellAll Tone.listeners.stopped p = (p.1, p.2.stop) := rfl

/-- The value that the timer goes down to when time passes, if it goes down. -/
def countdown? (s : Sound) (elapsed : Quantity) : Option ℕ :=
  if s.timer.value = 0 ∨ 0 < s.timer.remaining - elapsed then none else some (s.timer.value - 1)

lemma make_pass_of_none {s : Sound} {elapsed : Quantity} (h : s.countdown? elapsed = none) :
    (s.make (.pass elapsed)).timer.value = s.timer.value ∧
      (s.make (.pass elapsed)).tone = s.tone := by
  unfold countdown? at h
  split at h
  · rename_i hc
    unfold make Timer.update
    dsimp only
    by_cases h0 : s.timer.value = 0
    · rw [if_pos h0]
      exact ⟨rfl, rfl⟩
    · rw [if_neg h0, if_pos (hc.resolve_left h0)]
      exact ⟨rfl, rfl⟩
  · cases h

lemma make_pass_of_some {s : Sound} {elapsed : Quantity} {n : ℕ}
    (h : s.countdown? elapsed = some n) :
    (s.make (.pass elapsed)).timer.value = n ∧
      (s.make (.pass elapsed)).tone.sounding = decide (n ≠ 0) := by
  unfold countdown? at h
  split at h
  · cases h
  · rename_i hc
    obtain ⟨h0, hr⟩ := not_or.1 hc
    obtain rfl := Option.some.inj h
    unfold make Timer.update
    dsimp only
    rw [if_neg h0, if_neg hr]
    simp only [tellAll_elapsed, tellAll_stopped]
    by_cases hv : s.timer.value - 1 = 0
    · simp [hv, Tone.stop]
    · simp [hv, Tone.start]

/-- What a move says about the tone: a value that went down starts or ends it, and a reset ends
it. -/
def verdict? (s : Sound) : SoundMove → Option Bool
  | .assign _ => none
  | .pass elapsed => (s.countdown? elapsed).map fun n => decide (n ≠ 0)
  | .reset _ => some false

/-- The tone is as the move says, or as it was if the move says nothing. -/
lemma sounding_make (s : Sound) (move : SoundMove) :
    (s.make move).tone.sounding = (s.verdict? move).getD s.tone.sounding := by
  cases move with
  | assign value => rfl
  | reset interval => rfl
  | pass elapsed =>
    rcases hc : s.countdown? elapsed with _ | n
    · rw [(make_pass_of_none hc).2, verdict?, hc]
      rfl
    · rw [(make_pass_of_some hc).2, verdict?, hc]
      rfl

/-- The tone hangs after a move if it hung before and time has passed, or if it sounded and the
timer was assigned a zero. -/
lemma hangs_make_iff (s : Sound) (move : SoundMove) :
    (s.make move).Hangs ↔
      (s.Hangs ∧ move.IsPass) ∨
        (s.tone.sounding = true ∧ ∃ value, move = .assign value ∧ value % 256 = 0) := by
  cases move with
  | assign value =>
    have hv : (s.timer.assign value).value = 0 ↔ value % 256 = 0 := by
      simp only [Timer.assign]
      omega
    simp [Hangs, hv, SoundMove.IsPass, make]
  | reset interval => simp [Hangs, SoundMove.IsPass, make, Tone.stop]
  | pass elapsed =>
    simp only [SoundMove.IsPass, and_true, reduceCtorEq, false_and, exists_false, and_false,
      or_false]
    rcases hc : s.countdown? elapsed with _ | n
    · obtain ⟨hvalue, htone⟩ := make_pass_of_none hc
      rw [Hangs, hvalue, htone, Hangs]
    · obtain ⟨hvalue, htone⟩ := make_pass_of_some hc
      have h0 : s.timer.value ≠ 0 := fun h0 => by simp [countdown?, h0] at hc
      constructor
      · rintro ⟨hsounding, hzero⟩
        rw [htone, ← hvalue, hzero] at hsounding
        exact absurd hsounding (by decide)
      · exact fun hs => absurd hs.2 h0

/-! ### Many moves -/

/-- What moves say about the tone, one after another. -/
def verdicts (s : Sound) : List SoundMove → List Bool
  | [] => []
  | move :: rest => (s.verdict? move).toList ++ (s.make move).verdicts rest

/-- **The last move that says something about the tone decides whether it sounds.** -/
theorem sounding_after (s : Sound) (moves : List SoundMove) :
    (s.after moves).tone.sounding = (s.verdicts moves).getLast?.getD s.tone.sounding := by
  induction moves generalizing s with
  | nil => rfl
  | cons move rest ih =>
    rw [after_cons, ih, sounding_make, verdicts, List.getLast?_append]
    rcases ((s.make move).verdicts rest).getLast? with _ | b
    · rcases s.verdict? move with _ | b <;> rfl
    · rfl

/-- **The tone hangs exactly after a zero that was assigned while it sounded**, if nothing but time
has passed since then.  A tone that hung before goes on to hang while only time passes. -/
theorem hangs_after_iff (s : Sound) (moves : List SoundMove) :
    (s.after moves).Hangs ↔
      (s.Hangs ∧ ∀ move ∈ moves, move.IsPass) ∨
        ∃ before value later, moves = before ++ .assign value :: later ∧ value % 256 = 0 ∧
          (s.after before).tone.sounding = true ∧ ∀ move ∈ later, move.IsPass := by
  induction moves generalizing s with
  | nil => simp
  | cons move rest ih =>
    rw [after_cons, ih, hangs_make_iff]
    constructor
    · rintro (⟨⟨hs, hmove⟩ | ⟨hsounding, value, rfl, hv⟩, hrest⟩ |
        ⟨before, value, later, rfl, hv, hsounding, hlater⟩)
      · exact .inl ⟨hs, List.forall_mem_cons.2 ⟨hmove, hrest⟩⟩
      · exact .inr ⟨[], value, rest, rfl, hv, hsounding, hrest⟩
      · exact .inr ⟨move :: before, value, later, rfl, hv, hsounding, hlater⟩
    · rintro (⟨hs, hall⟩ | ⟨before, value, later, heq, hv, hsounding, hlater⟩)
      · obtain ⟨hmove, hrest⟩ := List.forall_mem_cons.1 hall
        exact .inl ⟨.inl ⟨hs, hmove⟩, hrest⟩
      · -- the zero is stored by the first move or by one of the rest
        cases before with
        | nil =>
          obtain ⟨rfl, rfl⟩ := List.cons.inj heq
          exact .inl ⟨.inr ⟨hsounding, value, rfl, hv⟩, hlater⟩
        | cons b before =>
          obtain ⟨rfl, rfl⟩ := List.cons.inj heq
          exact .inr ⟨before, value, later, rfl, hv, hsounding, hlater⟩

end Sound

end Chip8
