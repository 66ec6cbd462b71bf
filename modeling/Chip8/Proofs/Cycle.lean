import Chip8.Debugger
import Mathlib.Data.Int.Notation
import Mathlib.Data.Nat.Notation
import Mathlib.Tactic.Lemma

/-!
# How a cycle ends

A cycle at a pace has three endings, which `Rig.CycleEnding` lists: no instruction was executed, the
end of the interval was not reached, or it was reached and the cycle is told.  A fact about all
cycles is shown ending by ending.
-/

namespace Chip8

/-- Surroundings in which nothing happens. -/
def Surroundings.still (ε : Type) : Surroundings ε where
  sleep _ s := (.ok (), s)
  onCycle _ s := (.ok (), s)

/-- A pace of three nanoseconds, without sleep. -/
def Pace.brisk : Pace := { target := 3, pollInterval := .ok 1, busyWait := true }

namespace Rig

variable {ε : Type} [Clock ε Int]

/-! ### The beginning of a cycle -/

/-- Before a cycle starts, at most the clock is read. -/
lemma begin_machine (s : Rig × ε) : (begin s).2.1.machine = s.1.machine := by
  obtain ⟨rig, world⟩ := s
  unfold begin
  dsimp only
  split <;> rfl

lemma begin_cycles (s : Rig × ε) : (begin s).2.1.pace.cycles = s.1.pace.cycles := by
  obtain ⟨rig, world⟩ := s
  unfold begin
  dsimp only
  split <;> rfl

/-- The world beside a debugger may be read like a clock, and the debugger does not change. -/
lemma begin_debugger (s : Rig × Debugger × ε) : (begin s).2.2.1 = s.2.1 := by
  obtain ⟨rig, d, world⟩ := s
  unfold begin
  dsimp only
  split <;> rfl

/-! ### The instruction -/

omit [Clock ε Int] in
lemma attempt_of_step_error {env : Surroundings ε} {s : Rig × ε} {e : Failure} {m' : Machine}
    (ho : env.obstacle s = none) (h : s.1.machine.step = (.error e, m')) :
    attempt env s = (.error e, { s.1 with machine := m' }) := by
  simp only [attempt, ho, work, h]

omit [Clock ε Int] in
/-- An instruction leaves the pace as it is. -/
lemma attempt_pace (env : Surroundings ε) (s : Rig × ε) : (attempt env s).2.pace = s.1.pace := by
  unfold attempt work
  rcases env.obstacle s with _ | cause
  · rcases s.1.machine.step with ⟨_ | _, m⟩ <;> rfl
  · rfl

/-! ### Waiting -/

section Related

variable {env : Surroundings ε} {R : Rig × ε → Rig × ε → Prop} (hrefl : ∀ s, R s s)
  (htrans : ∀ {s₁ s₂ s₃}, R s₁ s₂ → R s₂ s₃ → R s₁ s₃)
  (hread : ∀ rig world, R (rig, world) (rig, (Clock.read world).2))
  (hsleep : ∀ seconds s, R s (env.sleep seconds s).2)

include hrefl hsleep

omit [Clock ε Int] in
lemma pass_related (target : Float) (now : ℤ) (s : Rig × ε) : R s (pass env target now s).2 := by
  unfold pass
  split
  · exact hrefl s
  · split
    · exact hrefl s
    · exact hsleep _ s

include htrans hread

/-- What readings of the clock and sleep lead to, waiting leads to. -/
lemma waitUntil_related (target : Float) (patience : ℕ) (s : Rig × ε) :
    R s (waitUntil env target patience s).2 := by
  induction patience generalizing s with
  | zero => exact hrefl s
  | succ patience ih =>
    obtain ⟨rig, world⟩ := s
    unfold waitUntil
    dsimp only
    split
    · have hpass := htrans (hread rig world)
        (pass_related hrefl hsleep target (Clock.read world).1 (rig, (Clock.read world).2))
      rcases hp : pass env target (Clock.read world).1 (rig, (Clock.read world).2) with ⟨_ | _, s'⟩
      · rw [hp] at hpass
        exact hpass
      · rw [hp] at hpass
        exact htrans hpass (ih s')
    · exact hread rig world

lemma await_related (patience : ℕ) (start : ℤ) (s : Rig × ε) :
    R s (await env patience start s).2 := by
  unfold await
  split
  · exact hrefl s
  · exact waitUntil_related hrefl htrans hread hsleep _ _ s

end Related

/-- What neither a reading of the clock nor sleep changes is not changed by waiting. -/
lemma await_keeps {env : Surroundings ε} {α : Type} (view : Rig × ε → α)
    (hread : ∀ rig world, view (rig, (Clock.read world).2) = view (rig, world))
    (hsleep : ∀ seconds s, view (env.sleep seconds s).2 = view s)
    (patience : ℕ) (start : ℤ) (s : Rig × ε) :
    view (await env patience start s).2 = view s :=
  await_related (R := fun s s' => view s' = view s) (fun _ => rfl) (fun h h' => h'.trans h) hread
    hsleep patience start s

/-! ### Endings -/

/-- The endings of a cycle. -/
inductive CycleEnding (env : Surroundings ε) (patience : ℕ) (s : Rig × ε) :
    Except Halt Snapshot × Rig × ε → Prop where
  /-- No instruction was executed. -/
  | failed {e : Failure} {rig : Rig} (ha : attempt env (begin s).2 = (.error e, rig)) :
      CycleEnding env patience s (.error (.failure e), rig, (begin s).2.2)
  /-- An instruction was executed, but the end of the interval was not reached. -/
  | stranded {snapshot : Snapshot} {rig : Rig} {halt : Halt} {s' : Rig × ε}
      (ha : attempt env (begin s).2 = (.ok snapshot, rig))
      (hw : await env patience (begin s).1 (rig, (begin s).2.2) = (.error halt, s')) :
      CycleEnding env patience s (.error halt, s')
  /-- An instruction was executed, and the end of the interval was reached. -/
  | reached {snapshot : Snapshot} {rig : Rig} {finish : ℤ} {s' : Rig × ε}
      (ha : attempt env (begin s).2 = (.ok snapshot, rig))
      (hw : await env patience (begin s).1 (rig, (begin s).2.2) = (.ok finish, s')) :
      CycleEnding env patience s (finishCycle env snapshot (begin s).1 finish s')

/-- **Every cycle has one of the three endings.** -/
theorem cycle_ending (env : Surroundings ε) (patience : ℕ) (s : Rig × ε) :
    CycleEnding env patience s (cycle env patience s) := by
  rcases ha : attempt env (begin s).2 with ⟨e | snapshot, rig⟩
  · have hc : cycle env patience s = (.error (.failure e), rig, (begin s).2.2) := by
      simp only [cycle, ha]
    rw [hc]
    exact .failed ha
  · rcases hw : await env patience (begin s).1 (rig, (begin s).2.2) with ⟨halt | finish, s'⟩
    · have hc : cycle env patience s = (.error halt, s') := by
        simp only [cycle, ha, hw]
      rw [hc]
      exact .stranded ha hw
    · have hc : cycle env patience s = finishCycle env snapshot (begin s).1 finish s' := by
        simp only [cycle, ha, hw]
      rw [hc]
      exact .reached ha hw

/-- The endings of a cycle as those who listen know them: nothing is told, or the snapshot is.
Until then the state changes as `R` allows. -/
inductive Telling (env : Surroundings ε) (R : Rig × ε → Rig × ε → Prop) (s : Rig × ε) :
    Except Halt Snapshot × Rig × ε → Prop where
  | untold {e : Halt} {s' : Rig × ε} (h : R s s') : Telling env R s (.error e, s')
  | told {snapshot : Snapshot} {start finish : ℤ} {s' : Rig × ε} (h : R s s') :
      Telling env R s
        ((env.onCycle snapshot (s'.1.settle start finish, s'.2)).map
          (Except.map fun _ => snapshot) id)

/-- Until a cycle is told, it reads the clock, executes an instruction and sleeps. -/
lemma cycle_telling {env : Surroundings ε} {R : Rig × ε → Rig × ε → Prop} (hrefl : ∀ s, R s s)
    (htrans : ∀ {s₁ s₂ s₃}, R s₁ s₂ → R s₂ s₃ → R s₁ s₃)
    (hread : ∀ rig world, R (rig, world) (rig, (Clock.read world).2))
    (hbegin : ∀ s, R s (begin s).2) (hattempt : ∀ s, R s ((attempt env s).2, s.2))
    (hsleep : ∀ seconds s, R s (env.sleep seconds s).2) (patience : ℕ) (s : Rig × ε) :
    Telling env R s (cycle env patience s) := by
  have hworked := htrans (hbegin s) (hattempt (begin s).2)
  have hawait : ∀ s', R s' (await env patience (begin s).1 s').2 :=
    await_related hrefl htrans hread hsleep patience (begin s).1
  have hending := cycle_ending env patience s
  generalize cycle env patience s = o at hending ⊢
  cases hending with
  | failed ha =>
    rw [ha] at hworked
    exact .untold hworked
  | @stranded snapshot rig halt s' ha hw =>
    have hawait := hawait (rig, (begin s).2.2)
    rw [hw] at hawait
    rw [ha] at hworked
    exact .untold (htrans hworked hawait)
  | @reached snapshot rig finish s' ha hw =>
    have hawait := hawait (rig, (begin s).2.2)
    rw [hw] at hawait
    rw [ha] at hworked
    have hended := htrans hworked hawait
    unfold finishCycle
    dsimp only
    split
    · exact .told hended
    · exact .untold hended

/-- A cycle in which the instruction fails ends there, and the surroundings hear nothing of it. -/
lemma cycle_of_attempt_error {env : Surroundings ε} {s : Rig × ε} {e : Failure} {rig : Rig}
    (h : attempt env (begin s).2 = (.error e, rig)) (patience : ℕ) :
    cycle env patience s = (.error (.failure e), rig, (begin s).2.2) := by
  simp only [cycle, h]

/-! ### Runs -/

omit [Clock ε Int] in
/-- The rig with which a run begins. -/
def begun (s : Rig × ε) : Rig × ε :=
  (s.1.resetClock.mapPace fun p => { p with stopRequested := false, running := true }, s.2)

/-- What a run gives once its rounds are over. -/
lemma run_eq_of_runFrom {env : Surroundings ε} {patience rounds : ℕ} {limit : Option ℤ}
    {s s' : Rig × ε} {result : Except Halt ℕ}
    (h : runFrom env patience limit rounds 0 (begun s) = (result, s')) :
    run env patience rounds limit s = (result, finishRun result s'.1, s'.2) := by
  obtain ⟨rig, world⟩ := s
  unfold begun at h
  dsimp only at h
  unfold run
  dsimp only
  rw [h]

/-- The end of a run touches one mark of the pace. -/
lemma finishRun_pace (result : Except Halt ℕ) (rig : Rig) :
    (finishRun result rig).pace = { rig.pace with running := false } := by
  unfold finishRun
  dsimp only
  split <;> rfl

end Rig

end Chip8
