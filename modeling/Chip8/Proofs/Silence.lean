import Chip8.Proofs.Tone

/-!
# Which runs end in silence

A run of a machine at a pace ends the tone, however the run ends.  A run under a debugger repeats
the same cycles and leaves the tone as they made it.  So such a run ends in silence only if the last
value that the sound timer went down to in the run was a zero, or if it went down to none and the
tone did not sound before.  This, too, is a defect: nobody is left who would end the tone.
-/

namespace Chip8

lemma Surroundings.Quiet.watching {ε : Type} {env : Surroundings (Debugger × ε)}
    (hq : env.Quiet) : (Debugger.watching env).Quiet where
  sleep := hq.sleep
  onCycle snapshot s := by
    obtain ⟨rig, d, world⟩ := s
    have hobserve : (d.observe snapshot rig).1.machine.sound = rig.machine.sound := by
      unfold Debugger.observe
      dsimp only
      split <;> rfl
    exact (hq.onCycle _ _).trans hobserve

namespace Debugger

variable {ε : Type} [Clock ε Int]

/-- The rig from which a cycle under the debugger starts. -/
def timed (s : Rig × Debugger × ε) : Rig × Debugger × ε :=
  (if s.2.1.running then s.1 else s.1.resetClock, s.2)

/-- What the rounds of a run under the debugger do to the sound timer. -/
def roundMoves (env : Surroundings (Debugger × ε)) (patience : ℕ) (limit : Option ℤ) :
    (rounds executed : ℕ) → Rig × Debugger × ε → List SoundMove
  | 0, _, _ => []
  | rounds + 1, executed, s =>
    if !s.2.1.running || Rig.limitReached limit executed then []
    else
      Rig.cycleMoves env patience (timed s) ++
        match step env patience s with
        | (.error _, _) => []
        | (.ok _, s) =>
          if s.2.1.hit.isSome || s.1.isPaused then []
          else roundMoves env patience limit rounds (executed + 1) s

/-- The rig and the debugger with which a run begins. -/
def started (s : Rig × Debugger × ε) : Rig × Debugger × ε :=
  ((if s.1.isPaused then s.1.resume else s.1).resetClock,
    { s.2.1 with hit := none, running := true }, s.2.2)

/-- What a run under the debugger does to the sound timer. -/
def runMoves (env : Surroundings (Debugger × ε)) (patience rounds : ℕ) (limit : Option ℤ)
    (s : Rig × Debugger × ε) : List SoundMove :=
  roundMoves env patience limit rounds 0 (started s)

variable {env : Surroundings (Debugger × ε)}

lemma step_sound (hq : env.Quiet) (patience : ℕ) (s : Rig × Debugger × ε) :
    (step env patience s).2.1.machine.sound =
      s.1.machine.sound.after (Rig.cycleMoves env patience (timed s)) := by
  have htimed : (timed s).1.machine = s.1.machine := by
    unfold timed
    dsimp only
    split <;> rfl
  rw [← htimed]
  exact Rig.cycle_sound hq patience (timed s)

lemma runFrom_sound (hq : env.Quiet) (patience : ℕ) (limit : Option ℤ) (rounds executed : ℕ)
    (s : Rig × Debugger × ε) :
    (runFrom env patience limit rounds executed s).2.1.machine.sound =
      s.1.machine.sound.after (roundMoves env patience limit rounds executed s) := by
  induction rounds generalizing executed s with
  | zero => rfl
  | succ rounds ih =>
    obtain ⟨rig, d, world⟩ := s
    have hstep := step_sound hq patience (rig, d, world)
    unfold runFrom roundMoves
    dsimp only
    by_cases hstop : (!d.running || Rig.limitReached limit executed) = true
    · rw [if_pos hstop, if_pos hstop]
      rfl
    · rw [if_neg hstop, if_neg hstop, Sound.after_append, ← hstep]
      rcases step env patience (rig, d, world) with ⟨_ | _, rig', d', world'⟩
      · rfl
      · dsimp only
        by_cases hhalt : (d'.hit.isSome || rig'.isPaused) = true
        · rw [if_pos hhalt, if_pos hhalt]
          rfl
        · rw [if_neg hhalt, if_neg hhalt]
          exact ih _ _

/-- A run under the debugger does to timer and tone what its cycles do, and nothing besides. -/
lemma run_sound (hq : env.Quiet) (patience rounds : ℕ) (limit : Option ℤ)
    (s : Rig × Debugger × ε) :
    (run env patience rounds limit s).2.1.machine.sound =
      s.1.machine.sound.after (runMoves env patience rounds limit s) := by
  have hstarted : (started s).1.machine.sound = s.1.machine.sound := by
    unfold started
    dsimp only
    split <;> rfl
  rw [← hstarted]
  exact runFrom_sound hq patience limit rounds 0 (started s)

end Debugger

/-- **A run ends in silence, a run under a debugger as its cycles left the tone.**  However a run
ends, at its limit, asked to stop, by a fault or otherwise, the tone does not sound afterwards,
whatever the surroundings do.  However a run under a debugger ends, at its limit, stopped, by a
breakpoint, held still or by a fault, in surroundings that leave sound timer and tone alone, the
tone sounds afterwards if the last value that the sound timer went down to during the run was not
zero; it does not sound if that was zero; and if the sound timer never went down it is as before. -/
theorem sounding_after_run {ε : Type} [Clock ε Int] (patience rounds : ℕ) (limit : Option ℤ) :
    (∀ (env : Surroundings ε) (s : Rig × ε),
      (Rig.run env patience rounds limit s).2.1.machine.tone.sounding = false) ∧
    ∀ env : Surroundings (Debugger × ε), env.Quiet → ∀ s : Rig × Debugger × ε,
      (Debugger.run env patience rounds limit s).2.1.machine.tone.sounding =
        (s.1.machine.sound.verdicts
          (Debugger.runMoves env patience rounds limit s)).getLast?.getD
            s.1.machine.tone.sounding := by
  refine ⟨fun env s => rfl, fun env hq s => ?_⟩
  have hrun := Debugger.run_sound hq patience rounds limit s
  exact (congrArg (·.tone.sounding) hrun).trans (Sound.sounding_after _ _)

/-- A machine whose tone sounds, and whose next word is no instruction. -/
def Machine.soundingAtEnd : Machine :=
  { Machine.holding [0xFF, 0xFF] (.whole 3) with
    registers := { Registers.initial 0x200 (.whole 3) with st := ⟨.whole 3, .whole 3, 5⟩ }
    tone := ⟨true, []⟩ }

/-- A debugger that has seen nothing. -/
def Debugger.fresh (m : Machine) : Debugger := ⟨[], false, m.view, none, none, 8, []⟩

theorem sounding_after_run_soundingAtEnd :
    (Rig.run (.still (SteadyClock ℤ)) 1 1 none
        (⟨.soundingAtEnd, .brisk⟩, ⟨0, 1⟩)).2.1.machine.tone.sounding = false ∧
      (Debugger.run (Debugger.watching (.still _)) 1 1 none (⟨.soundingAtEnd, .brisk⟩,
        .fresh .soundingAtEnd, (⟨0, 1⟩ : SteadyClock ℤ))).2.1.machine.tone.sounding = true := by
  obtain ⟨hrun, hdebugger⟩ := @sounding_after_run (SteadyClock ℤ) _ 1 1 none
  refine ⟨hrun _ _, ?_⟩
  rw [hdebugger _ (Surroundings.still_quiet _).watching]
  decide +kernel

end Chip8
