import Chip8.Proofs.Cycle
import Chip8.Proofs.Effect
import Chip8.Proofs.History
import Chip8.Proofs.Sound

/-!
# When the tone follows the sound timer

Whatever happens to a machine, alone or at a pace, does to its sound timer and its tone what some
moves do: an instruction that stores into the sound timer assigns it, time passes for it, a reset
makes it new, and everything else leaves both alone.  `Rig.moves` reads these moves off a history.

So the tone that sounds beside a sound timer of zero is one that a stored zero did not end.  That
this happens is a defect: a reset ends the tone when it makes the timer new, and an instruction that
stores a zero does not.
-/

namespace Chip8

namespace Machine

/-- The sound timer of a machine and its tone. -/
def sound (m : Machine) : Sound := ⟨m.registers.st, m.tone⟩

/-! ### Steps -/

/-- What an instruction does to the sound timer. -/
def movesOf (m : Machine) (w : Word) (op : Opcode) : List SoundMove :=
  if op = .ldStVx then [.assign (m.reg w.x)] else []

/-- What the next step does to the sound timer. -/
def stepMoves (m : Machine) : List SoundMove :=
  match m.clearJournal.fetch.1 with
  | .ok (w, op) => m.movesOf w op
  | .error _ => []

variable {m : Machine}

/-- One instruction alone touches the sound timer, and none the tone. -/
lemma Effect.sound {w : Word} {op : Opcode} {o : Outcome Flow} (h : Effect m w op o) :
    o.2.sound = m.sound.after (m.movesOf w op) := by
  have hother : ∀ {ops : List Opcode}, .ldStVx ∉ ops → op ∈ ops → m.movesOf w op = [] := by
    intro ops hnot hop
    have hne : op ≠ .ldStVx := fun heq => hnot (heq ▸ hop)
    exact if_neg hne
  cases h with
  | refused hr | ignored hr =>
    have hne : op ≠ .ldStVx := by
      rintro rfl
      exact absurd hr nofun
    rw [movesOf, if_neg hne]
    rfl
  | jump hop | skip hop | noSkip hop | load hop | compute hop | setI hop
  | uncovered hop | store hop | misused hop =>
    rw [hother (by decide) hop]
    rfl
  | nothing | clear | returned | called | randomize | assignDt | assignSt
  | key | noKey | draw | loadFrom => rfl

lemma conclude_sound (address : ℤ) (w : Word) (op : Opcode) (flow : Flow) :
    (m.conclude address w op flow).2.sound = m.sound := by
  cases flow <;> rfl

lemma Ending.sound {o : Outcome Snapshot} (h : Ending m o) :
    o.2.sound = m.sound.after m.stepMoves := by
  cases h with
  | unfetched hf =>
    rw [stepMoves, hf]
    rfl
  | @failed w op storage _ _ hf he =>
    have hs := (execute_effect { m with storage } w op).sound
    rw [he] at hs
    rw [stepMoves, hf]
    exact hs
  | @done w op storage _ _ hf he =>
    have hs := (execute_effect { m with storage } w op).sound
    rw [he] at hs
    rw [stepMoves, hf, conclude_sound]
    exact hs

lemma step_sound (m : Machine) : m.step.2.sound = m.sound.after m.stepMoves :=
  (step_ending m).sound

/-! ### Events -/

/-- What an event does to the sound timer. -/
def moves (m : Machine) : Event → List SoundMove
  | .step => m.stepMoves
  | .passSound elapsed => [.pass elapsed]
  | .resetProcessor | .reset => [.reset m.timerInterval]
  | .passDelay _ | .load _ _ | .keypad _ => []

lemma undergo_sound (m : Machine) (e : Event) :
    (m.undergo e).sound = m.sound.after (m.moves e) := by
  cases e with
  | step => exact step_sound m
  | passDelay | passSound | resetProcessor | reset | keypad => rfl
  | load address program =>
    unfold undergo
    dsimp only
    split
    · rename_i hl
      obtain ⟨-, -, rfl⟩ := loadBytes_ok hl
      rfl
    · rfl

end Machine

/-! ### Cycles -/

/-- Surroundings that leave the sound timer and the tone alone. -/
structure Surroundings.Quiet {ε : Type} (env : Surroundings ε) : Prop where
  sleep : ∀ seconds s, (env.sleep seconds s).2.1.machine.sound = s.1.machine.sound
  onCycle : ∀ snapshot s, (env.onCycle snapshot s).2.1.machine.sound = s.1.machine.sound

lemma Surroundings.still_quiet (ε : Type) : (still ε).Quiet := ⟨fun _ _ => rfl, fun _ _ => rfl⟩

namespace Rig

variable {ε : Type} [Clock ε Int]

/-- The time that a cycle gives to the timers, if it gets so far. -/
def elapsed? (env : Surroundings ε) (patience : ℕ) (s : Rig × ε) : Option ℤ :=
  match attempt env (begin s).2 with
  | (.error _, _) => none
  | (.ok _, rig) =>
    match await env patience (begin s).1 (rig, (begin s).2.2) with
    | (.error _, _) => none
    | (.ok finish, s') =>
      if s'.1.machine.canTick (.whole (finish - (begin s).1)) then some (finish - (begin s).1)
      else none

/-- What an attempt to execute an instruction does to the sound timer. -/
def attemptMoves (env : Surroundings ε) (s : Rig × ε) : List SoundMove :=
  if (env.obstacle s).isSome then [] else s.1.machine.stepMoves

/-- What a cycle does to the sound timer. -/
def cycleMoves (env : Surroundings ε) (patience : ℕ) (s : Rig × ε) : List SoundMove :=
  attemptMoves env (begin s).2 ++ (elapsed? env patience s).toList.map fun n => .pass (.whole n)

lemma work_sound (rig : Rig) :
    rig.work.2.machine.sound = rig.machine.sound.after rig.machine.stepMoves := by
  rw [← Machine.step_sound]
  unfold work
  rcases rig.machine.step with ⟨_ | _, m⟩ <;> rfl

omit [Clock ε Int] in
lemma attempt_sound (env : Surroundings ε) (s : Rig × ε) :
    (attempt env s).2.machine.sound = s.1.machine.sound.after (attemptMoves env s) := by
  unfold attempt attemptMoves
  rcases env.obstacle s with _ | cause
  · exact work_sound s.1
  · rfl

variable {env : Surroundings ε}

lemma await_sound (hq : env.Quiet) (patience : ℕ) (start : ℤ) (s : Rig × ε) :
    (await env patience start s).2.1.machine.sound = s.1.machine.sound :=
  await_keeps (fun s => s.1.machine.sound) (fun _ _ => rfl) hq.sleep patience start s

/-- In quiet surroundings every ending of a cycle does to timer and tone what its moves do. -/
lemma CycleEnding.sound (hq : env.Quiet) {patience : ℕ} {s : Rig × ε}
    {o : Except Halt Snapshot × Rig × ε} (h : CycleEnding env patience s o) :
    o.2.1.machine.sound = s.1.machine.sound.after (cycleMoves env patience s) := by
  have hattempt := attempt_sound env (begin s).2
  rw [begin_machine] at hattempt
  rw [cycleMoves, Sound.after_append, ← hattempt]
  cases h with
  | failed ha =>
    have hnone : elapsed? env patience s = none := by simp only [elapsed?, ha]
    rw [hnone, ha]
    rfl
  | @stranded snapshot rig halt s' ha hw =>
    have hnone : elapsed? env patience s = none := by simp only [elapsed?, ha, hw]
    have hawait := await_sound hq patience (begin s).1 (rig, (begin s).2.2)
    rw [hw] at hawait
    rw [hnone, ha]
    exact hawait
  | @reached snapshot rig finish s' ha hw =>
    obtain ⟨rig', world'⟩ := s'
    have hawait := await_sound hq patience (begin s).1 (rig, (begin s).2.2)
    rw [hw] at hawait
    rw [ha, ← hawait]
    unfold finishCycle
    dsimp only
    by_cases hc : rig'.machine.canTick (.whole (finish - (begin s).1)) = true
    · have hsome : elapsed? env patience s = some (finish - (begin s).1) := by
        simp only [elapsed?, ha, hw]
        exact if_pos hc
      rw [hsome, if_pos hc]
      exact hq.onCycle _ _
    · have hnone : elapsed? env patience s = none := by
        simp only [elapsed?, ha, hw]
        exact if_neg hc
      rw [hnone, if_neg hc]
      rfl

/-- In quiet surroundings a cycle does to timer and tone what its moves do. -/
lemma cycle_sound (hq : env.Quiet) (patience : ℕ) (s : Rig × ε) :
    (cycle env patience s).2.1.machine.sound =
      s.1.machine.sound.after (cycleMoves env patience s) :=
  (cycle_ending env patience s).sound hq

/-! ### Histories -/

/-- What can happen to a machine at a pace. -/
inductive Event where
  /-- An event of the machine. -/
  | machine (e : Machine.Event)
  /-- A cycle. -/
  | cycle

/-- The rig and its surroundings after an event. -/
def undergo (env : Surroundings ε) (patience : ℕ) (s : Rig × ε) : Event → Rig × ε
  | .machine e => (s.1.mapMachine (·.undergo e), s.2)
  | .cycle => (cycle env patience s).2

/-- The rig and its surroundings after a history. -/
def after (env : Surroundings ε) (patience : ℕ) (s : Rig × ε) (history : List Event) : Rig × ε :=
  history.foldl (undergo env patience) s

/-- What an event does to the sound timer. -/
def eventMoves (env : Surroundings ε) (patience : ℕ) (s : Rig × ε) : Event → List SoundMove
  | .machine e => s.1.machine.moves e
  | .cycle => cycleMoves env patience s

/-- What a history does to the sound timer. -/
def moves (env : Surroundings ε) (patience : ℕ) (s : Rig × ε) : List Event → List SoundMove
  | [] => []
  | e :: rest => eventMoves env patience s e ++ moves env patience (undergo env patience s e) rest

lemma undergo_sound (hq : env.Quiet) (patience : ℕ) (s : Rig × ε) (e : Event) :
    (undergo env patience s e).1.machine.sound =
      s.1.machine.sound.after (eventMoves env patience s e) := by
  cases e with
  | machine e => exact Machine.undergo_sound s.1.machine e
  | cycle => exact cycle_sound hq patience s

/-- A history does to timer and tone what its moves do. -/
lemma after_sound (hq : env.Quiet) (patience : ℕ) (s : Rig × ε) (history : List Event) :
    (after env patience s history).1.machine.sound =
      s.1.machine.sound.after (moves env patience s history) := by
  induction history generalizing s with
  | nil => rfl
  | cons e rest ih =>
    rw [moves, Sound.after_append, ← undergo_sound hq]
    exact ih _

/-- **The tone follows the sound timer, but for a stored zero.**  Let a machine that has not run go
through any history of steps, cycles, time that passes, resets, loaded programs and keys, in
surroundings that leave sound timer and tone alone.  Then the tone sounds beside a sound timer of
zero exactly if, of all that the history did to the sound timer, the last but for time that passed
was to store a zero, while the tone sounded.  Such a store leaves the tone as it is. -/
theorem hangs_iff_stored_zero (hq : env.Quiet) (patience : ℕ) {storage : Storage} {screen : Screen}
    {keypad : Keypad} {random : RandomSource} {policy : StackPolicy} {origin : ℤ}
    {interval : Quantity} {pace : Pace} {world : ε} (history : List Event) :
    let s := (Rig.mk (.initial storage screen keypad random policy origin interval) pace, world)
    (after env patience s history).1.machine.sound.Hangs ↔
      ∃ before value later, moves env patience s history = before ++ .assign value :: later ∧
        value % 256 = 0 ∧ (s.1.machine.sound.after before).tone.sounding = true ∧
          ∀ move ∈ later, move.IsPass := by
  intro s
  rw [after_sound hq, Sound.hangs_after_iff]
  have hsilent : ¬ s.1.machine.sound.Hangs := fun h => Bool.false_ne_true h.1
  simp only [hsilent, false_and, false_or]

end Rig

/-- A machine whose program stores a two and then a zero in the sound timer. -/
def Machine.silencing : Machine :=
  .holding [0x60, 0x02, 0xF0, 0x18, 0xF1, 0x18] (.whole 3)

theorem Rig.hangs_after_silencing :
    (after (.still (SteadyClock ℤ)) 1 (⟨.silencing, .brisk⟩, ⟨0, 1⟩)
      [.machine .step, .machine .step, .machine (.passSound (.whole 3)),
        .machine .step]).1.machine.sound.Hangs := by
  have hmoves : moves (.still (SteadyClock ℤ)) 1 (⟨.silencing, .brisk⟩, ⟨0, 1⟩)
      [.machine .step, .machine .step, .machine (.passSound (.whole 3)), .machine .step] =
        [.assign 2, .pass (.whole 3)] ++ .assign 0 :: [] := by
    decide +kernel
  exact (hangs_iff_stored_zero (Surroundings.still_quiet _) 1 _).2
    ⟨_, 0, [], hmoves, rfl, rfl, nofun⟩

end Chip8
