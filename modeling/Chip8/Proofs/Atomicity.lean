import Chip8.Proofs.Cycle
import Chip8.Proofs.Effect
import Chip8.Proofs.History

/-!
# A fault changes nothing

An instruction that faults makes its one access, or its one look at the stack, before it changes
anything, and what it would have changed then stays as it was.  Only the journal and the keypad can
tell that something was tried: the fetch has been written down, and a key wait has let others act.

The main result, `step_fault_atomic`, also follows the fault out of the step into the cycle of a
paced machine: the cycle ends at once, nobody is told of it, it is not counted and no time passes
for the timers.
-/

namespace Chip8

namespace Machine

/-- The second machine differs from the first in its journal and its keypad only. -/
structure Unharmed (m m' : Machine) : Prop where
  registers : m'.registers = m.registers
  memory : m'.storage.memory = m.storage.memory
  screen : m'.screen = m.screen
  tone : m'.tone = m.tone
  random : m'.random = m.random
  policy : m'.policy = m.policy
  origin : m'.origin = m.origin
  timerInterval : m'.timerInterval = m.timerInterval
  paused : m'.paused = m.paused
  cycles : m'.cycles = m.cycles
  log : m'.log = m.log

namespace Unharmed

variable {m m' m'' : Machine}

lemma refl (m : Machine) : Unharmed m m := ⟨rfl, rfl, rfl, rfl, rfl, rfl, rfl, rfl, rfl, rfl, rfl⟩

lemma trans (h : Unharmed m m') (h' : Unharmed m' m'') : Unharmed m m'' where
  registers := h'.registers.trans h.registers
  memory := h'.memory.trans h.memory
  screen := h'.screen.trans h.screen
  tone := h'.tone.trans h.tone
  random := h'.random.trans h.random
  policy := h'.policy.trans h.policy
  origin := h'.origin.trans h.origin
  timerInterval := h'.timerInterval.trans h.timerInterval
  paused := h'.paused.trans h.paused
  cycles := h'.cycles.trans h.cycles
  log := h'.log.trans h.log

/-- Another journal, the memory being the same. -/
lemma withStorage {storage : Storage} (h : storage.memory = m.storage.memory) :
    Unharmed m { m with storage } := ⟨rfl, h, rfl, rfl, rfl, rfl, rfl, rfl, rfl, rfl, rfl⟩

/-- Another keypad, with other things to be done to it. -/
lemma withKeypad (m : Machine) (keypad : Keypad) (visits : List (List (KeypadOp KeyAction))) :
    Unharmed m { m with visits, keypad } := ⟨rfl, rfl, rfl, rfl, rfl, rfl, rfl, rfl, rfl, rfl, rfl⟩

end Unharmed

/-! ### Instructions -/

/-- No instruction that faults has changed anything. -/
lemma Effect.unharmed {m m' : Machine} {w : Word} {op : Opcode} {o : Outcome Flow} {c : Fault}
    (h : Effect m w op o) (hc : o = (.error (.fault c), m')) : Unharmed m m' := by
  cases h with
  | refused | uncovered =>
    obtain ⟨-, rfl⟩ := Prod.mk.inj hc
    exact .refl m
  | noKey =>
    obtain ⟨-, rfl⟩ := Prod.mk.inj hc
    exact .withKeypad m _ _
  | _ => exact absurd (congrArg Prod.fst hc) nofun

/-! ### Steps -/

/-- A step that faults leaves the machine unharmed. -/
lemma step_unharmed {m m' : Machine} {c : Fault} (h : m.step = (.error (.fault c), m')) :
    Unharmed m m' := by
  have hs := step_ending m
  rw [h] at hs
  cases hs with
  | unfetched hf => exact .withStorage (fetch_storage_memory hf)
  | failed hf he =>
    exact (Unharmed.withStorage (fetch_storage_memory hf)).trans
      ((execute_effect _ _ _).unharmed he)

end Machine

/-- **A fault is atomic.**  A step that faults leaves registers, stack, timers, memory, screen,
random source and count of instructions exactly as they were.  If the step was the one of a cycle,
the cycle ends with the fault: the timers have got no time, the cycle is not counted, and the world
is as it was but for one reading of the clock, whoever would have listened; a debugger in it has
neither history nor hit that it had not before. -/
theorem Machine.step_fault_atomic {m m' : Machine} {c : Fault}
    (h : m.step = (.error (.fault c), m')) :
    m.Unharmed m' ∧
      (∀ (ε : Type) [Clock ε Int] (env : Surroundings ε) (patience : ℕ) (s : Rig × ε),
        s.1.machine = m → env.obstacle (Rig.begin s).2 = none →
          ∃ pace, Rig.cycle env patience s =
              (.error (.failure (.fault c)), ⟨m', pace⟩, (Rig.begin s).2.2) ∧
            pace.cycles = s.1.pace.cycles) ∧
      ∀ (ε : Type) [Clock ε Int] (env : Surroundings (Debugger × ε)) (patience : ℕ)
        (s : Rig × Debugger × ε), s.1.machine = m → env.obstacle (Rig.begin s).2 = none →
          (Rig.cycle env patience s).2.2.1 = s.2.1 := by
  have hcycle : ∀ (ε : Type) [Clock ε Int] (env : Surroundings ε) (patience : ℕ) (s : Rig × ε),
      s.1.machine = m → env.obstacle (Rig.begin s).2 = none →
        Rig.cycle env patience s =
          (.error (.failure (.fault c)), { (Rig.begin s).2.1 with machine := m' },
            (Rig.begin s).2.2) := by
    intro ε _ env patience s hm ho
    have hstep : (Rig.begin s).2.1.machine.step = (.error (.fault c), m') := by
      rw [Rig.begin_machine, hm, h]
    exact Rig.cycle_of_attempt_error (Rig.attempt_of_step_error ho hstep) patience
  refine ⟨step_unharmed h, ?_, ?_⟩
  · intro ε _ env patience s hm ho
    exact ⟨_, hcycle ε env patience s hm ho, Rig.begin_cycles s⟩
  · intro ε _ env patience s hm ho
    rw [hcycle _ env patience s hm ho]
    exact Rig.begin_debugger s

/-- A machine that is about to draw five rows from the last two places of its memory. -/
def Machine.drawingAtEnd : Machine :=
  { Machine.holding [0xD0, 0x05] with
    registers := { Registers.initial 0x200 (.whole 1) with i := 0xFFE } }

theorem Machine.step_fault_atomic_drawingAtEnd :
    drawingAtEnd.step.1 = .error (.fault (.memoryAccess 0xFFE 5 0x1000)) ∧
      drawingAtEnd.Unharmed drawingAtEnd.step.2 ∧
      (Rig.cycle (.still (SteadyClock ℤ)) 4 (⟨drawingAtEnd, .brisk⟩, ⟨0, 1⟩)).2.2 = ⟨1, 1⟩ := by
  have hfault : drawingAtEnd.step.1 = .error (.fault (.memoryAccess 0xFFE 5 0x1000)) := by
    decide +kernel
  have h : drawingAtEnd.step =
      (.error (.fault (.memoryAccess 0xFFE 5 0x1000)), drawingAtEnd.step.2) := by
    rw [← hfault]
  obtain ⟨hm, hcycle, -⟩ := step_fault_atomic h
  obtain ⟨pace, hc, -⟩ :=
    hcycle (SteadyClock ℤ) (.still _) 4 (⟨drawingAtEnd, .brisk⟩, ⟨0, 1⟩) rfl rfl
  refine ⟨hfault, hm, ?_⟩
  rw [hc]
  rfl

end Chip8
