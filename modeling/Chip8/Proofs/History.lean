import Chip8.Machine.Program
import Chip8.Machine.Trace
import Chip8.Proofs.Storage

/-!
# What can happen to a machine

Between two steps of a machine time may pass for one timer or the other, keys may go down and up, a
program may be loaded and the machine may be reset.  A history lists such events in the order in
which they happen.  Facts about every state that a machine can reach are facts about the machine
after every history, and are shown event by event.

A machine from which single histories start is a new one that already holds its program.
-/

namespace Chip8

/-- The memory of a new machine, with a program where programs start. -/
def Memory.holding (program : List UInt8) : Memory := initial.overwrite 0x200 program

@[simp] lemma Memory.size_holding (program : List UInt8) : (holding program).size = 0x1000 :=
  ((size_overwrite _ _ _).trans (size_overwrite _ _ _)).trans Array.size_replicate

namespace Machine

/-- A new machine that holds a program.  Its stack policy is the strict one. -/
def holding (program : List UInt8) (interval : Quantity := .whole 1) : Machine :=
  .initial ⟨.holding program, []⟩ ⟨⟨64, 32, Surface.darkRows 64 32, true⟩, none⟩ .initial
    (.listed [] 0) .strict 0x200 interval

/-- Lets time pass for the delay timer. -/
def passDelay (m : Machine) (elapsed : Quantity) : Machine :=
  m.mapRegisters fun r => { r with dt := (r.dt.update ⟨[], []⟩ elapsed ()).1 }

/-- Lets time pass for the sound timer, which drives the tone. -/
def passSound (m : Machine) (elapsed : Quantity) : Machine :=
  let (st, tone) := m.registers.st.update Tone.listeners elapsed m.tone
  { m with registers := { m.registers with st }, tone }

/-- What can happen to a machine. -/
inductive Event where
  /-- It executes the next instruction, or fails to. -/
  | step
  /-- Time passes for the delay timer. -/
  | passDelay (elapsed : Quantity)
  /-- Time passes for the sound timer. -/
  | passSound (elapsed : Quantity)
  /-- Registers, stack and timers are made new. -/
  | resetProcessor
  /-- The screen is cleared, too. -/
  | reset
  /-- A program is loaded, if it can be. -/
  | load (address : ℤ) (program : List UInt8)
  /-- Something is done to the keypad, or laid ready to be done during key waits. -/
  | keypad (op : KeypadOp KeyAction)

/-- The machine after an event. -/
def undergo (m : Machine) : Event → Machine
  | .step => m.step.2
  | .passDelay elapsed => m.passDelay elapsed
  | .passSound elapsed => m.passSound elapsed
  | .resetProcessor => m.resetProcessor
  | .reset => m.reset
  | .load address program =>
    match m.loadBytes address program with
    | .ok (_, m') => m'
    | .error _ => m
  | .keypad op =>
    let s := (op.perform KeyAction.perform ⟨m.keypad, m.visits⟩).2
    { m with keypad := s.thing, visits := s.batches }

/-- A program that is loaded is covered, lies at its address, and execution starts there. -/
lemma loadBytes_ok {m m' : Machine} {address : ℤ} {program : List UInt8} {n : ℕ}
    (h : m.loadBytes address program = .ok (n, m')) :
    n = program.length ∧ m.storage.memory.Covers address program.length ∧
      m' = { m with storage :=
        { m.storage with memory := m.storage.memory.overwrite address.toNat program } }.setPc
          address := by
  unfold loadBytes at h
  rw [Memory.writeBytes_eq] at h
  dsimp only [bind, Except.bind, pure, Except.pure] at h
  split at h
  · exact absurd h nofun
  · split at h
    · exact absurd h nofun
    · by_cases hc : m.storage.memory.Covers address program.length
      · rw [if_pos hc] at h
        obtain ⟨rfl, rfl⟩ := Prod.mk.inj (Except.ok.inj h)
        exact ⟨rfl, hc, rfl⟩
      · rw [if_neg hc] at h
        exact absurd h nofun

/-- The machine after a history. -/
def after (m : Machine) (history : List Event) : Machine := history.foldl undergo m

/-- A property that every event keeps holds after every history. -/
lemma after_induction {P : Machine → Prop} {Q : Event → Prop}
    (hevent : ∀ m e, Q e → P m → P (m.undergo e)) {m : Machine} (h : P m) {history : List Event}
    (hall : ∀ e ∈ history, Q e) : P (m.after history) := by
  induction history generalizing m with
  | nil => exact h
  | cons e rest ih =>
    exact ih (hevent m e (hall e List.mem_cons_self) h) fun e' he' =>
      hall e' (List.mem_cons_of_mem e he')

end Machine

end Chip8
