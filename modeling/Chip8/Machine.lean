import Chip8.Keypad.Script
import Chip8.Memory.Journal
import Chip8.Random
import Chip8.Screen
import Chip8.Tone

/-!
# The machine

A machine has registers, a call stack and two timers, a memory with a journal, a screen, a keypad,
a tone and a source of random bytes.  The state is plain data: that registers hold bytes, that the
stack pointer lies between zero and sixteen and so on is no part of the types but a fact about the
states that a machine reaches.
-/

namespace Chip8

/-- What becomes of a call while the stack is full and of a return while it is empty. -/
inductive StackPolicy where
  /-- The machine faults. -/
  | strict
  /-- The instruction is passed over. -/
  | ignore
deriving DecidableEq, Repr

/-- The name of a policy. -/
def StackPolicy.name : StackPolicy → String
  | strict => "strict"
  | ignore => "ignore"

/-- The registers, the call stack and the timers. -/
structure Registers where
  /-- The sixteen registers of a byte. -/
  v : List Nat
  /-- The address register. -/
  i : Int
  /-- The address of the next instruction. -/
  pc : Int
  /-- The number of return addresses on the stack. -/
  sp : Int
  /-- The places of the stack, from the oldest on. -/
  stack : List Int
  /-- The delay timer. -/
  dt : Timer
  /-- The sound timer. -/
  st : Timer

/-- A machine. -/
structure Machine where
  /-- Registers, stack and timers. -/
  registers : Registers
  /-- The memory and its journal. -/
  storage : Storage
  /-- The screen. -/
  screen : Screen
  /-- The keypad. -/
  keypad : Keypad
  /-- What will be done to the keypad during key waits, batch by batch. -/
  visits : List (List (KeypadOp KeyAction))
  /-- The tone. -/
  tone : Tone
  /-- Where random bytes come from. -/
  random : RandomSource
  /-- What becomes of calls and returns that the stack does not allow. -/
  policy : StackPolicy
  /-- Where execution starts. -/
  origin : Int
  /-- The interval of both timers. -/
  timerInterval : Quantity
  /-- Whether whoever drives the machine should hold still. -/
  paused : Bool
  /-- The number of instructions executed since the machine was reset. -/
  cycles : Nat
  /-- What was logged and not yet collected, oldest first. -/
  log : Array LogLine

/-- The number of registers of a byte. -/
def registerCount : Nat := 16

/-- The number of places on the stack. -/
def stackDepth : Nat := 16

/-- The register that takes flags. -/
def flagRegister : Nat := 15

namespace Registers

/-- The registers of a machine that starts at `origin`. -/
def initial (origin : Int) (interval : Quantity) : Registers where
  v := List.replicate registerCount 0
  i := 0
  pc := origin
  sp := 0
  stack := List.replicate stackDepth 0
  dt := Timer.idle interval
  st := Timer.idle interval

/-- The value of a register of a byte. -/
def get (r : Registers) (x : Nat) : Nat := r.v.getD x 0

/-- The registers with another value in a register of a byte. -/
def set (r : Registers) (x value : Nat) : Registers := { r with v := r.v.set x value }

/-- The address two further on, around the end of sixteen bits. -/
def after (pc : Int) : Int := (pc + 2) % 65536

/-- The registers with the next instruction passed over. -/
def skip (r : Registers) : Registers := { r with pc := after r.pc }

/-- The return addresses on the stack, oldest first. -/
def returnAddresses (r : Registers) : List Int :=
  if r.sp < 0 then r.stack.take (r.stack.length + r.sp).toNat else r.stack.take r.sp.toNat

end Registers

/-- How an operation on a machine ends: with a value or a failure, and with the machine as it then
is. -/
abbrev Outcome (α : Type) := Except Failure α × Machine

namespace Machine

/-- A machine that has not run. -/
def initial (storage : Storage) (screen : Screen) (keypad : Keypad) (random : RandomSource)
    (policy : StackPolicy) (origin : Int) (timerInterval : Quantity) : Machine where
  registers := Registers.initial origin timerInterval
  storage := storage
  screen := screen
  keypad := keypad
  visits := []
  tone := {}
  random := random
  policy := policy
  origin := origin
  timerInterval := timerInterval
  paused := false
  cycles := 0
  log := #[]

/-- Changes the registers. -/
def mapRegisters (m : Machine) (f : Registers → Registers) : Machine :=
  { m with registers := f m.registers }

/-- Logs a line. -/
def logLine (m : Machine) (level : LogLevel) (message : String) : Machine :=
  { m with log := m.log.push ⟨level, message⟩ }

/-- The value of a register of a byte. -/
def reg (m : Machine) (x : Nat) : Nat := m.registers.get x

/-- The machine with another value in a register of a byte. -/
def setReg (m : Machine) (x value : Nat) : Machine := m.mapRegisters (·.set x value)

/-- The machine with another address of the next instruction. -/
def setPc (m : Machine) (pc : Int) : Machine := m.mapRegisters fun r => { r with pc }

/-- The machine as it starts: registers, stack and timers as new, no instruction counted, not
paused, the tone ended.  Memory, screen, keypad and random source stay. -/
def resetProcessor (m : Machine) : Machine :=
  { m with
    registers := Registers.initial m.origin m.timerInterval
    paused := false
    cycles := 0
    tone := m.tone.stop }

/-- The machine as it starts, on a dark screen. The program stays in the memory. -/
def reset (m : Machine) : Machine :=
  { m.resetProcessor with screen := m.screen.clear }

/-- Lets time pass for both timers, the delay timer first. -/
def tick (m : Machine) (elapsed : Quantity) : Machine :=
  let (dt, _) := m.registers.dt.update ⟨[], []⟩ elapsed ()
  let (st, tone) := m.registers.st.update Tone.listeners elapsed m.tone
  { m with registers := { m.registers with dt, st }, tone }

/-- Whether both timers can take that time passes. -/
def canTick (m : Machine) (elapsed : Quantity) : Bool :=
  m.registers.dt.canPass elapsed && m.registers.st.canPass elapsed

/-- Takes the log away. -/
def takeLog (m : Machine) : List LogLine × Machine := (m.log.toList, { m with log := #[] })

end Machine

end Chip8
