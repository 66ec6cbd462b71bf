import Chip8.Debugger
import Chip8.Keypad.Script
import Chip8.Listing
import Chip8.Settings.Document

/-!
# What can be done on a test bench

A test bench holds a paced machine on a scripted clock, with or without a debugger.  Here are the
steps that can be asked for, and the forms of their answers.
-/

namespace Chip8

/-- The assignment of one register. -/
inductive Assignment where
  /-- The address of the next instruction. -/
  | pc (address : Int)
  /-- The address register. -/
  | i (address : Int)
  /-- The number of return addresses on the stack. -/
  | sp (count : Int)
  /-- The return addresses on the stack, and their number. -/
  | stack (addresses : List Int)
  /-- The delay timer. -/
  | dt (value : Int)
  /-- The sound timer. -/
  | st (value : Int)
  /-- A register of a byte, by its number from either end, which is given as text. -/
  | byte (number : String) (value : Nat)
  /-- The flag register, of which the last eight bits count. -/
  | flag (value : Int)
deriving DecidableEq, Repr

namespace Assignment

/-- Assigns a register, if there is one. -/
def apply (a : Assignment) (r : Registers) : Except Failure Registers :=
  match a with
  | pc address => pure { r with pc := address }
  | i address => pure { r with i := address }
  | sp count => pure { r with sp := count }
  | stack addresses =>
    pure { r with stack := addresses ++ r.stack.drop addresses.length, sp := addresses.length }
  | dt value => pure { r with dt := r.dt.assign value }
  | st value => pure { r with st := r.st.assign value }
  | byte number value =>
    match Numeral.readDecimal number with
    | .error cause => throw (.misuse (.registerNumber cause))
    | .ok x =>
      match setEitherEnd? r.v x value with
      | some v => pure { r with v }
      | none => throw (.misuse (.ofPlace x .targetOutOfRange))
  | flag value => pure (r.set flagRegister (value % 256).toNat)

/-- Whether an assignment says where execution goes on. -/
def isPc : Assignment → Bool
  | pc _ => true
  | _ => false

end Assignment

/-- A breakpoint whose kind is given by a value, which should be its name. -/
structure BreakpointRequest where
  /-- What should be the name of its kind. -/
  kind : Document
  /-- The value looked for. -/
  value : Option Int := none
  /-- The address looked for. -/
  address : Option Int := none
  /-- The name of the register looked at. -/
  register : Option String := none
  /-- Whether it counts. -/
  enabled : Bool := true

/-- A step on the bench. -/
inductive BenchOp where
  /-- Loads a program at the load address. -/
  | load (program : List UInt8)
  /-- Loads a program at another address. -/
  | loadAt (address : Int) (program : List UInt8)
  /-- Loads a program from a file that has the given bytes or does not exist. -/
  | loadFile (name : CodePoints) (content : Option (List UInt8))
  /-- A number of cycles. -/
  | step (count : Int)
  /-- A number of instructions without a pace. -/
  | stepMachine (count : Int)
  /-- A run. -/
  | run (limit : Option Int)
  /-- Holds the machine still. -/
  | pause
  /-- Lets the machine go on. -/
  | resume
  /-- Asks the run to stop. -/
  | stop
  /-- Sets machine and screen back. -/
  | reset
  /-- Sets the machine back but not the screen. -/
  | resetMachine
  /-- Discards the base time. -/
  | resetClock
  /-- Moves the clock. -/
  | advance (ticks : Int)
  /-- Sets what every reading adds to the clock. -/
  | clockStep (ticks : Int)
  /-- Steps to be performed when a number of cycles is reached. -/
  | hook (entries : List (Int × BenchOp))
  /-- Steps to be performed during sleep while the machine is held still. -/
  | onSleep (scripts : List (List BenchOp))
  /-- A step on the keypad. -/
  | key (op : KeypadOp KeyAction)
  /-- Assigns registers one after another, up to the first that does not exist. -/
  | set (assignments : List Assignment)
  /-- Writes bytes, with a journal entry. -/
  | poke (address : Int) (data : List UInt8)
  /-- Looks at a byte. -/
  | peek (address : Int)
  /-- Looks at bytes. -/
  | mem (address count : Int)
  /-- The registers. -/
  | regs
  /-- The flags. -/
  | flags
  /-- The layout of the registers. -/
  | layout
  /-- The return addresses. -/
  | stack
  /-- A listing. -/
  | listing (start length : Int)
  /-- The picture. -/
  | screen
  /-- What was written on the console. -/
  | written
  /-- The state of the whole bench. -/
  | status
  /-- Attaches a new debugger. -/
  | attach (limit : Int)
  /-- Adds a breakpoint. -/
  | addBreakpoint (b : BreakpointRequest)
  /-- Puts a breakpoint in the place of another. -/
  | updateBreakpoint (old new : BreakpointRequest)
  /-- Removes a breakpoint. -/
  | removeBreakpoint (b : BreakpointRequest)
  /-- The breakpoints. -/
  | breakpoints
  /-- A number of cycles under the debugger. -/
  | stepDebugger (count : Int)
  /-- A run under the debugger. -/
  | runDebugger (limit : Option Int)
  /-- The cycles the debugger has kept. -/
  | history
  /-- The last cycle the debugger has seen. -/
  | lastCycle
  /-- The last breakpoint that matched. -/
  | lastHit
  /-- Lets the debugger forget. -/
  | resetDebugger
  /-- Ends a run of the debugger. -/
  | stopDebugger
  /-- Whether a run of the debugger is going on. -/
  | debuggerRunning

/-- The state of a bench as it is told. -/
structure BenchStatus where
  /-- Whether the machine is held still. -/
  paused : Bool
  /-- Whether a run is going on. -/
  running : Bool
  /-- The number of finished cycles. -/
  cycles : Nat
  /-- The number of executed instructions. -/
  instructions : Nat
  /-- The time. -/
  time : Int
  /-- Whether the tone sounds. -/
  sounding : Bool
  /-- The target length of a cycle. -/
  target : Float
  /-- The delay timer. -/
  dt : Timer
  /-- The sound timer. -/
  st : Timer

/-- The answer to a step. -/
inductive BenchReply where
  /-- Done. -/
  | done
  /-- A number. -/
  | number (n : Int)
  /-- An answer of the keypad. -/
  | keypad (reply : KeypadReply Unit)
  /-- Snapshots, and what ended them early. -/
  | snapshots (taken : List Snapshot) (ended : Option Halt)
  /-- A run: the number of cycles, their lines and the registers afterwards. -/
  | ran (result : Except Halt Nat) (trace : List String) (registers : RegisterView)
  /-- A run under the debugger: the breakpoint that matched, the lines of the cycles and the
  registers afterwards. -/
  | debugged (result : Except Halt (Option Breakpoint)) (trace : List String)
      (registers : RegisterView)
  /-- Registers. -/
  | registers (view : RegisterView)
  /-- Whether the flag register is set and each timer counts. -/
  | flags (vf dt st : Bool)
  /-- The layout of the registers. -/
  | layout (groups : List (String × List (String × Nat)))
  /-- Return addresses. -/
  | stack (addresses : List Int)
  /-- A listing. -/
  | listing (rows : List ListingRow)
  /-- A picture. -/
  | screen (surface : Surface)
  /-- Text. -/
  | text (s : String)
  /-- Bytes. -/
  | bytes (data : List UInt8)
  /-- The state of the bench. -/
  | status (s : BenchStatus)
  /-- Breakpoints. -/
  | breakpoints (bs : List Breakpoint)
  /-- The lines of cycles. -/
  | lines (ls : List String)
  /-- A snapshot, if there is one. -/
  | snapshot (s : Option Snapshot)
  /-- A breakpoint that matched and the cycle it matched. -/
  | hit (h : Option (Breakpoint × Snapshot))
  /-- Whether a run of the debugger is going on. -/
  | running (b : Bool)

end Chip8
