import Chip8.Pace

/-!
# Breakpoints and history

A debugger listens to the finished cycles of a paced machine.  It keeps the last of them, and holds
the machine still when one of its breakpoints matches.  A breakpoint looks at the snapshot of the
cycle: where execution goes on, which bytes were read or written, what a register holds, or whether
a register differs from the cycle before.
-/

namespace Chip8

/-- What a breakpoint looks at. -/
inductive BreakpointKind where
  /-- The address of the next instruction. -/
  | pcMatch
  /-- A byte that was read. -/
  | memoryRead
  /-- A byte that was written. -/
  | memoryWrite
  /-- The value of a register. -/
  | registerValue
  /-- A change of a register. -/
  | registerChange
deriving DecidableEq, Repr

namespace BreakpointKind

/-- The name of a kind. -/
def name : BreakpointKind → String
  | pcMatch => "PC_MATCH"
  | memoryRead => "MEMORY_READ"
  | memoryWrite => "MEMORY_WRITE"
  | registerValue => "REGISTER_VALUE"
  | registerChange => "REGISTER_CHANGE"

/-- All kinds. -/
def all : List BreakpointKind := [pcMatch, memoryRead, memoryWrite, registerValue, registerChange]

end BreakpointKind

/-- A condition that holds the machine still. -/
structure Breakpoint where
  /-- What it looks at. -/
  kind : BreakpointKind
  /-- The value looked for. -/
  value : Option Int := none
  /-- The address looked for. -/
  address : Option Int := none
  /-- The name of the register looked at. -/
  register : Option String := none
  /-- Whether it counts. -/
  enabled : Bool := true
deriving DecidableEq, Repr

namespace Breakpoint

/-- Whether an access is a read at the address looked for. -/
def isReadAt (address : Option Int) : Access → Bool
  | .read a _ => address == some a
  | .write _ _ _ => false

/-- Whether an access is a write at the address looked for. -/
def isWriteAt (address : Option Int) : Access → Bool
  | .read _ _ => false
  | .write a _ _ => address == some a

/-- Whether the condition holds of a snapshot, given the registers of the cycle before. -/
def holds (b : Breakpoint) (previous : RegisterView) (s : Snapshot) : Bool :=
  match b.kind with
  | .pcMatch => b.value == some s.registers.pc
  | .memoryRead => s.accesses.any (isReadAt b.address)
  | .memoryWrite => s.accesses.any (isWriteAt b.address)
  | .registerValue =>
    match b.register.bind s.registers.get? with
    | some value => b.value == some value
    | none => false
  | .registerChange =>
    match b.register.bind s.registers.get?, b.register.bind previous.get? with
    | some now, some before => now != before
    | _, _ => false

/-- Whether a breakpoint matches: it counts and its condition holds. -/
def hits (b : Breakpoint) (previous : RegisterView) (s : Snapshot) : Bool :=
  b.enabled && b.holds previous s

end Breakpoint

/-- A debugger. -/
structure Debugger where
  /-- The breakpoints, in the order in which they are looked at. -/
  breakpoints : List Breakpoint
  /-- Whether a run of the debugger is going on. -/
  running : Bool
  /-- The registers of the last cycle. -/
  previous : RegisterView
  /-- The last cycle. -/
  last : Option Snapshot
  /-- The last breakpoint that matched, and the cycle it matched. -/
  hit : Option (Breakpoint × Snapshot)
  /-- How many cycles are kept. -/
  limit : Nat
  /-- The cycles that are kept, oldest first. -/
  history : List Snapshot

namespace Debugger

/-- How many cycles are usually kept. -/
def defaultLimit : Int := 1024

/-- A debugger for a machine. -/
def create (m : Machine) (limit : Int) : Except Failure Debugger :=
  if !isIndex limit then throw (.misuse .historyBeyondIndex)
  else if limit < 0 then throw (.misuse .negativeHistory)
  else pure
    { breakpoints := []
      running := false
      previous := m.view
      last := none
      hit := none
      limit := limit.toNat
      history := [] }

/-- Adds a breakpoint behind the others, unless it is there. -/
def addBreakpoint (d : Debugger) (b : Breakpoint) : Debugger :=
  if b ∈ d.breakpoints then d else { d with breakpoints := d.breakpoints ++ [b] }

/-- Puts another breakpoint in the place of one. -/
def updateBreakpoint (d : Debugger) (old new : Breakpoint) : Debugger :=
  { d with breakpoints := d.breakpoints.replace old new }

/-- Removes a breakpoint. -/
def removeBreakpoint (d : Debugger) (b : Breakpoint) : Debugger :=
  { d with breakpoints := d.breakpoints.erase b }

/-- Forgets all cycles; the registers of the machine are those to compare with. -/
def reset (d : Debugger) (m : Machine) : Debugger :=
  { d with history := [], last := none, hit := none, previous := m.view }

/-- The cycles that are kept once one more has finished. -/
def remember (limit : Nat) (history : List Snapshot) (s : Snapshot) : List Snapshot :=
  let all := history ++ [s]
  all.drop (all.length - limit)

/-- The first breakpoint that matches a cycle. -/
def match? (d : Debugger) (s : Snapshot) : Option Breakpoint :=
  d.breakpoints.find? fun b => b.hits d.previous s

/-- What is logged when a breakpoint matches. -/
def hitMessage (b : Breakpoint) (s : Snapshot) : String :=
  "Breakpoint hit at PC: " ++ Hex.address 6 s.registers.pc ++ " (" ++ b.kind.name ++ ")"

/-- Takes note of a finished cycle, and holds the machine still if a breakpoint matches. -/
def observe (s : Snapshot) (rig : Rig) (d : Debugger) : Rig × Debugger :=
  let hit := d.match? s
  let d := { d with
    last := some s, history := remember d.limit d.history s, previous := s.registers }
  match hit with
  | some b =>
    (rig.pause.mapMachine fun m => m.logLine .info (hitMessage b s),
      { d with hit := some (b, s) })
  | none => (rig, d)

variable {ε : Type} [Clock ε Int]

instance : Clock (Debugger × ε) Int where
  read p :=
    let (now, world) := Clock.read p.2
    (now, p.1, world)

/-- Surroundings in which a debugger listens, ahead of whoever listened before. -/
def watching (env : Surroundings (Debugger × ε)) : Surroundings (Debugger × ε) where
  obstacle := env.obstacle
  sleep := env.sleep
  onCycle s p :=
    let (rig, d, world) := p
    let (rig, d) := d.observe s rig
    env.onCycle s (rig, d, world)

/-- One cycle under the debugger.  Outside a run the time since the last cycle does not count. -/
def step (env : Surroundings (Debugger × ε)) (patience : Nat) (s : Rig × Debugger × ε) :
    Except Halt Snapshot × Rig × Debugger × ε :=
  let (rig, d, world) := s
  Rig.cycle env patience (if d.running then rig else rig.resetClock, d, world)

/-- The rounds of a run under the debugger. -/
def runFrom (env : Surroundings (Debugger × ε)) (patience : Nat) (limit : Option Int) :
    (rounds executed : Nat) → Rig × Debugger × ε → Except Halt Unit × Rig × Debugger × ε
  | 0, _, s => (.error .unfinished, s)
  | rounds + 1, executed, (rig, d, world) =>
    if !d.running || Rig.limitReached limit executed then (.ok (), rig, d, world)
    else
      match step env patience (rig, d, world) with
      | (.error e, s) => (.error e, s)
      | (.ok _, rig, d, world) =>
        if d.hit.isSome || rig.isPaused then (.ok (), rig, d, world)
        else runFrom env patience limit rounds (executed + 1) (rig, d, world)

/-- Runs until a breakpoint matches, the machine is held still, the debugger is stopped or the
limit is reached, and gives the breakpoint that matched. -/
def run (env : Surroundings (Debugger × ε)) (patience rounds : Nat) (limit : Option Int)
    (s : Rig × Debugger × ε) : Except Halt (Option Breakpoint) × Rig × Debugger × ε :=
  let (rig, d, world) := s
  let rig := if rig.isPaused then rig.resume else rig
  let (result, rig, d, world) :=
    runFrom env patience limit rounds 0
      (rig.resetClock, { d with hit := none, running := true }, world)
  let d := { d with running := false }
  (result.map fun _ => d.hit.map Prod.fst, rig, d, world)

/-- Ends a run of the debugger. -/
def stop (d : Debugger) : Debugger := { d with running := false }

end Debugger

end Chip8
