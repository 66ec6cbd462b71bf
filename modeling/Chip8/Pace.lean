import Chip8.Clock
import Chip8.Machine.Program
import Chip8.Machine.Trace

/-!
# Running a machine at a pace

A paced machine executes one instruction in every interval of a target length.  A cycle takes its
start from the end of the cycle before it, or from the clock if there is none, executes an
instruction, ends the frame, waits until the clock has reached the end of the interval, and gives
both timers the time that has really passed.  Whoever listens is told of every finished cycle.

Something may happen while the machine sleeps or a cycle is told, and it may fail.  A failure ends
the cycle or the run at that point: the instruction stays executed, and a cycle that was told stays
counted.

A run repeats cycles until it is asked to stop or a limit is reached.  While the machine is paused a
run executes nothing and gives the timers no time; it sleeps for a poll interval and looks again.

Waiting and running have no bound of their own, so both are given one: how many times the clock may
be read in vain, and how many rounds a run may have.  A greater bound never changes an answer.
-/

namespace Chip8

/-- How a machine is paced. -/
structure Pace where
  /-- The target length of a cycle in nanoseconds. -/
  target : Float
  /-- How many seconds a paused run sleeps, or why it cannot. -/
  pollInterval : Except Unfit Float
  /-- Whether a cycle reads the clock again and again instead of sleeping. -/
  busyWait : Bool
  /-- Whether a run is going on. -/
  running : Bool := false
  /-- Whether the run was asked to stop. -/
  stopRequested : Bool := false
  /-- The time from which the next cycle is measured; `none` if its first reading decides. -/
  base : Option Int := none
  /-- The number of finished cycles. -/
  cycles : Nat := 0

/-- A machine and its pace. -/
structure Rig where
  /-- The machine. -/
  machine : Machine
  /-- Its pace. -/
  pace : Pace

/-- Why a cycle or a run has no answer. -/
inductive Halt where
  /-- The machine failed, or something that happened meanwhile did. -/
  | failure (cause : Failure)
  /-- The bound was reached. -/
  | unfinished
deriving DecidableEq, Repr

/-- The halt at a value that cannot take its part. -/
def Halt.unfit (cause : Unfit) : Halt := failure (.misuse (.unfit cause))

/-- What surrounds a paced machine, with a state of type `ε` of which the clock is a part. -/
structure Surroundings (ε : Type) where
  /-- What stands against executing an instruction, if anything does. -/
  obstacle : Rig × ε → Option Failure := fun _ => none
  /-- Some seconds pass in sleep. -/
  sleep : Float → Rig × ε → Except Halt Unit × Rig × ε
  /-- A finished cycle is told. -/
  onCycle : Snapshot → Rig × ε → Except Halt Unit × Rig × ε

/-- Why a pace cannot be set. -/
inductive PaceError where
  /-- The frequency is zero or less. -/
  | notPositive
  /-- The frequency has no period. -/
  | period (cause : Quantity.PeriodError)
deriving DecidableEq, Repr

/-- What is said about a pace that cannot be set. -/
def PaceError.message : PaceError → String
  | notPositive => "CPU frequency must be positive."
  | period cause => cause.message

/-- The pace of a frequency in hertz. -/
def Pace.create (frequency : Quantity) (pollInterval : Float) (busyWait : Bool) :
    Except PaceError Pace :=
  if frequency ≤ 0 then throw .notPositive
  else
    match frequency.period with
    | .ok target => pure { target, pollInterval := .ok pollInterval, busyWait }
    | .error cause => throw (.period cause)

namespace Rig

/-- Changes the machine. -/
def mapMachine (r : Rig) (f : Machine → Machine) : Rig := { r with machine := f r.machine }

/-- Changes the pace. -/
def mapPace (r : Rig) (f : Pace → Pace) : Rig := { r with pace := f r.pace }

/-- Holds the machine still. -/
def pause (r : Rig) : Rig := r.mapMachine fun m => { m with paused := true }

/-- Discards the time from which the next cycle would be measured. -/
def resetClock (r : Rig) : Rig := r.mapPace fun p => { p with base := none }

/-- Lets the machine go on, without counting the time it was held. -/
def resume (r : Rig) : Rig := r.resetClock.mapMachine fun m => { m with paused := false }

/-- Asks the run to stop. -/
def stop (r : Rig) : Rig := r.mapPace fun p => { p with stopRequested := true }

/-- Whether the machine is held still. -/
def isPaused (r : Rig) : Bool := r.machine.paused

variable {ε : Type} [Clock ε Int]

/-- The seconds from a time to a later one, both in nanoseconds. -/
def secondsUntil (target : Float) (now : Int) : Float :=
  let seconds := (target - Binary64.ofInt now) / 1e9
  if 0 < seconds then seconds else 0

/-- Sleeps from a time to a later one, unless the pace says not to. -/
def pass (env : Surroundings ε) (target : Float) (now : Int) (s : Rig × ε) :
    Except Halt Unit × Rig × ε :=
  if s.1.pace.busyWait then (.ok (), s)
  else if (Quantity.whole now).isBeyondDouble then (.error (.unfit .beyondDouble), s)
  else env.sleep (secondsUntil target now) s

/-- Reads the clock, and sleeps in between unless the pace says not to, until it has reached a time.
Gives the last reading, unless the clock was read in vain too often. -/
def waitUntil (env : Surroundings ε) (target : Float) :
    (patience : Nat) → Rig × ε → Except Halt Int × Rig × ε
  | 0, s => (.error .unfinished, s)
  | patience + 1, (rig, world) =>
    let (now, world) := Clock.read world
    if Quantity.whole now < Quantity.real target then
      match pass env target now (rig, world) with
      | (.ok (), s) => waitUntil env target patience s
      | (.error e, s) => (.error e, s)
    else (.ok now, rig, world)

/-- The time from which this cycle is measured, and the rig that knows it. -/
def begin (s : Rig × ε) : Int × Rig × ε :=
  let (rig, world) := s
  match rig.pace.base with
  | some start => (start, rig, world)
  | none =>
    let (start, world) := Clock.read world
    (start, rig.mapPace fun p => { p with base := some start }, world)

/-- The end of a cycle: both timers get the time that passed, and the cycle is counted. -/
def settle (rig : Rig) (start finish : Int) : Rig where
  machine := rig.machine.tick (.whole (finish - start))
  pace := { rig.pace with base := some finish, cycles := rig.pace.cycles + 1 }

/-- Executes one instruction and shows the frame. -/
def work (rig : Rig) : Except Failure Snapshot × Rig :=
  match rig.machine.step with
  | (.error e, machine) => (.error e, { rig with machine })
  | (.ok snapshot, machine) =>
    (.ok snapshot, { rig with machine := { machine with screen := machine.screen.finishFrame } })

/-- Executes one instruction and shows the frame, unless something stands against it. -/
def attempt (env : Surroundings ε) (s : Rig × ε) : Except Failure Snapshot × Rig :=
  match env.obstacle s with
  | some cause => (.error cause, s.1)
  | none => s.1.work

/-- Waits until the time of a cycle that started at `start` is over, and gives the end. -/
def await (env : Surroundings ε) (patience : Nat) (start : Int) (s : Rig × ε) :
    Except Halt Int × Rig × ε :=
  if (Quantity.whole start).isBeyondDouble then (.error (.unfit .beyondDouble), s)
  else waitUntil env (Binary64.ofInt start + s.1.pace.target) patience s

/-- The end of a cycle that was waited for, and telling it. -/
def finishCycle (env : Surroundings ε) (snapshot : Snapshot) (start finish : Int) (s : Rig × ε) :
    Except Halt Snapshot × Rig × ε :=
  let (rig, world) := s
  if rig.machine.canTick (.whole (finish - start)) then
    let (told, s) := env.onCycle snapshot (rig.settle start finish, world)
    (told.map fun _ => snapshot, s)
  else (.error (.unfit .beyondDouble), rig, world)

/-- One cycle. -/
def cycle (env : Surroundings ε) (patience : Nat) (s : Rig × ε) :
    Except Halt Snapshot × Rig × ε :=
  let (start, rig, world) := begin s
  match attempt env (rig, world) with
  | (.error e, rig) => (.error (.failure e), rig, world)
  | (.ok snapshot, rig) =>
    match await env patience start (rig, world) with
    | (.error e, s) => (.error e, s)
    | (.ok finish, s) => finishCycle env snapshot start finish s

/-- Sleeps as long as a paused run does, and forgets the time of the last cycle. -/
def nap (env : Surroundings ε) (s : Rig × ε) : Except Halt Unit × Rig × ε :=
  match s.1.pace.pollInterval with
  | .ok seconds => env.sleep seconds (s.1.resetClock, s.2)
  | .error cause => (.error (.unfit cause), s.1.resetClock, s.2)

/-- Whether a limit of cycles is reached. -/
def limitReached (limit : Option Int) (executed : Nat) : Bool :=
  limit.any fun n : Int => decide (n ≤ (executed : Int))

/-- The rounds of a run, the number of cycles executed so far being given. -/
def runFrom (env : Surroundings ε) (patience : Nat) (limit : Option Int) :
    (rounds executed : Nat) → Rig × ε → Except Halt Nat × Rig × ε
  | 0, _, s => (.error .unfinished, s)
  | rounds + 1, executed, (rig, world) =>
    if rig.pace.stopRequested || limitReached limit executed then (.ok executed, rig, world)
    else if rig.isPaused then
      match nap env (rig, world) with
      | (.ok _, s) => runFrom env patience limit rounds executed s
      | (.error e, s) => (.error e, s)
    else
      match cycle env patience (rig, world) with
      | (.ok _, s) => runFrom env patience limit rounds (executed + 1) s
      | (.error e, s) => (.error e, s)

/-- What is logged when a fault ends a run. -/
def haltMessage (m : Machine) : String :=
  "Execution halted at PC " ++ Hex.address 6 m.registers.pc

/-- The end of a run: a fault is logged, the tone ends. -/
def finishRun (result : Except Halt Nat) (rig : Rig) : Rig :=
  let rig := match result with
    | .error (.failure (.fault _)) =>
      rig.mapMachine fun m => m.logLine .error (haltMessage m)
    | _ => rig
  { machine := { rig.machine with tone := rig.machine.tone.stop }
    pace := { rig.pace with running := false } }

/-- Runs until a stop is requested or the limit is reached, and gives the number of cycles. -/
def run (env : Surroundings ε) (patience rounds : Nat) (limit : Option Int) (s : Rig × ε) :
    Except Halt Nat × Rig × ε :=
  let (rig, world) := s
  let rig := rig.resetClock.mapPace fun p => { p with stopRequested := false, running := true }
  let (result, rig, world) := runFrom env patience limit rounds 0 (rig, world)
  (result, finishRun result rig, world)

end Rig

end Chip8
