import Chip8.Bench.Op
import Chip8.Settings.Draft

/-!
# The test bench

A bench surrounds a paced machine with scripts.  Its clock moves on by one step at every reading
and by the nominal time at every sleep.  Whoever acts on the machine from outside is scripted too:
steps that are performed when a number of cycles is reached, and steps that are performed during
sleep while the machine is held still.  If no such step is left the run is asked to stop, since
nobody is left who could let the machine go on.

The debugger attached last is told of the cycles.  One that was attached before and is in the middle
of a run goes on with it, but hears of no cycle any more.

The load address is a value that nobody has checked.  If it is no integer, a machine that has just
been made or set back stands at it all the same: nothing is fetched from there unless it counts as
an integer, and it is told as it was given until execution has gone on to another address.

Scripted steps may be any steps, runs included, so performing a step is given a bound on how deep
such runs may lie inside each other.
-/

namespace Chip8

/-- The scripted surroundings of a machine. -/
structure Bench where
  /-- The clock. -/
  clock : SteadyClock Int
  /-- Whether what is written on the console can be asked for; if not, it goes past the bench. -/
  captured : Bool
  /-- How long every sleep was, in seconds, oldest first. -/
  sleeps : List Float := []
  /-- Where programs are loaded, which may be no integer. -/
  loadAddress : Document
  /-- How many instructions had been executed when execution was last told to go on at a load
  address that is no integer; `none` if it was told to go on elsewhere since. -/
  strayedAt : Option Nat := none
  /-- The cycles of instructions at a load address that is no integer. -/
  strayCycles : List Snapshot := []
  /-- What is done when a number of cycles is reached. -/
  hooks : Array (Int × BenchOp) := #[]
  /-- What is done during sleep while the machine is held still, one list for each sleep. -/
  sleepScripts : List (List BenchOp) := []
  /-- The debuggers that have been attached, oldest first; the last one is told of the cycles. -/
  debuggers : List Debugger := []
  /-- The lines of the cycles of the present run, oldest first. -/
  trace : Array String := #[]

instance : Clock Bench Int where
  read b :=
    let (now, clock) := Clock.read b.clock
    (now, { b with clock })

namespace Bench

/-- How far a bench goes before it gives up. -/
structure Bounds where
  /-- How many times a cycle reads the clock in vain. -/
  patience : Nat
  /-- How many rounds a run has. -/
  rounds : Nat

/-- A machine on a bench. -/
abbrev Setup := Rig × Bench

/-- The debugger that was attached last. -/
def debugger? (b : Bench) : Option Debugger := b.debuggers.getLast?

/-- Changes the debugger that was attached last. -/
def mapDebugger (b : Bench) (f : Debugger → Debugger) : Bench :=
  { b with debuggers := b.debuggers.modify (b.debuggers.length - 1) f }

/-- The kind of breakpoint that a value names. -/
def breakpointKind? : Document → Option BreakpointKind
  | .text name => BreakpointKind.all.find? fun k => k.name = name
  | _ => none

/-- The breakpoint asked for. -/
def breakpointOf (b : BreakpointRequest) : Except Failure Breakpoint :=
  match breakpointKind? b.kind with
  | some kind => pure ⟨kind, b.value, b.address, b.register, b.enabled⟩
  | none => throw (.misuse (.breakpointKind b.kind.quoted))

/-- What stands in the place of the address of the next instruction, if it is no integer. -/
def stray? (s : Setup) : Option Document :=
  if s.2.strayedAt = some s.1.machine.cycles then some s.2.loadAddress else none

/-- What stands against executing an instruction. -/
def obstacle (s : Setup) : Option Failure :=
  ((stray? s).bind Document.fetchObstacle).map fun cause => .misuse (.unfit cause)

/-- The same bench, whose machine has been told to go on at the load address. -/
def atLoadAddress (s : Setup) : Setup :=
  match s.2.loadAddress with
  | .int _ => s
  | _ => (s.1, { s.2 with strayedAt := some s.1.machine.cycles })

/-- Takes note of the cycle of an instruction at a load address that is no integer. -/
def noteStray (b : Bench) (snapshot : Snapshot) : Bench :=
  if b.strayedAt.any (· + 1 = snapshot.cycle) then
    { b with strayCycles := snapshot :: b.strayCycles }
  else b

/-- What the machine's script says for a sleep. -/
def takeScript (s : Setup) : List BenchOp × Setup :=
  let (rig, b) := s
  if rig.isPaused then
    match b.sleepScripts with
    | script :: rest => (script, rig, { b with sleepScripts := rest })
    | [] => ([.stop], rig, b)
  else ([], rig, b)

/-- Time passes in sleep, if it is a time that can pass. -/
def passSleep (seconds : Float) (s : Setup) : Except Halt Unit × Setup :=
  let (rig, b) := s
  let b := { b with sleeps := b.sleeps ++ [seconds] }
  match wholePart (seconds * 1e9) with
  | .ok ticks => (.ok (), rig, { b with clock := { b.clock with time := b.clock.time + ticks } })
  | .error cause => (.error (.unfit cause), rig, b)

/-- A finished cycle is told to the debugger and noted. -/
def noteCycle (snapshot : Snapshot) (s : Setup) : Setup :=
  let (rig, b) := (s.1, s.2.noteStray snapshot)
  let (rig, b) := match b.debugger? with
    | some d =>
      let (rig, d) := d.observe snapshot rig
      (rig, b.mapDebugger fun _ => d)
    | none => (rig, b)
  (rig, { b with trace := b.trace.push snapshot.line })

/-- Performs steps one after another up to the first that fails. -/
def performUntil (perform : BenchOp → Setup → Except Halt BenchReply × Setup) :
    List BenchOp → Setup → Except Halt Unit × Setup
  | [], s => (.ok (), s)
  | op :: rest, s =>
    match perform op s with
    | (.ok _, s) => performUntil perform rest s
    | (.error e, s) => (.error e, s)

/-- Performs what is scripted for a number of cycles from a place in the scripts on.  Scripts that
come up meanwhile stand behind the others and are performed, too. -/
def performHooks (perform : BenchOp → Setup → Except Halt BenchReply × Setup) (cycles : Int) :
    (rounds place : Nat) → Setup → Except Halt Unit × Setup
  | 0, _, s => (.error .unfinished, s)
  | rounds + 1, place, s =>
    match s.2.hooks[place]? with
    | none => (.ok (), s)
    | some (count, op) =>
      if count = cycles then
        match perform op s with
        | (.ok _, s) => performHooks perform cycles rounds (place + 1) s
        | (.error e, s) => (.error e, s)
      else performHooks perform cycles rounds (place + 1) s

/-- The surroundings in which scripted steps are performed in a given way, and so many of them at
most when a cycle is told. -/
def surroundings (rounds : Nat) (perform : BenchOp → Setup → Except Halt BenchReply × Setup) :
    Surroundings Bench where
  obstacle := obstacle
  sleep seconds s :=
    match passSleep seconds s with
    | (.error e, s) => (.error e, s)
    | (.ok (), s) =>
      let (ops, s) := takeScript s
      performUntil perform ops s
  onCycle snapshot s :=
    let s := noteCycle snapshot s
    performHooks perform s.1.pace.cycles rounds 0 s

/-- The same surroundings for the debugger at a place in the order of attachment, which stands
beside the bench during its run and on the bench whenever something is done there. -/
def surroundingsOf (env : Surroundings Bench) (place : Nat) : Surroundings (Debugger × Bench) :=
  let lift (act : Setup → Except Halt Unit × Setup) (p : Rig × Debugger × Bench) :
      Except Halt Unit × Rig × Debugger × Bench :=
    let (rig, d, b) := p
    let (result, rig, b) := act (rig, { b with debuggers := b.debuggers.set place d })
    (result, rig, b.debuggers.getD place d, b)
  { obstacle := fun (rig, _, b) => env.obstacle (rig, b)
    sleep := fun seconds => lift (env.sleep seconds)
    onCycle := fun snapshot => lift (env.onCycle snapshot) }

/-- Takes snapshots until there are enough or one cannot be taken. -/
def takeSnapshots {ω : Type} (take : ω → Except Halt Snapshot × ω) :
    (count : Nat) → ω → List Snapshot × Option Halt × ω
  | 0, s => ([], none, s)
  | count + 1, s =>
    match take s with
    | (.error e, s) => ([], some e, s)
    | (.ok snapshot, s) =>
      let (more, ended, s) := takeSnapshots take count s
      (snapshot :: more, ended, s)

/-- Executes an instruction without a pace. -/
def stepMachine (s : Setup) : Except Halt Snapshot × Setup :=
  let (rig, b) := s
  match obstacle s with
  | some cause => (.error (.failure cause), s)
  | none =>
    let (result, machine) := rig.machine.step
    let b := match result with
      | .ok snapshot => b.noteStray snapshot
      | .error _ => b
    (result.mapError .failure, { rig with machine }, b)

/-- The state of the bench. -/
def status (s : Setup) : BenchStatus :=
  let (rig, b) := s
  { paused := rig.isPaused
    running := rig.pace.running
    cycles := rig.pace.cycles
    instructions := rig.machine.cycles
    time := b.clock.time
    sounding := rig.machine.tone.sounding
    target := rig.pace.target
    dt := rig.machine.registers.dt
    st := rig.machine.registers.st }

/-- The answer of a step that changes the machine or fails. -/
def onMachine (s : Setup) (result : Except Failure (BenchReply × Machine)) :
    Except Halt BenchReply × Setup :=
  match result with
  | .ok (reply, machine) => (.ok reply, { s.1 with machine }, s.2)
  | .error e => (.error (.failure e), s)

/-- The answer of a step that only looks at the machine. -/
def looking (s : Setup) (result : Except Failure BenchReply) :
    Except Halt BenchReply × Setup :=
  (result.mapError .failure, s)

/-- The failure of a step on a debugger where there is none. -/
def noDebugger (request : String) : Halt := .failure (.misuse (.noDebugger request))

/-- A step that looks at the debugger. -/
def askingDebugger (s : Setup) (request : String) (ask : Debugger → BenchReply) :
    Except Halt BenchReply × Setup :=
  match s.2.debugger? with
  | some d => (.ok (ask d), s)
  | none => (.error (noDebugger request), s)

/-- A step that changes the debugger or fails. -/
def onDebugger (s : Setup) (request : String) (act : Debugger → Except Failure Debugger) :
    Except Halt BenchReply × Setup :=
  match s.2.debugger? with
  | some d =>
    match act d with
    | .ok d => (.ok .done, s.1, s.2.mapDebugger fun _ => d)
    | .error e => (.error (.failure e), s)
  | none => (.error (noDebugger request), s)

/-- Where a program of so many bytes is loaded if nothing else is said. -/
def placeOf (s : Setup) (size : Nat) : Except Failure Int :=
  (s.2.loadAddress.programAddress size).mapError fun cause => .misuse (.unfit cause)

/-- Loads a program at the load address. -/
def load (s : Setup) (program : List UInt8) : Except Failure (BenchReply × Setup) := do
  let (size, machine) ← s.1.machine.loadBytes (← placeOf s program.length) program
  pure (.number size, atLoadAddress ({ s.1 with machine }, s.2))

/-- Loads a program elsewhere. -/
def loadAt (s : Setup) (address : Int) (program : List UInt8) :
    Except Failure (BenchReply × Setup) := do
  let (size, machine) ← s.1.machine.loadBytes address program
  pure (.number size, { s.1 with machine }, { s.2 with strayedAt := none })

/-- Loads a program from a file at the load address. -/
def loadFile (s : Setup) (name : CodePoints) (content : Except FileError (List UInt8)) :
    Except Failure (BenchReply × Setup) := do
  let address ← match content with
    | .ok program => placeOf s program.length
    | .error _ => pure s.1.machine.origin
  let (size, machine) ← s.1.machine.loadFile address name content
  pure (.number size, atLoadAddress ({ s.1 with machine }, s.2))

/-- The answer of a step that changes the bench or fails. -/
def changing (s : Setup) (result : Except Failure (BenchReply × Setup)) :
    Except Halt BenchReply × Setup :=
  match result with
  | .ok (reply, s) => (.ok reply, s)
  | .error e => (.error (.failure e), s)

/-- Assigns registers one after another, up to the first that does not exist. -/
def assignAll : List Assignment → Setup → Except Halt BenchReply × Setup
  | [], s => (.ok .done, s)
  | a :: rest, s =>
    match a.apply s.1.machine.registers with
    | .ok registers =>
      let b := if a.isPc then { s.2 with strayedAt := none } else s.2
      assignAll rest (s.1.mapMachine fun m => { m with registers }, b)
    | .error e => (.error (.failure e), s)

/-- Performs a step that runs nothing. -/
def performSimple (op : BenchOp) (s : Setup) : Except Halt BenchReply × Setup :=
  let (rig, b) := s
  let m := rig.machine
  let done (s : Setup) : Except Halt BenchReply × Setup := (.ok .done, s)
  let reply (r : BenchReply) : Except Halt BenchReply × Setup := (.ok r, s)
  match op with
  | .load program => changing s (load s program)
  | .loadAt address program => changing s (loadAt s address program)
  | .loadFile name content =>
    match content, FileName.checkNew name with
    | some data, .ok () => changing s (loadFile s name (.ok data))
    | some _, .error cause => (.error (.failure (.misuse (.file cause))), s)
    | none, _ => changing s (loadFile s name (.error (FileError.ofAbsent name)))
  | .pause => done (rig.pause, b)
  | .resume => done (rig.resume, b)
  | .stop => done (rig.stop, b)
  | .reset => done (atLoadAddress (rig.mapMachine Machine.reset, b))
  | .resetMachine => done (atLoadAddress (rig.mapMachine Machine.resetProcessor, b))
  | .resetClock => done (rig.resetClock, b)
  | .advance ticks => done (rig, { b with clock := { b.clock with time := b.clock.time + ticks } })
  | .clockStep ticks => done (rig, { b with clock := { b.clock with step := ticks } })
  | .hook entries => done (rig, { b with hooks := b.hooks ++ entries.toArray })
  | .onSleep scripts => done (rig, { b with sleepScripts := b.sleepScripts ++ scripts })
  | .key op =>
    let (result, ⟨keypad, visits⟩) := op.perform KeyAction.perform ⟨m.keypad, m.visits⟩
    ((result.map .keypad).mapError .failure,
      rig.mapMachine fun m => { m with visits, keypad }, b)
  | .set assignments => assignAll assignments s
  | .poke address data =>
    onMachine s ((m.storage.writeBytes address data).map fun storage => (.done, { m with storage }))
  | .peek address => looking s ((m.storage.peek address).map fun v => .number v.toNat)
  | .mem address count => looking s ((m.storage.memory.readBytes address count).map .bytes)
  | .regs => reply (.registers m.view)
  | .flags =>
    reply (.flags (m.reg flagRegister != 0) m.registers.dt.isActive m.registers.st.isActive)
  | .layout => reply (.layout RegisterView.layout)
  | .stack => reply (.stack m.registers.returnAddresses)
  | .listing start length => looking s ((m.storage.memory.listing start length).map .listing)
  | .screen => reply (.screen m.screen.surface)
  | .written =>
    let (screen, text) := m.screen.takeWritten
    (.ok (.text (if b.captured then text else "")), rig.mapMachine fun m => { m with screen }, b)
  | .status => reply (.status (status s))
  | .attach limit =>
    match Debugger.create m limit with
    | .ok d => done (rig, { b with debuggers := b.debuggers ++ [d] })
    | .error e => (.error (.failure e), s)
  | .addBreakpoint request =>
    onDebugger s "add_breakpoint" fun d => do pure (d.addBreakpoint (← breakpointOf request))
  | .updateBreakpoint old new =>
    onDebugger s "update_breakpoint" fun d => do
      pure (d.updateBreakpoint (← breakpointOf old) (← breakpointOf new))
  | .removeBreakpoint request =>
    onDebugger s "remove_breakpoint" fun d => do pure (d.removeBreakpoint (← breakpointOf request))
  | .breakpoints => askingDebugger s "get_breakpoints" fun d => .breakpoints d.breakpoints
  | .history => askingDebugger s "get_history" fun d => .lines (d.history.map Snapshot.line)
  | .lastCycle => askingDebugger s "get_last_snapshot" fun d => .snapshot d.last
  | .lastHit => askingDebugger s "get_last_hit" fun d => .hit d.hit
  | .resetDebugger => onDebugger s "reset" fun d => pure (d.reset m)
  | .stopDebugger => onDebugger s "stop" fun d => pure d.stop
  | .debuggerRunning => askingDebugger s "is_running" fun d => .running d.running
  | .step _ | .stepMachine _ | .run _ | .stepDebugger _ | .runDebugger _ => done s

/-- Lets the debugger that was attached last, if there is one, do something beside the bench, and
puts it back in its place. -/
def beside {α : Type} (env : Surroundings Bench) (s : Setup)
    (act : Surroundings (Debugger × Bench) → Rig × Debugger × Bench → α × Rig × Debugger × Bench) :
    Option α × Setup :=
  match s.2.debugger? with
  | none => (none, s)
  | some d =>
    let place := s.2.debuggers.length - 1
    let (a, rig, d, b) := act (surroundingsOf env place) (s.1, d, s.2)
    (some a, rig, { b with debuggers := b.debuggers.set place d })

/-- Performs a step. -/
def perform (bounds : Bounds) :
    (depth : Nat) → BenchOp → Setup → Except Halt BenchReply × Setup
  | 0, _, s => (.error .unfinished, s)
  | depth + 1, op, s =>
    let env := surroundings bounds.rounds (perform bounds depth)
    let fresh : Setup := (s.1, { s.2 with trace := #[] })
    match op with
    | .step count =>
      let (taken, ended, s) := takeSnapshots (Rig.cycle env bounds.patience) count.toNat s
      (.ok (.snapshots taken ended), s)
    | .stepMachine count =>
      let (taken, ended, s) := takeSnapshots stepMachine count.toNat s
      (.ok (.snapshots taken ended), s)
    | .run limit =>
      let (result, rig, b) := Rig.run env bounds.patience bounds.rounds limit fresh
      (.ok (.ran result b.trace.toList rig.machine.view), rig, b)
    | .stepDebugger count =>
      let take (env : Surroundings (Debugger × Bench)) (p : Rig × Debugger × Bench) :=
        let (taken, ended, p) := takeSnapshots (Debugger.step env bounds.patience) count.toNat p
        ((taken, ended), p)
      match beside env s take with
      | (some (taken, ended), s) => (.ok (.snapshots taken ended), s)
      | (none, s) => (.error (noDebugger "step_instruction"), s)
    | .runDebugger limit =>
      let run (env : Surroundings (Debugger × Bench)) :=
        Debugger.run env bounds.patience bounds.rounds limit
      match beside env fresh run with
      | (some result, rig, b) =>
        (.ok (.debugged result b.trace.toList rig.machine.view), rig, b)
      | (none, s) => (.ok (.debugged (.error (noDebugger "run")) [] s.1.machine.view), s)
    | op => performSimple op s

/-- The address of an instruction as it is told: a load address that is no integer as it was
given. -/
def toldAddress (b : Bench) (s : Snapshot) : Document :=
  if s ∈ b.strayCycles then b.loadAddress else .int s.address

/-- What is seen of a step: its answer, what was logged and what was asked of the tone. -/
structure Row where
  /-- The answer. -/
  reply : Except Halt BenchReply
  /-- What was logged. -/
  log : List LogLine
  /-- What was asked of the tone. -/
  tones : List ToneEvent
  /-- What stands in the place of the address of the next instruction, if it is no integer. -/
  stray : Option Document

/-- Performs a step, and collects what was logged and asked of the tone. -/
def performRow (bounds : Bounds) (depth : Nat) (op : BenchOp) (s : Setup) : Row × Setup :=
  let (reply, rig, b) := perform bounds depth op s
  let (log, m) := rig.machine.takeLog
  (⟨reply, log, m.tone.events, stray? (rig, b)⟩,
    { rig with machine := { m with tone := { m.tone with events := [] } } }, b)

/-- Performs steps one after another. -/
def performAll (bounds : Bounds) (depth : Nat) : List BenchOp → Setup → List Row × Setup
  | [], s => ([], s)
  | op :: rest, s =>
    let (row, s) := performRow bounds depth op s
    let (rows, s) := performAll bounds depth rest s
    (row :: rows, s)

/-- What a bench is set up with. -/
structure Plan where
  /-- What can be set about the system. -/
  draft : Draft
  /-- The console, if the system's own display is not to be used.  Only what is written on this one
  can be asked for. -/
  console : Option Console
  /-- The random numbers, for a system without a seed. -/
  random : List Int
  /-- Whether cycles read the clock again and again instead of sleeping. -/
  busyWait : Bool
  /-- The clock. -/
  clock : SteadyClock Int
  /-- The program that is loaded first. -/
  program : Option (List UInt8) := none

/-- Loads the first program. -/
def Plan.load (p : Plan) (s : Setup) : Except Failure Setup :=
  match p.program with
  | none => pure s
  | some program => (Bench.load s program).map Prod.snd

/-- Sets a bench up. -/
def Plan.setup (p : Plan) : Except BuildError Setup := do
  let screen ← match p.console with
    | some console =>
      (p.draft.width.screen p.draft.height (some console)).mapError .screen
    | none => p.draft.screen
  let system ← p.draft.buildOn screen (.listed p.random 0) p.busyWait
  let rig := system.rig.mapMachine fun m => m.takeLog.2
  let loadAddress := p.draft.loadAddress
  pure (atLoadAddress (rig, { clock := p.clock, captured := p.console.isSome, loadAddress }))

end Bench

end Chip8
