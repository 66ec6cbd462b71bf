import Chip8.CommandLine.Arguments
import Chip8.Keypad.Terminal
import Chip8.Settings.File
import Chip8.System

/-!
# Running a program from the command line

The settings come from a file, if one is named, and the options of the command line win over it.
How the bytes of such a file are read as a document is left to a reader that is handed in.
The program is loaded and run, and every ending has its exit status: 0 for a run that ended or was
interrupted, 1 for a fault, 2 for bad arguments or settings.  A defect, such as settings that give
no system, is no ending but escapes.
-/

namespace Chip8.CommandLine

/-- The name of the program. -/
def programName : String := "chip8-tracer"

/-- The version of the program. -/
def versionText : String := programName ++ " 0.1.0\n"

/-- The explanation of the options. -/
def helpText : String :=
  "usage: " ++ programName ++ " [-h] [--config FILE] [--strict] [--cycles N]
                    [--frequency HZ] [--null-display] [--no-sound] [--seed N]
                    [--debug] [--version]
                    rom

Run a CHIP-8 program.

positional arguments:
  rom             path to a CHIP-8 program image

options:
  -h, --help      show this help message and exit
  --config FILE   YAML configuration file
  --strict        treat call stack overflow/underflow as a fatal fault
  --cycles N      stop after N instructions
  --frequency HZ  instructions per second
  --null-display  do not render the screen
  --no-sound      disable the sound timer tone
  --seed N        seed for the RND instruction
  --debug         enable debug logging
  --version       show program's version number and exit
"

/-- The bytes of a file by its name. -/
abbrev Folder := CodePoints → Except FileError (List UInt8)

/-- The document that the bytes of a settings file of a given name stand for. -/
abbrev Reader := String → List UInt8 → Except SettingsError Document

/-- The document in a settings file. -/
def readSettings (folder : Folder) (name : CodePoints) (read : Reader := Document.ofFile) :
    Except SettingsError Document :=
  match folder name with
  | .ok data => read (Text.ofPoints name) data
  | .error cause => throw (.file cause)

/-- The settings that the arguments ask for.  A blank in the place of a seed is no seed that
settings could have; it is found out when the system is built. -/
def resolve (folder : Folder) (a : Arguments) (read : Reader := Document.ofFile)
    (host : Host := {}) : Except SettingsError Settings := do
  let settings ← match a.config with
    | .value name =>
      if name = [] then pure {} else do Settings.ofDocument (← readSettings folder name read) host
    | .absent | .blank => pure {}
  let settings := if a.strict then { settings with stackPolicy := "strict" } else settings
  let settings ← match a.frequency with
    | .value x =>
      if Quantity.real x ≤ 0 then throw (.frequencyNotPositive (Decimal.shortest x))
      else pure { settings with cpuFrequency := .real x }
    | .blank => throw (.unfit (.notCompared "<=" "list" "int"))
    | .absent => pure settings
  let settings := if a.nullDisplay then { settings with backend := "null" } else settings
  let settings := if a.noSound then { settings with soundEnabled := false } else settings
  pure (match a.seed with
    | .value seed => { settings with randomSeed := some seed }
    | .absent | .blank => settings)

/-- How the program ends. -/
inductive Exit where
  /-- With a status. -/
  | status (code : Nat)
  /-- While its arguments were read, with a status and what is said about them. -/
  | arguments (code : Nat) (complaint : String)
  /-- Settings were refused in a way that nobody expects. -/
  | badSettings (cause : SettingsError)
  /-- The settings give no system. -/
  | noSystem (cause : BuildError)
  /-- A value was handed in that should not have been. -/
  | misuse (cause : Misuse)
  /-- The run did not end within its bound. -/
  | unfinished

/-- All that is seen of a run. -/
structure Report where
  /-- How it ended. -/
  exit : Exit
  /-- What was written, write by write. -/
  output : List String
  /-- What was logged. -/
  log : List LogLine

/-- What is seen if the arguments ask for no run. -/
def Ending.report : Ending → Report
  | .help => ⟨.arguments 0 "", [helpText], []⟩
  | .version => ⟨.arguments 0 "", [versionText], []⟩
  | .mistake cause => ⟨.arguments 2 (programName ++ ": error: " ++ cause.message), [], []⟩

/-- What has been written to the screen of a machine. -/
def writes (m : Machine) : List String :=
  match m.screen.console with
  | some c => c.writes
  | none => []

/-- Whether a run was interrupted, which happens right after a given number of writes. -/
def isInterrupted (interrupt : Option Nat) (m : Machine) : Bool :=
  interrupt.any fun count => 0 < count && count ≤ (writes m).length

/-- Surroundings in which the clock moves on steadily and the given write is interrupted. -/
def surroundings (interrupt : Option Nat) : Surroundings (SteadyClock Int) where
  sleep seconds p :=
    match wholePart (seconds * 1e9) with
    | .ok ticks => (.ok (), p.1, { p.2 with time := p.2.time + ticks })
    | .error cause => (.error (.unfit cause), p)
  onCycle _ p :=
    (.ok (), if isInterrupted interrupt p.1.machine then (p.1.stop, p.2) else p)

/-- The last lines of the log of a run that ended, and the status. -/
def conclude (interrupt : Option Nat) (result : Except Halt Nat) (m : Machine) : Report :=
  let report (exit : Exit) (lines : List LogLine) : Report :=
    ⟨exit, writes m, m.log.toList ++ lines⟩
  match result with
  | .ok executed =>
    let message :=
      if isInterrupted interrupt m then "Interrupted"
      else "Executed " ++ toString executed ++ " instructions"
    report (.status 0) [⟨.info, message⟩]
  | .error (.failure (.fault f)) => report (.status 1) [⟨.error, f.message⟩]
  | .error (.failure (.misuse cause)) => report (.misuse cause) []
  | .error .unfinished => report .unfinished []

/-- What is seen if settings are refused. -/
def refusal (cause : SettingsError) : Report :=
  if cause.isExpected then
    ⟨.status 2, [], [⟨.error, "Invalid configuration: " ++ cause.message⟩]⟩
  else ⟨.badSettings cause, [], []⟩

/-- Builds the system; a blank in the place of a seed is found out once there is a screen. -/
def build (random : RandomSource) (a : Arguments) (settings : Settings) (host : Host := {}) :
    Except BuildError System := do
  match a.seed with
  | .blank =>
    let _ ← settings.screen host
    throw (.unfit .notSeed)
  | _ => settings.build random host

/-- Loads the program into a system and makes it ready to run. -/
def prepare (folder : Folder) (a : Arguments) (settings : Settings) (system : System) :
    Except Failure Rig := do
  let (_, m) ← system.rig.machine.loadFile settings.loadAddress a.rom (folder a.rom)
  let m := if system.typed then { m with log := m.log.push Terminal.notTerminal } else m
  pure { system.rig with machine := m }

/-- The limit of a run on a machine; a blank in its place is found out when the run begins. -/
def limit (a : Arguments) (m : Machine) : Except Report (Option Int) :=
  match a.cycles with
  | .value n => pure (some n)
  | .absent => pure none
  | .blank =>
    let cause := Misuse.unfit (.notCompared ">=" "int" "list")
    throw (conclude none (.error (.failure (.misuse cause))) m)

/-- A machine that is ready to run and the limit of the run, or what is seen if there is none. -/
def start (folder : Folder) (random : RandomSource) (a : Arguments) (settings : Settings)
    (host : Host := {}) : Except Report (Rig × Option Int) :=
  match build random a settings host with
  | .error cause => throw ⟨.noSystem cause, [], []⟩
  | .ok system =>
    match prepare folder a settings system with
    | .error cause => throw (conclude none (.error (.failure cause)) system.rig.machine)
    | .ok rig => do pure (rig, ← limit a rig.machine)

/-- What is seen of a run with the given settings. -/
def runWith (folder : Folder) (random : RandomSource) (interrupt : Option Nat)
    (patience rounds : Nat) (a : Arguments) (settings : Settings) (host : Host := {}) : Report :=
  match start folder random a settings host with
  | .error report => report
  | .ok (rig, limit) =>
    let clock : SteadyClock Int := ⟨0, 1000000⟩
    let (result, rig, _) :=
      Rig.run (surroundings interrupt) patience rounds limit (rig, clock)
    conclude interrupt result rig.machine

/-- All that is seen of the program. -/
def run (folder : Folder) (random : RandomSource) (interrupt : Option Nat)
    (patience rounds : Nat) (argv : List CodePoints) (read : Reader := Document.ofFile)
    (host : Host := {}) : Report :=
  match readArguments argv with
  | .error ending => ending.report
  | .ok a =>
    match resolve folder a read host with
    | .error cause => refusal cause
    | .ok settings => runWith folder random interrupt patience rounds a settings host

end Chip8.CommandLine
