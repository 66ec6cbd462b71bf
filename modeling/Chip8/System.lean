import Chip8.Pace
import Chip8.Settings

/-!
# Building a system

A system is a paced machine made from settings.  The parts are made in a fixed order, which decides
what is said about settings with several faults: the screen, the stack policy, the timers, the pace.
-/

namespace Chip8

/-- Why settings give no system. -/
inductive BuildError where
  /-- There is no such display backend. -/
  | unsupportedBackend (shown : String)
  /-- There is no such screen. -/
  | screen (cause : Failure)
  /-- There is no such stack policy. -/
  | unknownPolicy (quoted : String)
  /-- The timer frequency has no period. -/
  | timerPeriod (cause : Quantity.PeriodError)
  /-- The period of the timers is not positive. -/
  | timerInterval
  /-- The pace cannot be set. -/
  | pace (cause : PaceError)
  /-- A value cannot take its part. -/
  | unfit (cause : Unfit)
deriving DecidableEq, Repr

/-- What is said about settings that give no system. -/
def BuildError.message : BuildError → String
  | unsupportedBackend shown => "Unsupported display backend: " ++ shown
  | screen cause => cause.message
  | unknownPolicy quoted => quoted ++ " is not a valid StackFaultPolicy"
  | timerPeriod cause => cause.message
  | timerInterval => Timer.intervalMessage
  | pace cause => cause.message
  | unfit cause => cause.message

/-- A system. -/
structure System where
  /-- The paced machine. -/
  rig : Rig
  /-- Whether its keypad is driven by typed characters. -/
  typed : Bool
  /-- Whether its tone is heard. -/
  audible : Bool

/-- The stack policy of a name. -/
def StackPolicy.ofName? (name : String) : Option StackPolicy :=
  if name = "strict" then some .strict else if name = "ignore" then some .ignore else none

namespace Settings

/-- A screen that the host can store. -/
def storedScreen (width height : Int) (console : Option Console) (host : Host := {}) :
    Except Failure Screen :=
  if 0 < height ∧ indexLimit ≤ width then throw (.misuse (.unfit .beyondIndex))
  else if 0 < width ∧ 0 < height ∧ host.stores width height = false then
    throw (.misuse (.unfit .beyondStorage))
  else Screen.create width height console

/-- The screen of a display backend; on a console if the backend is one. -/
def screen (s : Settings) (host : Host := {}) : Except BuildError Screen :=
  let create (console : Option Console) : Except BuildError Screen :=
    (storedScreen s.width s.height console host).mapError .screen
  if s.backend = "console" then create (some {})
  else if s.backend = "null" then create none
  else throw (.unsupportedBackend s.backend)

/-- The name of the kind of a screen. -/
def screenKind (s : Screen) : String :=
  if s.console.isSome then "ConsoleDisplay" else "DisplaySurface"

/-- The interval of the timers. -/
def timerInterval (s : Settings) : Except BuildError Quantity := do
  let interval ← s.timerFrequency.period.mapError .timerPeriod
  match Timer.create? (.real interval) with
  | some timer => pure timer.interval
  | none => throw .timerInterval

/-- What is logged when a system is built. -/
def builtMessage (s : Settings) (screen : Screen) : String :=
  "Built system: " ++ Decimal.rounded s.cpuFrequency.toFloat ++ " Hz CPU, " ++ screenKind screen ++
    " display, policy=" ++ s.stackPolicy

/-- Builds a system on a given screen.  Random bytes come from the given source unless the settings
have a seed.  The line that is logged holds the frequency of the machine as a double; if there is
none, it only matters to a host that forms lines of the level debug. -/
def buildOn (s : Settings) (screen : Screen) (random : RandomSource) (busyWait : Bool)
    (host : Host := {}) : Except BuildError System := do
  let policy ← match StackPolicy.ofName? s.stackPolicy with
    | some policy => pure policy
    | none => throw (.unknownPolicy (Text.quoted s.stackPolicy))
  let interval ← s.timerInterval
  let random := match s.randomSeed with
    | some seed => .generated (Twister.ofSeed seed)
    | none => random
  let machine :=
    Machine.initial ⟨Memory.initial, []⟩ screen Keypad.initial random policy s.loadAddress interval
  let pace ← (Pace.create s.cpuFrequency s.pollInterval.toFloat busyWait).mapError .pace
  if s.cpuFrequency.isBeyondDouble && host.debug then throw (.unfit .beyondDouble)
  let machine :=
    if s.cpuFrequency.isBeyondDouble then machine
    else machine.logLine .debug (s.builtMessage screen)
  pure
    { rig := { machine, pace }
      typed := s.backend = "console"
      audible := s.soundEnabled }

/-- Builds a system. -/
def build (s : Settings) (random : RandomSource) (host : Host := {}) :
    Except BuildError System := do
  let screen ← s.screen host
  s.buildOn screen random true host

end Settings

namespace System

/-- The name of the kind of the keypad's input. -/
def inputKind (s : System) : String := if s.typed then "TerminalKeyboard" else "KeyboardState"

/-- The name of the kind of the sound device. -/
def soundKind (s : System) : String := if s.audible then "BellSoundDevice" else "NullSoundDevice"

end System

end Chip8
