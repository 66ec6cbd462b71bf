import Chip8.Random.Seed
import Chip8.System

/-!
# Drafts: settings that nobody has checked

A draft holds a value of any type for everything that can be set.  A system is built from it as
from settings, part by part in the same order, and a value that cannot take its part is found out
when its turn comes: the backend, the width and the height, the seed, the stack policy, the
frequency of the timers, the frequency of the machine.

Truth values take part in arithmetic as zero and one.
-/

namespace Chip8

namespace Document

/-- A value that is about to be compared with zero. -/
def compared (d : Document) : Except Unfit Quantity :=
  match d.quantity? with
  | some q => pure q
  | none => throw (.notCompared "<=" d.typeName "int")

/-- A value by which an integer is about to be divided. -/
def divisor (d : Document) : Except Unfit Quantity :=
  match d.quantity? with
  | some q => pure q
  | none => throw (.notDivisor d.typeName)

/-- The memory of a size that may be of any type.  The size one, given as a truth value, is named as
one when the font is put in. -/
def memory (d : Document) (host : Host := {}) : Except Failure Memory :=
  match d with
  | .int n =>
    if indexLimit ≤ n then throw (.misuse (.unfit .beyondIndex))
    else if 0 < n ∧ host.stores n 1 = false then throw (.misuse (.unfit .beyondStorage))
    else Memory.create n
  | .bool true => throw (.misuse (.truthAsSize Font.address Font.data.length))
  | _ => throw (.misuse .memorySize)

/-- A number of columns or rows, which has to be positive; a double passes here. -/
def dimension (d : Document) : Except Failure Quantity := do
  let size ← d.compared.mapError fun cause => .misuse (.unfit cause)
  if size ≤ 0 then throw (.misuse .screenSize)
  pure size

/-- The screen of a width and a height that may be of any type.  Rows are counted before one is
made, so a double as the height is found out before a double as the width. -/
def screen (width height : Document) (console : Option Console) (host : Host := {}) :
    Except Failure Screen := do
  let columns ← width.dimension
  let rows ← height.dimension
  match rows, columns with
  | .real _, _ => throw (.misuse (.unfit (.notCount height.typeName)))
  | _, .real _ => throw (.misuse (.unfit (.notFactor width.typeName)))
  | .whole rows, .whole columns => Settings.storedScreen columns rows console host

/-- What random numbers start from; nothing stands for no seed. -/
def seed : Document → Except Unfit (Option Int)
  | .null => pure none
  | .int n => pure (some n)
  | .bool b => pure (some (if b then 1 else 0))
  | .real x => pure (some (Seed.ofReal x))
  | .text s => pure (some (Seed.ofText s))
  | .loose ps =>
    match Text.encodingError? Text.isHalf ps with
    | some cause => throw (.unencodable cause)
    | none => pure (some (Seed.ofText (Text.ofPoints ps)))
  | _ => throw .notSeed

/-- How many seconds to sleep.  A text is read as a number first, but even then it is none. -/
def seconds (d : Document) : Except Unfit Float :=
  match d.quantity?, d with
  | some q, _ => if q.isBeyondDouble then throw .beyondDouble else pure q.toFloat
  | none, .text s =>
    match Numeral.readReal? s with
    | some _ => throw (.notFactor "float")
    | none => throw (.unreadReal (Text.quoted s))
  | none, .loose ps => throw (.unreadReal (Text.quotedPoints ps))
  | none, d => throw (.notReal d.className)

/-- Whether a double is the place of so many bytes in the usual memory. -/
def isPlaceOf (size : Nat) (x : Float) : Bool :=
  0 ≤ x && x + Binary64.ofInt size ≤ Binary64.ofInt Memory.defaultSize

/-- The address of a program of so many bytes.  A double is never one, but where the program would
not fit in, this is found out in the attempt to say so. -/
def programAddress (size : Nat) (d : Document) : Except Unfit Int :=
  match d.quantity? with
  | some (.whole n) => pure n
  | some (.real x) =>
    if isPlaceOf size x then throw .realAsPlace else throw .realAsAddress
  | none => throw (.notSubtracted d.typeName)

/-- Why no instruction is fetched where a value stands for its address; `none` if it is one. -/
def fetchObstacle (d : Document) : Option Unfit :=
  match d.quantity? with
  | some (.whole _) => none
  | some (.real x) => some (if isPlaceOf 2 x then .realAsIndex else .realAsAddress)
  | none => some (.notCompared "<=" "int" d.typeName)

/-- The address that equals a value; one that no executed instruction leaves if there is none. -/
def origin (d : Document) : Int :=
  match d.quantity? with
  | some (.whole n) => n
  | some (.real x) =>
    match Binary64.truncate? x with
    | some n => if Binary64.ofInt n == x then n else -1
    | none => -1
  | none => -1

/-- The stack policy that a value names. -/
def stackPolicy (d : Document) : Except BuildError StackPolicy :=
  let named := match d with
    | .text name => StackPolicy.ofName? name
    | _ => none
  match named with
  | some policy => pure policy
  | none => throw (.unknownPolicy d.quoted)

/-- The timer of an interval that may be of any type; `none` if the interval is not positive. -/
def timer? (d : Document) : Except Unfit (Option Timer) := do
  pure (Timer.create? (← d.compared))

end Document

/-- Settings that nobody has checked. -/
structure Draft where
  /-- Instructions per second. -/
  cpuFrequency : Document
  /-- Steps of the timers per second. -/
  timerFrequency : Document
  /-- Where programs are loaded. -/
  loadAddress : Document
  /-- The name of the stack policy. -/
  stackPolicy : Document
  /-- What the random numbers start from. -/
  randomSeed : Document
  /-- How many seconds a paused run sleeps. -/
  pollInterval : Document
  /-- The number of columns of the screen. -/
  width : Document
  /-- The number of rows of the screen. -/
  height : Document
  /-- The name of the display backend. -/
  backend : Document
  /-- Whether the tone is heard. -/
  soundEnabled : Document

namespace Draft

/-- A quantity as a value. -/
def ofQuantity : Quantity → Document
  | .whole n => .int n
  | .real x => .real x

/-- The draft that a mapping gives.  What is absent takes its default; if the whole display is
absent its backend is the one that shows nothing, and if the whole sound is absent it is off. -/
def ofFields (fields : List (Document × Document)) : Draft :=
  let defaults : Settings := {}
  let within (d : Document) : List (Document × Document) := match d with
    | .mapping fields => fields
    | _ => []
  let get (fields : List (Document × Document)) (key : String) (default : Document) : Document :=
    (Document.field? fields key).getD default
  let display := get fields "display" (.mapping [(.text "backend", .text "null")])
  let sound := get fields "sound" (.mapping [(.text "enabled", .bool false)])
  { cpuFrequency := get fields "cpu_frequency_hz" (ofQuantity defaults.cpuFrequency)
    timerFrequency := get fields "timer_frequency_hz" (ofQuantity defaults.timerFrequency)
    loadAddress := get fields "load_address" (.int defaults.loadAddress)
    stackPolicy := get fields "stack_fault_policy" (.text defaults.stackPolicy)
    randomSeed := get fields "random_seed" .null
    pollInterval := get fields "pause_poll_interval" (ofQuantity defaults.pollInterval)
    width := get (within display) "width" (.int defaults.width)
    height := get (within display) "height" (.int defaults.height)
    backend := get (within display) "backend" (.text defaults.backend)
    soundEnabled := get (within sound) "enabled" (.bool defaults.soundEnabled) }

/-- The name of the backend, if it is one. -/
def backendName? (d : Draft) : Option String :=
  match d.backend with
  | .text name => if name ∈ Settings.backends then some name else none
  | _ => none

/-- The screen of the backend; on a console if the backend is one. -/
def screen (d : Draft) (host : Host := {}) : Except BuildError Screen :=
  match d.backendName? with
  | some name =>
    let console : Option Console := if name = "console" then some {} else none
    (d.width.screen d.height console host).mapError .screen
  | none => throw (.unsupportedBackend d.backend.shown)

/-- Builds a system on a given screen.  Random bytes come from the given source unless the draft has
a seed. -/
def buildOn (d : Draft) (screen : Screen) (random : RandomSource) (busyWait : Bool)
    (host : Host := {}) : Except BuildError System := do
  let randomSeed ← d.randomSeed.seed.mapError .unfit
  let policy ← d.stackPolicy.stackPolicy
  let timerFrequency ← d.timerFrequency.divisor.mapError .unfit
  let settings : Settings :=
    { timerFrequency
      loadAddress := d.loadAddress.origin
      stackPolicy := policy.name
      randomSeed
      width := screen.surface.width
      height := screen.surface.height
      backend := d.backendName?.getD "null"
      soundEnabled := d.soundEnabled.isTruthy }
  let _ ← settings.timerInterval
  let cpuFrequency ← d.cpuFrequency.compared.mapError .unfit
  let system ← { settings with cpuFrequency }.buildOn screen random busyWait host
  let pollInterval := d.pollInterval.seconds
  pure { system with rig := system.rig.mapPace fun p => { p with pollInterval } }

/-- Builds a system. -/
def build (d : Draft) (random : RandomSource) (host : Host := {}) :
    Except BuildError System := do
  let screen ← d.screen host
  d.buildOn screen random true host

end Draft

end Chip8
