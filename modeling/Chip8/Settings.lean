import Chip8.Fault
import Chip8.Host
import Chip8.Settings.Document
import Chip8.Yaml.Flaw

/-!
# Settings

What can be set about a system, and how it is read from a document.  Every setting has a default.
Parts of the document are looked at in a fixed order, which decides what is said about a document
with several mistakes: the display, the sound, the stack policy, the two frequencies, the load
address, the seed and the poll interval.

A value that is refused is quoted in the message.  If it cannot be written, because the host has not
the room for so many values inside each other or an integer of it has too many digits, it is refused
for that instead.

What is read is not yet known to work: the dimensions of the display may be negative, and a
frequency may be infinite.
-/

namespace Chip8

/-- What can be set about a system. -/
structure Settings where
  /-- Instructions per second. -/
  cpuFrequency : Quantity := 730
  /-- Steps of the timers per second. -/
  timerFrequency : Quantity := 60
  /-- Where programs are loaded. -/
  loadAddress : Int := 0x200
  /-- The name of the stack policy. -/
  stackPolicy : String := "ignore"
  /-- What the random numbers start from; anything if `none`. -/
  randomSeed : Option Int := none
  /-- How many seconds a paused run sleeps. -/
  pollInterval : Quantity := .real 0.1
  /-- The number of columns of the screen. -/
  width : Int := 64
  /-- The number of rows of the screen. -/
  height : Int := 32
  /-- The name of the display backend. -/
  backend : String := "console"
  /-- Whether the tone is heard. -/
  soundEnabled : Bool := true

/-- Why a document is refused. -/
inductive SettingsError where
  /-- The file cannot be read. -/
  | file (cause : FileError)
  /-- The bytes of the file are no text. -/
  | undecodable (cause : Text.DecodingError)
  /-- A character at some place of the file is not accepted. -/
  | unaccepted (char : Char) (name : String) (place : Nat)
  /-- There is a mistake in the file of the given name. -/
  | yaml (cause : Yaml.Mistake) (name : String)
  /-- A scalar in a file stands for no value. -/
  | scalar (cause : Yaml.ScalarError)
  /-- The document is no mapping. -/
  | rootNotMapping (typeName : String)
  /-- A section is no mapping. -/
  | sectionNotMapping (typeName : String)
  /-- There is no such display backend. -/
  | unknownBackend (shown : String)
  /-- There is no such stack policy. -/
  | unknownPolicy (shown : String)
  /-- A value that is neither an integer nor a text stands for an integer. -/
  | invalidInteger (shown : String)
  /-- A text is not read as an integer. -/
  | integer (cause : Numeral.IntegerError)
  /-- A value that is no number stands for a frequency. -/
  | invalidFrequency (shown : String)
  /-- A frequency is zero or less. -/
  | frequencyNotPositive (shown : String)
  /-- A text is not read as a number. -/
  | notReal (quoted : String)
  /-- A value cannot take its part. -/
  | unfit (cause : Unfit)
  /-- A value is refused that cannot be written in the message. -/
  | unwritten (cause : Unwritten)
deriving DecidableEq, Repr

/-- What is said about a document that is refused. -/
def SettingsError.message : SettingsError → String
  | file cause => cause.message
  | undecodable cause => cause.message
  | unaccepted char name place =>
    "unacceptable character #x" ++
      String.ofList ((Hex.upper 4 char.toNat).map Char.toLower) ++
      ": special characters are not allowed\n  in \"" ++ name ++ "\", position " ++ toString place
  | yaml cause name => cause.message name
  | scalar cause => cause.message
  | rootNotMapping typeName => "Configuration root must be a mapping, got " ++ typeName
  | sectionNotMapping typeName => "'" ++ typeName ++ "' object has no attribute 'get'"
  | unknownBackend shown => "Unknown display backend: " ++ shown
  | unknownPolicy shown => "Unknown stack fault policy: " ++ shown
  | invalidInteger shown => "Invalid integer format: " ++ shown
  | integer cause => cause.message
  | invalidFrequency shown => "Invalid frequency: " ++ shown
  | frequencyNotPositive shown => "Frequency must be positive: " ++ shown
  | notReal quoted => (Unfit.unreadReal quoted).message
  | unfit cause => cause.message
  | unwritten cause => cause.message

/-- Whether the command line takes an error for a bad document rather than for a defect. -/
def SettingsError.isExpected : SettingsError → Bool
  | unaccepted _ _ _ | yaml _ _ | sectionNotMapping _ | unfit _ | unwritten .nested => false
  | scalar cause => cause.isExpected
  | _ => true

/-- Whether the message is formed from the whole value that is refused. -/
def SettingsError.writesValue : SettingsError → Bool
  | unknownBackend _ | unknownPolicy _ | invalidInteger _ | invalidFrequency _
  | frequencyNotPositive _ => true
  | _ => false

namespace Settings

/-- The names of the display backends. -/
def backends : List String := ["console", "null"]

/-- The names of the stack policies. -/
def policies : List String := ["ignore", "strict"]

/-- Reads an integer: an integer as it is, a text as a numeral. -/
def readInt : Document → Except SettingsError Int
  | .int n => pure n
  | .text s => (Numeral.readInteger s).mapError .integer
  | .loose ps =>
    (Numeral.readInteger (Text.masked ps)).mapError fun cause =>
      .integer (cause.about (Text.quotedPoints ps))
  | d => throw (.invalidInteger d.shown)

/-- Reads a frequency, which has to be a number that is not zero or less. -/
def readFrequency (d : Document) : Except SettingsError Quantity :=
  let positive (q : Quantity) : Except SettingsError Quantity :=
    if q ≤ 0 then throw (.frequencyNotPositive d.shown) else pure q
  match d with
  | .int n => positive (.whole n)
  | .real x => positive (.real x)
  | d => throw (.invalidFrequency d.shown)

/-- Reads a number as a double. -/
def readReal : Document → Except SettingsError Float
  | .real x => pure x
  | .bool b => pure (if b then 1 else 0)
  | .int n =>
    let x := Binary64.ofInt n
    if x.isInf then throw (.unfit .beyondDouble) else pure x
  | .text s =>
    match Numeral.readReal? s with
    | some x => pure x
    | none => throw (.notReal (Text.quoted s))
  | .loose ps => throw (.notReal (Text.quotedPoints ps))
  | .bytes data =>
    match Numeral.readReal? (Text.masked (data.map UInt8.toNat)) with
    | some x => if data.all (· < 0x80) then pure x else throw (.notReal (Text.quotedBytes data))
    | none => throw (.notReal (Text.quotedBytes data))
  | d => throw (.unfit (.notReal d.className))

/-- The fields of a section; one that is absent or counts as false has none. -/
def section? (fields : List (Document × Document)) (key : String) :
    Except SettingsError (List (Document × Document)) :=
  match Document.field? fields key with
  | none => pure []
  | some (.mapping fields) => pure fields
  | some d => if d.isTruthy then throw (.sectionNotMapping d.className) else pure []

/-- Reads a field, or gives its default if it is absent. -/
def readField {α : Type} (fields : List (Document × Document)) (key : String)
    (read : Document → Except SettingsError α) (default : α) : Except SettingsError α :=
  match Document.field? fields key with
  | some d => read d
  | none => pure default

/-- Reads the name of a display backend. -/
def readBackend (d : Document) : Except SettingsError String :=
  match d with
  | .text s => if s ∈ backends then pure s else throw (.unknownBackend s)
  | d => throw (.unknownBackend d.shown)

/-- Reads the name of a stack policy, in which capital letters do not count. -/
def readPolicy (d : Document) : Except SettingsError String :=
  let name := d.lowered
  if name ∈ policies then pure name else throw (.unknownPolicy name)

/-- Reads a seed; nothing stands for no seed. -/
def readSeed : Document → Except SettingsError (Option Int)
  | .null => pure none
  | d => some <$> readInt d

/-- Reads a value.  If it is refused, so many levels of values may lie inside it for it to be
written. -/
def reading {α : Type} (room : Nat) (read : Document → Except SettingsError α) (d : Document) :
    Except SettingsError α :=
  (read d).mapError fun e => if e.writesValue then (d.unwritten? room).elim e .unwritten else e

/-- Reads a part of a document, or gives its default if it is absent. -/
def readPart {α : Type} (host : Host) (part : Part) (fields : List (Document × Document))
    (read : Document → Except SettingsError α) (default : α) : Except SettingsError α :=
  readField fields part.key (reading (host.room part) read) default

/-- Reads settings from the fields of a document. -/
def ofFields (fields : List (Document × Document)) (host : Host := {}) :
    Except SettingsError Settings := do
  let defaults : Settings := {}
  let display ← section? fields Part.display.key
  let backend ← readPart host .backend display readBackend defaults.backend
  let width ← readPart host .width display readInt defaults.width
  let height ← readPart host .height display readInt defaults.height
  let sound ← section? fields Part.sound.key
  let soundEnabled ←
    readPart host .enabled sound (fun d => pure d.isTruthy) defaults.soundEnabled
  let stackPolicy ← readPart host .policy fields readPolicy defaults.stackPolicy
  let cpuFrequency ← readPart host .cpu fields readFrequency defaults.cpuFrequency
  let timerFrequency ← readPart host .timer fields readFrequency defaults.timerFrequency
  let loadAddress ← readPart host .address fields readInt defaults.loadAddress
  let randomSeed ← readPart host .seed fields readSeed defaults.randomSeed
  let pollInterval ←
    readPart host .poll fields (fun d => .real <$> readReal d) defaults.pollInterval
  pure { cpuFrequency, timerFrequency, loadAddress, stackPolicy, randomSeed, pollInterval, width,
         height, backend, soundEnabled }

/-- Reads settings from a document; nothing stands for an empty document. -/
def ofDocument (d : Document) (host : Host := {}) : Except SettingsError Settings :=
  match d with
  | .null => ofFields [] host
  | .mapping fields => ofFields fields host
  | d => throw (.rootNotMapping d.typeName)

end Settings

end Chip8
