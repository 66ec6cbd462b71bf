import Chip8.Keypad.Typing
import Chip8.Log

/-!
# A terminal as the keypad's keyboard

Typed bytes are read in chunks.  Bytes beyond ASCII are dropped; the rest are typed one after
another, and after each chunk expired keys are released.  When the input ends, all keys are
released and their press times forgotten.

A reader runs between `start` and `close`, or until the input ends.  To start it the attributes of
the terminal are saved and every key press is made available at once; closing restores them.  A
stream that is no terminal is left alone.
-/

namespace Chip8

/-- What happens while typed bytes are read. -/
inductive ReadEvent where
  /-- A character was typed; its key if it has one, and the keys that are down afterwards. -/
  | typed (char : Char) (key : Option Key) (held : List Nat)
  /-- Expired keys were released; the keys that are still down. -/
  | expired (held : List Nat)
deriving DecidableEq, Repr

namespace TypedKeypad

variable {κ τ : Type} [Clock κ τ]

/-- The greatest number of bytes in a chunk. -/
def chunkSize : Nat := 32

/-- The ASCII characters among bytes. -/
def asciiChars (data : List UInt8) : List Char :=
  data.filterMap fun b => if b < 128 then some (Char.ofNat b.toNat) else none

/-- Types characters one after another. -/
def feedAll : List Char → TypedKeypad κ τ → List ReadEvent × TypedKeypad κ τ
  | [], t => ([], t)
  | c :: rest, t =>
    let (key, t) := t.feed c.toString
    let event := ReadEvent.typed c key t.keypad.held
    let (events, t) := feedAll rest t
    (event :: events, t)

variable [Sub τ] [LE τ] [DecidableLE τ]

/-- Handles one chunk of input. -/
def readChunk (data : List UInt8) (t : TypedKeypad κ τ) : List ReadEvent × TypedKeypad κ τ :=
  let (events, t) := feedAll (asciiChars data) t
  let t := t.releaseExpired
  (events ++ [.expired t.keypad.held], t)

/-- Handles all input that is there, chunk by chunk. -/
def readAvailable (data : List UInt8) (t : TypedKeypad κ τ) : List ReadEvent × TypedKeypad κ τ :=
  if data = [] then ([], t)
  else
    let (events, t) := readChunk (data.take chunkSize) t
    let (more, t) := readAvailable (data.drop chunkSize) t
    (events ++ more, t)
termination_by data.length
decreasing_by
  rename_i h
  have := List.length_pos_iff.mpr h
  simp [chunkSize]
  omega

/-- Handles input that ends after the given bytes. -/
def readToEnd (data : List UInt8) (t : TypedKeypad κ τ) : List ReadEvent × TypedKeypad κ τ :=
  let (events, t) := readAvailable data t
  (events, t.releaseAll)

end TypedKeypad

/-- What is asked of a terminal. -/
inductive TerminalCall where
  /-- Its attributes are saved. -/
  | save
  /-- Key presses become available at once. -/
  | immediate
  /-- The saved attributes are restored. -/
  | restore
deriving DecidableEq, Repr

/-- A keypad whose keyboard is an input stream. -/
structure Terminal (κ τ : Type) where
  /-- The keypad and the typed keys. -/
  keys : TypedKeypad κ τ
  /-- Whether the stream is a terminal. -/
  isTerminal : Bool
  /-- Whether the reader runs. -/
  reading : Bool := false
  /-- Whether attributes are saved. -/
  saved : Bool := false
  /-- Whether the reader was asked to stop and not started again. -/
  stopRequested : Bool := false
  /-- Typed bytes that nobody has read. -/
  pending : List UInt8 := []
  /-- Whether the input ends after the pending bytes. -/
  ended : Bool := false
  /-- What has been asked of the terminal. -/
  calls : List TerminalCall := []
  /-- What has been logged. -/
  log : List LogLine := []
deriving Repr

instance {κ τ : Type} : HasKeypad (Terminal κ τ) :=
  ⟨fun t => t.keys.keypad, fun t k => { t with keys := { t.keys with keypad := k } }⟩

namespace Terminal

variable {κ τ : Type}

/-- What is logged when the stream is no terminal. -/
def notTerminal : LogLine :=
  ⟨.info, "Standard input is not a POSIX terminal; keypad input is disabled"⟩

/-- Starts the reader, unless it runs. -/
def start (t : Terminal κ τ) : Terminal κ τ :=
  if t.reading then t
  else if !t.isTerminal then { t with log := t.log ++ [notTerminal] }
  else
    { t with
      reading := true
      saved := true
      stopRequested := false
      calls := t.calls ++ [.save, .immediate] }

/-- Ends the reader and restores what was saved. -/
def close (t : Terminal κ τ) : Terminal κ τ :=
  { t with
    stopRequested := true
    reading := false
    keys := if t.reading then t.keys.releaseAll else t.keys
    saved := false
    calls := if t.saved then t.calls ++ [.restore] else t.calls }

/-- Bytes are typed. -/
def type (t : Terminal κ τ) (data : List UInt8) : Terminal κ τ :=
  { t with pending := t.pending ++ data }

/-- The input ends. -/
def finish (t : Terminal κ τ) : Terminal κ τ := { t with ended := true }

variable [Clock κ τ] [Sub τ] [LE τ] [DecidableLE τ]

/-- The reader, if it runs, handles what was typed; it ends if the input has ended. -/
def serve (t : Terminal κ τ) : List ReadEvent × Terminal κ τ :=
  if t.reading then
    let (events, keys) :=
      if t.ended then t.keys.readToEnd t.pending else t.keys.readAvailable t.pending
    (events, { t with keys, pending := [], reading := !t.ended })
  else ([], t)

/-- Runs the reader on input that ends after the given bytes. If it was asked to stop it ends at
once. -/
def readLoop (t : Terminal κ τ) (data : List UInt8) : List ReadEvent × Terminal κ τ :=
  let (events, keys) := t.keys.readToEnd (if t.stopRequested then [] else data)
  (events, { t with keys })

end Terminal

/-- What can be done to a terminal. -/
inductive TerminalAction (κ : Type) where
  /-- Something is done to its keypad directly. -/
  | key (action : KeyAction)
  /-- A text is typed. -/
  | feed (text : String)
  /-- Expired keys are released. -/
  | releaseExpired
  /-- The clock is replaced. -/
  | setClock (clock : κ)
  /-- The reader is started. -/
  | start
  /-- The reader is closed. -/
  | close
  /-- Does the reader run? -/
  | isReading
  /-- The reader runs on input that ends after the given bytes. -/
  | readLoop (data : List UInt8)
deriving DecidableEq, Repr

/-- The answer to what is done to a terminal. -/
inductive TerminalReply where
  /-- Done. -/
  | done
  /-- The key of a text that was typed. -/
  | key (key : Option Key)
  /-- Yes or no. -/
  | truth (b : Bool)
  /-- What happened while input was read. -/
  | events (events : List ReadEvent)
deriving DecidableEq, Repr

/-- Does something to a terminal. -/
def TerminalAction.perform {κ τ : Type} [Clock κ τ] [Sub τ] [LE τ] [DecidableLE τ]
    (a : TerminalAction κ) (t : Terminal κ τ) : Except Failure TerminalReply × Terminal κ τ :=
  match a with
  | .key action =>
    let (result, keypad) := action.perform t.keys.keypad
    (result.map fun _ => .done, { t with keys := { t.keys with keypad } })
  | .feed text =>
    let (typed, keys) := t.keys.feed text
    (.ok (.key typed), { t with keys })
  | .releaseExpired => (.ok .done, { t with keys := t.keys.releaseExpired })
  | .setClock clock => (.ok .done, { t with keys := { t.keys with clock } })
  | .start => (.ok .done, t.start)
  | .close => (.ok .done, t.close)
  | .isReading => (.ok (.truth t.reading), t)
  | .readLoop data =>
    let (events, t) := t.readLoop data
    (.ok (.events events), t)

end Chip8
