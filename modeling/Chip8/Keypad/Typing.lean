import Chip8.Clock
import Chip8.Keypad.Wait

/-!
# Keys typed on a keyboard

The keypad's four rows of four keys lie on the left block of a keyboard, from `1234` down to
`ZXCV`.  A keyboard read as a stream of characters never says when a key goes up.  So every typed
character presses its key and notes the time, and a key whose last press is a hold time ago is
released when expired keys are looked for.
-/

namespace Chip8

/-- The keyboard characters of the keypad's keys. -/
def Key.layout : List (Char × Key) :=
  [('1', 0x1), ('2', 0x2), ('3', 0x3), ('4', 0xC),
   ('Q', 0x4), ('W', 0x5), ('E', 0x6), ('R', 0xD),
   ('A', 0x7), ('S', 0x8), ('D', 0x9), ('F', 0xE),
   ('Z', 0xA), ('X', 0x0), ('C', 0xB), ('V', 0xF)]

/-- The upper-case form of a character as far as the layout is concerned: a letter of the layout
has two lower-case forms if it is `S`, of which one is the long s, and one otherwise. -/
def Key.upperCase (c : Char) : Char := if c = 'ſ' then 'S' else c.toUpper

/-- The key of a typed text; a text of more than one character has none. -/
def Key.ofText? (text : String) : Option Key :=
  match text.toList with
  | [c] => Key.layout.lookup (Key.upperCase c)
  | _ => none

/-- A keypad driven by typed characters, with a clock in state `κ` and times of type `τ`. -/
structure TypedKeypad (κ τ : Type) where
  /-- The keypad. -/
  keypad : Keypad
  /-- How long a key stays down after it was typed. -/
  hold : τ
  /-- The clock. -/
  clock : κ
  /-- When each key was last typed, for keys that have not expired. -/
  pressedAt : List (Key × τ)
deriving Repr

instance {κ τ : Type} : HasKeypad (TypedKeypad κ τ) :=
  ⟨TypedKeypad.keypad, fun s k => { s with keypad := k }⟩

namespace TypedKeypad

variable {κ τ : Type} [Clock κ τ]

/-- Reads the clock. -/
def now (t : TypedKeypad κ τ) : τ × TypedKeypad κ τ :=
  let (time, clock) := Clock.read t.clock
  (time, { t with clock })

/-- The press times with a new one for a key. -/
def note (times : List (Key × τ)) (key : Key) (time : τ) : List (Key × τ) :=
  match times with
  | [] => [(key, time)]
  | (k, u) :: rest => if k = key then (key, time) :: rest else (k, u) :: note rest key time

/-- Types a text: its key, if it has one, is pressed and the time noted. -/
def feed (t : TypedKeypad κ τ) (text : String) : Option Key × TypedKeypad κ τ :=
  match Key.ofText? text with
  | none => (none, t)
  | some key =>
    let (time, t) := { t with keypad := t.keypad.press key }.now
    (some key, { t with pressedAt := note t.pressedAt key time })

variable [Sub τ] [LE τ] [DecidableLE τ]

/-- Whether a key typed at time `u` has expired at time `now`. -/
def expired (hold now u : τ) : Bool := decide (hold ≤ now - u)

/-- Releases the keys whose hold time is over. -/
def releaseExpired (t : TypedKeypad κ τ) : TypedKeypad κ τ :=
  let (time, t) := t.now
  let (gone, kept) := t.pressedAt.partition fun p => expired t.hold time p.2
  { t with
    keypad := gone.foldl (fun k p => k.release p.1) t.keypad
    pressedAt := kept }

omit [Clock κ τ] [Sub τ] [LE τ] [DecidableLE τ]

/-- Releases all keys and forgets when they were typed. -/
def releaseAll (t : TypedKeypad κ τ) : TypedKeypad κ τ :=
  { t with keypad := t.keypad.releaseAll, pressedAt := [] }

end TypedKeypad

end Chip8
