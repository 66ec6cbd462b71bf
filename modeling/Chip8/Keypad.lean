import Chip8.Fault

/-!
# The keypad

The keypad has sixteen keys, each up or down.  While somebody waits for a key, every key that goes
from up to down is remembered in order; a key that is pressed again while it is down is not.  A
wait can be interrupted from outside, and the interruption holds until it is cleared, so that it
also ends a wait that begins later.
-/

namespace Chip8

/-- A key of the keypad. -/
abbrev Key := Fin 16

/-- The state of the keypad. -/
structure Keypad where
  /-- Which keys are down. -/
  down : Vector Bool 16
  /-- The keys that went down since the present wait began, oldest first. -/
  transitions : List Key
  /-- Whether somebody waits for a key. -/
  waiting : Bool
  /-- Whether waits are interrupted. -/
  interrupted : Bool
deriving DecidableEq, Repr

namespace Keypad

/-- All keys up, nobody waiting. -/
def initial : Keypad := ⟨Vector.replicate 16 false, [], false, false⟩

/-- The key with the given number, if the keypad has it. -/
def key? (number : Int) : Except Failure Key :=
  if h : 0 ≤ number ∧ number < 16 then pure ⟨number.toNat, by omega⟩
  else throw (.misuse (.keyOutOfRange number))

/-- Presses a key. -/
def press (k : Keypad) (key : Key) : Keypad :=
  if k.down[key] then k
  else
    { k with
      down := k.down.set key true
      transitions := if k.waiting then k.transitions ++ [key] else k.transitions }

/-- Presses the keys with the given numbers one after another. -/
def pressAll (k : Keypad) (numbers : List Int) : Except Failure Keypad :=
  numbers.foldlM (fun k number => do pure (k.press (← key? number))) k

/-- Releases a key. -/
def release (k : Keypad) (key : Key) : Keypad := { k with down := k.down.set key false }

/-- Releases all keys. -/
def releaseAll (k : Keypad) : Keypad := { k with down := Vector.replicate 16 false }

/-- Interrupts the present wait and all later ones. -/
def interrupt (k : Keypad) : Keypad := { k with interrupted := true }

/-- Lets waits go on again. -/
def clearInterrupt (k : Keypad) : Keypad := { k with interrupted := false }

/-- Whether the key with the given number is down; a key that the keypad does not have is not. -/
def isDown (k : Keypad) (number : Int) : Bool :=
  if h : 0 ≤ number ∧ number < 16 then k.down.get ⟨number.toNat, by omega⟩ else false

/-- Whether any key is down. -/
def anyDown (k : Keypad) : Bool := k.down.toList.any id

/-- The numbers of the keys that are down, in order. -/
def held (k : Keypad) : List Nat :=
  k.down.toList.zipIdx.filterMap fun (isDown, n) => if isDown then some n else none

end Keypad

/-- What can be done to a keypad from outside. -/
inductive KeyAction where
  /-- Press the key with the given number. -/
  | press (number : Int)
  /-- Release the key with the given number. -/
  | release (number : Int)
  /-- Release all keys. -/
  | releaseAll
  /-- Interrupt waits. -/
  | interrupt
  /-- Let waits go on again. -/
  | clearInterrupt
deriving DecidableEq, Repr

/-- Does something to a keypad; a key that the keypad does not have changes nothing. -/
def KeyAction.perform (a : KeyAction) (k : Keypad) : Except Failure Unit × Keypad :=
  let onKey (number : Int) (act : Key → Keypad) : Except Failure Unit × Keypad :=
    match Keypad.key? number with
    | .ok key => (.ok (), act key)
    | .error e => (.error e, k)
  match a with
  | .press number => onKey number k.press
  | .release number => onKey number k.release
  | .releaseAll => (.ok (), k.releaseAll)
  | .interrupt => (.ok (), k.interrupt)
  | .clearInterrupt => (.ok (), k.clearInterrupt)

end Chip8
