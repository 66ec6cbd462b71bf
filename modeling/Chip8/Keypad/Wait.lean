import Chip8.Keypad

/-!
# Waiting for a key

A wait begins by forgetting earlier key presses.  It then looks whether it can end: because it was
interrupted, or because a key went down.  Between two looks the world acts.  The wait ends at the
first look that finds a reason.  An interruption counts before a key, and of several keys the one
that went down first is the answer.  However the wait ends, nothing stays remembered.

If nothing is left that could happen, a wait with a time limit gives up, and a wait without one is
interrupted: nobody is left who could press a key.

The keypad may be part of something larger, such as a keypad driven by a terminal; the world then
acts on that larger thing.  How often the world can act is bounded by a number of rounds; a greater
bound never changes an answer.
-/

namespace Chip8

/-- Things that have a keypad. -/
class HasKeypad (σ : Type) where
  /-- The keypad. -/
  keypad : σ → Keypad
  /-- The same thing with another keypad. -/
  withKeypad : σ → Keypad → σ

instance : HasKeypad Keypad := ⟨id, fun _ k => k⟩

namespace Keypad

/-- Whether a look finds a reason to end the wait. -/
def ready (k : Keypad) : Bool := !k.transitions.isEmpty || k.interrupted

/-- The wait begins. -/
def beginWait (k : Keypad) : Keypad := { k with waiting := true, transitions := [] }

/-- The wait is over. -/
def endWait (k : Keypad) : Keypad := { k with waiting := false, transitions := [] }

variable {σ : Type} [HasKeypad σ]

/-- Changes the keypad of something. -/
def update (f : Keypad → Keypad) (s : σ) : σ :=
  HasKeypad.withKeypad s (f (HasKeypad.keypad s))

/-- Looks, and lets the world act, until a look finds a reason to end the wait or nothing is left
that could happen. -/
def lookUntilReady (act : σ → Option (Except Failure Unit × σ)) :
    (rounds : Nat) → σ → Except Failure Unit × σ
  | 0, s => (.ok (), s)
  | rounds + 1, s =>
    if (HasKeypad.keypad s).ready then (.ok (), s)
    else
      match act s with
      | none => (.ok (), s)
      | some (.ok (), s) => lookUntilReady act rounds s
      | some (.error e, s) => (.error e, s)

/-- What a finished wait without a time limit answers. -/
def answer (k : Keypad) : Except Failure Key :=
  if k.interrupted then .error (.fault .inputInterrupted)
  else
    match k.transitions with
    | key :: _ => .ok key
    | [] => .error (.fault .inputInterrupted)

/-- Waits for a key without a time limit.  If nothing is left that could happen, the wait is
interrupted. -/
def wait (act : σ → Option (Except Failure Unit × σ)) (rounds : Nat) (s : σ) :
    Except Failure Key × σ :=
  match lookUntilReady act rounds (update beginWait s) with
  | (.error e, s) => (.error e, update endWait s)
  | (.ok (), s) =>
    let s := if (HasKeypad.keypad s).ready then s else update interrupt s
    (answer (HasKeypad.keypad s), update endWait s)

/-- Waits for a key with a time limit, which is over when nothing is left that could happen. -/
def waitBriefly (act : σ → Option (Except Failure Unit × σ)) (rounds : Nat) (s : σ) :
    Except Failure (Option Key) × σ :=
  match lookUntilReady act rounds (update beginWait s) with
  | (.error e, s) => (.error e, update endWait s)
  | (.ok (), s) =>
    let result :=
      if (HasKeypad.keypad s).ready then (answer (HasKeypad.keypad s)).map some else .ok none
    (result, update endWait s)

end Keypad

end Chip8
