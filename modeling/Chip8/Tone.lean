import Chip8.Log
import Chip8.Timer

/-!
# The tone

The tone is on or off.  The sound timer drives it: it begins when the timer's value goes down and
ends when the timer stops.
-/

namespace Chip8

/-- What was asked of the tone. -/
inductive ToneEvent where
  /-- To begin. -/
  | start
  /-- To end. -/
  | stop
deriving DecidableEq, Repr

/-- The state of the tone. -/
structure Tone where
  /-- Whether it sounds. -/
  sounding : Bool := false
  /-- What was asked of it and not yet collected, oldest first. -/
  events : List ToneEvent := []
deriving DecidableEq, Repr

namespace Tone

/-- The tone begins, if it does not sound already. -/
def start (t : Tone) : Tone := ⟨true, t.events ++ [.start]⟩

/-- The tone ends, if it sounds. -/
def stop (t : Tone) : Tone := ⟨false, t.events ++ [.stop]⟩

/-- How the sound timer drives the tone. -/
def listeners : TimerListeners Tone where
  elapsed := [fun _ tone => ([], tone.start)]
  stopped := [fun _ tone => ([], tone.stop)]

end Tone

/-- A bell that rings again and again while a tone sounds.  Once it is closed it counts as sounding
until it is told to end, and never rings again. -/
structure Bell where
  /-- Whether it sounds. -/
  sounding : Bool := false
  /-- Whether it was closed. -/
  closed : Bool := false
  /-- Why its first ring fails, if it does. -/
  fails : Option String := none
  /-- Whether it has rung. -/
  rang : Bool := false
  /-- What has been logged. -/
  log : List LogLine := []
deriving DecidableEq, Repr

namespace Bell

/-- What the bell writes when it rings on a terminal. -/
def character : Char := '\x07'

/-- It begins to sound. -/
def start (b : Bell) : Bell := { b with sounding := true }

/-- It ends. -/
def stop (b : Bell) : Bell := { b with sounding := false }

/-- It is closed. -/
def close (b : Bell) : Bell := { b with closed := true, sounding := true }

/-- It rings, if it sounds and is not closed.  A first ring that fails is logged. -/
def ring (b : Bell) : Bell :=
  if !b.sounding || b.closed || b.rang then b
  else
    match b.fails with
    | some reason =>
      { b with rang := true, log := b.log ++ [⟨.warning, "Beep failed: " ++ reason⟩] }
    | none => { b with rang := true }

end Bell

end Chip8
