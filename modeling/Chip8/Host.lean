/-!
# The host

What the program runs on has limits of its own: how large a screen can be stored, and how deep
values may be nested that a message quotes.  It also decides whether the finest lines of the log
are formed at all.  Nothing of this is said by the settings of a system.
-/

namespace Chip8

/-- The parts of a document of settings. -/
inductive Part where
  /-- The display, a section. -/
  | display
  /-- The backend of the display. -/
  | backend
  /-- The number of columns of the display. -/
  | width
  /-- The number of rows of the display. -/
  | height
  /-- The sound, a section. -/
  | sound
  /-- Whether the sound is on. -/
  | enabled
  /-- The stack policy. -/
  | policy
  /-- Instructions per second. -/
  | cpu
  /-- Steps of the timers per second. -/
  | timer
  /-- The load address. -/
  | address
  /-- The seed. -/
  | seed
  /-- The poll interval. -/
  | poll
deriving DecidableEq, Repr

/-- The key of a part. -/
def Part.key : Part → String
  | display => "display"
  | backend => "backend"
  | width => "width"
  | height => "height"
  | sound => "sound"
  | enabled => "enabled"
  | policy => "stack_fault_policy"
  | cpu => "cpu_frequency_hz"
  | timer => "timer_frequency_hz"
  | address => "load_address"
  | seed => "random_seed"
  | poll => "pause_poll_interval"

/-- What the program runs on. -/
structure Host where
  /-- Whether lines of the level debug are formed. -/
  debug : Bool := true
  /-- Whether so many rows of so many places each can be stored. -/
  stores : (places rows : Int) → Bool := fun places _ => places < 0x200000000
  /-- How many levels of values may lie inside a value that is written in a message about a part.
  There are fewer where more of the program is under way. -/
  room : Part → Nat := fun _ => 990

end Chip8
