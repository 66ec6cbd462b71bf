/-!
# Clocks

A clock is anything that can be read: a reading gives a time and leaves the clock changed.
Real time, a list of readings and a clock that moves on steadily are all of this kind, so what is
built on a clock can be run on a script and reasoned about for every sequence of readings.
-/

namespace Chip8

/-- A clock in state `κ` whose readings are times of type `τ`. -/
class Clock (κ : Type) (τ : outParam Type) where
  /-- Reads the clock. -/
  read : κ → τ × κ

/-- A clock that moves on by one step at every reading, before the reading is taken. -/
structure SteadyClock (τ : Type) where
  /-- The time. -/
  time : τ
  /-- What every reading adds to it. -/
  step : τ
deriving DecidableEq, Repr

instance {τ : Type} [Add τ] : Clock (SteadyClock τ) τ where
  read c := (c.time + c.step, { c with time := c.time + c.step })

/-- A clock that gives the readings of a sequence one after another. -/
structure ListedClock (τ : Type) where
  /-- The readings. -/
  readings : Nat → τ
  /-- How many have been taken. -/
  taken : Nat

instance {τ : Type} : Clock (ListedClock τ) τ where
  read c := (c.readings c.taken, { c with taken := c.taken + 1 })

end Chip8
