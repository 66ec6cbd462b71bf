import Chip8.Number.Quantity

/-!
# Timers

A timer counts down from a value of eight bits, one for every interval that passes.  Elapsed time
comes in pieces of any size: each piece shortens what remains of the present interval, and when
nothing remains the value goes down by one.  What was too much is taken off the next interval, so
no time is lost in the long run.

Listeners are told when the value goes down, and others when it reaches zero.  A listener may
assign the timer while it is told; an assignment always arms one full interval, unless the value is
zero.
-/

namespace Chip8

/-- A value that counts down. -/
structure Timer where
  /-- How long one step takes. -/
  interval : Quantity
  /-- How much of the present interval remains; zero or less if it is over. -/
  remaining : Quantity
  /-- The value, zero if the timer is inactive. -/
  value : Nat

/-- Somebody who is told about a timer: what they assign to it in turn, and what becomes of the
rest of the world `σ`. -/
abbrev TimerListener (σ : Type) := Timer → σ → List Int × σ

/-- Those who are told about a timer. -/
structure TimerListeners (σ : Type) where
  /-- Told that the value went down. -/
  elapsed : List (TimerListener σ)
  /-- Told that the value reached zero. -/
  stopped : List (TimerListener σ)

namespace Timer

/-- An inactive timer. -/
def idle (interval : Quantity) : Timer := ⟨interval, 0, 0⟩

/-- What is said about an interval that is not positive. -/
def intervalMessage : String := "Timer interval must be positive."

/-- An inactive timer; `none` if its interval is zero or less. -/
def create? (interval : Quantity) : Option Timer :=
  if interval ≤ 0 then none else some (idle interval)

/-- Assigns a value, of which the last eight bits count. -/
def assign (t : Timer) (value : Int) : Timer :=
  let value := (value % 256).toNat
  { t with value, remaining := if value = 0 then 0 else t.interval }

/-- Whether the timer counts. -/
def isActive (t : Timer) : Bool := t.value != 0

/-- The text of a timer. -/
def text (t : Timer) : String :=
  "TimerRegister(value=" ++ toString t.value ++ ", interval=" ++ t.interval.text ++
    ", remaining=" ++ t.remaining.text ++ ")"

variable {σ : Type}

/-- Tells one listener. -/
def tell (p : Timer × σ) (listener : TimerListener σ) : Timer × σ :=
  let (values, rest) := listener p.1 p.2
  (values.foldl assign p.1, rest)

/-- Tells listeners in order. -/
def tellAll (listeners : List (TimerListener σ)) (p : Timer × σ) : Timer × σ :=
  listeners.foldl tell p

/-- Lets time pass.  The value goes down by one at most, however much time it is; whether the timer
stops is decided after those who were told that it went down had their say. -/
def update (listeners : TimerListeners σ) (elapsed : Quantity) (t : Timer) (rest : σ) :
    Timer × σ :=
  if t.value = 0 then (t, rest)
  else
    let remaining := t.remaining - elapsed
    if 0 < remaining then ({ t with remaining }, rest)
    else
      let (t, rest) :=
        tellAll listeners.elapsed ({ t with remaining, value := t.value - 1 }, rest)
      if t.value = 0 then tellAll listeners.stopped ({ t with remaining := 0 }, rest)
      else ({ t with remaining := t.interval + t.remaining }, rest)

/-- Whether a timer can take that time passes: an inactive one takes any, an active one what its
remaining time and the time that passes let be subtracted. -/
def canPass (t : Timer) (elapsed : Quantity) : Bool := t.value = 0 || t.remaining.meets elapsed

/-- Lets time pass that the timer can take. -/
def update? (listeners : TimerListeners σ) (elapsed : Quantity) (t : Timer) (rest : σ) :
    Option (Timer × σ) :=
  if t.canPass elapsed then some (t.update listeners elapsed rest) else none

/-- Lets the same time pass several times. -/
def repeat? (listeners : TimerListeners σ) (elapsed : Quantity) :
    Nat → Timer → σ → Option (Timer × σ)
  | 0, t, rest => some (t, rest)
  | n + 1, t, rest => do
    let (t, rest) ← t.update? listeners elapsed rest
    repeat? listeners elapsed n t rest

end Timer

end Chip8
