import Chip8.Random.Twister

/-!
# Random bytes

The machine asks for random bytes.  They come from a generator, or from a list of numbers that is
given out again and again.
-/

namespace Chip8

/-- A source of random bytes. -/
inductive RandomSource where
  /-- The numbers of a list in turn, and how many have been given out. -/
  | listed (values : List Int) (drawn : Nat)
  /-- A generator. -/
  | generated (generator : Twister)
deriving DecidableEq, Repr

namespace RandomSource

/-- How often nine random bits are drawn at most. -/
def tries : Nat := 1000

/-- A random number below 256: nine random bits, drawn again while they are too many.  After so many
tries in vain the number is zero; drawing without a bound would go on. -/
def drawFrom (t : Twister) : (tries : Nat) → Nat × Twister
  | 0 => (0, t)
  | tries + 1 =>
    let (bits, t) := t.next
    let value := (bits >>> 23).toNat
    if value < 256 then (value, t) else drawFrom t tries

/-- A random byte. -/
def draw : RandomSource → Nat × RandomSource
  | listed values drawn =>
    ((values.getD (drawn % values.length) 0 % 256).toNat, listed values (drawn + 1))
  | generated t =>
    let (value, t) := drawFrom t tries
    (value, generated t)

theorem drawFrom_lt (t : Twister) (tries : Nat) : (drawFrom t tries).1 < 256 := by
  induction tries generalizing t with
  | zero => simp [drawFrom]
  | succ n ih =>
    rw [drawFrom]
    dsimp only
    split
    · assumption
    · exact ih _

theorem draw_lt (r : RandomSource) : r.draw.1 < 256 := by
  cases r with
  | listed values drawn =>
    simp only [draw]
    omega
  | generated t => exact drawFrom_lt t tries

end RandomSource

end Chip8
