import Chip8.Number.Decimal

/-!
# Quantities: exact integers and doubles side by side

Frequencies, intervals and times are either exact integers or doubles.  Two integers are added and
subtracted exactly; as soon as a double takes part, the integer becomes the nearest double and the
double arithmetic rounds.  Comparisons never round.
-/

namespace Chip8

/-- An exact integer or a double. -/
inductive Quantity where
  /-- An exact integer. -/
  | whole (n : Int)
  /-- A double. -/
  | real (x : Float)

namespace Quantity

/-- The nearest double. -/
def toFloat : Quantity → Float
  | whole n => Binary64.ofInt n
  | real x => x

/-- Whether a quantity is an integer that no finite double comes near. -/
def isBeyondDouble : Quantity → Bool
  | whole n => (Binary64.ofInt n).isInf
  | real _ => false

/-- Whether a quantity is not a number. -/
def isNaN : Quantity → Bool
  | whole _ => false
  | real x => x.isNaN

/-- Whether two quantities have a sum and a difference: two integers always have, but an integer
beyond every double has none with a double. -/
def meets : Quantity → Quantity → Bool
  | whole m, real _ => !(whole m).isBeyondDouble
  | real _, whole n => !(whole n).isBeyondDouble
  | _, _ => true

/-- The sum, exact for two integers. -/
def add : Quantity → Quantity → Quantity
  | whole m, whole n => whole (m + n)
  | a, b => real (a.toFloat + b.toFloat)

/-- The difference, exact for two integers. -/
def sub : Quantity → Quantity → Quantity
  | whole m, whole n => whole (m - n)
  | a, b => real (a.toFloat - b.toFloat)

/-- Whether one quantity is less than another; never so if one of them is not a number. -/
def lt : Quantity → Quantity → Bool
  | whole m, whole n => m < n
  | whole m, real y => Binary64.compareInt? y m == some .gt
  | real x, whole n => Binary64.compareInt? x n == some .lt
  | real x, real y => x < y

/-- Whether one quantity is at most another; never so if one of them is not a number. -/
def le : Quantity → Quantity → Bool
  | whole m, whole n => m ≤ n
  | whole m, real y => (Binary64.compareInt? y m).any (· != .lt)
  | real x, whole n => (Binary64.compareInt? x n).any (· != .gt)
  | real x, real y => x ≤ y

instance : OfNat Quantity n := ⟨whole n⟩
instance : Inhabited Quantity := ⟨0⟩
instance : Add Quantity := ⟨add⟩
instance : Sub Quantity := ⟨sub⟩
instance : LT Quantity := ⟨fun a b => a.lt b = true⟩
instance : LE Quantity := ⟨fun a b => a.le b = true⟩
instance : DecidableLT Quantity := fun a b => inferInstanceAs (Decidable (a.lt b = true))
instance : DecidableLE Quantity := fun a b => inferInstanceAs (Decidable (a.le b = true))

@[simp] theorem whole_add (m n : Int) : whole m + whole n = whole (m + n) := rfl
@[simp] theorem whole_sub (m n : Int) : whole m - whole n = whole (m - n) := rfl
@[simp] theorem whole_lt (m n : Int) : whole m < whole n ↔ m < n := by
  simp [LT.lt, lt]
@[simp] theorem whole_le (m n : Int) : whole m ≤ whole n ↔ m ≤ n := by
  simp [LE.le, le]
@[simp] theorem ofNat_eq_whole (n : Nat) : (OfNat.ofNat n : Quantity) = whole n := rfl

/-- The text of a quantity: an integer in decimal, a double with the fewest digits. -/
def text : Quantity → String
  | whole n => toString n
  | real x => Decimal.shortest x

/-- The number of nanoseconds in a second. -/
def ticksPerSecond : Int := 1000000000

/-- Why a frequency has no period. -/
inductive PeriodError where
  /-- The integer zero. -/
  | zero
  /-- The double zero, of either sign. -/
  | realZero
deriving DecidableEq, Repr

/-- What is said about a frequency without a period. -/
def PeriodError.message : PeriodError → String
  | zero => "division by zero"
  | realZero => "float division by zero"

/-- The nanoseconds of one period of a frequency in hertz, always a double. -/
def period (hz : Quantity) : Except PeriodError Float :=
  match hz with
  | whole n => if n = 0 then throw .zero else pure (Binary64.ofRatio ticksPerSecond n)
  | real x => if x == 0 then throw .realZero else pure (Binary64.ofInt ticksPerSecond / x)

end Quantity

end Chip8
