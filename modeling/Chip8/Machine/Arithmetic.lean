/-!
# Arithmetic with flags

These operations work on the register file alone.  A flag is computed from the operands as they
were, and the result is stored after the flag, so that in the flag register the result stays.
-/

namespace Chip8.Arithmetic

/-- Stores a flag, and then a result. -/
def store (v : List Nat) (x flag result : Nat) : List Nat := (v.set 15 flag).set x result

/-- Adds: the flag is the carry. -/
def add (v : List Nat) (x y : Nat) : List Nat :=
  let sum := v.getD x 0 + v.getD y 0
  store v x (if 255 < sum then 1 else 0) (sum % 256)

/-- The difference of two bytes, around the end of eight bits. -/
def difference (a b : Nat) : Nat := (((a : Int) - b) % 256).toNat

/-- Subtracts the second register from the first: the flag tells whether the first is greater. -/
def sub (v : List Nat) (x y : Nat) : List Nat :=
  let a := v.getD x 0
  let b := v.getD y 0
  store v x (if b < a then 1 else 0) (difference a b)

/-- Subtracts the first register from the second: the flag tells whether the second is greater. -/
def subFrom (v : List Nat) (x y : Nat) : List Nat :=
  let a := v.getD x 0
  let b := v.getD y 0
  store v x (if a < b then 1 else 0) (difference b a)

/-- Shifts right by one bit: the flag is the bit that falls out. -/
def shiftRight (v : List Nat) (x : Nat) : List Nat :=
  let a := v.getD x 0
  store v x (a % 2) (a / 2)

/-- Shifts left by one bit: the flag is the leading bit of the byte. -/
def shiftLeft (v : List Nat) (x : Nat) : List Nat :=
  let a := v.getD x 0
  store v x (a / 128 % 2) (2 * a % 256)

end Chip8.Arithmetic
