/-!
# Doubles taken apart exactly

A double is read as a sign, a whole significand and a power of two, so that comparing it with an
integer or cutting it down to one is exact integer arithmetic.  In the other direction
`Binary64.nearest n d` is the double nearest to the fraction `n / d`, ties going to the even
significand; integers, decimals and quotients of integers all become doubles through it, each
rounded once.
-/

namespace Chip8

/-- What a double stands for. -/
inductive Binary64 where
  /-- Not a number. -/
  | nan
  /-- An infinity, negative or not. -/
  | infinite (negative : Bool)
  /-- The number `significand * 2 ^ exponent`, negated if `negative`. -/
  | finite (negative : Bool) (significand : Nat) (exponent : Int)
deriving DecidableEq, Repr

namespace Binary64

/-- Takes the double with the given bits apart. -/
def ofBits (bits : UInt64) : Binary64 :=
  let raw := bits.toNat
  let negative := decide (Nat.pow 2 63 ≤ raw)
  let exponent : Nat := raw / Nat.pow 2 52 % Nat.pow 2 11
  let fraction := raw % Nat.pow 2 52
  if exponent = 2047 then
    if fraction = 0 then .infinite negative else .nan
  else if exponent = 0 then .finite negative fraction (-1074)
  else .finite negative (Nat.pow 2 52 + fraction) ((exponent : Int) - 1075)

/-- Takes a double apart. -/
def ofFloat (x : Float) : Binary64 := ofBits x.toBits

/-- The nonnegative double nearest to `n / d`.  Between two doubles at the same distance it is the
one with the even significand; what lies beyond the largest double becomes infinity. -/
def nearest (n d : Nat) : Float :=
  if n = 0 ∨ d = 0 then 0 else
  -- The quotient lies between `2 ^ (guess + 52)` and `2 ^ (guess + 54)`.
  let guess : Int := (Nat.log2 n : Int) - Nat.log2 d - 53
  let top (e : Int) : Nat := n * Nat.pow 2 (-e).toNat
  let bottom (e : Int) : Nat := d * Nat.pow 2 e.toNat
  let fitted := if top guess / bottom guess < Nat.pow 2 53 then guess else guess + 1
  let e := max fitted (-1074)
  let floor := top e / bottom e
  let twice := 2 * (top e % bottom e)
  let significand :=
    if bottom e < twice ∨ (bottom e = twice ∧ floor % 2 = 1) then floor + 1 else floor
  let bits := (e + 1074).toNat * Nat.pow 2 52 + significand
  Float.ofBits (UInt64.ofNat (min bits (2047 * Nat.pow 2 52)))

/-- The double nearest to an integer. -/
def ofInt (n : Int) : Float :=
  if n < 0 then -(nearest n.natAbs 1) else nearest n.natAbs 1

/-- The double nearest to the quotient of two integers. -/
def ofRatio (n d : Int) : Float :=
  if (n < 0) = (d < 0) then nearest n.natAbs d.natAbs else -(nearest n.natAbs d.natAbs)

/-- How a number `significand * 2 ^ exponent` compares with an integer. -/
def compareScaled (m : Int) (exponent : Int) (n : Int) : Ordering :=
  compare (m * Nat.pow 2 exponent.toNat) (n * Nat.pow 2 (-exponent).toNat)

/-- How a double compares with an integer; `none` if it is not a number. -/
def compareInt? (x : Float) (n : Int) : Option Ordering :=
  match ofFloat x with
  | .nan => none
  | .infinite true => some .lt
  | .infinite false => some .gt
  | .finite negative m e => some (compareScaled (if negative then -m else m) e n)

/-- The integer part of a double, cut toward zero; `none` if it is no finite number. -/
def truncate? (x : Float) : Option Int :=
  match ofFloat x with
  | .finite negative m e =>
    let size : Nat := m * Nat.pow 2 e.toNat / Nat.pow 2 (-e).toNat
    some (if negative then -size else size)
  | _ => none

end Binary64

end Chip8
