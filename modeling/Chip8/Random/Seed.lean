import Chip8.Number.Binary64
import Chip8.Random.Digest

/-!
# Seeds that are no integers

Random numbers start from an integer.  A text gives the integer that its bytes and their digest
write, and a double the remainder that the number it stands for has modulo a prime, a negative one
counted down from two to the power of 64.
-/

namespace Chip8.Seed

/-- The integer that a text gives. -/
def ofText (s : String) : Int :=
  let data := s.toUTF8.toList
  Digest.number (data ++ Digest.ofBytes data)

/-- The prime modulo which doubles are taken. -/
def modulus : Nat := Nat.pow 2 61 - 1

/-- The remainder that stands for infinity. -/
def infinity : Nat := 314159

/-- The integer that a remainder with a sign gives.  One below zero is taken for two. -/
def ofRemainder (negative : Bool) (remainder : Nat) : Int :=
  if negative && remainder != 0 then
    Nat.pow 2 64 - (if remainder = 1 then 2 else (remainder : Int))
  else remainder

/-- The integer that a double gives.  Two to the power of 61 has the remainder one, so exponents
count modulo 61. -/
def ofReal (x : Float) : Int :=
  match Binary64.ofFloat x with
  | .nan => 0
  | .infinite negative => ofRemainder negative infinity
  | .finite negative significand exponent =>
    ofRemainder negative (significand * Nat.pow 2 (exponent % 61).toNat % modulus)

end Chip8.Seed
