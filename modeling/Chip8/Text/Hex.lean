/-!
# Hexadecimal text

Bytes, words and addresses are written in a fixed number of hexadecimal digits.  An address that
may lie outside its range is written with as many digits as it needs, its sign in front of the
base mark.
-/

namespace Chip8.Hex

/-- The upper-case hexadecimal digit of a number below sixteen. -/
def upperDigit (n : Nat) : Char :=
  if n < 10 then Char.ofNat (48 + n) else Char.ofNat (55 + n)

/-- The lower-case hexadecimal digit of a number below sixteen. -/
def lowerDigit (n : Nat) : Char :=
  if n < 10 then Char.ofNat (48 + n) else Char.ofNat (87 + n)

/-- The last `width` hexadecimal digits of a number, in upper case. -/
def upper (width : Nat) (n : Nat) : List Char :=
  match width with
  | 0 => []
  | width + 1 => upper width (n / 16) ++ [upperDigit (n % 16)]

/-- The two lower-case hexadecimal digits of a byte. -/
def byte (b : UInt8) : List Char := [lowerDigit (b.toNat / 16), lowerDigit (b.toNat % 16)]

/-- Bytes as pairs of lower-case hexadecimal digits. -/
def bytes (bs : List UInt8) : String := String.ofList (bs.flatMap byte)

/-- How many hexadecimal digits a number needs, at least one. -/
def digitCount (n : Nat) : Nat := Nat.log2 n / 4 + 1

/-- A number in upper-case hexadecimal, with at least `width` digits. -/
def atLeast (width : Nat) (n : Nat) : String :=
  String.ofList (upper (max width (digitCount n)) n)

/-- An address with its base mark, zeros filling it up to `width` characters in all. -/
def address (width : Nat) (a : Int) : String :=
  let sign := if a < 0 then "-" else ""
  let room := width - 2 - sign.length
  let digits := upper (max room (digitCount a.natAbs)) a.natAbs
  sign ++ "0x" ++ String.ofList (digits.map Char.toLower)

/-- The value of a hexadecimal digit of either case. -/
def digitValue? (c : Char) : Option Nat :=
  if '0' ≤ c ∧ c ≤ '9' then some (c.toNat - 48)
  else if 'a' ≤ c ∧ c ≤ 'f' then some (c.toNat - 87)
  else if 'A' ≤ c ∧ c ≤ 'F' then some (c.toNat - 55)
  else none

/-- The bytes written as pairs of hexadecimal digits; `none` if the text is anything else. -/
def readBytes? : List Char → Option (List UInt8)
  | [] => some []
  | [_] => none
  | a :: b :: rest => do
    let high ← digitValue? a
    let low ← digitValue? b
    let others ← readBytes? rest
    pure (UInt8.ofNat (16 * high + low) :: others)

end Chip8.Hex
