/-!
# Bytes in base 64

Four characters stand for three bytes.  Characters that stand for nothing are passed over, and
signs behind the last characters fill these up to four, after which nothing counts.
-/

namespace Chip8.Text

/-- Why a text stands for no bytes. -/
inductive Base64Error where
  /-- One character is left at the end, of so many. -/
  | lone (count : Nat)
  /-- Two or three characters are left at the end and not filled up. -/
  | unfilled
deriving DecidableEq, Repr

/-- What is said about a text that stands for no bytes. -/
def Base64Error.message : Base64Error → String
  | lone count =>
    "Invalid base64-encoded string: number of data characters (" ++ toString count ++
      ") cannot be 1 more than a multiple of 4"
  | unfilled => "Incorrect padding"

/-- What a character stands for. -/
def base64Value? (c : Char) : Option Nat :=
  if 'A' ≤ c ∧ c ≤ 'Z' then some (c.toNat - 65)
  else if 'a' ≤ c ∧ c ≤ 'z' then some (c.toNat - 71)
  else if '0' ≤ c ∧ c ≤ '9' then some (c.toNat + 4)
  else if c = '+' then some 62
  else if c = '/' then some 63
  else none

/-- The bytes that the first two, three or four characters of a group stand for. -/
def groupBytes (values : List Nat) : List UInt8 :=
  match values with
  | [a, b] => [a * 4 + b / 16].map UInt8.ofNat
  | [a, b, c] => [a * 4 + b / 16, b % 16 * 16 + c / 4].map UInt8.ofNat
  | [a, b, c, d] => [a * 4 + b / 16, b % 16 * 16 + c / 4, c % 4 * 64 + d].map UInt8.ofNat
  | _ => []

/-- The bytes that characters stand for behind so many whole groups, the values of a group that has
been started and the number of signs that fill it up. -/
def decodeBase64From (groups : Nat) (values : List Nat) (signs : Nat) :
    List Char → Except Base64Error (List UInt8)
  | [] =>
    match values with
    | [] => pure []
    | [_] => throw (.lone (groups * 4 + 1))
    | _ => throw .unfilled
  | '=' :: rest =>
    if 2 ≤ values.length then
      if 4 ≤ values.length + signs + 1 then pure (groupBytes values)
      else decodeBase64From groups values (signs + 1) rest
    else decodeBase64From groups values signs rest
  | c :: rest =>
    match base64Value? c with
    | none => decodeBase64From groups values signs rest
    | some v =>
      if values.length = 3 then do
        pure (groupBytes (values ++ [v]) ++ (← decodeBase64From (groups + 1) [] 0 rest))
      else decodeBase64From groups (values ++ [v]) 0 rest

/-- The bytes that a text stands for. -/
def decodeBase64 (cs : List Char) : Except Base64Error (List UInt8) := decodeBase64From 0 [] 0 cs

end Chip8.Text
