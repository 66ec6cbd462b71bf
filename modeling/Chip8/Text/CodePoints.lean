/-!
# Code points

A text is a row of characters, and every character is a code point.  Where code points are given by
number in units of sixteen bits, one beyond sixteen bits is given as a pair of halves, and whoever
does not put pairs together is left with the halves.  So rows of code points are kept beside texts:
they hold whatever was given, and a text is made of one by joining the pairs.
-/

namespace Chip8

/-- A row of code points, in which halves of pairs may stand by themselves. -/
abbrev CodePoints := List Nat

namespace Text

/-- The code points of a text. -/
def points (s : String) : CodePoints := s.toList.map Char.toNat

/-- Whether a code point is the first half of a pair. -/
def isHighHalf (n : Nat) : Bool := 0xD800 ≤ n && n < 0xDC00

/-- Whether a code point is the second half of a pair. -/
def isLowHalf (n : Nat) : Bool := 0xDC00 ≤ n && n < 0xE000

/-- Whether a code point is a half of a pair, and so no character. -/
def isHalf (n : Nat) : Bool := 0xD800 ≤ n && n < 0xE000

/-- The code point of a pair. -/
def joinHalves (high low : Nat) : Nat := 0x10000 + (high - 0xD800) * 0x400 + (low - 0xDC00)

/-- The units of sixteen bits that give a code point. -/
def halves (n : Nat) : List Nat :=
  if n < 0x10000 then [n] else [0xD800 + (n - 0x10000) / 0x400, 0xDC00 + (n - 0x10000) % 0x400]

/-- The last code point, which is never given to a character. -/
def lastPoint : Nat := 0x10FFFF

/-- How far a half is from the private character that stands for it. -/
def standInOffset : Nat := 0x100000

/-- What stands in a text for a half without its other half: the last code point and a private
character. -/
def standIn (n : Nat) : List Char := [lastPoint, standInOffset + n].map Char.ofNat

/-- The code points of a text with the halves that others stand for. -/
def withHalves : CodePoints → CodePoints
  | [] => []
  | [n] => [n]
  | m :: n :: rest =>
    if m = lastPoint && isHalf (n - standInOffset) then (n - standInOffset) :: withHalves rest
    else m :: withHalves (n :: rest)

/-- The code points with all pairs joined. -/
def joinPairs : CodePoints → CodePoints
  | [] => []
  | [n] => [n]
  | high :: low :: rest =>
    if isHighHalf high && isLowHalf low then joinHalves high low :: joinPairs rest
    else high :: joinPairs (low :: rest)

/-- The text of code points, in which pairs are joined and others stand for the halves that are
left. -/
def ofPoints (ps : CodePoints) : String :=
  String.ofList ((joinPairs ps).flatMap fun n => if isHalf n then standIn n else [Char.ofNat n])

/-- The text of code points in which a question mark, which is part of no number, stands for every
half. -/
def masked (ps : CodePoints) : String :=
  String.ofList (ps.map fun n => if isHalf n then '?' else Char.ofNat n)

end Text

end Chip8
