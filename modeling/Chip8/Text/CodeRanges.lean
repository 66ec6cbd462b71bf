/-!
# Classes of code points as ranges
-/

namespace Chip8

/-- A class of code points: closed ranges, ascending and apart. -/
abbrev CodeRanges := List (Nat × Nat)

/-- Whether a code point belongs to a class. -/
def CodeRanges.has (ranges : CodeRanges) (n : Nat) : Bool :=
  ranges.any fun r => r.1 ≤ n && n ≤ r.2

end Chip8
