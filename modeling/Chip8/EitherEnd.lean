/-!
# Places counted from either end

A place in a list is counted from the front, or from the end if it is below zero: `-1` is the last
element.  Beyond both ends there is nothing, and far beyond them there are not even places: a place
is a number of 64 bits with a sign.
-/

namespace Chip8

/-- The least integer that is no place. -/
def indexLimit : Int := 0x8000000000000000

/-- Whether an integer can be a place in a list. -/
def isIndex (i : Int) : Bool := -indexLimit ≤ i && i < indexLimit

/-- The place counted from the front that `i` stands for in a list of the given length. -/
def place? (length : Nat) (i : Int) : Option Nat :=
  if 0 ≤ i then
    if i < length then some i.toNat else none
  else if -(length : Int) ≤ i then some (i + length).toNat else none

/-- The element at a place counted from either end. -/
def eitherEnd? (xs : List α) (i : Int) : Option α := (place? xs.length i).bind (xs[·]?)

/-- The list with another element at a place counted from either end. -/
def setEitherEnd? (xs : List α) (i : Int) (a : α) : Option (List α) :=
  (place? xs.length i).map fun k => xs.set k a

theorem place?_lt {length : Nat} {i : Int} {k : Nat} (h : place? length i = some k) :
    k < length := by
  unfold place? at h
  split at h <;> split at h <;> simp at h <;> omega

theorem place?_natCast {length k : Nat} (h : k < length) : place? length k = some k := by
  unfold place?
  rw [if_pos (by omega), if_pos (by omega)]
  simp

end Chip8
