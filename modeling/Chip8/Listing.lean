import Chip8.Memory
import Chip8.Operation

/-!
# Listings

A listing reads a stretch of memory as words, two bytes apart, and gives each its readable form.
It reads the memory directly, so no access is recorded, and it stops before the last address that
does not have a whole word.
-/

namespace Chip8

/-- One row of a listing. -/
structure ListingRow where
  /-- Where the word lies. -/
  address : Int
  /-- The two bytes. -/
  bytes : String
  /-- The readable form. -/
  text : String
deriving DecidableEq, Repr

namespace Memory

/-- The rows from `address` on, below `stop`, at most `count` of them. -/
def listingFrom (m : Memory) (stop : Int) :
    (count : Nat) → (address : Int) → Except Failure (List ListingRow)
  | 0, _ => pure []
  | count + 1, address =>
    if address < stop then do
      let word ← m.readWord address
      let rows ← listingFrom m stop count (address + 2)
      pure ({ address, bytes := word.digitPairs, text := word.operation.text } :: rows)
    else pure []

/-- The listing of `length` bytes from `start` on. -/
def listing (m : Memory) (start length : Int) : Except Failure (List ListingRow) :=
  let stop := min (start + length) ((m.size : Int) - 1)
  m.listingFrom stop ((stop - start).toNat) start

end Memory

end Chip8
