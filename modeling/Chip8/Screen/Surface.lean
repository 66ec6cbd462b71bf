import Chip8.EitherEnd
import Chip8.Fault

/-!
# The picture

A surface is a grid of pixels, lit or dark.  A sprite is a column of bytes, each a row of eight
pixels with the leading bit on the left; drawing it flips every pixel under a set bit, and whatever
sticks out at one side comes in at the other.  Drawing goes through the list of pixels that the
sprite hits, in reading order of the sprite: on a narrow surface one pixel may be hit several
times.  A collision is a hit on a pixel that is lit at that moment.
-/

namespace Chip8

/-- A grid of pixels. -/
structure Surface where
  /-- The number of columns. -/
  width : Nat
  /-- The number of rows. -/
  height : Nat
  /-- The pixels row by row; `true` is lit. -/
  rows : Array (Array Bool)
  /-- Whether anything was drawn or cleared since this was last asked for. -/
  dirty : Bool
deriving DecidableEq, Repr

namespace Surface

/-- The usual number of columns. -/
def defaultWidth : Int := 64

/-- The usual number of rows. -/
def defaultHeight : Int := 32

/-- The number of pixels in a row of a sprite. -/
def spriteWidth : Nat := 8

/-- A grid of dark pixels. -/
def darkRows (width height : Nat) : Array (Array Bool) :=
  Array.replicate height (Array.replicate width false)

/-- A dark surface; it has to have pixels. -/
def create (width height : Int) : Except Failure Surface :=
  if width ≤ 0 ∨ height ≤ 0 then throw (.misuse .screenSize)
  else pure ⟨width.toNat, height.toNat, darkRows width.toNat height.toNat, true⟩

/-- Whether the pixel in column `x` and row `y` is lit; there is none outside the surface. -/
def lit (s : Surface) (x y : Nat) : Bool := (s.rows.getD y #[]).getD x false

/-- Makes every pixel dark. -/
def clear (s : Surface) : Surface :=
  { s with rows := s.rows.map fun row => row.map fun _ => false, dirty := true }

/-- Flips one pixel. -/
def flip (s : Surface) (x y : Nat) : Surface :=
  { s with rows := s.rows.modify y fun row => row.modify x not }

/-- The columns of a row of a sprite that are set. -/
def setColumns (row : UInt8) : List Nat :=
  (List.range spriteWidth).filter fun c => row.toNat.testBit (spriteWidth - 1 - c)

/-- The pixels that a sprite hits, in reading order of the sprite. -/
def hits (width height : Nat) (x y : Int) : List UInt8 → List (Nat × Nat)
  | [] => []
  | row :: rows =>
    (setColumns row).map (fun c : Nat => (((x + c) % width).toNat, (y % height).toNat)) ++
      hits width height x (y + 1) rows

/-- Flips the given pixels one after another, and tells whether one was lit when its turn came. -/
def flipAll (s : Surface) (collided : Bool) : List (Nat × Nat) → Surface × Bool
  | [] => (s, collided)
  | (x, y) :: rest => flipAll (s.flip x y) (collided || s.lit x y) rest

/-- Draws a sprite with its upper left corner at the given place, and tells whether it collided. -/
def draw (s : Surface) (x y : Int) (sprite : List UInt8) : Surface × Bool :=
  let (s', collided) := s.flipAll false (hits s.width s.height x y sprite)
  ({ s' with dirty := true }, collided)

/-- The pixel in column `x` and row `y`, both counted from either end; the row is looked up
first. -/
def pixel (s : Surface) (x y : Int) : Except Failure Bool :=
  match eitherEnd? s.rows.toList y with
  | none => throw (.misuse (.ofPlace y .placeOutOfRange))
  | some row =>
    match eitherEnd? row.toList x with
    | none => throw (.misuse (.ofPlace x .placeOutOfRange))
    | some b => pure b

/-- Whether anything changed since this was last asked for. -/
def takeDirty (s : Surface) : Surface × Bool := ({ s with dirty := false }, s.dirty)

/-- The lit pixels row by row. -/
def litPixels (s : Surface) : List (Nat × Nat) :=
  s.rows.toList.zipIdx.flatMap fun (row, y) =>
    row.toList.zipIdx.filterMap fun (b, x) => if b then some (x, y) else none

end Surface

end Chip8
