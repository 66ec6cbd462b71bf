import Chip8.Screen.Surface

/-!
# Screens

A screen is a surface that may be shown on a console.  The console composes a whole frame as text,
one line for each row, and writes it only if it differs from the frame that already stands there.
It clears the console before the first frame and goes back to the upper left corner before every
later one.
-/

namespace Chip8

/-- How a surface is shown as text. -/
structure Console where
  /-- The text of a lit pixel. -/
  onText : String := "█"
  /-- The text of a dark pixel. -/
  offText : String := " "
  /-- The frame that stands on the console; empty before the first. -/
  front : String := ""
  /-- Whether a frame has been written. -/
  started : Bool := false
  /-- What has been written and not yet collected, write by write. -/
  writes : List String := []
deriving DecidableEq, Repr

/-- A surface and the console that shows it, if any. -/
structure Screen where
  /-- The picture. -/
  surface : Surface
  /-- Where it is shown. -/
  console : Option Console
deriving DecidableEq, Repr

namespace Console

/-- Moves to the upper left corner. -/
def home : String := "\x1b[H"

/-- Clears the console. -/
def erase : String := "\x1b[2J"

/-- The text of a row of pixels. -/
def rowText (c : Console) (row : Array Bool) : String :=
  String.join (row.toList.map fun lit => if lit then c.onText else c.offText)

/-- The text of a whole frame. -/
def frame (c : Console) (s : Surface) : String :=
  String.intercalate "\n" (s.rows.toList.map c.rowText) ++ "\n"

/-- Writes a frame. -/
def write (c : Console) (text : String) : Console :=
  { c with
    writes := c.writes ++ [(if c.started then home else erase ++ home) ++ text]
    front := text
    started := true }

end Console

namespace Screen

/-- A dark screen. -/
def create (width height : Int) (console : Option Console) : Except Failure Screen := do
  pure ⟨← Surface.create width height, console⟩

/-- Makes every pixel dark. -/
def clear (s : Screen) : Screen := { s with surface := s.surface.clear }

/-- Draws a sprite, and tells whether it collided. -/
def draw (s : Screen) (x y : Int) (sprite : List UInt8) : Screen × Bool :=
  let (surface, collided) := s.surface.draw x y sprite
  ({ s with surface }, collided)

/-- Ends a frame: a console shows the picture if it changed and looks different. -/
def finishFrame (s : Screen) : Screen :=
  match s.console with
  | none => s
  | some c =>
    let (surface, dirty) := s.surface.takeDirty
    let text := c.frame surface
    if dirty && text != c.front then ⟨surface, some (c.write text)⟩ else ⟨surface, some c⟩

/-- Collects what has been written since this was last done. -/
def takeWritten (s : Screen) : Screen × String :=
  match s.console with
  | none => (s, "")
  | some c => ({ s with console := some { c with writes := [] } }, String.join c.writes)

end Screen

end Chip8
