/-!
# Places in a text

A place in a text is told by its line and column, both counted from one.  A byte order mark takes no
column.
-/

namespace Chip8.Text

/-- A place in a text. -/
structure Mark where
  /-- The line, from one on. -/
  line : Nat
  /-- The column, from one on. -/
  column : Nat
deriving DecidableEq, Repr

/-- The mark at the start of a text that tells how it is encoded. -/
def byteOrderMark : Char := '\uFEFF'

/-- Whether a character ends a line. -/
def isBreak (c : Char) : Bool := c = '\n' || c = '\x85' || c = '\u2028' || c = '\u2029'

namespace Mark

/-- The first place of a text. -/
def first : Mark := ⟨1, 1⟩

/-- The place behind a character. -/
def advance (m : Mark) (c : Char) : Mark :=
  if isBreak c then ⟨m.line + 1, 1⟩
  else if c = byteOrderMark then m
  else ⟨m.line, m.column + 1⟩

/-- The place behind characters. -/
def after (cs : List Char) : Mark := cs.foldl advance first

/-- A place in the file of the given name, as messages tell it. -/
def text (m : Mark) (name : String) : String :=
  "  in \"" ++ name ++ "\", line " ++ toString m.line ++ ", column " ++ toString m.column

end Mark

end Chip8.Text
