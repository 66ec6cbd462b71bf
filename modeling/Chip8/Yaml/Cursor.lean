import Chip8.Text.Mark

/-!
# Places in a text in YAML

A text is read from its front.  A cursor holds what is left of it and knows the place: how many
characters have been passed, and the line and column.
-/

namespace Chip8.Yaml

/-- Whether there is a character that ends a line, or none. -/
def isLineEnd (c : Option Char) : Bool := c.all Text.isBreak

/-- Whether there is a space or the end of a line. -/
def isSpaceOrEnd (c : Option Char) : Bool := c = some ' ' || isLineEnd c

/-- Whether there is a space, a tab or the end of a line. -/
def isBlankOrEnd (c : Option Char) : Bool := c = some '\t' || isSpaceOrEnd c

/-- Whether a character is a space or a tab. -/
def isBlank (c : Char) : Bool := c = ' ' || c = '\t'

/-- Whether a text starts with the mark between two documents. -/
def atSeparator : List Char → Bool
  | '-' :: '-' :: '-' :: rest => isBlankOrEnd rest.head?
  | '.' :: '.' :: '.' :: rest => isBlankOrEnd rest.head?
  | _ => false

/-- A place in a text. -/
structure Cursor where
  /-- What is left of the text. -/
  rest : List Char
  /-- How many characters have been passed. -/
  index : Nat
  /-- How many characters the whole text has. -/
  size : Nat
  /-- The line and column. -/
  mark : Text.Mark

namespace Cursor

/-- The start of a text. -/
def start (cs : List Char) : Cursor := ⟨cs, 0, cs.length, Text.Mark.first⟩

/-- The next character. -/
def peek (c : Cursor) : Option Char := c.rest.head?

/-- The column, from one on. -/
def column (c : Cursor) : Nat := c.mark.column

/-- The place behind the next character. -/
def next (c : Cursor) : Cursor :=
  match c.rest with
  | [] => c
  | ch :: rest => { c with rest, index := c.index + 1, mark := c.mark.advance ch }

/-- The place behind a number of characters. -/
def skip : Nat → Cursor → Cursor
  | 0, c => c
  | n + 1, c => skip n c.next

/-- The characters up to what ends them, and the place there. -/
def takeUntil (ends : List Char → Bool) (c : Cursor) : List Char × Cursor :=
  let rec count : List Char → Nat
    | [] => 0
    | ch :: rest => if ends (ch :: rest) then 0 else count rest + 1
  let n := count c.rest
  (c.rest.take n, c.skip n)

/-- The characters of a kind, and the place behind them. -/
def takeWhile (p : Char → Bool) (c : Cursor) : List Char × Cursor :=
  c.takeUntil fun rest => !rest.head?.any p

/-- The place behind spaces. -/
def skipSpaces (c : Cursor) : Cursor := (c.takeWhile (· = ' ')).2

/-- The place at the end of the line if a remark goes up to there. -/
def skipRemark (c : Cursor) : Cursor :=
  if c.peek = some '#' then (c.takeWhile fun ch => !Text.isBreak ch).2 else c

/-- The end of a line, in the form that it has in a value, and the place behind it. -/
def takeBreak (c : Cursor) : List Char × Cursor :=
  match c.peek with
  | some ch =>
    if Text.isBreak ch then ([if ch = '\x85' then '\n' else ch], c.next) else ([], c)
  | none => ([], c)

/-- A bound for the number of steps that it takes to read the rest, each of which passes a character
or is the last one. -/
def fuel (c : Cursor) : Nat := c.size - c.index + 1

end Cursor

/-- What stands in a text for the end of a line and the empty lines behind it: a space if there are
none of these, and an ordinary end of a line does not count. -/
def foldBreaks (first more : List Char) : List Char :=
  if first ≠ ['\n'] then first ++ more else if more = [] then [' '] else more

end Chip8.Yaml
