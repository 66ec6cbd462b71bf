import Chip8.Yaml.Quoted

/-!
# Texts in blocks

A text in a block stands in lines of its own, which are indented alike.  In a literal text every
line keeps its end; in a folded one the end of a line counts as a space between two lines that start
with no blank.  Its header may tell how far the lines are indented, and what becomes of the ends of
lines at the end.
-/

namespace Chip8.Yaml

/-- What becomes of the ends of lines at the end of a text. -/
inductive Chomping where
  /-- One of them stays. -/
  | clip
  /-- None of them stays. -/
  | strip
  /-- All of them stay. -/
  | keep
deriving DecidableEq, Repr

/-- Takes the sign of what becomes of the ends of lines off the front. -/
def takeChomping (c : Cursor) : Chomping × Cursor :=
  match c.peek with
  | some '+' => (.keep, c.next)
  | some '-' => (.strip, c.next)
  | _ => (.clip, c)

/-- Takes the digit that tells the indentation off the front. -/
def takeIndentation (start : Text.Mark) (c : Cursor) : Except Flaw (Option Nat × Cursor) :=
  match c.peek with
  | some ch =>
    if ch = '0' then scanMistake .blockText start c .zeroIndentation
    else if ch.isDigit then pure (some (ch.toNat - 48), c.next)
    else pure (none, c)
  | none => pure (none, c)

/-- Takes what is told about a text off the front, in either order. -/
def takeHeader (start : Text.Mark) (c : Cursor) :
    Except Flaw (Chomping × Option Nat × Cursor) := do
  let (chomping, behind) := takeChomping c
  let (indentation, behind) ← takeIndentation start behind
  let (chomping, behind) :=
    if chomping = .clip && indentation.isSome then takeChomping behind else (chomping, behind)
  if isSpaceOrEnd behind.peek then pure (chomping, indentation, behind)
  else unexpected .blockText start behind "chomping or indentation indicators"

/-- The place behind the rest of a line on which only a remark may stand. -/
def skipLine (activity : Activity) (start : Text.Mark) (c : Cursor) : Except Flaw Cursor :=
  let c := c.skipSpaces.skipRemark
  if isLineEnd c.peek then pure c.takeBreak.2
  else unexpected activity start c "a comment or a line break"

/-- The ends of lines in front of the first line with characters, the deepest column up to there,
and the place. -/
def takeFirstLines : (fuel column : Nat) → Cursor → List Char × Nat × Cursor
  | 0, column, c => ([], column, c)
  | fuel + 1, column, c =>
    if c.peek = some ' ' then takeFirstLines fuel (max column c.next.column) c.next
    else
      match c.takeBreak with
      | ([], c) => ([], column, c)
      | (ended, c) =>
        let (more, column, c) := takeFirstLines fuel column c
        (ended ++ more, column, c)

/-- The place behind the spaces up to a column. -/
def skipTo (column : Nat) (c : Cursor) : Cursor :=
  let spaces := (c.takeWhile (· = ' ')).1.length
  c.skip (min spaces (column - c.column))

/-- The ends of empty lines, and the place at which the next line is indented. -/
def takeLines (column : Nat) : (fuel : Nat) → Cursor → List Char × Cursor
  | 0, c => ([], c)
  | fuel + 1, c =>
    match (skipTo column c).takeBreak with
    | ([], c) => ([], c)
    | (ended, c) =>
      let (more, c) := takeLines column fuel c
      (ended ++ more, c)

/-- A text in a block that has been taken off the front. -/
structure BlockText where
  /-- The lines up to the last one with characters. -/
  text : List Char
  /-- The end of that line. -/
  ended : List Char
  /-- The ends of the lines behind it. -/
  empty : List Char
  /-- The place behind them. -/
  behind : Cursor

/-- Takes the lines from a column on off the front.  The ends of empty lines in front of them are
given. -/
def takeBlockFrom (folds : Bool) (column : Nat) :
    (fuel : Nat) → List Char → Cursor → BlockText
  | 0, empty, c => ⟨[], [], empty, c⟩
  | fuel + 1, empty, c =>
    let goesOn (c : Cursor) : Bool := c.column = column && c.peek.isSome
    if goesOn c then
      let starts (c : Cursor) : Bool := !c.peek.any isBlank
      let (line, behind) := c.takeWhile fun ch => !Text.isBreak ch
      let (ended, behind) := behind.takeBreak
      let (more, behind) := takeLines column behind.fuel behind
      if goesOn behind then
        let joint :=
          if folds && ended = ['\n'] && starts c && starts behind then
            if more = [] then [' '] else []
          else ended
        let others := takeBlockFrom folds column fuel more behind
        { others with text := empty ++ line ++ joint ++ others.text }
      else ⟨empty ++ line, ended, more, behind⟩
    else ⟨[], [], empty, c⟩

/-- Takes a text in a block off the front, whose mark tells whether it is folded.  Around it is a
block of the given indentation. -/
def takeBlock (folds : Bool) (indentation : Nat) (c : Cursor) :
    Except Flaw (List Char × Cursor) := do
  let start := c.mark
  let (chomping, told, c) ← takeHeader start c.next
  let c ← skipLine .blockText start c
  let least := max indentation 1 + 1
  let (empty, column, c) := match told with
    | some more =>
      let column := least + more - 1
      let (empty, c) := takeLines column c.fuel c
      (empty, column, c)
    | none =>
      let (empty, column, c) := takeFirstLines c.fuel 1 c
      (empty, max least column, c)
  let block := takeBlockFrom folds column c.fuel empty c
  let last := match chomping with
    | .clip => block.ended
    | .strip => []
    | .keep => block.ended ++ block.empty
  pure (block.text ++ last, block.behind)

end Chip8.Yaml
