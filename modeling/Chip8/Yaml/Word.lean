import Chip8.Yaml.Cursor

/-!
# Texts without quotes

A text without quotes starts with a character that means nothing else, and ends where a colon or a
remark would be one, or inside brackets at what goes on with the collection.  It may go on in
further lines, which in a block have to be indented.
-/

namespace Chip8.Yaml

/-- The characters that mean something else where a text could start. -/
def indicators : List Char := "-?:,[]\x7b\x7d#&*!|>'\"%@`".toList

/-- Whether a text without quotes, inside brackets or not, starts here. -/
def startsWord (inFlow : Bool) : List Char → Bool
  | [] => false
  | ch :: rest =>
    (!isBlankOrEnd (some ch) && !indicators.contains ch) ||
      (!isBlankOrEnd rest.head? && (ch = '-' || (!inFlow && (ch = '?' || ch = ':'))))

/-- Whether the characters of a text without quotes end here. -/
def endsWord (inFlow : Bool) : List Char → Bool
  | [] => true
  | ch :: rest =>
    isBlankOrEnd (some ch) ||
      (ch = ':' &&
        (isBlankOrEnd rest.head? || (inFlow && rest.head?.any ",[]\x7b\x7d".toList.contains))) ||
      (inFlow && ",?[]\x7b\x7d".toList.contains ch)

/-- The ends of lines in front of the next line with characters, and the place behind the spaces
there; `none` for them if a document ends. -/
def takeWordLines : (fuel : Nat) → Cursor → Option (List Char) × Cursor
  | 0, c => (none, c)
  | fuel + 1, c =>
    if atSeparator c.rest then (none, c)
    else
      let c := c.skipSpaces
      match c.takeBreak with
      | ([], c) => (some [], c)
      | (ended, c) =>
        let (more, c) := takeWordLines fuel c
        (more.map (ended ++ ·), c)

/-- A text that has been taken off the front. -/
structure Word where
  /-- The text. -/
  text : List Char
  /-- The place behind the blanks and ends of lines that follow it. -/
  behind : Cursor
  /-- Whether the end of a line is among these. -/
  broken : Bool

/-- What spaces and ends of lines stand for inside a text, nothing if it does not go on, and the
place behind them. -/
def takeWordGap (c : Cursor) : List Char × Cursor × Bool :=
  let (spaces, c) := c.takeWhile (· = ' ')
  match c.takeBreak with
  | ([], c) => (spaces, c, false)
  | (ended, c) =>
    let (more, c) := takeWordLines c.fuel c
    ((more.map (foldBreaks ended)).getD [], c, true)

/-- Takes a text without quotes off the front, inside brackets or in a block of the given
indentation. -/
def takeWordFrom (inFlow : Bool) (indentation : Nat) : (fuel : Nat) → Cursor → Word
  | 0, c => ⟨[], c, false⟩
  | fuel + 1, c =>
    match c.takeUntil (endsWord inFlow) with
    | ([], c) => ⟨[], c, false⟩
    | (cs, c) =>
      let (gap, behind, broken) := takeWordGap c
      let here : Word := ⟨cs, behind, broken⟩
      if gap = [] || behind.peek = some '#' || (!inFlow && behind.column ≤ indentation) then here
      else
        let more := takeWordFrom inFlow indentation fuel behind
        if more.text = [] then here else { more with text := cs ++ gap ++ more.text }

/-- Takes a text without quotes off the front. -/
def takeWord (inFlow : Bool) (indentation : Nat) (c : Cursor) : Word :=
  takeWordFrom inFlow indentation c.fuel c

end Chip8.Yaml
