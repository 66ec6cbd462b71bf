import Chip8.Text.Hex
import Chip8.Yaml.Cursor
import Chip8.Yaml.Flaw

/-!
# Texts in quotes

In single quotes every character stands for itself, and a quote is written twice.  In double quotes
a backslash gives the character behind it another meaning, or starts a character's number.  The end
of a line counts as a space, together with the blanks around it; each empty line behind it counts
as the end of one.
-/

namespace Chip8.Yaml

/-- A mistake that is met at a cursor while tokens are made. -/
def scanMistake {α : Type} (activity : Activity) (start : Text.Mark) (c : Cursor)
    (problem : Problem) : Except Flaw α :=
  throw (.mistake ⟨.scanning, some (activity, some start), problem, c.mark⟩)

/-- The mistake that something else stands at a cursor than expected. -/
def unexpected {α : Type} (activity : Activity) (start : Text.Mark) (c : Cursor)
    (wanted : String) : Except Flaw α :=
  scanMistake activity start c (.expected wanted c.peek)

/-- What a letter behind a backslash stands for. -/
def escapes : List (Char × Char) :=
  [('0', '\x00'), ('a', '\x07'), ('b', '\x08'), ('t', '\t'), ('\t', '\t'), ('n', '\n'),
   ('v', '\x0b'), ('f', '\x0c'), ('r', '\r'), ('e', '\x1b'), (' ', ' '), ('"', '"'), ('\\', '\\'),
   ('/', '/'), ('N', '\x85'), ('_', '\xa0'), ('L', '\u2028'), ('P', '\u2029')]

/-- How many digits of a character's number follow a letter behind a backslash. -/
def escapeLengths : List (Char × Nat) := [('x', 2), ('u', 4), ('U', 8)]

/-- Takes a number of hexadecimal digits off the front. -/
def takeHex (activity : Activity) (start : Text.Mark) (count : Nat) (wanted : String)
    (c : Cursor) : Except Flaw (Nat × Cursor) :=
  let ds := (c.rest.take count).map Hex.digitValue?
  match ds.findIdx? (·.isNone) with
  | some n => scanMistake activity start c (.expected wanted c.rest[n]?)
  | none =>
    if ds.length < count then scanMistake activity start c (.expected wanted none)
    else pure (Numeral.ofDigits 16 (ds.filterMap id), c.skip count)

/-- The ends of lines in front of the next line with characters, and the place behind the blanks
there. -/
def takeEmptyLines (start : Text.Mark) : (fuel : Nat) → Cursor → Except Flaw (List Char × Cursor)
  | 0, c => pure ([], c)
  | fuel + 1, c =>
    if atSeparator c.rest then scanMistake .quoted start c .unexpectedSeparator
    else
      let c := (c.takeWhile isBlank).2
      match c.takeBreak with
      | ([], c) => pure ([], c)
      | (ended, c) => do
        let (more, c) ← takeEmptyLines start fuel c
        pure (ended ++ more, c)

/-- What blanks and ends of lines in quotes stand for. -/
def takeGap (start : Text.Mark) (c : Cursor) : Except Flaw (List Char × Cursor) := do
  let (blanks, c) := c.takeWhile isBlank
  match c.takeBreak with
  | ([], c) =>
    if c.peek = none then scanMistake .quoted start c .unexpectedEnd
    else pure (blanks, c)
  | (ended, c) =>
    let (more, c) ← takeEmptyLines start c.fuel c
    pure (foldBreaks ended more, c)

/-- What stands behind a backslash. -/
def takeEscape (start : Text.Mark) (c : Cursor) : Except Flaw (CodePoints × Cursor) := do
  let meaning := c.peek.bind fun ch => escapes.lookup ch
  let length := c.peek.bind fun ch => escapeLengths.lookup ch
  match meaning, length with
  | some ch, _ => pure ([ch.toNat], c.next)
  | none, some count =>
    let wanted := "escape sequence of " ++ toString count ++ " hexadecimal numbers"
    let (n, c) ← takeHex .doubleQuoted start count wanted c.next
    if n < 0x110000 then pure ([n], c)
    else if n < 0x80000000 then throw (.scalar .noCharacter)
    else throw (.scalar .farCharacter)
  | none, none =>
    match c.takeBreak with
    | ([], c) => scanMistake .doubleQuoted start c (.unknownEscape c.peek)
    | (_, c) => do
      let (lines, c) ← takeEmptyLines start c.fuel c
      pure (lines.map Char.toNat, c)

/-- Takes a text up to its closing quote off the front. -/
def takeQuotedFrom (quote : Char) (start : Text.Mark) :
    (fuel : Nat) → Cursor → Except Flaw (CodePoints × Cursor)
  | 0, c => scanMistake .quoted start c .unexpectedEnd
  | fuel + 1, c => do
    let goOn (ps : CodePoints) (c : Cursor) : Except Flaw (CodePoints × Cursor) := do
      let (more, c) ← takeQuotedFrom quote start fuel c
      pure (ps ++ more, c)
    match c.rest with
    | [] => scanMistake .quoted start c .unexpectedEnd
    | ch :: rest =>
      if ch = quote then
        if quote = '\'' && rest.head? = some quote then goOn [quote.toNat] (c.skip 2)
        else pure ([], c.next)
      else if ch = '\\' && quote = '"' then
        let (ps, c) ← takeEscape start c.next
        goOn ps c
      else if isBlankOrEnd (some ch) then
        let (gap, c) ← takeGap start c
        goOn (gap.map Char.toNat) c
      else goOn [ch.toNat] c.next

/-- Takes a text in quotes off the front. -/
def takeQuoted (quote : Char) (c : Cursor) : Except Flaw (CodePoints × Cursor) :=
  takeQuotedFrom quote c.mark c.fuel c.next

end Chip8.Yaml
