import Chip8.Text.CodePoints
import Chip8.Text.Hex
import Chip8.Text.Printable

/-!
# Quoted text

Messages quote the text they speak about: in single quotes, or in double quotes if it holds a
single quote and no double one.  The quote and the backslash are written with a backslash, and so
is every code point that does not show as itself.
-/

namespace Chip8.Text

/-- A code point given by its number. -/
def escapedPoint (n : Nat) : List Char :=
  let digits (width : Nat) := (Hex.upper width n).map Char.toLower
  if n < 0x100 then '\\' :: 'x' :: digits 2
  else if n < 0x10000 then '\\' :: 'u' :: digits 4
  else '\\' :: 'U' :: digits 8

/-- One code point inside quotes. -/
def quotePoint (quote : Char) (n : Nat) : List Char :=
  let c := Char.ofNat n
  if c = quote ∨ c = '\\' then ['\\', c]
  else if c = '\n' then ['\\', 'n']
  else if c = '\r' then ['\\', 'r']
  else if c = '\t' then ['\\', 't']
  else if isPrintable n then [c]
  else escapedPoint n

/-- The quote around code points. -/
def quoteOf (ps : CodePoints) : Char :=
  if ps.contains '\''.toNat && !ps.contains '"'.toNat then '"' else '\''

/-- Code points in quotes. -/
def quotedPoints (ps : CodePoints) : String :=
  let quote := quoteOf ps
  String.ofList (quote :: (ps.flatMap (quotePoint quote) ++ [quote]))

/-- A text in quotes. -/
def quoted (s : String) : String := quotedPoints (points s)

/-- Bytes in quotes, behind the letter that tells them from a text.  Only those of ASCII show as
themselves. -/
def quotedBytes (data : List UInt8) : String :=
  let ps := data.map UInt8.toNat
  let quote := quoteOf ps
  let inside (n : Nat) : List Char := if n < 0x80 then quotePoint quote n else escapedPoint n
  String.ofList ('b' :: quote :: (ps.flatMap inside ++ [quote]))

end Chip8.Text
