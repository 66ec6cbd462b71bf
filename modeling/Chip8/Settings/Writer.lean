import Chip8.Settings.Document

/-!
# Writing documents

A document is written with texts in double quotes, lists in brackets and mappings in braces, and
with a blank behind every comma and colon.  What has no form of its own, such as days and bytes, is
written as the text that quotes it.  Only characters of ASCII that can be printed stand for
themselves; of the others some have a letter, the rest are given by number, beyond sixteen bits as
a pair of halves.  What stands for a half is written as the
half.
-/

namespace Chip8.Document

/-- A number of sixteen bits. -/
def writeUnit (n : Nat) : List Char := '\\' :: 'u' :: (Hex.upper 4 n).map Char.toLower

/-- A code point inside quotes. -/
def writePoint (n : Nat) : List Char :=
  let c := Char.ofNat n
  if c = '"' ∨ c = '\\' then ['\\', c]
  else if c = '\n' then ['\\', 'n']
  else if c = '\r' then ['\\', 'r']
  else if c = '\t' then ['\\', 't']
  else if c = '\x08' then ['\\', 'b']
  else if c = '\x0c' then ['\\', 'f']
  else if ' ' ≤ c ∧ c ≤ '~' then [c]
  else (Text.halves n).flatMap writeUnit

/-- The text of code points in quotes. -/
def writePoints (ps : CodePoints) : String :=
  "\"" ++ String.ofList ((Text.withHalves ps).flatMap writePoint) ++ "\""

/-- A double as it is written. -/
def writeReal (x : Float) : String :=
  if x.isNaN then "NaN"
  else if x.isInf then if x < 0 then "-Infinity" else "Infinity"
  else Decimal.shortest x

mutual

/-- A document as text. -/
def write : Document → String
  | null => "null"
  | bool b => if b then "true" else "false"
  | int n => toString n
  | real x => writeReal x
  | text s => writePoints (Text.points s)
  | loose ps => writePoints ps
  | list items => "[" ++ String.intercalate ", " (writeItems items) ++ "]"
  | mapping fields => "\x7b" ++ String.intercalate ", " (writeFields fields) ++ "\x7d"
  | d => writePoints (Text.points d.shown)

/-- The values of a list as text. -/
def writeItems : List Document → List String
  | [] => []
  | d :: ds => write d :: writeItems ds

/-- The keys and values of a mapping as text. -/
def writeFields : List (Document × Document) → List String
  | [] => []
  | (key, d) :: rest => (write key ++ ": " ++ write d) :: writeFields rest

end

end Chip8.Document
