import Chip8.Text.Quoted

/-!
# Text to bytes

Code points are written as bytes in UTF-8, which has none for the half of a pair.  Names of files
may hold some of the second halves all the same: each of them stands for one byte that is no
character.
-/

namespace Chip8.Text

/-- Halves that cannot be written as bytes. -/
structure EncodingError where
  /-- The place of the first one. -/
  first : Nat
  /-- The number of halves from there on. -/
  count : Nat
  /-- The first one. -/
  point : Nat
deriving DecidableEq, Repr

/-- What is said about halves that cannot be written as bytes. -/
def EncodingError.message (e : EncodingError) : String :=
  let place :=
    if e.count = 1 then
      "character '" ++ String.ofList (quotePoint '\'' e.point) ++ "' in position " ++
        toString e.first
    else "characters in position " ++ toString e.first ++ "-" ++ toString (e.first + e.count - 1)
  "'utf-8' codec can't encode " ++ place ++ ": surrogates not allowed"

/-- Whether a half stands for a byte in the name of a file. -/
def isByteHalf (n : Nat) : Bool := 0xDC80 ≤ n && n < 0xDD00

/-- Whether a half stands for nothing in the name of a file. -/
def isRefusedInName (n : Nat) : Bool := isHalf n && !isByteHalf n

/-- What cannot be written of code points, of which the given ones are refused; the halves behind
the first refused one are told with it. -/
def encodingError? (isRefused : Nat → Bool) (ps : CodePoints) : Option EncodingError :=
  match ps.findIdx? isRefused with
  | some first =>
    let run := (ps.drop first).takeWhile isHalf
    some ⟨first, run.length, ps.getD first 0⟩
  | none => none

/-- The number of bytes of a code point in the name of a file. -/
def byteCount (n : Nat) : Nat :=
  if n < 0x80 || isByteHalf n then 1 else if n < 0x800 then 2 else if n < 0x10000 then 3 else 4

end Chip8.Text
