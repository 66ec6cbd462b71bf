import Chip8.Number.Binary64
import Chip8.Text.Digit
import Chip8.Text.Hex
import Chip8.Text.Quoted

/-!
# Reading numbers

Integers and doubles are read from text as people write them: blanks around them, a sign in front,
digits of any script, and single underscores between digits.  An integer in another base than ten
may start with the mark of the base, after which one underscore may stand.  A double may have a
fraction and an exponent, or be an infinity or not a number.
-/

namespace Chip8.Numeral

/-- Why a text is not read as an integer. -/
inductive IntegerError where
  /-- The text, here in quotes, does not have the form of an integer in that base. -/
  | malformed (base : Nat) (quoted : String)
  /-- The text has more than `limit` decimal digits. -/
  | tooLong (limit digits : Nat)
deriving DecidableEq, Repr

/-- The number of decimal digits an integer may have. -/
def digitLimit : Nat := 4300

/-- What is said about a text that is not read as an integer. A quotation is cut to 200
characters. -/
def IntegerError.message : IntegerError → String
  | malformed base quoted =>
    "invalid literal for int() with base " ++ toString base ++ ": " ++
      String.ofList (quoted.toList.take 200)
  | tooLong limit digits =>
    "Exceeds the limit (" ++ toString limit ++ " digits) for integer string conversion: value has "
      ++ toString digits ++ " digits; use sys.set_int_max_str_digits() to increase the limit"

/-- The same error about another text, given in quotes. -/
def IntegerError.about (quoted : String) : IntegerError → IntegerError
  | malformed base _ => malformed base quoted
  | tooLong limit digits => tooLong limit digits

/-- A character with every digit beyond ASCII turned into its ASCII form and every blank into a
space. -/
def plainChar (c : Char) : Char :=
  if Text.isBlank c then ' ' else
  match Text.digitValue? c with
  | some d => Char.ofNat (48 + d)
  | none => c

/-- The characters of a text in plain form, without the blanks around them. -/
def plain (s : String) : List Char :=
  let cs := (s.toList.map plainChar).dropWhile (· = ' ')
  (cs.reverse.dropWhile (· = ' ')).reverse

/-- The value of a digit in the given base. -/
def digitIn? (base : Nat) (c : Char) : Option Nat :=
  (Hex.digitValue? c).filter (· < base)

/-- The digits of a numeral, where single underscores may stand between two digits. -/
def digits? (base : Nat) : List Char → Option (List Nat)
  | [] => none
  | [c] => (digitIn? base c).map ([·])
  | c :: '_' :: rest => do
    let d ← digitIn? base c
    let ds ← digits? base rest
    pure (d :: ds)
  | c :: rest => do
    let d ← digitIn? base c
    let ds ← digits? base rest
    pure (d :: ds)

/-- The number written with the given digits, most significant first. -/
def ofDigits (base : Nat) (ds : List Nat) : Nat := ds.foldl (fun n d => base * n + d) 0

/-- Splits a sign off: whether it is a minus, and the rest. -/
def splitSign : List Char → Bool × List Char
  | '-' :: cs => (true, cs)
  | '+' :: cs => (false, cs)
  | cs => (false, cs)

/-- Reads a decimal integer.  Only digits and underscores in front count towards the limit, which is
looked at before what stands behind them. -/
def readDecimal (s : String) : Except IntegerError Int :=
  let (negative, cs) := splitSign (plain s)
  let numeral := cs.takeWhile fun c => c.isDigit || c = '_'
  match digits? 10 numeral with
  | none => throw (.malformed 10 (Text.quoted s))
  | some ds =>
    if digitLimit < ds.length then throw (.tooLong digitLimit ds.length)
    else if numeral.length < cs.length then throw (.malformed 10 (Text.quoted s))
    else pure (if negative then -(ofDigits 10 ds : Int) else ofDigits 10 ds)

/-- Whether a text starts with the mark of base sixteen. -/
def hasHexMark (s : String) : Bool :=
  match s.toList with
  | '0' :: 'x' :: _ => true
  | '0' :: 'X' :: _ => true
  | _ => false

/-- The letter in the mark of a base. -/
def markOf (base : Nat) : Option Char :=
  if base = 2 then some 'b' else if base = 8 then some 'o' else if base = 16 then some 'x' else none

/-- What stands behind the mark of a base, if it is there, and an underscore behind the mark. -/
def dropMark (base : Nat) : List Char → List Char
  | '0' :: m :: rest =>
    if markOf base = some m.toLower then
      match rest with
      | '_' :: rest => rest
      | rest => rest
    else '0' :: m :: rest
  | cs => cs

/-- Reads an integer in a base in which the number of digits is not limited, with the mark of the
base or without. -/
def readBased (base : Nat) (s : String) : Except IntegerError Int :=
  let (negative, cs) := splitSign (plain s)
  match digits? base (dropMark base cs) with
  | none => throw (.malformed base (Text.quoted s))
  | some ds => pure (if negative then -(ofDigits base ds : Int) else ofDigits base ds)

/-- Reads an integer, in base sixteen if the text starts with the mark of that base. -/
def readInteger (s : String) : Except IntegerError Int :=
  if hasHexMark s then readBased 16 s else readDecimal s

/-- The text of a double without its underscores; `none` if one of them does not stand between two
digits. -/
def dropUnderscores? (afterDigit : Bool) : List Char → Option (List Char)
  | [] => some []
  | '_' :: c :: rest =>
    if afterDigit && c.isDigit then (dropUnderscores? true rest).map (c :: ·) else none
  | '_' :: [] => none
  | c :: rest => (dropUnderscores? c.isDigit rest).map (c :: ·)

/-- The double nearest to `m * 10 ^ e`. Exponents far beyond the range of doubles are not
multiplied out. -/
def scaled (m : Nat) (e : Int) : Float :=
  let size : Int := (Nat.log2 m : Int) * 30103 / 100000 + e
  if m = 0 then 0
  else if 330 < size then Binary64.nearest (Nat.pow 2 1100) 1
  else if size < -360 then 0
  else Binary64.nearest (m * Nat.pow 10 e.toNat) (Nat.pow 10 (-e).toNat)

/-- Reads the exponent of a double: nothing, or the letter, a sign and digits. -/
def exponent? : List Char → Option Int
  | [] => some 0
  | c :: cs =>
    if c = 'e' ∨ c = 'E' then
      let (negative, ds) := splitSign cs
      if ds ≠ [] ∧ ds.all Char.isDigit then
        let n := ofDigits 10 (ds.map fun d => d.toNat - 48)
        some (if negative then -n else n)
      else none
    else none

/-- Reads the size of a double in plain characters. -/
def size? (cs : List Char) : Option Float :=
  let lower := cs.map Char.toLower
  if lower = "inf".toList ∨ lower = "infinity".toList then some (1 / 0)
  else if lower = "nan".toList then some (0 / 0)
  else
    let whole := cs.takeWhile Char.isDigit
    let rest := cs.dropWhile Char.isDigit
    let (part, rest) := match rest with
      | '.' :: r => (r.takeWhile Char.isDigit, r.dropWhile Char.isDigit)
      | r => ([], r)
    let ds := whole ++ part
    if ds = [] then none else do
      let e ← exponent? rest
      pure (scaled (ofDigits 10 (ds.map fun d => d.toNat - 48)) (e - part.length))

/-- Reads a double; `none` if the text does not have the form of one. -/
def readReal? (s : String) : Option Float := do
  let cs ← dropUnderscores? false (plain s)
  let (negative, cs) := splitSign cs
  let x ← size? cs
  pure (if negative then -x else x)

end Chip8.Numeral
