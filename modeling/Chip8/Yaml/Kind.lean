import Chip8.Yaml.Flaw
import Chip8.Settings.Document

/-!
# Kinds of scalars

The form of a text without quotes decides what it stands for: nothing, a truth value, a double, an
integer, a day or a time, or a sign that mappings are made with; a text of any other form stands
for itself.  A double has to show its point.  Underscores may stand between digits, and numbers may
be told in sixties, as hours and minutes are.
-/

namespace Chip8.Yaml

/-- A kind of scalars. -/
inductive Kind where
  /-- Nothing. -/
  | null
  /-- A truth value. -/
  | truth
  /-- An integer. -/
  | integer
  /-- A double. -/
  | real
  /-- Bytes. -/
  | binary
  /-- A day or a time. -/
  | stamp
  /-- A text. -/
  | text
  /-- The sign in front of a mapping that is merged into another one. -/
  | merge
  /-- The sign in front of the value that a mapping stands for. -/
  | value
deriving DecidableEq, Repr

/-- What the tag of a kind is called. -/
def Kind.name : Kind → String
  | null => "null"
  | truth => "bool"
  | integer => "int"
  | real => "float"
  | binary => "binary"
  | stamp => "timestamp"
  | text => "str"
  | merge => "merge"
  | value => "value"

/-- The address of a tag that everybody knows. -/
def coreTag (name : String) : String := "tag:yaml.org,2002:" ++ name

/-- The tag of a kind. -/
def Kind.tag (k : Kind) : String := coreTag k.name

/-- The kind of scalars that a tag tells. -/
def Kind.ofTag? (tag : String) : Option Kind :=
  [null, truth, integer, real, binary, stamp, text].find? fun k => k.tag = tag

/-! ### Numbers -/

/-- Whether a character may stand among the digits of a number. -/
def isDigitOrJoint (c : Char) : Bool := c.isDigit || c = '_'

/-- Whether a text starts with a digit, and goes on with digits and underscores. -/
def isNumeral : List Char → Bool
  | d :: ds => d.isDigit && ds.all isDigitOrJoint
  | [] => false

/-- Whether a text is a place of a number in sixties. -/
def isSixties : List Char → Bool
  | [d] => d.isDigit
  | [t, d] => '0' ≤ t && t ≤ '5' && d.isDigit
  | _ => false

/-- What stands between the places of a sign. -/
def splitAt {α : Type} [DecidableEq α] (sign : α) : List α → List (List α)
  | [] => [[]]
  | x :: rest =>
    if x = sign then [] :: splitAt sign rest
    else
      match splitAt sign rest with
      | part :: parts => (x :: part) :: parts
      | [] => [[x]]

/-- Whether a text is nothing or an exponent: its letter, a sign and digits. -/
def isExponent : List Char → Bool
  | [] => true
  | e :: sign :: ds =>
    (e = 'e' || e = 'E') && (sign = '+' || sign = '-') && ds ≠ [] && ds.all Char.isDigit
  | _ => false

/-- Whether a text has the form of a double with digits in front of its point or, without a sign,
behind it. -/
def isPointed (hasSign : Bool) (size : List Char) : Bool :=
  let whole := size.takeWhile isDigitOrJoint
  match size.drop whole.length with
  | '.' :: rest =>
    let part := rest.takeWhile isDigitOrJoint
    isExponent (rest.drop part.length) &&
      (if whole = [] then !hasSign && isNumeral part else isNumeral whole)
  | _ => false

/-- Whether a text has the form of a double in sixties, the last place of which has a point. -/
def isRealSixties (size : List Char) : Bool :=
  match splitAt ':' size with
  | [] | [_] => false
  | first :: others =>
    let last := others.getLast?.getD []
    isNumeral first && (others.dropLast ++ [last.takeWhile (· ≠ '.')]).all isSixties &&
      last.contains '.' && ((last.dropWhile (· ≠ '.')).drop 1).all isDigitOrJoint

/-- Whether a text has the form of a double. -/
def isReal (cs : List Char) : Bool :=
  let size := (Numeral.splitSign cs).2
  isPointed (size.length < cs.length) size || isRealSixties size ||
    [".inf", ".Inf", ".INF"].contains (String.ofList size) ||
    [".nan", ".NaN", ".NAN"].contains (String.ofList cs)

/-- Whether a text holds digits of a base and underscores, and something at all. -/
def isBased (base : Nat) (ds : List Char) : Bool :=
  ds ≠ [] && ds.all fun d => d = '_' || (Numeral.digitIn? base d).isSome

/-- Whether a text has the form of an integer. -/
def isInteger (cs : List Char) : Bool :=
  match (Numeral.splitSign cs).2 with
  | ['0'] => true
  | '0' :: 'b' :: ds => isBased 2 ds
  | '0' :: 'x' :: ds => isBased 16 ds
  | '0' :: ds => isBased 8 ds
  | size =>
    match splitAt ':' size with
    | first :: others => isNumeral first && others.all isSixties
    | [] => false

/-! ### Days and times -/

/-- The number that decimal digits tell. -/
def decimal (ds : List Char) : Nat := Numeral.ofDigits 10 (ds.map fun d => d.toNat - 48)

/-- Takes digits off the front, as many as there are up to `most` and at least `least`. -/
def digits? (least most : Nat) (cs : List Char) : Option (Nat × List Char) :=
  let ds := (cs.take most).takeWhile Char.isDigit
  if ds.length < least then none else some (decimal ds, cs.drop ds.length)

/-- Takes a character off the front. -/
def char? (c : Char) : List Char → Option (List Char)
  | [] => none
  | d :: rest => if d = c then some rest else none

/-- Takes a year, a month and a day off the front, the last two with at least so many digits. -/
def day? (least : Nat) (cs : List Char) : Option (Stamp × List Char) := do
  let (year, rest) ← digits? 4 4 cs
  let (month, rest) ← digits? least 2 (← char? '-' rest)
  let (day, rest) ← digits? least 2 (← char? '-' rest)
  pure (⟨year, month, day, none⟩, rest)

/-- Whether a character is a space or a tab. -/
def isGap (c : Char) : Bool := c = ' ' || c = '\t'

/-- Reads how far local time is ahead of universal time; nothing stands for not telling it. -/
def ahead? (cs : List Char) : Option (Option Int) :=
  match cs.dropWhile isGap with
  | [] => if cs = [] then some none else none
  | ['Z'] => some (some 0)
  | sign :: rest =>
    if sign ≠ '+' ∧ sign ≠ '-' then none
    else do
      let (hours, rest) ← digits? 1 2 rest
      let (minutes, rest) ← if rest = [] then some (0, []) else digits? 2 2 (← char? ':' rest)
      let seconds : Int := hours * 3600 + minutes * 60
      if rest = [] then some (some (if sign = '-' then -seconds else seconds)) else none

/-- The millionths that the digits behind a point tell. -/
def micros (ds : List Char) : Nat := decimal ((ds ++ List.replicate 6 '0').take 6)

/-- Reads a time of day. -/
def time? (cs : List Char) : Option DayTime := do
  let (hour, rest) ← digits? 1 2 cs
  let (minute, rest) ← digits? 2 2 (← char? ':' rest)
  let (second, rest) ← digits? 2 2 (← char? ':' rest)
  let part := match rest with
    | '.' :: more => more.takeWhile Char.isDigit
    | _ => []
  let rest := match rest with
    | '.' :: more => more.dropWhile Char.isDigit
    | rest => rest
  pure ⟨hour, minute, second, micros part, ← ahead? rest⟩

/-- What stands between a day and the time on it: a letter or blanks. -/
def skipGap? : List Char → Option (List Char)
  | c :: rest =>
    if c = 'T' ∨ c = 't' then some rest
    else if isGap c then some (rest.dropWhile isGap)
    else none
  | [] => none

/-- Reads a day, or a time on it; `none` if the text has not the form of one. -/
def stamp? (cs : List Char) : Option Stamp := do
  let (day, rest) ← day? 1 cs
  if rest = [] then pure day else pure { day with time := some (← time? (← skipGap? rest)) }

/-- Whether a text has the form of a day or time.  The month and the day of a day alone have to have
two digits each. -/
def isStamp (cs : List Char) : Bool :=
  (stamp? cs).any fun s => s.time.isSome || (day? 2 cs).any fun p => p.2 = []

/-! ### Forms -/

/-- The text in front of the end of a line at its end. -/
def withoutEnd (cs : List Char) : List Char :=
  if cs.getLast? = some '\n' then cs.dropLast else cs

/-- The kind of a text without quotes.  The end of a line at its end does not count. -/
def Kind.ofPoints (ps : CodePoints) : Kind :=
  let s := Text.masked ps
  let cs := withoutEnd s.toList
  let body := String.ofList cs
  if s = "" || ["~", "null", "Null", "NULL"].contains body then .null
  else if ["yes", "Yes", "YES", "no", "No", "NO", "true", "True", "TRUE", "false", "False", "FALSE",
      "on", "On", "ON", "off", "Off", "OFF"].contains body then .truth
  else if isReal cs then .real
  else if isInteger cs then .integer
  else if body = "<<" then .merge
  else if isStamp cs then .stamp
  else if body = "=" then .value
  else .text

end Chip8.Yaml
