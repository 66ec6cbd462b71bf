import Chip8.Settings.Document

/-!
# Reading documents

A document is read from text in which texts stand in double quotes, lists in brackets and mappings
in braces, the form in which documents are written.  Each reader takes characters off the front and
gives the rest.

What is written without quotes is a word: nothing, one of the two truth values or a number, of which
the doubles that are no numbers have names.  In a text the two halves of a pair, each given by its
number, make one character.
-/

namespace Chip8.Document

/-- Passes over blanks. -/
def skipBlanks (cs : List Char) : List Char :=
  cs.dropWhile fun c => c = ' ' || c = '\t' || c = '\n' || c = '\r'

/-- Reads four hexadecimal digits. -/
def readUnit? : List Char → Option (Nat × List Char)
  | a :: b :: c :: d :: rest => do
    let ds ← [a, b, c, d].mapM Hex.digitValue?
    pure (Numeral.ofDigits 16 ds, rest)
  | _ => none

/-- Reads the code points of a text up to its closing quote. -/
def readText? : (fuel : Nat) → List Char → Option (List Nat × List Char)
  | 0, _ => none
  | _ + 1, [] => none
  | _ + 1, '"' :: rest => some ([], rest)
  | fuel + 1, '\\' :: 'u' :: rest => do
    let (n, rest) ← readUnit? rest
    let (ps, rest) ← readText? fuel rest
    pure (n :: ps, rest)
  | fuel + 1, '\\' :: e :: rest => do
    let c ← match e with
      | 'n' => some '\n'
      | 't' => some '\t'
      | 'r' => some '\r'
      | 'b' => some '\x08'
      | 'f' => some '\x0c'
      | '"' => some '"'
      | '\\' => some '\\'
      | '/' => some '/'
      | _ => none
    let (ps, rest) ← readText? fuel rest
    pure (c.toNat :: ps, rest)
  | fuel + 1, c :: rest => do
    let (ps, rest) ← readText? fuel rest
    pure (c.toNat :: ps, rest)

/-- Reads a text behind its opening quote. -/
def readQuoted? (cs : List Char) : Option (Document × List Char) := do
  let (ps, rest) ← readText? (cs.length + 1) cs
  pure (ofPoints (Text.joinPairs ps), rest)

/-! ### Words -/

/-- Whether a character may be part of a number. -/
def isNumberChar (c : Char) : Bool :=
  c.isDigit || c = '-' || c = '+' || c = '.' || c = 'e' || c = 'E'

/-- Reads a number: an integer unless it has a fraction or an exponent. -/
def readNumber? (cs : List Char) : Option Document :=
  let (negative, size) := Numeral.splitSign cs
  if size.all Char.isDigit && !size.isEmpty then
    let n : Int := Numeral.ofDigits 10 (size.map fun d => d.toNat - 48)
    some (int (if negative then -n else n))
  else if cs.all isNumberChar then (Numeral.readReal? (String.ofList cs)).map real
  else none

/-- The value of a word. -/
def readWord? (cs : List Char) : Option Document :=
  match String.ofList cs with
  | "null" => some null
  | "true" => some (bool true)
  | "false" => some (bool false)
  | "NaN" => some (real (0 / 0))
  | "Infinity" => some (real (1 / 0))
  | "-Infinity" => some (real (-1 / 0))
  | _ => readNumber? cs

/-- Whether a character is part of a word. -/
def isWordChar (c : Char) : Bool := !" \t\n\r[]\x7b\x7d,:\"".toList.contains c

/-! ### Values -/

mutual

/-- Reads a value. -/
def readValue? : (fuel : Nat) → List Char → Option (Document × List Char)
  | 0, _ => none
  | fuel + 1, cs =>
    match skipBlanks cs with
    | '"' :: rest => readQuoted? rest
    | '[' :: rest =>
      match skipBlanks rest with
      | ']' :: rest => some (list [], rest)
      | rest => do
        let (items, rest) ← readItems? fuel rest
        pure (list items, rest)
    | '\x7b' :: rest =>
      match skipBlanks rest with
      | '\x7d' :: rest => some (mapping [], rest)
      | rest => do
        let (fields, rest) ← readFields? fuel rest
        pure (ofFields fields, rest)
    | cs => do
      let (word, rest) := cs.span isWordChar
      pure (← readWord? word, rest)

/-- Reads the values of a list up to its closing bracket. -/
def readItems? : (fuel : Nat) → List Char → Option (List Document × List Char)
  | 0, _ => none
  | fuel + 1, cs => do
    let (d, rest) ← readValue? fuel cs
    match skipBlanks rest with
    | ',' :: rest =>
      let (ds, rest) ← readItems? fuel rest
      pure (d :: ds, rest)
    | ']' :: rest => pure ([d], rest)
    | _ => none

/-- Reads the keys and values of a mapping up to its closing brace. -/
def readFields? : (fuel : Nat) → List Char → Option (List (Document × Document) × List Char)
  | 0, _ => none
  | fuel + 1, cs =>
    match skipBlanks cs with
    | '"' :: rest => do
      let (key, rest) ← readQuoted? rest
      match skipBlanks rest with
      | ':' :: rest =>
        let (d, rest) ← readValue? fuel rest
        match skipBlanks rest with
        | ',' :: rest =>
          let (fields, rest) ← readFields? fuel rest
          pure ((key, d) :: fields, rest)
        | '\x7d' :: rest => pure ([(key, d)], rest)
        | _ => none
      | _ => none
    | _ => none

end

/-- Reads a whole document; `none` if the text has not the form of one. -/
def read? (s : String) : Option Document := do
  let cs := s.toList
  let (d, rest) ← readValue? (cs.length + 1) cs
  if skipBlanks rest = [] then pure d else none

end Chip8.Document
