import Chip8.Yaml.Kind

/-!
# Values of scalars

A scalar is given its kind by its form or by a tag.  In the latter case its text may have any form,
so it may stand for no value of the kind.
-/

namespace Chip8.Yaml.Scalar

/-- Code points without underscores. -/
def withoutJoints (ps : CodePoints) : CodePoints := ps.filter (· ≠ '_'.toNat)

/-- A sign in front of code points: whether it is a minus, and what stands behind it. -/
def splitSign : CodePoints → Bool × CodePoints
  | [] => (false, [])
  | p :: rest =>
    if p = '-'.toNat then (true, rest)
    else if p = '+'.toNat then (false, rest)
    else (false, p :: rest)

/-- Reads a numeral of which a message quotes all code points. -/
def numeral (read : String → Except Numeral.IntegerError Int) (ps : CodePoints) :
    Except ScalarError Int :=
  (read (Text.masked ps)).mapError fun cause => .integer (cause.about (Text.quotedPoints ps))

/-- Reads an integer without its sign.  A zero in front tells the base: two, sixteen or eight. -/
def size (ps : CodePoints) : Except ScalarError Int :=
  match (Text.masked ps).toList with
  | [] => throw .noNumber
  | ['0'] => pure 0
  | '0' :: 'b' :: _ => numeral (Numeral.readBased 2) (ps.drop 2)
  | '0' :: 'x' :: _ => numeral (Numeral.readBased 16) (ps.drop 2)
  | '0' :: _ => numeral (Numeral.readBased 8) ps
  | _ =>
    match splitAt ':'.toNat ps with
    | [_] => numeral Numeral.readDecimal ps
    | places => do
      let ns ← places.mapM (numeral Numeral.readDecimal)
      pure (ns.foldl (fun total n => 60 * total + n) 0)

/-- Reads an integer. -/
def integer (ps : CodePoints) : Except ScalarError Int := do
  let (negative, ps) := splitSign (withoutJoints ps)
  let n ← size ps
  pure (if negative then -n else n)

/-- Reads a double in digits. -/
def pointed (ps : CodePoints) : Except ScalarError Float :=
  match Numeral.readReal? (Text.masked ps) with
  | some x => pure x
  | none => throw (.real (Text.quotedPoints ps))

/-- The double of places in sixties, last place first, of which the first is worth `unit`. -/
def sumSixties (unit : Int) (total : Float) : List Float → Except ScalarError Float
  | [] => pure total
  | place :: rest =>
    if (Quantity.whole unit).isBeyondDouble then throw .beyondDouble
    else sumSixties (unit * 60) (total + place * Binary64.ofInt unit) rest

/-- Reads a double, in which capital letters do not count. -/
def real (ps : CodePoints) : Except ScalarError Float := do
  let ps := Text.lowercasePoints (withoutJoints ps)
  if ps = [] then throw .noNumber
  let (negative, size) := splitSign ps
  let x ←
    if size = Text.points ".inf" then pure (1 / 0)
    else if size = Text.points ".nan" then pure (0 / 0)
    else
      match splitAt ':'.toNat size with
      | [_] => pointed size
      | places => do sumSixties 1 0 (← places.mapM pointed).reverse
  pure (if negative then -x else x)

/-- Reads a truth value, in which capital letters do not count. -/
def truth (ps : CodePoints) : Except ScalarError Bool :=
  let ps := Text.lowercasePoints ps
  match Text.masked ps with
  | "yes" | "true" | "on" => pure true
  | "no" | "false" | "off" => pure false
  | _ => throw (.truth (Text.quotedPoints ps))

/-- Reads a day or time. -/
def stamp (ps : CodePoints) : Except ScalarError Stamp :=
  match stamp? (withoutEnd (Text.masked ps).toList) with
  | some s => s.checked.mapError .stamp
  | none => throw .noStamp

/-- A mistake in the value of the scalar at a place. -/
def mistake {α : Type} (problem : Problem) (place : Text.Mark) : Except Flaw α :=
  throw (.mistake ⟨.constructing, none, problem, place⟩)

/-- Reads bytes in base 64. -/
def binary (place : Text.Mark) (ps : CodePoints) : Except Flaw (List UInt8) :=
  match ps.findIdx? (0x80 ≤ ·) with
  | some first =>
    let run := (ps.drop first).takeWhile (0x80 ≤ ·)
    mistake (.notAscii first run.length (ps.getD first 0)) place
  | none =>
    match Text.decodeBase64 (Text.masked ps).toList with
    | .ok data => pure data
    | .error cause => mistake (.incompleteBase64 cause) place

/-- The value of a kind that code points at a place stand for. -/
def read (kind : Kind) (place : Text.Mark) (ps : CodePoints) : Except Flaw Document :=
  match kind with
  | .null => pure .null
  | .truth => (.bool <$> truth ps).mapError .scalar
  | .integer => (.int <$> integer ps).mapError .scalar
  | .real => (.real <$> real ps).mapError .scalar
  | .stamp => (.stamp <$> stamp ps).mapError .scalar
  | .binary => .bytes <$> binary place ps
  | .text => pure (.ofPoints ps)
  | .merge | .value => mistake (.unknownTag kind.tag) place

end Chip8.Yaml.Scalar
