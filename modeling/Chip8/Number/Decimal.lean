import Chip8.Number.Binary64

/-!
# Decimal text of doubles

Two texts of a double are written here.  `Decimal.shortest` is the fewest digits that read back to
the same double: the reals that round to it form an interval, decimal grids of one digit, two
digits and so on are tried, and the first grid with a point in the interval gives the digits.
`Decimal.rounded` is the text of the nearest whole number, a half going to the even neighbour.
-/

namespace Chip8

/-- Decimal digits with a place for the point: `0.d₁d₂d₃… * 10 ^ point`. -/
structure Decimal where
  /-- The digits, without a leading or a trailing zero. -/
  digits : List Char
  /-- How many digits stand before the point. -/
  point : Int
deriving DecidableEq, Repr

namespace Decimal

/-- The decimal digits of a natural number, most significant first. -/
def digitsOf (n : Nat) : List Char := Nat.toDigits 10 n

/-- The least `j` from `start` on with `d ≤ n * 10 ^ j`, tried `fuel` times. -/
def leadingZeros (n d : Nat) (start : Nat) : (fuel : Nat) → Nat
  | 0 => start
  | fuel + 1 => if d ≤ n * Nat.pow 10 start then start else leadingZeros n d (start + 1) fuel

/-- The `p` for which the positive fraction `n / d` lies in `10 ^ (p - 1) ≤ n / d < 10 ^ p`. -/
def pointOf (n d : Nat) : Int :=
  if d ≤ n then (digitsOf (n / d)).length else 1 - leadingZeros n d 1 400

/-- The point of the grid `c * 10 ^ k` nearest to `v / d` among those between `low / d` and
`high / d`, if there is one.  The ends belong to the interval when `closed` holds. -/
def gridPoint? (low v high d : Nat) (closed : Bool) (k : Int) : Option Nat :=
  let up := Nat.pow 10 (-k).toNat
  let down := d * Nat.pow 10 k.toNat
  let inside (c : Nat) : Bool :=
    if closed then low * up ≤ c * down && c * down ≤ high * up
    else low * up < c * down && c * down < high * up
  let c := v * up / down
  let rest := v * up % down
  match inside c, inside (c + 1) with
  | true, true =>
    if 2 * rest < down ∨ (2 * rest = down ∧ c % 2 = 0) then some c else some (c + 1)
  | true, false => some c
  | false, true => some (c + 1)
  | false, false => none

/-- The first grid of `count`, `count + 1`, … digits that has a point in the interval. -/
def firstGrid (low v high d : Nat) (closed : Bool) (point : Int) (count : Nat) :
    (fuel : Nat) → Nat × Int
  | 0 => (0, 0)
  | fuel + 1 =>
    match gridPoint? low v high d closed (point - count) with
    | some c => (c, point - count)
    | none => firstGrid low v high d closed point (count + 1) fuel

/-- The shortest decimal that reads back to `significand * 2 ^ exponent`, a positive number. -/
def ofScaled (significand : Nat) (exponent : Int) : Decimal :=
  let unit := Nat.pow 2 exponent.toNat
  let d := 4 * Nat.pow 2 (-exponent).toNat
  let v := 4 * significand * unit
  let below := if significand = Nat.pow 2 52 ∧ -1074 < exponent then unit else 2 * unit
  let (c, k) :=
    firstGrid (v - below) v (v + 2 * unit) d (significand % 2 = 0) (pointOf v d) 1 20
  let digits := digitsOf c
  { digits := (digits.reverse.dropWhile (· = '0')).reverse
    point := digits.length + k }

/-- Where the point is written and where an exponent takes its place. -/
structure Layout where
  /-- The least `point` written without an exponent. -/
  least : Int
  /-- The greatest `point` written without an exponent. -/
  greatest : Int
  /-- The least number of digits of an exponent. -/
  exponentWidth : Nat

/-- Numbers from `0.0001` to below `10 ^ 16` are written without an exponent; others with one, of
two digits at least. -/
def Layout.plain : Layout := ⟨-3, 16, 2⟩

/-- Zeros in front of a text until it has the given length. -/
def padZeros (width : Nat) (cs : List Char) : List Char :=
  List.replicate (width - cs.length) '0' ++ cs

/-- A decimal written out. -/
def write (layout : Layout) (x : Decimal) : String :=
  let ds := x.digits
  if layout.least ≤ x.point ∧ x.point ≤ layout.greatest then
    if x.point ≤ 0 then
      String.ofList ("0.".toList ++ List.replicate (-x.point).toNat '0' ++ ds)
    else
      let before := x.point.toNat
      let whole := ds.take before ++ List.replicate (before - ds.length) '0'
      let part := if ds.length ≤ before then ['0'] else ds.drop before
      String.ofList (whole ++ '.' :: part)
  else
    let e := x.point - 1
    let sign := if e < 0 then '-' else '+'
    let fraction := if ds.length ≤ 1 then [] else '.' :: ds.drop 1
    String.ofList (ds.take 1 ++ fraction ++ 'e' :: sign ::
      padZeros layout.exponentWidth (digitsOf e.natAbs))

/-- The text of a double with the fewest digits that read back to it. -/
def shortest (x : Float) : String :=
  match Binary64.ofFloat x with
  | .nan => "nan"
  | .infinite negative => if negative then "-inf" else "inf"
  | .finite negative m e =>
    let size := if m = 0 then "0.0" else write .plain (ofScaled m e)
    if negative then "-" ++ size else size

/-- The text of the whole number nearest to a double, a half going to the even neighbour. -/
def rounded (x : Float) : String :=
  match Binary64.ofFloat x with
  | .nan => "nan"
  | .infinite negative => if negative then "-inf" else "inf"
  | .finite negative m e =>
    let n := m * Nat.pow 2 e.toNat
    let d := Nat.pow 2 (-e).toNat
    let floor := n / d
    let twice := 2 * (n % d)
    let size := if d < twice ∨ (d = twice ∧ floor % 2 = 1) then floor + 1 else floor
    let text := String.ofList (digitsOf size)
    if negative then "-" ++ text else text

end Decimal

end Chip8
