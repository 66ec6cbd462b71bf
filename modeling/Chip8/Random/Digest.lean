/-!
# A digest of 512 bits

The digest SHA-512 of a row of bytes.  The bytes are padded to whole blocks of 128 bytes; every
block is stretched to eighty words of 64 bits, which are stirred one after another into a state of
eight words.  The words that the state starts with, and the words stirred in with those of a block,
are the first 64 bits behind the point of the square and cube roots of the first primes.
-/

namespace Chip8.Digest

/-- The greatest number whose power is at most `n`, from the bits given down to the last, `root`
being what the higher bits amount to. -/
def rootFrom (power n root : Nat) : (bits : Nat) → Nat
  | 0 => root
  | bits + 1 =>
    let next := root + Nat.pow 2 bits
    rootFrom power n (if Nat.pow next power ≤ n then next else root) bits

/-- The first 64 bits behind the point of a root of a small number. -/
def fraction (power n : Nat) : UInt64 :=
  UInt64.ofNat (rootFrom power (n * Nat.pow 2 (64 * power)) 0 72)

/-- The primes below a bound. -/
def primesBelow (bound : Nat) : List Nat :=
  (List.range bound).filter fun n => 2 ≤ n && (List.range n).all fun d => d < 2 || n % d != 0

/-- The words that are stirred in with those of a block. -/
def roundWords : List UInt64 := (primesBelow 410).map (fraction 3)

/-- The words that the state starts with. -/
def initial : List UInt64 := (primesBelow 20).map (fraction 2)

/-- Turns the bits of a word to the right. -/
def turn (w : UInt64) (places : UInt64) : UInt64 := (w >>> places) ||| (w <<< (64 - places))

/-- The number written with the given bytes, most significant first. -/
def number (data : List UInt8) : Nat := data.foldl (fun n b => 256 * n + b.toNat) 0

/-- The words of a row of bytes, eight bytes each. -/
def words (data : List UInt8) : (count : Nat) → List UInt64
  | 0 => []
  | count + 1 => UInt64.ofNat (number (data.take 8)) :: words (data.drop 8) count

/-- The bytes of a number, most significant first. -/
def bytes (n : Nat) (count : Nat) : List UInt8 :=
  (List.range count).map fun i => UInt8.ofNat (n / Nat.pow 256 (count - 1 - i) % 256)

/-- Stretches the words of a block by the given number of words. -/
def stretch (ws : Array UInt64) : (count : Nat) → Array UInt64
  | 0 => ws
  | count + 1 =>
    let back (n : Nat) : UInt64 := ws.getD (ws.size - n) 0
    let a := back 15
    let b := back 2
    let first := turn a 1 ^^^ turn a 8 ^^^ (a >>> 7)
    let second := turn b 19 ^^^ turn b 61 ^^^ (b >>> 6)
    stretch (ws.push (back 16 + first + back 7 + second)) count

/-- Stirs one word into the state. -/
def stir (state : List UInt64) (word : UInt64) : List UInt64 :=
  match state with
  | [a, b, c, d, e, f, g, h] =>
    let choice := (e &&& f) ^^^ ((~~~ e) &&& g)
    let majority := (a &&& b) ^^^ (a &&& c) ^^^ (b &&& c)
    let low := h + (turn e 14 ^^^ turn e 18 ^^^ turn e 41) + choice + word
    let high := (turn a 28 ^^^ turn a 34 ^^^ turn a 39) + majority
    [low + high, a, b, c, d + low, e, f, g]
  | state => state

/-- Stirs a block into the state. -/
def stirBlock (state : List UInt64) (block : List UInt8) : List UInt64 :=
  let ws := (stretch (words block 16).toArray 64).toList
  let stirred := (roundWords.zipWith (· + ·) ws).foldl stir state
  state.zipWith (· + ·) stirred

/-- Stirs all blocks of padded bytes into the state. -/
def stirAll (state : List UInt64) (data : List UInt8) : (blocks : Nat) → List UInt64
  | 0 => state
  | blocks + 1 => stirAll (stirBlock state (data.take 128)) (data.drop 128) blocks

/-- Pads bytes to whole blocks: a set bit, zeros, and the number of bits. -/
def pad (data : List UInt8) : List UInt8 :=
  let zeros := (111 + 128 - data.length % 128) % 128
  data ++ 0x80 :: List.replicate zeros 0 ++ bytes (8 * data.length) 16

/-- The digest of a row of bytes. -/
def ofBytes (data : List UInt8) : List UInt8 :=
  let padded := pad data
  (stirAll initial padded (padded.length / 128)).flatMap fun w => bytes w.toNat 8

end Chip8.Digest
