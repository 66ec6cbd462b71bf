/-!
# The Mersenne twister

A generator of random numbers of 32 bits (MT19937).  Its state is 624 words; one twist makes the
next 624 outputs out of them.  A seed is any list of words, mixed into the state.
-/

namespace Chip8

/-- The state of a Mersenne twister. -/
structure Twister where
  /-- The words of the present round. -/
  words : Array UInt32
  /-- How many of them have been given out. -/
  used : Nat
deriving DecidableEq, Repr

namespace Twister

/-- The number of words of the state. -/
def size : Nat := 624

/-- The distance at which words are combined. -/
def shift : Nat := 397

/-- The state that a single word sets up, word by word. -/
def fillFrom (previous : UInt32) (words : Array UInt32) : (count : Nat) → Array UInt32
  | 0 => words
  | count + 1 =>
    let next : UInt32 :=
      (1812433253 : UInt32) * (previous ^^^ (previous >>> 30)) + UInt32.ofNat words.size
    fillFrom next (words.push next) count

/-- The words that a single word sets up. -/
def fill (seed : UInt32) : Array UInt32 := fillFrom seed #[seed] (size - 1)

/-- What a word is mixed with, made of the word before it. -/
def mixer (factor previous : UInt32) : UInt32 := (previous ^^^ (previous >>> 30)) * factor

/-- The place after `i`; behind the last one comes the second, and the last word becomes the
first. -/
def advance (words : Array UInt32) (i : Nat) : Array UInt32 × Nat :=
  if size ≤ i + 1 then (words.setIfInBounds 0 (words.getD (size - 1) 0), 1) else (words, i + 1)

/-- Mixes the words of a key into the state. -/
def mixKey (key : Array UInt32) (words : Array UInt32) (i j : Nat) :
    (count : Nat) → Array UInt32 × Nat
  | 0 => (words, i)
  | count + 1 =>
    let mixed : UInt32 := (words.getD i 0 ^^^ mixer 1664525 (words.getD (i - 1) 0)) +
      key.getD j 0 + UInt32.ofNat j
    let (words, i) := advance (words.setIfInBounds i mixed) i
    mixKey key words i (if key.size ≤ j + 1 then 0 else j + 1) count

/-- Mixes the state with itself. -/
def mixSelf (words : Array UInt32) (i : Nat) : (count : Nat) → Array UInt32
  | 0 => words
  | count + 1 =>
    let mixed : UInt32 :=
      (words.getD i 0 ^^^ mixer 1566083941 (words.getD (i - 1) 0)) - UInt32.ofNat i
    let (words, i) := advance (words.setIfInBounds i mixed) i
    mixSelf words i count

/-- The generator that a list of words seeds. -/
def ofKey (key : Array UInt32) : Twister :=
  let (words, i) := mixKey key (fill 19650218) 1 0 (max size key.size)
  let words := mixSelf words i (size - 1)
  ⟨words.setIfInBounds 0 0x80000000, size⟩

/-- The words of a natural number, least significant first. -/
def wordsOf (n : Nat) : List UInt32 :=
  if n < 4294967296 then [UInt32.ofNat n]
  else UInt32.ofNat (n % 4294967296) :: wordsOf (n / 4294967296)
termination_by n
decreasing_by omega

/-- The generator that an integer seeds; its sign does not count. -/
def ofSeed (seed : Int) : Twister := ofKey (wordsOf seed.natAbs).toArray

/-- Renews the words from place `i` on. -/
def twistFrom (words : Array UInt32) (i : Nat) : (count : Nat) → Array UInt32
  | 0 => words
  | count + 1 =>
    let y := (words.getD i 0 &&& 0x80000000) ||| (words.getD ((i + 1) % size) 0 &&& 0x7FFFFFFF)
    let next : UInt32 := words.getD ((i + shift) % size) 0 ^^^ (y >>> 1) ^^^
      (if y &&& 1 = 0 then 0 else 0x9908B0DF)
    twistFrom (words.setIfInBounds i next) (i + 1) count

/-- What is given out for a word of the state. -/
def temper (y : UInt32) : UInt32 :=
  let y := y ^^^ (y >>> 11)
  let y := y ^^^ ((y <<< 7) &&& 0x9D2C5680)
  let y := y ^^^ ((y <<< 15) &&& 0xEFC60000)
  y ^^^ (y >>> 18)

/-- The next 32 random bits. -/
def next (t : Twister) : UInt32 × Twister :=
  let t := if size ≤ t.used then ⟨twistFrom t.words 0 size, 0⟩ else t
  (temper (t.words.getD t.used 0), { t with used := t.used + 1 })

end Twister

end Chip8
