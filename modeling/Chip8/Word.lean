import Chip8.Fault

/-!
# Instruction words

An instruction is a word of sixteen bits.  Its fields are overlapping groups of bits: the leading
nibble names a family of instructions, `x` and `y` name registers, `n`, `kk` and `nnn` are values
of four, eight and twelve bits.
-/

namespace Chip8

/-- A word of sixteen bits. -/
structure Word where
  /-- The number that the bits stand for. -/
  value : Nat
  /-- A word has sixteen bits. -/
  value_lt : value < 65536
deriving DecidableEq, Repr

namespace Word

/-- The word with the given value, if it has sixteen bits. -/
def ofInt? (n : Int) : Option Word :=
  if h : 0 ≤ n ∧ n < 65536 then some ⟨n.toNat, by omega⟩ else none

/-- The word with the given value, which has to have sixteen bits. -/
def ofInt (n : Int) : Except Failure Word :=
  match ofInt? n with
  | some w => pure w
  | none => throw (.misuse (.wordOutOfRange n))

/-- The word made of two bytes, the leading one first. -/
def ofBytes (high low : UInt8) : Word :=
  ⟨256 * high.toNat + low.toNat, by
    have := high.toNat_lt
    have := low.toNat_lt
    omega⟩

/-- The leading byte. -/
def high (w : Word) : UInt8 := UInt8.ofNat (w.value / 256)

/-- The trailing byte. -/
def low (w : Word) : UInt8 := UInt8.ofNat (w.value % 256)

/-- The leading nibble, which names the family of the instruction. -/
def family (w : Word) : Nat := w.value / 4096

/-- The nibble that names the first register. -/
def x (w : Word) : Nat := w.value / 256 % 16

/-- The nibble that names the second register. -/
def y (w : Word) : Nat := w.value / 16 % 16

/-- The trailing nibble. -/
def n (w : Word) : Nat := w.value % 16

/-- The trailing byte as a number. -/
def kk (w : Word) : Nat := w.value % 256

/-- The trailing twelve bits, an address. -/
def nnn (w : Word) : Nat := w.value % 4096

theorem family_lt (w : Word) : w.family < 16 := by
  have := w.value_lt
  unfold family
  omega

theorem x_lt (w : Word) : w.x < 16 := Nat.mod_lt _ (by decide)

theorem y_lt (w : Word) : w.y < 16 := Nat.mod_lt _ (by decide)

theorem n_lt (w : Word) : w.n < 16 := Nat.mod_lt _ (by decide)

theorem kk_lt (w : Word) : w.kk < 256 := Nat.mod_lt _ (by decide)

theorem nnn_lt (w : Word) : w.nnn < 4096 := Nat.mod_lt _ (by decide)

@[simp] theorem high_ofBytes (a b : UInt8) : (ofBytes a b).high = a := by
  have hb := b.toNat_lt
  have h : (256 * a.toNat + b.toNat) / 256 = a.toNat := by omega
  simp [high, ofBytes, h]

@[simp] theorem low_ofBytes (a b : UInt8) : (ofBytes a b).low = b := by
  have hb := b.toNat_lt
  have h : (256 * a.toNat + b.toNat) % 256 = b.toNat := by omega
  simp [low, ofBytes, h]

end Word

end Chip8
