import Chip8.Fault
import Chip8.Font
import Chip8.Word

/-!
# Memory

A memory is a row of bytes with the font at its start.  An access is checked as a whole before any
byte is read or written: from a place that is not below zero to an end that the memory has.
-/

namespace Chip8

/-- A row of bytes. -/
structure Memory where
  /-- The bytes, from address zero on. -/
  cells : Array UInt8
deriving DecidableEq, Repr

namespace Memory

/-- The number of bytes of the machine's memory. -/
def defaultSize : Nat := 0x1000

/-- Where programs start. -/
def programStart : Int := 0x200

/-- The number of bytes. -/
def size (m : Memory) : Nat := m.cells.size

/-- The byte at an address, zero outside the memory. -/
def byteAt (m : Memory) (address : Nat) : UInt8 := m.cells.getD address 0

/-- Whether an access to `count` bytes from `address` on stays inside. -/
def Covers (m : Memory) (address count : Int) : Prop := 0 ≤ address ∧ address + count ≤ m.size

instance (m : Memory) (address count : Int) : Decidable (m.Covers address count) :=
  inferInstanceAs (Decidable (_ ∧ _))

/-- Refuses an access that leaves the memory. -/
def check (m : Memory) (address count : Int) : Except Failure Unit :=
  if m.Covers address count then pure () else throw (.fault (.memoryAccess address count m.size))

/-- Bytes put into a row of cells one after another. -/
def place (cells : Array UInt8) (address : Nat) : List UInt8 → Array UInt8
  | [] => cells
  | b :: bs => place (cells.setIfInBounds address b) (address + 1) bs

/-- The memory with the given bytes from `address` on. -/
def overwrite (m : Memory) (address : Nat) (data : List UInt8) : Memory :=
  ⟨place m.cells address data⟩

/-- The byte at an address. -/
def readByte (m : Memory) (address : Int) : Except Failure UInt8 := do
  m.check address 1
  pure (m.byteAt address.toNat)

/-- The word at an address, its leading byte first. -/
def readWord (m : Memory) (address : Int) : Except Failure Word := do
  m.check address 2
  pure (Word.ofBytes (m.byteAt address.toNat) (m.byteAt (address.toNat + 1)))

/-- The bytes from one place up to another; a negative end counts from the end of the memory. -/
def slice (m : Memory) (start : Nat) (stop : Int) : List UInt8 :=
  let stop := if stop < 0 then (stop + m.size).toNat else stop.toNat
  (m.cells.extract start stop).toList

/-- The `count` bytes from `address` on. -/
def readBytes (m : Memory) (address count : Int) : Except Failure (List UInt8) := do
  m.check address count
  pure (m.slice address.toNat (address + count))

/-- Writes one byte. -/
def writeByte (m : Memory) (address value : Int) : Except Failure Memory := do
  m.check address 1
  if 0 ≤ value ∧ value ≤ 0xFF then
    pure (m.overwrite address.toNat [UInt8.ofNat value.toNat])
  else throw (.misuse (.cellOutOfRange value))

/-- Numbers as bytes, if every one of them is a byte. -/
def bytes? : List Int → Option (List UInt8)
  | [] => some []
  | v :: vs => if 0 ≤ v ∧ v < 256 then (bytes? vs).map (UInt8.ofNat v.toNat :: ·) else none

/-- Numbers as bytes. -/
def toBytes (values : List Int) : Except Failure (List UInt8) :=
  match bytes? values with
  | some data => pure data
  | none => throw (.misuse .byteOutOfRange)

/-- Writes bytes from `address` on. -/
def writeBytes (m : Memory) (address : Int) (data : List UInt8) : Except Failure Memory := do
  m.check address data.length
  pure (m.overwrite address.toNat data)

/-- Writes numbers, each of which has to be a byte, from `address` on. -/
def writeValues (m : Memory) (address : Int) (values : List Int) : Except Failure Memory := do
  let data ← toBytes values
  m.writeBytes address data

/-- A memory of zeros with the font at its start. -/
def create (size : Int) : Except Failure Memory :=
  if 0 < size then
    writeBytes ⟨Array.replicate size.toNat 0⟩ Font.address Font.data
  else throw (.misuse .memorySize)

/-- The machine's memory before any program is loaded. -/
def initial : Memory :=
  overwrite ⟨Array.replicate defaultSize 0⟩ Font.address Font.data

@[simp] theorem size_place (cells : Array UInt8) (address : Nat) (data : List UInt8) :
    (place cells address data).size = cells.size := by
  induction data generalizing cells address with
  | nil => rfl
  | cons b bs ih => simp [place, ih]

@[simp] theorem size_overwrite (m : Memory) (address : Nat) (data : List UInt8) :
    (m.overwrite address data).size = m.size := by
  simp [overwrite, size]

end Memory

end Chip8
