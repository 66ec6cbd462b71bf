import Chip8.Memory

/-!
# Memory with a journal

A machine reaches its memory through a storage that writes down every byte it reads or writes, and
for a write the byte that was there before.  An access that fails leaves both the memory and the
journal as they were.
-/

namespace Chip8

/-- One byte that was read or written. -/
inductive Access where
  /-- A byte was read. -/
  | read (address : Int) (data : UInt8)
  /-- A byte was written where another one had been. -/
  | write (address : Int) (data previous : UInt8)
deriving DecidableEq, Repr

/-- A memory and what was done to it. -/
structure Storage where
  /-- The memory. -/
  memory : Memory
  /-- The bytes read and written since the journal was last taken, oldest first. -/
  journal : List Access
deriving DecidableEq, Repr

namespace Storage

/-- The journal entries of a stretch of bytes that were read. -/
def readEntries (address : Int) : List UInt8 → List Access
  | [] => []
  | b :: bs => .read address b :: readEntries (address + 1) bs

/-- The journal entries of a stretch of bytes that were written over others. -/
def writeEntries (address : Int) : (data previous : List UInt8) → List Access
  | b :: bs, p :: ps => .write address b p :: writeEntries (address + 1) bs ps
  | _, _ => []

/-- Writes entries into the journal. -/
def record (s : Storage) (entries : List Access) : Storage :=
  { s with journal := s.journal ++ entries }

/-- Takes the journal away. -/
def takeJournal (s : Storage) : List Access × Storage := (s.journal, { s with journal := [] })

/-- Reads a byte. -/
def readByte (s : Storage) (address : Int) : Except Failure (UInt8 × Storage) := do
  let b ← s.memory.readByte address
  pure (b, s.record [.read address b])

/-- Reads a word, as two bytes. -/
def readWord (s : Storage) (address : Int) : Except Failure (Word × Storage) := do
  let w ← s.memory.readWord address
  pure (w, s.record (readEntries address [w.high, w.low]))

/-- Reads bytes. -/
def readBytes (s : Storage) (address count : Int) : Except Failure (List UInt8 × Storage) := do
  let data ← s.memory.readBytes address count
  pure (data, s.record (readEntries address data))

/-- Writes a byte. -/
def writeByte (s : Storage) (address value : Int) : Except Failure Storage := do
  let previous ← s.memory.readByte address
  let memory ← s.memory.writeByte address value
  pure ({ s with memory }.record [.write address (memory.byteAt address.toNat) previous])

/-- Writes bytes. -/
def writeBytes (s : Storage) (address : Int) (data : List UInt8) : Except Failure Storage := do
  let previous ← s.memory.readBytes address data.length
  let memory ← s.memory.writeBytes address data
  pure ({ s with memory }.record (writeEntries address data previous))

/-- Writes numbers, each of which has to be a byte.  The place is checked before them. -/
def writeValues (s : Storage) (address : Int) (values : List Int) : Except Failure Storage := do
  s.memory.check address values.length
  let data ← Memory.toBytes values
  s.writeBytes address data

/-- Looks at a byte without an entry in the journal. -/
def peek (s : Storage) (address : Int) : Except Failure UInt8 := s.memory.readByte address

end Storage

end Chip8
