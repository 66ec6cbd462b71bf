import Chip8.Machine

/-!
# Loading programs

A program is a row of bytes put into the memory at a load address, where execution then starts.  It
is loaded as a whole or not at all.
-/

namespace Chip8.Machine

/-- Loads a program, and gives its number of bytes. -/
def loadBytes (m : Machine) (address : Int) (program : List UInt8) :
    Except Failure (Nat × Machine) := do
  let capacity := (m.storage.memory.size : Int) - address
  if capacity < 0 then throw (.fault (.programLoad (.outside address)))
  if capacity < program.length then
    throw (.fault (.programLoad (.tooLarge program.length capacity address)))
  let memory ← m.storage.memory.writeBytes address program
  pure (program.length, { m with storage := { m.storage with memory } }.setPc address)

/-- Loads a program from a file that was read or could not be read.  A name that no file can have
is misuse, not a fault. -/
def loadFile (m : Machine) (address : Int) (name : CodePoints)
    (content : Except FileError (List UInt8)) : Except Failure (Nat × Machine) := do
  match content with
  | .error cause =>
    if cause.isNoName then throw (.misuse (.file cause))
    else throw (.fault (.programLoad (.unreadable name cause)))
  | .ok program =>
    let (size, m) ← m.loadBytes address program
    pure (size, m.logLine .info ("Loaded " ++ Text.ofPoints name ++ " (" ++ toString size ++
      " bytes) at " ++ Hex.address 5 address))

end Chip8.Machine
