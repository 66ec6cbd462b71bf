import Chip8.Machine.Execute
import Chip8.Operation

/-!
# Steps and what is seen of them

A step fetches the word at the address of the next instruction, decodes it and executes it.  If all
goes well it leaves a snapshot: the registers afterwards, the readable form of the instruction,
its address, and every byte that the step read or wrote, the two of the instruction first.
-/

namespace Chip8

/-- The values of the registers at one moment. -/
structure RegisterView where
  /-- The sixteen registers of a byte. -/
  v : List Nat
  /-- The address register. -/
  i : Int
  /-- The address of the next instruction. -/
  pc : Int
  /-- The number of return addresses on the stack. -/
  sp : Int
  /-- The value of the delay timer. -/
  dt : Nat
  /-- The value of the sound timer. -/
  st : Nat
deriving DecidableEq, Repr

namespace RegisterView

/-- The name of a register of a byte. -/
def byteName (n : Nat) : String := String.ofList ('V' :: Hex.upper 1 n)

/-- The names of the registers of a byte. -/
def byteNames : List String := (List.range registerCount).map byteName

/-- The value of the register with the given name, if there is one. -/
def get? (r : RegisterView) (name : String) : Option Int :=
  match byteNames.findIdx? (· = name) with
  | some n => (r.v[n]?).map Int.ofNat
  | none =>
    if name = "I" then some r.i
    else if name = "PC" then some r.pc
    else if name = "SP" then some r.sp
    else if name = "DT" then some r.dt
    else if name = "ST" then some r.st
    else none

/-- How registers are laid out in groups: each with its name and its width in bits. -/
def layout : List (String × List (String × Nat)) :=
  [("General", byteNames.map fun name => (name, 8)),
   ("Pointers", [("I", 16), ("PC", 16), ("SP", 8)]),
   ("Timers", [("DT", 8), ("ST", 8)])]

end RegisterView

/-- What is seen of an executed instruction. -/
structure Snapshot where
  /-- The registers afterwards. -/
  registers : RegisterView
  /-- The readable form of the instruction. -/
  operation : Operation
  /-- How many instructions the machine has executed, this one included. -/
  cycle : Nat
  /-- Where the instruction lies. -/
  address : Int
  /-- The bytes read and written, oldest first. -/
  accesses : List Access
deriving DecidableEq, Repr

/-- The line of a trace. -/
def Snapshot.line (s : Snapshot) : String :=
  Hex.atLeast 4 s.address.toNat ++ ": " ++ s.operation.text

namespace Machine

/-- The values of the registers. -/
def view (m : Machine) : RegisterView where
  v := m.registers.v
  i := m.registers.i
  pc := m.registers.pc
  sp := m.registers.sp
  dt := m.registers.dt.value
  st := m.registers.st.value

/-- The word at the address of the next instruction, as an instruction. -/
def fetch (m : Machine) : Except Failure (Word × Opcode) × Storage :=
  let pc := m.registers.pc
  match m.storage.readWord pc with
  | .error e => (.error e, m.storage)
  | .ok (w, storage) =>
    match w.opcode? with
    | some op => (.ok (w, op), storage)
    | none => (.error (.fault (.unknownInstruction w.value (some pc))), storage)

/-- What follows an executed instruction: the next address, the count and the snapshot. -/
def conclude (m : Machine) (address : Int) (w : Word) (op : Opcode) (flow : Flow) :
    Snapshot × Machine :=
  let m := match flow with
    | .next => m.mapRegisters Registers.skip
    | .jumped => m
  let (accesses, storage) := m.storage.takeJournal
  let m := { m with storage, cycles := m.cycles + 1 }
  ({ registers := m.view
     operation := w.operationAs op
     cycle := m.cycles
     address
     accesses }, m)

/-- Executes the next instruction. -/
def step (m : Machine) : Outcome Snapshot :=
  let address := m.registers.pc
  let m := { m with storage := m.storage.takeJournal.2 }
  match m.fetch with
  | (.error e, storage) => (.error e, { m with storage })
  | (.ok (w, op), storage) =>
    match { m with storage }.execute w op with
    | (.error e, m) => (.error e, m)
    | (.ok flow, m) =>
      let (snapshot, m) := m.conclude address w op flow
      (.ok snapshot, m)

end Machine

end Chip8
