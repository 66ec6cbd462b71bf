import Chip8.Machine
import Chip8.Machine.Arithmetic
import Chip8.Opcode

/-!
# Executing an instruction

Each opcode has its effect on the machine.  The effect says whether execution goes on behind the
instruction or at an address that the instruction has set; passing over the next instruction is
done here, going on behind this one is not.

An effect that transfers bytes makes its whole access before it changes anything else, so a fault
leaves registers, memory and screen as they were.
-/

namespace Chip8

/-- Where execution goes on. -/
inductive Flow where
  /-- Behind the instruction. -/
  | next
  /-- At the address that the instruction has set. -/
  | jumped
deriving DecidableEq, Repr

namespace Machine

/-- Execution goes on behind the instruction. -/
def next (m : Machine) : Outcome Flow := (.ok .next, m)

/-- Execution goes on at another address. -/
def jump (m : Machine) (target : Int) : Outcome Flow := (.ok .jumped, m.setPc target)

/-- Passes over the next instruction if a condition holds. -/
def skipIf (m : Machine) (condition : Bool) : Outcome Flow :=
  (if condition then m.mapRegisters Registers.skip else m).next

/-- Stores a value in a register and goes on. -/
def load (m : Machine) (x value : Nat) : Outcome Flow := (m.setReg x value).next

/-- Changes the register file and goes on. -/
def compute (m : Machine) (f : List Nat → List Nat) : Outcome Flow :=
  (m.mapRegisters fun r => { r with v := f r.v }).next

/-- Sets the address register and goes on. -/
def setI (m : Machine) (i : Int) : Outcome Flow := (m.mapRegisters fun r => { r with i }).next

/-- What becomes of an instruction that the stack does not allow. -/
def stackFault (m : Machine) (fault : Fault) (warning : String) : Outcome Flow :=
  match m.policy with
  | .strict => (.error (.fault fault), m)
  | .ignore =>
    (m.logLine .warning (warning ++ Hex.address 6 m.registers.pc ++ " ignored")).next

/-- Returns to the youngest return address. -/
def ret (m : Machine) : Outcome Flow :=
  let r := m.registers
  if r.sp = 0 then m.stackFault (.stackUnderflow r.pc) "RET with empty stack at "
  else
    let m := m.mapRegisters fun r => { r with sp := r.sp - 1 }
    match eitherEnd? r.stack (r.sp - 1) with
    | some target => m.jump target
    | none => (.error (.misuse (.ofPlace (r.sp - 1) .placeOutOfRange)), m)

/-- Puts the address behind the instruction on the stack and jumps. -/
def call (m : Machine) (target : Int) : Outcome Flow :=
  let r := m.registers
  if stackDepth ≤ r.sp then
    m.stackFault (.stackOverflow r.pc stackDepth) "CALL with full stack at "
  else
    match setEitherEnd? r.stack r.sp (Registers.after r.pc) with
    | some stack => (m.mapRegisters fun r => { r with stack, sp := r.sp + 1 }).jump target
    | none => (.error (.misuse (.ofPlace r.sp .targetOutOfRange)), m)

/-- Jumps; a jump to itself is logged under the given name. -/
def jumpNoting (m : Machine) (name : String) (target : Int) : Outcome Flow :=
  let m :=
    if m.registers.pc = target then
      m.logLine .debug (name ++ ": branch to self at " ++ Hex.address 6 target)
    else m
  m.jump target

/-- Draws a sprite that lies at the address register; the flag tells whether it collided. -/
def drawSprite (m : Machine) (x y rows : Nat) : Outcome Flow :=
  match m.storage.readBytes m.registers.i rows with
  | .error e => (.error e, m)
  | .ok (sprite, storage) =>
    let (screen, collided) := m.screen.draw (m.reg x) (m.reg y) sprite
    { m with storage, screen }.load flagRegister (if collided then 1 else 0)

/-- Stores a random byte under a mask. -/
def randomize (m : Machine) (x mask : Nat) : Outcome Flow :=
  let (value, random) := m.random.draw
  { m with random }.load x (value &&& mask)

/-- Waits for a key and stores its number. -/
def waitForKey (m : Machine) (x : Nat) : Outcome Flow :=
  match Scripted.waitForKey KeyAction.perform ⟨m.keypad, m.visits⟩ with
  | (.ok key, ⟨keypad, visits⟩) => { m with visits, keypad }.load x key.val
  | (.error e, ⟨keypad, visits⟩) => (.error e, { m with visits, keypad })

/-- Writes numbers, each of which has to be a byte, from the address register on. -/
def storeAtI (m : Machine) (values : List Nat) : Outcome Flow :=
  let written := do
    let data ← Memory.toBytes (values.map Int.ofNat)
    m.storage.writeBytes m.registers.i data
  match written with
  | .error e => (.error e, m)
  | .ok storage => { m with storage }.next

/-- Loads registers from zero up to one from the address register on. -/
def loadFromI (m : Machine) (x : Nat) : Outcome Flow :=
  match m.storage.readBytes m.registers.i ((x : Int) + 1) with
  | .error e => (.error e, m)
  | .ok (data, storage) =>
    { m with storage }.compute fun v => data.map UInt8.toNat ++ v.drop data.length

/-- The three decimal digits of a number below a thousand. -/
def decimalDigits (n : Nat) : List Nat := [n / 100, n / 10 % 10, n % 10]

/-- The effect of an instruction of a given kind. -/
def execute (m : Machine) (w : Word) (op : Opcode) : Outcome Flow :=
  let vx := m.reg w.x
  let vy := m.reg w.y
  match op with
  | .sys => m.next
  | .cls => { m with screen := m.screen.clear }.next
  | .ret => m.ret
  | .jp => m.jumpNoting "JP" w.nnn
  | .call => m.call w.nnn
  | .seImm => m.skipIf (vx = w.kk)
  | .sneImm => m.skipIf (vx ≠ w.kk)
  | .se => m.skipIf (vx = vy)
  | .ldImm => m.load w.x w.kk
  | .addImm => m.load w.x ((vx + w.kk) % 256)
  | .ld => m.load w.x vy
  | .or => m.load w.x (vx ||| vy)
  | .and => m.load w.x (vx &&& vy)
  | .xor => m.load w.x (vx ^^^ vy)
  | .add => m.compute (Arithmetic.add · w.x w.y)
  | .sub => m.compute (Arithmetic.sub · w.x w.y)
  | .shr => m.compute (Arithmetic.shiftRight · w.x)
  | .subn => m.compute (Arithmetic.subFrom · w.x w.y)
  | .shl => m.compute (Arithmetic.shiftLeft · w.x)
  | .sne => m.skipIf (vx ≠ vy)
  | .ldI => m.setI w.nnn
  | .jpV0 => m.jumpNoting "JP V0" ((w.nnn + m.reg 0 : Nat) % 65536 : Nat)
  | .rnd => m.randomize w.x w.kk
  | .drw => m.drawSprite w.x w.y w.n
  | .skp => m.skipIf (m.keypad.isDown vx)
  | .sknp => m.skipIf (!m.keypad.isDown vx)
  | .ldVxDt => m.load w.x m.registers.dt.value
  | .ldVxK => m.waitForKey w.x
  | .ldDtVx => (m.mapRegisters fun r => { r with dt := r.dt.assign vx }).next
  | .ldStVx => (m.mapRegisters fun r => { r with st := r.st.assign vx }).next
  | .addI => m.setI ((m.registers.i + vx) % 65536)
  | .ldF => m.setI (Font.glyphAddress vx)
  | .ldB => m.storeAtI (decimalDigits vx)
  | .ldMemVx => m.storeAtI (m.registers.v.take (w.x + 1))
  | .ldVxMem => m.loadFromI w.x

/-- The effect of an instruction that is given as a number instead of being fetched. -/
def executeNumber (m : Machine) (n : Int) : Outcome Flow :=
  let decoded := do
    let w ← Word.ofInt n
    let op ← w.opcode
    pure (w, op)
  match decoded with
  | .ok (w, op) => m.execute w op
  | .error e => (.error e, m)

end Machine

end Chip8
