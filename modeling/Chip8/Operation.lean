import Chip8.Opcode
import Chip8.Text.Hex

/-!
# Operations

The readable form of a word: its hexadecimal digits, a mnemonic and operands.  A word that is no
instruction reads as a data word.
-/

namespace Chip8

/-- The readable form of a word. -/
structure Operation where
  /-- The four hexadecimal digits of the word. -/
  digits : String
  /-- The mnemonic. -/
  mnemonic : String
  /-- The operands, in the order in which they are written. -/
  operands : List String
  /-- The opcode; `none` for a data word. -/
  opcode : Option Opcode
deriving DecidableEq, Repr

/-- The number of bytes of every instruction. -/
def Operation.length : Nat := 2

/-- The text in a listing. -/
def Operation.text (o : Operation) : String :=
  if o.operands.isEmpty then o.mnemonic
  else o.mnemonic ++ " " ++ String.intercalate ", " o.operands

namespace Word

/-- The four hexadecimal digits of a word. -/
def digits (w : Word) : String := String.ofList (Hex.upper 4 w.value)

/-- The two hexadecimal digits of each byte of a word. -/
def digitPairs (w : Word) : String :=
  String.ofList (Hex.upper 2 (w.value / 256) ++ ' ' :: Hex.upper 2 w.kk)

/-- The first register operand. -/
def vx (w : Word) : String := String.ofList ('V' :: Hex.upper 1 w.x)

/-- The second register operand. -/
def vy (w : Word) : String := String.ofList ('V' :: Hex.upper 1 w.y)

/-- The address operand. -/
def address (w : Word) : String := String.ofList ('$' :: Hex.upper 3 w.nnn)

/-- The byte operand. -/
def immediate (w : Word) : String := String.ofList ('#' :: '$' :: Hex.upper 2 w.kk)

/-- The operands of a word taken as an instruction of the given kind. -/
def operands (w : Word) : Opcode → List String
  | .sys | .jp | .call => [w.address]
  | .cls | .ret => []
  | .seImm | .sneImm | .ldImm | .addImm | .rnd => [w.vx, w.immediate]
  | .se | .sne => [w.vx, w.vy]
  | .ld | .or | .and | .xor | .add | .sub | .shr | .subn | .shl => [w.vx, w.vy]
  | .ldI => ["I", w.address]
  | .jpV0 => ["V0", w.address]
  | .drw => [w.vx, w.vy, toString w.n]
  | .skp | .sknp => [w.vx]
  | .ldVxDt => [w.vx, "DT"]
  | .ldVxK => [w.vx, "K"]
  | .ldDtVx => ["DT", w.vx]
  | .ldStVx => ["ST", w.vx]
  | .addI => ["I", w.vx]
  | .ldF => ["F", w.vx]
  | .ldB => ["B", w.vx]
  | .ldMemVx => ["[I]", w.vx]
  | .ldVxMem => [w.vx, "[I]"]

/-- The readable form of a word taken as an instruction of the given kind. -/
def operationAs (w : Word) (op : Opcode) : Operation :=
  { digits := w.digits, mnemonic := op.mnemonic, operands := w.operands op, opcode := some op }

/-- The readable form of a word. -/
def operation (w : Word) : Operation :=
  match w.opcode? with
  | some op => w.operationAs op
  | none =>
    { digits := w.digits, mnemonic := "DW", operands := ["$" ++ w.digits], opcode := none }

end Word

end Chip8
