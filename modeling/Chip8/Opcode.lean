import Chip8.Word

/-!
# Opcodes

There are thirty-five kinds of instruction.  `Word.opcode?` finds the kind of a word: the family
decides alone except in the families `0`, `8`, `E` and `F`.  Family `8` counts on through the
following opcodes, so its nibbles `8` to `D` and `F` stand for opcodes that have families of their
own.  Only family `F` holds words that are no instruction.
-/

namespace Chip8

/-- The kinds of instruction, in the order of their numbers. -/
inductive Opcode where
  /-- `0nnn`: nothing. -/
  | sys
  /-- `00E0`: clear the screen. -/
  | cls
  /-- `00EE`: return from a subroutine. -/
  | ret
  /-- `1nnn`: jump. -/
  | jp
  /-- `2nnn`: call a subroutine. -/
  | call
  /-- `3xkk`: skip if a register holds a value. -/
  | seImm
  /-- `4xkk`: skip unless a register holds a value. -/
  | sneImm
  /-- `5xy0`: skip if two registers hold the same value. -/
  | se
  /-- `6xkk`: store a value in a register. -/
  | ldImm
  /-- `7xkk`: add a value to a register. -/
  | addImm
  /-- `8xy0`: copy a register. -/
  | ld
  /-- `8xy1`: bitwise or. -/
  | or
  /-- `8xy2`: bitwise and. -/
  | and
  /-- `8xy3`: bitwise exclusive or. -/
  | xor
  /-- `8xy4`: add registers. -/
  | add
  /-- `8xy5`: subtract the second register from the first. -/
  | sub
  /-- `8xy6`: shift right. -/
  | shr
  /-- `8xy7`: subtract the first register from the second. -/
  | subn
  /-- `8xyE`: shift left. -/
  | shl
  /-- `9xy0`: skip if two registers hold different values. -/
  | sne
  /-- `Annn`: set the address register. -/
  | ldI
  /-- `Bnnn`: jump to an address plus register 0. -/
  | jpV0
  /-- `Cxkk`: a masked random number. -/
  | rnd
  /-- `Dxyn`: draw a sprite. -/
  | drw
  /-- `Ex9E`: skip if a key is down. -/
  | skp
  /-- `ExA1`: skip unless a key is down. -/
  | sknp
  /-- `Fx07`: read the delay timer. -/
  | ldVxDt
  /-- `Fx0A`: wait for a key. -/
  | ldVxK
  /-- `Fx15`: set the delay timer. -/
  | ldDtVx
  /-- `Fx18`: set the sound timer. -/
  | ldStVx
  /-- `Fx1E`: add a register to the address register. -/
  | addI
  /-- `Fx29`: point the address register at a digit's glyph. -/
  | ldF
  /-- `Fx33`: store the three decimal digits of a register. -/
  | ldB
  /-- `Fx55`: store registers. -/
  | ldMemVx
  /-- `Fx65`: load registers. -/
  | ldVxMem
deriving DecidableEq, Repr

namespace Opcode

/-- All opcodes, in the order of their numbers. -/
def all : List Opcode :=
  [sys, cls, ret, jp, call, seImm, sneImm, se, ldImm, addImm, ld, or, and, xor, add, sub, shr, subn,
   shl, sne, ldI, jpV0, rnd, drw, skp, sknp, ldVxDt, ldVxK, ldDtVx, ldStVx, addI, ldF, ldB, ldMemVx,
   ldVxMem]

/-- The number of an opcode, its place in the list of all. -/
def index : Opcode → Nat
  | sys => 0 | cls => 1 | ret => 2 | jp => 3 | call => 4 | seImm => 5 | sneImm => 6 | se => 7
  | ldImm => 8 | addImm => 9 | ld => 10 | or => 11 | and => 12 | xor => 13 | add => 14 | sub => 15
  | shr => 16 | subn => 17 | shl => 18 | sne => 19 | ldI => 20 | jpV0 => 21 | rnd => 22 | drw => 23
  | skp => 24 | sknp => 25 | ldVxDt => 26 | ldVxK => 27 | ldDtVx => 28 | ldStVx => 29 | addI => 30
  | ldF => 31 | ldB => 32 | ldMemVx => 33 | ldVxMem => 34

/-- The name that tells an opcode from all others. -/
def name : Opcode → String
  | sys => "SYS" | cls => "CLS" | ret => "RET" | jp => "JP" | call => "CALL"
  | seImm => "SE_IMM" | sneImm => "SNE_IMM" | se => "SE" | ldImm => "LD_IMM" | addImm => "ADD_IMM"
  | ld => "LD" | or => "OR" | and => "AND" | xor => "XOR" | add => "ADD" | sub => "SUB"
  | shr => "SHR" | subn => "SUBN" | shl => "SHL" | sne => "SNE" | ldI => "LD_I" | jpV0 => "JP_V0"
  | rnd => "RND" | drw => "DRW" | skp => "SKP" | sknp => "SKNP" | ldVxDt => "LD_VX_DT"
  | ldVxK => "LD_VX_K" | ldDtVx => "LD_DT_VX" | ldStVx => "LD_ST_VX" | addI => "ADD_I"
  | ldF => "LD_F" | ldB => "LD_B" | ldMemVx => "LD_MEM_VX" | ldVxMem => "LD_VX_MEM"

/-- The mnemonic in a listing, which several opcodes may share. -/
def mnemonic : Opcode → String
  | sys => "SYS" | cls => "CLS" | ret => "RET" | jp => "JP" | call => "CALL"
  | seImm => "SE" | sneImm => "SNE" | se => "SE" | ldImm => "LD" | addImm => "ADD"
  | ld => "LD" | or => "OR" | and => "AND" | xor => "XOR" | add => "ADD" | sub => "SUB"
  | shr => "SHR" | subn => "SUBN" | shl => "SHL" | sne => "SNE" | ldI => "LD" | jpV0 => "JP"
  | rnd => "RND" | drw => "DRW" | skp => "SKP" | sknp => "SKNP" | ldVxDt => "LD"
  | ldVxK => "LD" | ldDtVx => "LD" | ldStVx => "LD" | addI => "ADD"
  | ldF => "LD" | ldB => "LD" | ldMemVx => "LD" | ldVxMem => "LD"

theorem all_index (op : Opcode) : all[op.index]? = some op := by cases op <;> rfl

end Opcode

/-- The opcode of a word of family `8`, by its trailing nibble. -/
def Word.registerOpcode : Nat → Opcode
  | 0 => .ld | 1 => .or | 2 => .and | 3 => .xor | 4 => .add | 5 => .sub | 6 => .shr | 7 => .subn
  | 8 => .shl | 9 => .sne | 10 => .ldI | 11 => .jpV0 | 12 => .rnd | 13 => .drw | 14 => .shl
  | _ => .sknp

/-- The opcode of a word of family `F`, by its trailing byte. -/
def Word.extraOpcode? : Nat → Option Opcode
  | 0x07 => some .ldVxDt
  | 0x0A => some .ldVxK
  | 0x15 => some .ldDtVx
  | 0x18 => some .ldStVx
  | 0x1E => some .addI
  | 0x29 => some .ldF
  | 0x33 => some .ldB
  | 0x55 => some .ldMemVx
  | 0x65 => some .ldVxMem
  | _ => none

/-- The opcode of a word; `none` if the word is no instruction. -/
def Word.opcode? (w : Word) : Option Opcode :=
  match w.family with
  | 0 => if w.kk = 0xE0 then some .cls else if w.kk = 0xEE then some .ret else some .sys
  | 1 => some .jp
  | 2 => some .call
  | 3 => some .seImm
  | 4 => some .sneImm
  | 5 => some .se
  | 6 => some .ldImm
  | 7 => some .addImm
  | 8 => some (Word.registerOpcode w.n)
  | 9 => some .sne
  | 10 => some .ldI
  | 11 => some .jpV0
  | 12 => some .rnd
  | 13 => some .drw
  | 14 => if w.kk = 0x9E then some .skp else some .sknp
  | _ => Word.extraOpcode? w.kk

/-- The opcode of a word that lies at no particular address. -/
def Word.opcode (w : Word) : Except Failure Opcode :=
  match w.opcode? with
  | some op => pure op
  | none => throw (.fault (.unknownInstruction w.value none))

end Chip8
