/-!
# The built-in font

The sixteen hexadecimal digits as sprites of five rows, of which only the four leading columns are
used.  They lie at the start of the memory.
-/

namespace Chip8.Font

/-- Where the font lies in the memory. -/
def address : Nat := 0

/-- The number of rows of a glyph. -/
def glyphSize : Nat := 5

/-- The rows of all glyphs, digit by digit. -/
def data : List UInt8 :=
  [0xF0, 0x90, 0x90, 0x90, 0xF0,
   0x20, 0x60, 0x20, 0x20, 0x70,
   0xF0, 0x10, 0xF0, 0x80, 0xF0,
   0xF0, 0x10, 0xF0, 0x10, 0xF0,
   0x90, 0x90, 0xF0, 0x10, 0x10,
   0xF0, 0x80, 0xF0, 0x10, 0xF0,
   0xF0, 0x80, 0xF0, 0x90, 0xF0,
   0xF0, 0x10, 0x20, 0x40, 0x40,
   0xF0, 0x90, 0xF0, 0x90, 0xF0,
   0xF0, 0x90, 0xF0, 0x10, 0xF0,
   0xF0, 0x90, 0xF0, 0x90, 0x90,
   0xE0, 0x90, 0xE0, 0x90, 0xE0,
   0xF0, 0x80, 0x80, 0x80, 0xF0,
   0xE0, 0x90, 0x90, 0x90, 0xE0,
   0xF0, 0x80, 0xF0, 0x80, 0xF0,
   0xF0, 0x80, 0xF0, 0x80, 0x80]

/-- Where the glyph of a digit starts; only the last four bits of the digit count. -/
def glyphAddress (digit : Int) : Nat := address + (digit % 16).toNat * glyphSize

@[simp] theorem length_data : data.length = 80 := rfl

end Chip8.Font
