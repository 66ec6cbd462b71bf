import Chip8.Settings
import Chip8.Yaml.Value

/-!
# Settings files

A settings file is a text in UTF-8 that holds one document in YAML.  Its characters are decoded and
looked at block by block, while the document is read.  So what is wrong with a character or a byte
counts only if nothing is wrong in the blocks in front of it.
-/

namespace Chip8.Document

/-- Line ends in one form. -/
def plainLines : List Char → List Char
  | '\r' :: '\n' :: rest => '\n' :: plainLines rest
  | '\r' :: rest => '\n' :: plainLines rest
  | c :: rest => c :: plainLines rest
  | [] => []

/-- Whether a character may stand in a settings file. -/
def isAccepted (c : Char) : Bool :=
  let n := c.toNat
  n = 9 || n = 10 || n = 13 || (0x20 ≤ n && n ≤ 0x7E) || n = 0x85 ||
    (0xA0 ≤ n && n ≠ 0xFFFE && n ≠ 0xFFFF)

/-- How many characters make a block. -/
def blockSize : Nat := 4096

/-- How many characters are in the blocks in front of the one with a place.  The first two blocks
are looked at together. -/
def blocksBefore (place : Nat) : Nat :=
  if place < 2 * blockSize then 0 else place / blockSize * blockSize

/-- The characters of a settings file up to a block that cannot be read, and why it cannot; all of
them if every block can.  Of a character that is not accepted and bytes that are no text in one
block, the bytes are found first. -/
def charsOfFile (name : String) (data : List UInt8) : List Char × Option SettingsError :=
  let decoding := Text.decode data
  let cs := plainLines decoding.chars
  let strange := (cs.zipIdx.find? fun p => !isAccepted p.1).map fun (c, place) =>
    (blocksBefore place, SettingsError.unaccepted c name place)
  let undecoded := decoding.failure.map fun (_, cause) =>
    (blocksBefore cs.length, SettingsError.undecodable cause)
  let first := match strange, undecoded with
    | some (m, e), some (n, f) => some (if m < n then (m, e) else (n, f))
    | some p, none => some p
    | none, p => p
  match first with
  | some (count, e) => (cs.take count, some e)
  | none => (cs, none)

/-- Whether a mistake is met before a text has been read to its end, in front of its last line. -/
def isBefore (stop : Text.Mark) : Yaml.Flaw → Bool
  | .mistake m => m.stage ≠ .constructing && m.place.line < stop.line
  | .scalar _ => false

/-- Reads the bytes of the settings file of the given name.  A document whose blocks cannot all be
read may be refused for a mistake in a line that ends in the blocks that can. -/
def ofFile (name : String) (data : List UInt8) : Except SettingsError Document :=
  let (cs, unread) := charsOfFile name data
  let cs := if cs.head? = some Text.byteOrderMark then cs.drop 1 else cs
  let refused (flaw : Yaml.Flaw) : SettingsError :=
    match flaw with
    | .mistake cause => .yaml cause name
    | .scalar cause => .scalar cause
  match Yaml.read cs, unread with
  | .ok d, none => pure d
  | .error flaw, none => throw (refused flaw)
  | .error flaw, some e => throw (if isBefore (Text.Mark.after cs) flaw then refused flaw else e)
  | .ok _, some e => throw e

end Chip8.Document
