import Chip8.Text.Hex

/-!
# Text from bytes

Bytes are read as text in UTF-8, piece by piece.  Bytes that are none are refused with the place and
the reason: a byte that starts no character, a byte that does not go on with the character that was
started, or an end in the middle of a character.  A place is counted from the start of the piece, so
it tells where to look only if the bytes are few.  An end in the middle is found only after
everything before it was handed out, so its place is counted from the start of that character.
-/

namespace Chip8.Text

/-- Why bytes are no text. -/
inductive DecodingReason where
  /-- A byte starts no character. -/
  | start
  /-- A byte does not go on with the character that was started. -/
  | continuation
  /-- The bytes end in the middle of a character. -/
  | truncated
deriving DecidableEq, Repr

/-- What is said about a reason. -/
def DecodingReason.message : DecodingReason → String
  | start => "invalid start byte"
  | continuation => "invalid continuation byte"
  | truncated => "unexpected end of data"

/-- Where bytes are no text, and why. -/
structure DecodingError where
  /-- The place of the first byte that is not read. -/
  first : Nat
  /-- The number of bytes that are not read together. -/
  count : Nat
  /-- The first of these bytes. -/
  byte : UInt8
  /-- Why they are not read. -/
  reason : DecodingReason
deriving DecidableEq, Repr

/-- What is said about bytes that are no text. -/
def DecodingError.message (e : DecodingError) : String :=
  let place :=
    if e.count = 1 then
      "byte 0x" ++ String.ofList (Hex.byte e.byte) ++ " in position " ++ toString e.first
    else "bytes in position " ++ toString e.first ++ "-" ++ toString (e.first + e.count - 1)
  "'utf-8' codec can't decode " ++ place ++ ": " ++ e.reason.message

/-- A character of several bytes that has been started. -/
structure Started where
  /-- The index of its first byte. -/
  first : Nat
  /-- Its first byte. -/
  byte : UInt8
  /-- How many of its bytes have been read. -/
  count : Nat
  /-- How many are to follow. -/
  owed : Nat
  /-- The least next byte. -/
  low : Nat
  /-- The greatest next byte. -/
  high : Nat
  /-- What the bytes read so far amount to. -/
  code : Nat

/-- The character that a byte starts, if it starts one of several bytes. -/
def start? (first : Nat) (byte : UInt8) : Option Started :=
  let b := byte.toNat
  let started (owed low high base : Nat) : Option Started :=
    some ⟨first, byte, 1, owed, low, high, b - base⟩
  if b < 0xC2 then none
  else if b < 0xE0 then started 1 0x80 0xBF 0xC0
  else if b = 0xE0 then started 2 0xA0 0xBF 0xE0
  else if b = 0xED then started 2 0x80 0x9F 0xE0
  else if b < 0xF0 then started 2 0x80 0xBF 0xE0
  else if b = 0xF0 then started 3 0x90 0xBF 0xF0
  else if b < 0xF4 then started 3 0x80 0xBF 0xF0
  else if b = 0xF4 then started 3 0x80 0x8F 0xF0
  else none

/-- Whether a byte goes on with what was started as a half of a pair would.  A half is no character,
but if no byte follows in the piece this is found out with the next one. -/
def isHalfStart (s : Started) (b : UInt8) : Bool :=
  s.byte = 0xED && s.count = 1 && 0xA0 ≤ b && b ≤ 0xBF

/-- How many bytes are read at a time. -/
def pieceSize : Nat := 8192

/-- What has been read of bytes. -/
structure Decoding where
  /-- The characters of all pieces that were read as a whole. -/
  chars : List Char
  /-- The number of the piece that could not be read, and why. -/
  failure : Option (Nat × DecodingError)

namespace Decoding

/-- Nothing of a piece that could not be read. -/
def failed (piece : Nat) (e : DecodingError) : Decoding := ⟨[], some (piece, e)⟩

/-- A character of a piece in front of what was read behind it. -/
def push (piece : Nat) (c : Char) (d : Decoding) : Decoding :=
  if d.failure.any (·.1 = piece) then d else { d with chars := c :: d.chars }

end Decoding

/-- Reads bytes from an index on, in the middle of a character or between two.  Places are counted
from the given start of the piece, to which a character belongs that was started in the piece
before. -/
def decodeFrom (index start : Nat) : Option Started → List UInt8 → Decoding
  | none, [] => ⟨[], none⟩
  | some s, [] => .failed (index / pieceSize + 1) ⟨0, s.count, s.byte, .truncated⟩
  | started, b :: rest =>
    let piece := index / pieceSize
    let start := if index % pieceSize = 0 then (started.map Started.first).getD index else start
    match started with
    | none =>
      if b < 0x80 then .push piece (Char.ofNat b.toNat) (decodeFrom (index + 1) start none rest)
      else
        match start? index b with
        | some s => decodeFrom (index + 1) start (some s) rest
        | none => .failed piece ⟨index - start, 1, b, .start⟩
    | some s =>
      if s.low ≤ b.toNat ∧ b.toNat ≤ s.high then
        let code := s.code * 64 + (b.toNat - 0x80)
        if s.owed = 1 then
          .push piece (Char.ofNat code) (decodeFrom (index + 1) start none rest)
        else
          let s := { s with
            count := s.count + 1, owed := s.owed - 1, low := 0x80, high := 0xBF, code }
          decodeFrom (index + 1) start (some s) rest
      else if isHalfStart s b && (rest = [] || (index + 1) % pieceSize = 0) then
        .failed (piece + 1) ⟨0, s.count, s.byte, .continuation⟩
      else .failed piece ⟨s.first - start, s.count, s.byte, .continuation⟩

/-- Reads bytes as text. -/
def decode (data : List UInt8) : Decoding := decodeFrom 0 0 none data

/-- Reads bytes that are few enough for one piece as text.  Places are counted from the first byte,
also that of a character in the middle of which the bytes end. -/
def decodeWhole (data : List UInt8) : Except DecodingError (List Char) :=
  let decoding := decode data
  match decoding.failure with
  | none => pure decoding.chars
  | some (0, e) => throw e
  | some (_, e) =>
    let behind := if e.reason = .truncated then e.count else e.count + 1
    throw { e with first := data.length - behind }

end Chip8.Text
