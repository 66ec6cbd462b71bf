import Chip8.Bench
import Chip8.Bench.Op
import Chip8.Clock
import Chip8.CommandLine.Arguments
import Chip8.CommandLine.Run
import Chip8.Debugger
import Chip8.EitherEnd
import Chip8.Fault
import Chip8.File
import Chip8.Font
import Chip8.Host
import Chip8.Keypad
import Chip8.Keypad.Script
import Chip8.Keypad.Terminal
import Chip8.Keypad.Typing
import Chip8.Keypad.Wait
import Chip8.Listing
import Chip8.Log
import Chip8.Machine
import Chip8.Machine.Arithmetic
import Chip8.Machine.Execute
import Chip8.Machine.Program
import Chip8.Machine.Trace
import Chip8.Main
import Chip8.Memory
import Chip8.Memory.Journal
import Chip8.Number.Binary64
import Chip8.Number.Decimal
import Chip8.Number.Numeral
import Chip8.Number.Quantity
import Chip8.Opcode
import Chip8.Operation
import Chip8.Pace
import Chip8.Random
import Chip8.Random.Digest
import Chip8.Random.Seed
import Chip8.Random.Twister
import Chip8.Screen
import Chip8.Screen.Surface
import Chip8.Settings
import Chip8.Settings.Document
import Chip8.Settings.Draft
import Chip8.Settings.File
import Chip8.Settings.Reader
import Chip8.Settings.Stamp
import Chip8.Settings.Writer
import Chip8.System
import Chip8.Text.Base64
import Chip8.Text.CodePoints
import Chip8.Text.CodeRanges
import Chip8.Text.Digit
import Chip8.Text.Encoding
import Chip8.Text.Hex
import Chip8.Text.Lowercase
import Chip8.Text.Mark
import Chip8.Text.Printable
import Chip8.Text.Quoted
import Chip8.Text.Utf8
import Chip8.Timer
import Chip8.Tone
import Chip8.Word
import Chip8.Yaml.Block
import Chip8.Yaml.Cursor
import Chip8.Yaml.Flaw
import Chip8.Yaml.Kind
import Chip8.Yaml.Layout
import Chip8.Yaml.Name
import Chip8.Yaml.Node
import Chip8.Yaml.Quoted
import Chip8.Yaml.Scalar
import Chip8.Yaml.Token
import Chip8.Yaml.Value
import Chip8.Yaml.Word
import Chip8.Proofs.Effect
import Chip8.Proofs.Atomicity
import Chip8.Proofs.KeyWait
import Chip8.Proofs.Surface
import Chip8.Proofs.History
import Chip8.Proofs.Invariant
import Chip8.Proofs.Silence
import Chip8.Proofs.Consecutive
import Chip8.Proofs.Replay
import Chip8.Proofs.Trace
import Chip8.Proofs.Breakpoints
import Chip8.Proofs.FirstHit
import Chip8.Proofs.Keypress
import Chip8.Proofs.Picture
import Chip8.Proofs.Disassembly
import Chip8.Proofs.Subroutine
import Chip8.Proofs.Likeness
import Chip8.Proofs.Policy
import Chip8.Proofs.Timing
import Chip8.Proofs.Uniqueness
import Chip8.Proofs.Hushed
import Chip8.Proofs.Drivers
import Chip8.Proofs.Afresh
import Chip8.Proofs.Timekeeping
import Chip8.Proofs.Faulting
import Chip8.Proofs.Loading
import Chip8.Proofs.Rounding
import Chip8.Proofs.Refusal
import Chip8.Proofs.Building
import Chip8.Proofs.Listeners
import Chip8.Proofs.Countdown
import Chip8.Proofs.Rearming
import Chip8.Proofs.Footprint
import Chip8.Proofs.NextAddress
import Chip8.Proofs.Notification
import Chip8.Proofs.Collision
import Chip8.Proofs.Executing
import Chip8.Proofs.Dumping
import Chip8.Proofs.Redrawing
import Chip8.Proofs.Flags
import Chip8.Proofs.Listing
import Chip8.Proofs.Requests
import Chip8.Proofs.Journal
import Chip8.Proofs.Seen
import Chip8.Proofs.Lasting
import Chip8.Proofs.Tail
import Chip8.Proofs.Frames
import Chip8.Proofs.Holding
import Chip8.Proofs.Numerals
import Chip8.Proofs.Reading
import Chip8.Proofs.Restoring
