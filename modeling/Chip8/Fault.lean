import Chip8.EitherEnd
import Chip8.File
import Chip8.Number.Numeral

/-!
# Faults and misuse

Two kinds of failure are kept apart.  A `Fault` is what a running machine meets: a memory access
outside the memory, a word that is no instruction, a stack without room or without content, a
program that cannot be loaded, a key wait that was interrupted.  A `Misuse` is a value that should
never have been handed in: a key that the keypad does not have, a number that is no byte, a place
outside a list.  A machine whose state is well formed meets faults only.
-/

namespace Chip8

/-- Why a program cannot be loaded. -/
inductive LoadFailure where
  /-- The file cannot be read. -/
  | unreadable (name : CodePoints) (cause : FileError)
  /-- The load address lies behind the end of the memory. -/
  | outside (address : Int)
  /-- The program has more bytes than there are from the load address on. -/
  | tooLarge (size : Nat) (capacity address : Int)
deriving DecidableEq, Repr

/-- What is said about a program that cannot be loaded. -/
def LoadFailure.message : LoadFailure → String
  | unreadable name cause =>
    "Cannot read program '" ++ Text.ofPoints name ++ "': " ++ cause.message
  | outside address => "Load address " ++ Hex.address 5 address ++ " is outside memory."
  | tooLarge size capacity address =>
    "Program is too large: " ++ toString size ++ " bytes, " ++ toString capacity ++
      " bytes available at " ++ Hex.address 5 address ++ "."

/-- What a running machine can meet. -/
inductive Fault where
  /-- An access to `count` bytes from `address` on that leaves a memory of `size` bytes. -/
  | memoryAccess (address count : Int) (size : Nat)
  /-- A word that is no instruction. -/
  | unknownInstruction (word : Nat) (address : Option Int)
  /-- A call while the stack is full. -/
  | stackOverflow (pc : Int) (depth : Nat)
  /-- A return while the stack is empty. -/
  | stackUnderflow (pc : Int)
  /-- A program that cannot be loaded. -/
  | programLoad (cause : LoadFailure)
  /-- A key wait that was interrupted. -/
  | inputInterrupted
deriving DecidableEq, Repr

/-- What is said about a fault. -/
def Fault.message : Fault → String
  | memoryAccess address count size =>
    "Address range " ++ Hex.address 6 address ++ "+" ++ toString count ++
      " out of bounds for memory of size " ++ toString size
  | unknownInstruction word address =>
    "Unknown instruction " ++ Hex.atLeast 4 word ++
      (match address with
      | some a => " at " ++ Hex.address 6 a
      | none => "")
  | stackOverflow pc depth =>
    "Stack overflow at PC " ++ Hex.address 6 pc ++ " (depth " ++ toString depth ++ ")"
  | stackUnderflow pc => "Stack underflow at PC " ++ Hex.address 6 pc
  | programLoad cause => cause.message
  | inputInterrupted => "Wait for key press was interrupted."

/-- Why an unchecked value of any type cannot take the part it was given. -/
inductive Unfit where
  /-- Values of these types are not compared by this operator. -/
  | notCompared (operator left right : String)
  /-- A value of this type is no divisor of an integer. -/
  | notDivisor (typeName : String)
  /-- A value of this type is no number of rows. -/
  | notCount (typeName : String)
  /-- A value of this type is no number of columns. -/
  | notFactor (typeName : String)
  /-- A value of this type is not subtracted from an integer. -/
  | notSubtracted (typeName : String)
  /-- A double as the place of bytes. -/
  | realAsPlace
  /-- A double as the place of one byte. -/
  | realAsIndex
  /-- A double that was to be told as an address. -/
  | realAsAddress
  /-- A value from which no random numbers start. -/
  | notSeed
  /-- A text of which no bytes can be made. -/
  | unencodable (cause : Text.EncodingError)
  /-- A value of this type of which no double can be made. -/
  | notReal (typeName : String)
  /-- A text, here in quotes, that is not read as a double. -/
  | unreadReal (quoted : String)
  /-- An integer beyond every index. -/
  | beyondIndex
  /-- More than can be stored. -/
  | beyondStorage
  /-- An integer beyond every double. -/
  | beyondDouble
  /-- An infinity where an integer is made of a double. -/
  | infinite
  /-- A double that is no number, where an integer is made of it. -/
  | notNumber
deriving DecidableEq, Repr

/-- What is said about a value that cannot take its part. -/
def Unfit.message : Unfit → String
  | notCompared operator left right =>
    "'" ++ operator ++ "' not supported between instances of '" ++ left ++ "' and '" ++ right ++ "'"
  | notDivisor typeName => "unsupported operand type(s) for /: 'int' and '" ++ typeName ++ "'"
  | notCount typeName => "'" ++ typeName ++ "' object cannot be interpreted as an integer"
  | notFactor typeName => "can't multiply sequence by non-int of type '" ++ typeName ++ "'"
  | notSubtracted typeName => "unsupported operand type(s) for -: 'int' and '" ++ typeName ++ "'"
  | realAsPlace => "slice indices must be integers or None or have an __index__ method"
  | realAsIndex => "bytearray indices must be integers or slices, not float"
  | realAsAddress => "Unknown format code 'x' for object of type 'float'"
  | notSeed => "The only supported seed types are: None,\nint, float, str, bytes, and bytearray."
  | unencodable cause => cause.message
  | notReal typeName =>
    "float() argument must be a string or a real number, not '" ++ typeName ++ "'"
  | unreadReal quoted => "could not convert string to float: " ++ quoted
  | beyondIndex => "cannot fit 'int' into an index-sized integer"
  | beyondStorage => ""
  | beyondDouble => "int too large to convert to float"
  | infinite => "cannot convert float infinity to integer"
  | notNumber => "cannot convert float NaN to integer"

/-- The integer part of a double, cut toward zero. -/
def wholePart (x : Float) : Except Unfit Int :=
  match Binary64.truncate? x with
  | some n => pure n
  | none => throw (if x.isNaN then .notNumber else .infinite)

/-- Values that should not have been handed in. -/
inductive Misuse where
  /-- A key that the keypad does not have. -/
  | keyOutOfRange (key : Int)
  /-- A value for one memory cell that is no byte. -/
  | cellOutOfRange (value : Int)
  /-- A value among bytes that is no byte. -/
  | byteOutOfRange
  /-- A number that is no word of sixteen bits. -/
  | wordOutOfRange (value : Int)
  /-- A place outside a list. -/
  | placeOutOfRange
  /-- A place outside a list, as the target of an assignment. -/
  | targetOutOfRange
  /-- An integer that is no place in any list. -/
  | noPlace
  /-- A memory without cells. -/
  | memorySize
  /-- A screen without pixels. -/
  | screenSize
  /-- A truth value as the size of a memory, into which `count` bytes from `address` on are to be
  put. -/
  | truthAsSize (address count : Int)
  /-- A name under which no file can be read or written. -/
  | file (cause : FileError)
  /-- A value, here in quotes, that names no kind of breakpoint. -/
  | breakpointKind (quoted : String)
  /-- Something asked of a debugger where there is none. -/
  | noDebugger (request : String)
  /-- A text that gives the number of no register. -/
  | registerNumber (cause : Numeral.IntegerError)
  /-- Fewer than no cycles to be kept. -/
  | negativeHistory
  /-- More cycles to be kept than can be counted. -/
  | historyBeyondIndex
  /-- A value of the wrong type, or one that is too large. -/
  | unfit (cause : Unfit)
deriving DecidableEq, Repr

/-- What is said about misuse. -/
def Misuse.message : Misuse → String
  | keyOutOfRange key => "Key " ++ toString key ++ " is out of range 0x0-0xF."
  | cellOutOfRange value => "Data " ++ toString value ++ " is not an 8-bit value."
  | byteOutOfRange => "bytes must be in range(0, 256)"
  | wordOutOfRange value => "Instruction word " ++ toString value ++ " is not a 16-bit value."
  | placeOutOfRange => "list index out of range"
  | targetOutOfRange => "list assignment index out of range"
  | memorySize => "Memory size must be a positive integer."
  | screenSize => "Display dimensions must be positive."
  | truthAsSize address count =>
    "Address range " ++ Hex.address 6 address ++ "+" ++ toString count ++
      " out of bounds for memory of size True"
  | noPlace => Unfit.beyondIndex.message
  | file cause => cause.message
  | breakpointKind quoted => quoted ++ " is not a valid BreakpointConditionType"
  | noDebugger request => "'NoneType' object has no attribute '" ++ request ++ "'"
  | registerNumber cause => cause.message
  | negativeHistory => "maxlen must be non-negative"
  | historyBeyondIndex => "Python int too large to convert to C ssize_t"
  | unfit cause => cause.message

/-- What is wrong with a place at which a list has nothing: the given misuse, unless it is no place
at all. -/
def Misuse.ofPlace (i : Int) (outside : Misuse) : Misuse := if isIndex i then outside else noPlace

/-- Why an operation did not end with a value. -/
inductive Failure where
  /-- The machine met a fault. -/
  | fault (cause : Fault)
  /-- A value should not have been handed in. -/
  | misuse (cause : Misuse)
deriving DecidableEq, Repr

/-- What is said about a failure. -/
def Failure.message : Failure → String
  | fault cause => cause.message
  | misuse cause => cause.message

end Chip8
