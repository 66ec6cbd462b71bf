import Chip8.CommandLine.Run

/-!
# The command line program

Everything that touches the world: the arguments and files come in here, frames and log lines go
out, and the clock is the real one.  What is to be done with them is decided elsewhere.  A cycle is
taken apart into its work and its end, so that frames appear while the program runs and the wait in
between can sleep.
-/

namespace Chip8.CommandLine

/-- Reads the bytes of a file. -/
def readBytes (name : CodePoints) : IO (Except FileError (List UInt8)) := do
  match ← (IO.FS.readBinFile (Text.ofPoints name)).toBaseIO with
  | .ok data => pure (.ok data.toList)
  | .error _ => pure (.error (FileError.ofAbsent name))

/-- Opens the files that the arguments name. -/
def openFolder (a : Arguments) : IO Folder := do
  let rom ← readBytes a.rom
  let settings ← match a.config with
    | .value name => readBytes name
    | .absent | .blank => pure rom
  pure fun name => if a.config = .value name then settings else rom

/-- Writes what is to be seen, and the log to standard error. -/
def present (debug : Bool) (output : List String) (log : List LogLine) : IO Unit := do
  let stdout ← IO.getStdout
  for text in output do
    stdout.putStr text
    stdout.flush
  for line in log do
    if debug || line.level != .debug then
      IO.eprintln (line.level.name ++ ": " ++ line.message)

/-- Writes the rest of a report, and gives the exit status. -/
def finish (debug : Bool) (r : Report) : IO UInt32 := do
  present debug r.output r.log
  match r.exit with
  | .status code => pure code.toUInt32
  | .arguments code complaint =>
    if complaint != "" then IO.eprintln complaint
    pure code.toUInt32
  | .badSettings cause => IO.eprintln cause.message; pure 1
  | .noSystem cause => IO.eprintln cause.message; pure 1
  | .misuse cause => IO.eprintln cause.message; pure 1
  | .unfinished => pure 1

/-- Writes what a machine has written and logged since the last time. -/
def flush (debug : Bool) (rig : Rig) : IO Rig := do
  let (log, m) := rig.machine.takeLog
  present debug (writes m) log
  pure { rig with machine := { m with screen := m.screen.takeWritten.1 } }

/-- Waits until the real clock has reached a time, and gives the time. -/
partial def waitFor (target : Float) : IO Int := do
  let now : Int := (← IO.monoNanosNow)
  if Quantity.whole now < Quantity.real target then
    if 0.002 < Rig.secondsUntil target now then IO.sleep 1
    waitFor target
  else pure now

/-- Runs a machine on the real clock. -/
partial def drive (debug : Bool) (limit : Option Int) (executed : Nat) (rig : Rig) :
    IO Report := do
  let rig ← flush debug rig
  if Rig.limitReached limit executed then
    pure (conclude none (.ok executed) (Rig.finishRun (.ok executed) rig).machine)
  else
    let start ← match rig.pace.base with
      | some start => pure start
      | none => do
        let now ← IO.monoNanosNow
        pure (now : Int)
    match rig.work with
    | (.error e, rig) =>
      let result : Except Halt Nat := .error (.failure e)
      pure (conclude none result (Rig.finishRun result rig).machine)
    | (.ok _, rig) =>
      let rig ← flush debug rig
      let now ← waitFor (Binary64.ofInt start + rig.pace.target)
      drive debug limit (executed + 1) (rig.settle start now)

/-- Runs the program that the arguments ask for.  Settings files are read as YAML, and lines of the
level debug are formed only if the arguments ask for them. -/
def runArguments (a : Arguments) : IO UInt32 := do
  let folder ← openFolder a
  let host : Host := { debug := a.debug }
  match resolve folder a Document.ofFile host with
  | .error cause => finish a.debug (refusal cause)
  | .ok settings =>
    let seed ← IO.monoNanosNow
    match start folder (.generated (Twister.ofSeed seed)) a settings host with
    | .error report => finish a.debug report
    | .ok (rig, limit) => finish a.debug (← drive a.debug limit 0 rig)

end Chip8.CommandLine

/-- The program. -/
def main (argv : List String) : IO UInt32 :=
  match Chip8.CommandLine.readArguments (argv.map Chip8.Text.points) with
  | .error ending => Chip8.CommandLine.finish false ending.report
  | .ok a => Chip8.CommandLine.runArguments a
