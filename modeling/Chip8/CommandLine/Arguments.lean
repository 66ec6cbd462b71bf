import Chip8.Number.Numeral

/-!
# Command line arguments

A command line names one program and any number of options.  A long option may be cut short as long
as only one option begins that way, and its value may follow an equals sign or be the next
argument.  A value never begins with a dash unless it is a negative number, a single dash or has a
blank in it.  Behind a double dash nothing is an option.  A double dash behind an equals sign is no
value but gives the option a blank.

What every argument is gets decided first, so an ambiguous option is found before anything else;
then they are taken from the left, and the first mistake ends the reading.
-/

namespace Chip8.CommandLine

/-- The options. -/
inductive Flag where
  /-- Explain the options. -/
  | help
  /-- Read settings from a file. -/
  | config
  /-- Fault where the stack does not allow a call or return. -/
  | strict
  /-- Stop after a number of instructions. -/
  | cycles
  /-- Set the number of instructions per second. -/
  | frequency
  /-- Show no screen. -/
  | nullDisplay
  /-- Make no sound. -/
  | noSound
  /-- Set what random numbers start from. -/
  | seed
  /-- Log more. -/
  | debug
  /-- Tell the version. -/
  | version
deriving DecidableEq, Repr

/-- The spellings of all options. -/
def spellings : List (String × Flag) :=
  [("-h", .help), ("--help", .help), ("--config", .config), ("--strict", .strict),
   ("--cycles", .cycles), ("--frequency", .frequency), ("--null-display", .nullDisplay),
   ("--no-sound", .noSound), ("--seed", .seed), ("--debug", .debug), ("--version", .version)]

/-- Whether an option has a value. -/
def Flag.hasValue : Flag → Bool
  | .config | .cycles | .frequency | .seed => true
  | _ => false

/-- All spellings of an option. -/
def Flag.title (flag : Flag) : String :=
  String.intercalate "/" ((spellings.filter fun p => p.2 == flag).map Prod.fst)

/-- What an option that has a value was given. -/
inductive Given (α : Type) where
  /-- Nothing: the option is not there. -/
  | absent
  /-- A blank in the place of a value. -/
  | blank
  /-- A value. -/
  | value (a : α)
deriving DecidableEq, Repr

/-- What a command line asks for. -/
structure Arguments where
  /-- The file name of the program. -/
  rom : CodePoints := []
  /-- The file name of the settings. -/
  config : Given CodePoints := .absent
  /-- Whether the stack policy is strict. -/
  strict : Bool := false
  /-- After how many instructions to stop. -/
  cycles : Given Int := .absent
  /-- Instructions per second. -/
  frequency : Given Float := .absent
  /-- Whether to show no screen. -/
  nullDisplay : Bool := false
  /-- Whether to make no sound. -/
  noSound : Bool := false
  /-- What random numbers start from. -/
  seed : Given Int := .absent
  /-- Whether to log more. -/
  debug : Bool := false

/-- What can be wrong with a command line. -/
inductive Mistake where
  /-- Several options begin like this. -/
  | ambiguous (arg : CodePoints) (spellings : List String)
  /-- An option that has no value was given one. -/
  | unwantedValue (flag : Flag) (value : CodePoints)
  /-- An option that has a value was given none. -/
  | missingValue (flag : Flag)
  /-- A value is not read as an integer. -/
  | notInteger (flag : Flag) (value : CodePoints)
  /-- A value is not read as a number. -/
  | notNumber (flag : Flag) (value : CodePoints)
  /-- No program is named. -/
  | missingProgram
  /-- There are arguments that nobody wants. -/
  | unwanted (args : List CodePoints)
deriving DecidableEq, Repr

/-- What is said about a command line that is wrong. -/
def Mistake.message : Mistake → String
  | ambiguous arg spellings =>
    "ambiguous option: " ++ Text.ofPoints arg ++ " could match "
      ++ String.intercalate ", " spellings
  | unwantedValue flag value =>
    "argument " ++ flag.title ++ ": ignored explicit argument " ++ Text.quotedPoints value
  | missingValue flag => "argument " ++ flag.title ++ ": expected one argument"
  | notInteger flag value =>
    "argument " ++ flag.title ++ ": invalid int value: " ++ Text.quotedPoints value
  | notNumber flag value =>
    "argument " ++ flag.title ++ ": invalid float value: " ++ Text.quotedPoints value
  | missingProgram => "the following arguments are required: rom"
  | unwanted args =>
    "unrecognized arguments: " ++ String.intercalate " " (args.map Text.ofPoints)

/-- What ends the reading of a command line before it asks for a run. -/
inductive Ending where
  /-- The options are explained. -/
  | help
  /-- The version is told. -/
  | version
  /-- There is a mistake. -/
  | mistake (cause : Mistake)
deriving DecidableEq, Repr

/-- What an argument is. -/
inductive ArgumentKind where
  /-- A value. -/
  | value
  /-- The double dash. -/
  | separator
  /-- An option under a spelling, with the value attached to it if there is one. -/
  | option (flag : Flag) (spelling : String) (attached : Option CodePoints)
  /-- Something that looks like an option and is none. -/
  | unknown
deriving DecidableEq, Repr

/-- The option of a spelling. -/
def flag? (spelling : CodePoints) : Option Flag :=
  (spellings.find? fun p => Text.points p.1 = spelling).map Prod.snd

/-- The dash in front of options. -/
def dash : Nat := '-'.toNat

/-- The double dash. -/
def doubleDash : CodePoints := [dash, dash]

/-- Splits a text at its first equals sign. -/
def splitAtEquals (s : CodePoints) : CodePoints × Option CodePoints :=
  let start := s.takeWhile (· ≠ '='.toNat)
  match s.drop start.length with
  | _ :: rest => (start, some rest)
  | [] => (s, none)

/-- The options that a text that is not spelled out may stand for. -/
def candidates (arg : CodePoints) : List (Flag × String × Option CodePoints) :=
  if doubleDash.isPrefixOf arg then
    let (start, value) := splitAtEquals arg
    spellings.filterMap fun (spelling, flag) =>
      if start.isPrefixOf (Text.points spelling) then some (flag, spelling, value) else none
  else
    spellings.filterMap fun (spelling, flag) =>
      if Text.points spelling = arg.take 2 then some (flag, spelling, some (arg.drop 2))
      else if arg.isPrefixOf (Text.points spelling) then some (flag, spelling, none)
      else none

/-- Whether a text is a negative number: digits, or digits around a point. -/
def isNegativeNumber (arg : CodePoints) : Bool :=
  match (Text.masked arg).toList with
  | '-' :: cs =>
    let isDigit (c : Char) : Bool := (Text.digitValue? c).isSome
    let cs := if cs.getLast? = some '\n' then cs.dropLast else cs
    match cs.dropWhile isDigit with
    | [] => !cs.isEmpty
    | '.' :: part => !part.isEmpty && part.all isDigit
    | _ => false
  | _ => false

/-- Tells what an argument is that starts with a dash and is no option spelled out. -/
def classifyDashed (arg : CodePoints) : Except Ending ArgumentKind :=
  let (start, value) := splitAtEquals arg
  match value, flag? start with
  | some v, some flag => pure (.option flag (Text.ofPoints start) (some v))
  | _, _ =>
    match candidates arg with
    | [(flag, spelling, attached)] => pure (.option flag spelling attached)
    | [] =>
      if isNegativeNumber arg || arg.contains ' '.toNat then pure .value else pure .unknown
    | several => throw (.mistake (.ambiguous arg (several.map fun c => c.2.1)))

/-- Tells what an argument is, as long as no double dash stands before it. -/
def classify (arg : CodePoints) : Except Ending ArgumentKind :=
  if arg.head? ≠ some dash then pure .value
  else
    match flag? arg with
    | some flag => pure (.option flag (Text.ofPoints arg) none)
    | none => if arg = [dash] then pure .value else classifyDashed arg

/-- Tells what all arguments are. -/
def classifyAll : List CodePoints → Except Ending (List (CodePoints × ArgumentKind))
  | [] => pure []
  | arg :: rest => do
    if arg = doubleDash then pure ((arg, .separator) :: rest.map fun arg => (arg, .value))
    else
      let kind ← classify arg
      let others ← classifyAll rest
      pure ((arg, kind) :: others)

/-- What has been read of a command line. -/
structure Progress where
  /-- What it asks for so far. -/
  arguments : Arguments := {}
  /-- Whether the program has been named. -/
  named : Bool := false
  /-- The arguments that nobody wants. -/
  extras : List CodePoints := []

/-- Takes an option that has no value. -/
def takeFlag (flag : Flag) (a : Arguments) : Except Ending Arguments :=
  match flag with
  | .help => throw .help
  | .version => throw .version
  | .strict => pure { a with strict := true }
  | .nullDisplay => pure { a with nullDisplay := true }
  | .noSound => pure { a with noSound := true }
  | .debug => pure { a with debug := true }
  | _ => pure a

/-- Gives an option a blank. -/
def takeBlank (flag : Flag) (a : Arguments) : Arguments :=
  match flag with
  | .config => { a with config := .blank }
  | .cycles => { a with cycles := .blank }
  | .seed => { a with seed := .blank }
  | .frequency => { a with frequency := .blank }
  | _ => a

/-- Takes an option with its value. -/
def takeValue (flag : Flag) (value : CodePoints) (a : Arguments) : Except Ending Arguments :=
  let readInt : Except Ending (Given Int) :=
    match Numeral.readDecimal (Text.masked value) with
    | .ok n => pure (.value n)
    | .error _ => throw (.mistake (.notInteger flag value))
  match flag with
  | .config => pure { a with config := .value value }
  | .cycles => do pure { a with cycles := ← readInt }
  | .seed => do pure { a with seed := ← readInt }
  | .frequency =>
    match Numeral.readReal? (Text.masked value) with
    | some x => pure { a with frequency := .value x }
    | none => throw (.mistake (.notNumber flag value))
  | _ => pure a

/-- How an option ends that has no value but something attached to it.  Behind a single dash that
may be further options of one letter, none of which exists but the one for help; they count only if
nothing else is left. -/
def endAttached (flag : Flag) (spelling : String) (value : CodePoints) : Ending :=
  if doubleDash.isPrefixOf (Text.points spelling) || value = [] then
    .mistake (.unwantedValue flag value)
  else
    match value.dropWhile (· = 'h'.toNat) with
    | [] => .help
    | rest => .mistake (.unwantedValue flag rest)

/-- Whether an argument is an option or looks like one. -/
def ArgumentKind.isOption : ArgumentKind → Bool
  | .option _ _ _ | .unknown => true
  | _ => false

/-- Takes the arguments behind the last option: the program, if it is still to be named, with a
double dash before or behind it. -/
def takeRest (p : Progress) (args : List (CodePoints × ArgumentKind)) : Progress :=
  let unwanted (args : List (CodePoints × ArgumentKind)) : List CodePoints :=
    p.extras ++ args.map Prod.fst
  if p.named then { p with extras := unwanted args }
  else
    let name (rom : CodePoints) (rest : List (CodePoints × ArgumentKind)) : Progress :=
      { p with
        arguments := { p.arguments with rom }
        named := true
        extras := unwanted rest }
    match args with
    | (_, .separator) :: (rom, .value) :: rest => name rom rest
    | (rom, .value) :: (_, .separator) :: rest => name rom rest
    | (rom, .value) :: rest => name rom rest
    | args => { p with extras := unwanted args }

/-- Takes arguments from the left. -/
def takeAll (p : Progress) : List (CodePoints × ArgumentKind) → Except Ending Progress
  | [] => pure p
  | (arg, kind) :: rest =>
    if ((arg, kind) :: rest).all fun a => !a.2.isOption then pure (takeRest p ((arg, kind) :: rest))
    else
      match kind with
      | .unknown => takeAll { p with extras := p.extras ++ [arg] } rest
      | .option flag spelling (some attached) =>
        if !flag.hasValue then throw (endAttached flag spelling attached)
        else if attached = doubleDash then
          takeAll { p with arguments := takeBlank flag p.arguments } rest
        else do
          let arguments ← takeValue flag attached p.arguments
          takeAll { p with arguments } rest
      | .option flag _ none =>
        if flag.hasValue then
          match rest with
          | (value, .value) :: rest => do
            let arguments ← takeValue flag value p.arguments
            takeAll { p with arguments } rest
          | _ => throw (.mistake (.missingValue flag))
        else do
          let arguments ← takeFlag flag p.arguments
          takeAll { p with arguments } rest
      | _ =>
        if p.named then takeAll { p with extras := p.extras ++ [arg] } rest
        else takeAll { p with arguments := { p.arguments with rom := arg }, named := true } rest

/-- Reads a command line. -/
def readArguments (argv : List CodePoints) : Except Ending Arguments := do
  let p ← takeAll {} (← classifyAll argv)
  if !p.named then throw (.mistake .missingProgram)
  if p.extras ≠ [] then throw (.mistake (.unwanted p.extras))
  pure p.arguments

end Chip8.CommandLine
