import Rethrow.Log.Basic
import Rethrow.Settings.Basic

/-!
# Command lines

A command line is a list of switches, some with a value. A value follows its switch as the
next argument, behind `=`, or, for a short switch, right behind its letter; short switches
without a value may share one dash. A value as an argument of its own does not begin with
a dash, unless it is a dash alone.

All switches but those for classes, sources and verbosity stand at most once. There are no
other arguments. A switch that asks for help ends the reading at once, and so does the
first mistake.
-/

namespace Rethrow.Command

/-- The switches. -/
inductive Switch where
  | config
  | classes
  | source
  | output
  | namePrefix
  | nameSuffix
  | uncheckedType
  | message
  | jdkHome
  | jobs
  | failFast
  | verbose
  | quiet
  | help
  | version
  deriving DecidableEq, Repr

namespace Switch

/-- The switch of a long name. -/
def ofName? (name : Text) : Option Switch :=
  match String.ofList name with
  | "config" => some .config
  | "class" => some .classes
  | "source" => some .source
  | "output" => some .output
  | "prefix" => some .namePrefix
  | "suffix" => some .nameSuffix
  | "unchecked-type" => some .uncheckedType
  | "message" => some .message
  | "jdk-home" => some .jdkHome
  | "jobs" => some .jobs
  | "fail-fast" => some .failFast
  | "verbose" => some .verbose
  | "quiet" => some .quiet
  | "help" => some .help
  | "version" => some .version
  | _ => none

/-- The switch of a letter. -/
def ofLetter? : Char → Option Switch
  | 'c' => some .config
  | 'o' => some .output
  | 'j' => some .jobs
  | 'v' => some .verbose
  | 'q' => some .quiet
  | 'h' => some .help
  | 'V' => some .version
  | _ => none

/-- Whether a switch has a value. -/
def takesValue : Switch → Bool
  | .failFast | .verbose | .quiet | .help | .version => false
  | _ => true

/-- Whether a switch may stand more than once. -/
def isRepeatable : Switch → Bool
  | .classes | .source | .verbose => true
  | _ => false

end Switch

/-- What a command line asks for. -/
structure Arguments where
  config : Option Path := none
  classes : List Text := []
  sources : List Path := []
  output : Option Path := none
  namePrefix : Option Text := none
  nameSuffix : Option Text := none
  uncheckedType : Option Text := none
  message : Option Text := none
  jdkHome : Option Path := none
  jobs : Option Nat := none
  failFast : Bool := false
  /-- How often more lines were asked for. -/
  verbosity : Nat := 0
  quiet : Bool := false
  deriving DecidableEq, Repr

/-- Why a command line leads to no run. -/
inductive Refusal where
  /-- It is malformed. -/
  | misuse
  /-- It asks for help or the version. -/
  | help
  deriving DecidableEq, Repr

/-- A path given as a value, which is not empty. -/
def path? : Text → Except Refusal Path
  | [] => .error .misuse
  | text => .ok { text }

/-- The largest count of workers that can be written, plus one. -/
def jobsLimit : Nat := Nat.pow 2 64

/-- The value of a digit. -/
def digit? (c : Char) : Option Nat :=
  if c.isDigit then some (c.toNat - '0'.toNat) else none

/-- The number that some digits write, behind a number already read. -/
def decimal? (value : Nat) : Text → Option Nat
  | [] => some value
  | c :: rest => (digit? c).bind fun digit => decimal? (value * 10 + digit) rest

/-- A number of workers: digits behind an optional plus sign. -/
def jobs? (text : Text) : Except Refusal Nat :=
  let digits :=
    match text with
    | '+' :: rest => rest
    | text => text
  match digits, decimal? 0 digits with
  | _ :: _, some count => if count < jobsLimit then .ok count else .error .misuse
  | _, _ => .error .misuse

/-- A command line that is being read. -/
structure Reading where
  arguments : Arguments := {}
  /-- The switches seen so far. -/
  seen : List Switch := []
  /-- The switch whose value comes next. -/
  pending : Option Switch := none
  deriving DecidableEq, Repr

namespace Reading

/-- Notes that a switch stands here. -/
def note (reading : Reading) (switch : Switch) : Except Refusal Reading :=
  if switch ∈ reading.seen ∧ !switch.isRepeatable then .error .misuse
  else .ok { reading with seen := switch :: reading.seen, pending := none }

/-- The arguments with the value of a switch. -/
def assign (arguments : Arguments) (value : Text) : Switch → Except Refusal Arguments
  | .config => do return { arguments with config := some (← path? value) }
  | .classes => .ok { arguments with classes := arguments.classes ++ [value] }
  | .source => do return { arguments with sources := arguments.sources ++ [← path? value] }
  | .output => do return { arguments with output := some (← path? value) }
  | .namePrefix => .ok { arguments with namePrefix := some value }
  | .nameSuffix => .ok { arguments with nameSuffix := some value }
  | .uncheckedType => .ok { arguments with uncheckedType := some value }
  | .message => .ok { arguments with message := some value }
  | .jdkHome => do return { arguments with jdkHome := some (← path? value) }
  | .jobs => do return { arguments with jobs := some (← jobs? value) }
  | _ => .error .misuse

/-- Reads a switch with its value. -/
def give (reading : Reading) (switch : Switch) (value : Text) : Except Refusal Reading := do
  let reading ← reading.note switch
  return { reading with arguments := ← assign reading.arguments value switch }

/-- The arguments with a switch that has no value. -/
def turnOn (arguments : Arguments) : Switch → Except Refusal Arguments
  | .failFast => .ok { arguments with failFast := true }
  | .verbose => .ok { arguments with verbosity := arguments.verbosity + 1 }
  | .quiet => .ok { arguments with quiet := true }
  | .help | .version => .error .help
  | _ => .error .misuse

/-- Reads a switch that has no value. -/
def flag (reading : Reading) (switch : Switch) : Except Refusal Reading := do
  let reading ← reading.note switch
  return { reading with arguments := ← turnOn reading.arguments switch }

/-- Reads a long switch, without its dashes. -/
def long (reading : Reading) (text : Text) : Except Refusal Reading :=
  match Switch.ofName? (text.takeWhile (· ≠ '=')), text.dropWhile (· ≠ '=') with
  | some switch, [] =>
    if switch.takesValue then .ok { reading with pending := some switch }
    else reading.flag switch
  | some switch, _ :: value =>
    if switch.takesValue then reading.give switch value else .error .misuse
  | none, _ => .error .misuse

/-- Reads short switches, without their dash. -/
def short (reading : Reading) : Text → Except Refusal Reading
  | [] => .ok reading
  | letter :: rest =>
    match Switch.ofLetter? letter with
    | none => .error .misuse
    | some switch =>
      if switch.takesValue then
        match rest with
        | [] => .ok { reading with pending := some switch }
        | '=' :: value => reading.give switch value
        | value => reading.give switch value
      else
        match reading.flag switch with
        | .ok reading => reading.short rest
        | .error e => .error e

/-- Reads one argument. -/
def step (reading : Reading) (argument : Text) : Except Refusal Reading :=
  match reading.pending, argument with
  | none, '-' :: '-' :: text => reading.long text
  | none, '-' :: letter :: rest => reading.short (letter :: rest)
  | none, _ => .error .misuse
  | some _, '-' :: _ :: _ => .error .misuse
  | some switch, value => reading.give switch value

/-- Reads arguments to their end. Nothing may follow `--`. -/
def all (reading : Reading) : List Text → Except Refusal Reading
  | [] => if reading.pending.isSome then .error .misuse else .ok reading
  | argument :: rest =>
    if argument = ['-', '-'] then
      if reading.pending.isSome || !rest.isEmpty then .error .misuse else .ok reading
    else
      match reading.step argument with
      | .ok reading => reading.all rest
      | .error e => .error e

end Reading

namespace Arguments

/-- Reads a command line. More lines and fewer lines cannot both be asked for. -/
def read (line : List Text) : Except Refusal Arguments := do
  let arguments := (← ({} : Reading).all line).arguments
  if arguments.quiet ∧ 0 < arguments.verbosity then .error .misuse else .ok arguments

/-- The level up to which lines are logged. -/
def logLevel (arguments : Arguments) : Log.Level :=
  if arguments.quiet then .warn
  else match arguments.verbosity with
    | 0 => .info
    | 1 => .debug
    | _ => .trace

/-- The settings with what the command line asks for. Its classes are added, its sources
come first, and all other values replace those of the settings. -/
def applyTo (arguments : Arguments) (settings : Settings) : Settings :=
  { classes := Settings.distinct (settings.classes ++ arguments.classes)
    outputFolder := arguments.output.or settings.outputFolder
    options :=
      { namePrefix := arguments.namePrefix.getD settings.options.namePrefix
        nameSuffix := arguments.nameSuffix.getD settings.options.nameSuffix
        uncheckedType := arguments.uncheckedType.getD settings.options.uncheckedType
        message := arguments.message.getD settings.options.message }
    sourcePaths := arguments.sources ++ settings.sourcePaths
    jdkHome := arguments.jdkHome.or settings.jdkHome
    failFast := settings.failFast || arguments.failFast }

end Arguments

end Rethrow.Command
