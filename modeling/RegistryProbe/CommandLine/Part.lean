import RegistryProbe.CommandLine.Basic

/-! # The parts of a command line

  A command line has two parts: the front, up to the name of a command, and what follows that name.
  Each part has options of its own and is read by itself, from left to right:

  - A long option takes its value after an equals sign or as the next argument. In the second case
    an argument that looks like an option is never taken for the value, but any other one is, even
    the name of a command.
  - The value is looked at when the next option comes, or at the end of the part.
  - Short options may share one dash.
  - After `--` every argument counts as positional. The front has no positional arguments.
  - An option with a value and a switch are given at most once in a part; verbosity adds up.
-/

namespace RegistryProbe.CommandLine

/-! ### Options -/

/-- A part of a command line. -/
inductive Part where
  /-- Everything in front of the command. -/
  | front
  /-- The arguments of `call`. -/
  | call
  /-- The arguments of `scan`. -/
  | scan
deriving DecidableEq, Repr

/-- The command that a name stands for, as the part that its arguments make up. -/
def Part.named? : String → Option Part
  | "call" => some .call
  | "scan" => some .scan
  | _ => none

/-- The name of the command that explains the program. -/
def helpName : String := "help"

/-- Whether an argument is the name of a command. -/
def isCommandName (name : String) : Bool := (Part.named? name).isSome || name = helpName

/-- An option that takes a value. -/
inductive ValueOption where
  /-- The address of the API root. -/
  | baseUrl
  /-- The name that the program gives itself. -/
  | userAgent
  /-- The time that a request may take. -/
  | timeout
  /-- The expectation of a scan. -/
  | expect
deriving DecidableEq, Repr

/-- The name of an option. -/
def ValueOption.name : ValueOption → String
  | baseUrl => "--base-url"
  | userAgent => "--user-agent"
  | timeout => "--timeout"
  | expect => "--expect"

/-- The option of a name that takes a value in a part. -/
def Part.valueOption? (part : Part) (name : String) : Option ValueOption :=
  let options := [ValueOption.baseUrl, .userAgent, .timeout]
    ++ if part = .scan then [.expect] else []
  options.find? (·.name = name)

/-- An option without a value. -/
inductive Switch where
  /-- Logs more. -/
  | verbose
  /-- Logs errors only. -/
  | quiet
  /-- Ends a scan at the first 404. -/
  | stopOnNotFound
  /-- Tells the version. -/
  | version
  /-- Explains the program. -/
  | help
deriving DecidableEq, Repr

/-- The switch of a name, long or short, in a part. -/
def Part.switch? (part : Part) (name : String) : Option Switch :=
  match name with
  | "--verbose" | "-v" => some .verbose
  | "--quiet" | "-q" => some .quiet
  | "--help" | "-h" => some .help
  | "--version" | "-V" => if part = .front then some .version else none
  | "--stop-on-not-found" => if part = .scan then some .stopOnNotFound else none
  | _ => none

/-! ### What a part gives -/

/-- What has been read of a part. -/
structure Given where
  /-- The value of `--base-url`. -/
  baseUrl : Option String := none
  /-- The value of `--user-agent`. -/
  userAgent : Option String := none
  /-- The value of `--timeout`. -/
  timeout : Option Nat := none
  /-- The value of `--expect`. -/
  expect : Option String := none
  /-- How often `--verbose` is given. -/
  verbose : Nat := 0
  /-- Whether `--quiet` is given. -/
  quiet : Bool := false
  /-- Whether `--stop-on-not-found` is given. -/
  stopOnNotFound : Bool := false
  /-- The positional arguments, the last one first. -/
  positional : List String := []
  /-- An option whose value has not been looked at yet, with the value if that has come. -/
  pending : Option (ValueOption × Option String) := none
deriving DecidableEq, Repr

/-- Why reading stops before the end. -/
inductive Halt where
  /-- The list is refused. -/
  | refused (e : UsageError)
  /-- The version is to be told. -/
  | version
  /-- The program is to be explained. -/
  | help
deriving DecidableEq, Repr

namespace Given

/-- The value of an option that is given for the first time. -/
def once {α : Type} (o : ValueOption) (old : Option α) (value : α) : Except Halt (Option α) :=
  if old.isSome then .error (.refused (.repeatedOption o.name)) else .ok (some value)

/-- A number of seconds. -/
def seconds (value : String) : Except Halt Nat :=
  match Text.Decimal.readBelow? UInt64.size value.toList with
  | some n => .ok n
  | none => .error (.refused (.badNumber ValueOption.timeout.name value))

/-- Takes an option with its value. -/
def set (g : Given) (o : ValueOption) (value : String) : Except Halt Given :=
  match o with
  | .baseUrl => do return { g with baseUrl := ← once o g.baseUrl value }
  | .userAgent => do return { g with userAgent := ← once o g.userAgent value }
  | .timeout => do return { g with timeout := ← once o g.timeout (← seconds value) }
  | .expect => do return { g with expect := ← once o g.expect value }

/-- Looks at the value that is pending. -/
def settle (g : Given) : Except Halt Given :=
  match g.pending with
  | none => .ok g
  | some (o, none) => .error (.refused (.missingValue o.name))
  | some (o, some value) => { g with pending := none }.set o value

/-- Takes a switch. -/
def turn (g : Given) (s : Switch) : Except Halt Given := do
  let g ← g.settle
  match s with
  | .verbose => return { g with verbose := g.verbose + 1 }
  | .quiet =>
    if g.quiet then .error (.refused (.repeatedOption "--quiet"))
    else return { g with quiet := true }
  | .stopOnNotFound =>
    if g.stopOnNotFound then .error (.refused (.repeatedOption "--stop-on-not-found"))
    else return { g with stopOnNotFound := true }
  | .version => .error .version
  | .help => .error .help

/-- Takes the switches that share a dash. -/
def turnAll (part : Part) (g : Given) : List Char → Except Halt Given
  | [] => .ok g
  | c :: rest =>
    match part.switch? (String.ofList ['-', c]) with
    | none => .error (.refused (.unknownOption (String.ofList ['-', c])))
    | some s => do turnAll part (← g.turn s) rest

/-- Takes an argument that begins with two dashes; `value` is what follows an equals sign. -/
def takeLong (part : Part) (g : Given) (name : String) (value : Option String) :
    Except Halt Given :=
  match part.valueOption? name with
  | some o => do
    let g ← g.settle
    match value with
    | some value => g.set o value
    | none => return { g with pending := some (o, none) }
  | none =>
    match part.switch? name, value with
    | none, _ => .error (.refused (.unknownOption name))
    | some _, some _ => .error (.refused (.unexpectedValue name))
    | some s, none => g.turn s

/-- Takes an argument that is no option: the value that an option waits for, or else a positional
    argument. -/
def takePlain (part : Part) (g : Given) (argument : String) : Except Halt Given :=
  match g.pending, part with
  | some (o, none), _ => .ok { g with pending := some (o, some argument) }
  | _, .front => .error (.refused (.unknownCommand argument))
  | _, _ => .ok { g with positional := argument :: g.positional }

/-- Takes the arguments that follow `--`. -/
def takeRest (part : Part) (g : Given) : List String → Except Halt Given
  | [] => .ok g
  | argument :: rest =>
    if part = .front then .error (.refused (.unexpectedArgument argument))
    else .ok { g with positional := (argument :: rest).reverse ++ g.positional }

/-- Whether an option still waits for its value. -/
def isWaiting (g : Given) : Bool := g.pending.any (·.2.isNone)

end Given

/-! ### Reading a part -/

/-- The name of a long option and what follows its equals sign, if it has one. -/
def splitLong (argument : String) : String × Option String :=
  let t := argument.toList
  let name := String.ofList (t.takeWhile (· ≠ '='))
  match t.dropWhile (· ≠ '=') with
  | [] => (name, none)
  | _ :: value => (name, some (String.ofList value))

/-- Takes one argument other than `--`. -/
def Given.take (part : Part) (g : Given) (argument : String) : Except Halt Given :=
  match argument.toList with
  | '-' :: '-' :: _ =>
    let (name, value) := splitLong argument
    g.takeLong part name value
  | '-' :: c :: rest => g.turnAll part (c :: rest)
  | _ => g.takePlain part argument

/-- Reads a part. The front ends at the name of a command, which is left with all that follows. -/
def Given.read (part : Part) (g : Given) : List String → Except Halt (Given × List String)
  | [] => .ok (g, [])
  | argument :: rest =>
    if part = .front ∧ !g.isWaiting ∧ isCommandName argument then .ok (g, argument :: rest)
    else if argument = "--" then do return (← g.takeRest part rest, [])
    else
      match g.take part argument with
      | .error halt => .error halt
      | .ok g => g.read part rest

end RegistryProbe.CommandLine
