import RegistryProbe.Scan
import RegistryProbe.Settings

/-! # What a command line asks for

  The program has two commands. `call` probes one endpoint and keeps its two files, `scan` probes
  several endpoints in a workspace of its own. Besides that it can tell its version and explain
  itself.
-/

namespace RegistryProbe.CommandLine

/-- A command. -/
inductive Command where
  /-- Probes one endpoint; the body goes to `output`. -/
  | call (endpoint expression output : String)
  /-- Probes several endpoints. -/
  | scan (plan : ScanPlan)
deriving DecidableEq, Repr

/-- A command with the options that apply to every command. -/
structure Invocation where
  /-- How to talk to the registry. -/
  settings : Settings
  /-- How much more is logged than warnings. -/
  verbose : Nat
  /-- Whether only errors are logged. -/
  quiet : Bool
  /-- The command. -/
  command : Command
deriving DecidableEq, Repr

/-- What an argument list asks for. -/
inductive Purpose where
  /-- To carry out a command. -/
  | run (invocation : Invocation)
  /-- To tell the version. -/
  | version
  /-- To explain the program. -/
  | help
deriving DecidableEq, Repr

/-- Why an argument list is refused. -/
inductive UsageError where
  /-- There is no such option here. -/
  | unknownOption (name : String)
  /-- An option is given twice in the same part of the list. -/
  | repeatedOption (name : String)
  /-- An option lacks its value. -/
  | missingValue (name : String)
  /-- An option that takes no value has one. -/
  | unexpectedValue (name : String)
  /-- The value of an option is no number. -/
  | badNumber (name value : String)
  /-- A value that must not be empty is. -/
  | emptyValue (name : String)
  /-- Two options exclude each other. -/
  | conflict
  /-- There is no such command. -/
  | unknownCommand (name : String)
  /-- No command is given. -/
  | noCommand
  /-- A command lacks an argument. -/
  | missingArgument (name : String)
  /-- A command has an argument too many. -/
  | unexpectedArgument (value : String)
deriving DecidableEq, Repr

/-- The line that tells a usage error. -/
def UsageError.message : UsageError → String
  | unknownOption name => "unexpected argument '" ++ name ++ "' found"
  | repeatedOption name => "the argument '" ++ name ++ "' cannot be used multiple times"
  | missingValue name => "a value is required for '" ++ name ++ "' but none was supplied"
  | unexpectedValue name => "unexpected value for '" ++ name ++ "' found; no more were expected"
  | badNumber name value => "invalid value '" ++ value ++ "' for '" ++ name ++ "'"
  | emptyValue name => "a value is required for '" ++ name ++ "' but none was supplied"
  | conflict => "the argument '--quiet' cannot be used with '--verbose...'"
  | unknownCommand name => "unrecognized subcommand '" ++ name ++ "'"
  | noCommand => "a subcommand is required but one was not provided"
  | missingArgument name => "the following required arguments were not provided: " ++ name
  | unexpectedArgument value => "unexpected argument '" ++ value ++ "' found"

/-- What the program is called if nothing tells. -/
def defaultProgram : String := "registry-check"

/-- The name of the program, the last name in the path by which it was started. -/
def programName (started : Option String) : String :=
  let names := (Files.PathText.names (started.getD "")).filter (· ≠ ".")
  match names.getLast? with
  | some name => if name = ".." then defaultProgram else name
  | none => defaultProgram

/-- The explanation of the program. -/
def usage : String :=
  "Fetch registry API endpoints and validate the JSON they return\n\n"
    ++ "Usage: registry-check [OPTIONS] call <ENDPOINT> <EXPECT> <OUTPUT>\n"
    ++ "       registry-check [OPTIONS] scan [--expect <EXPECT>] [--stop-on-not-found] "
    ++ "<ENDPOINTS>...\n\n"
    ++ "Options:\n"
    ++ "      --base-url <BASE_URL>      API root the endpoints are appended to\n"
    ++ "      --user-agent <USER_AGENT>  User-Agent header sent with every request\n"
    ++ "      --timeout <SECS>           Per-request timeout in seconds\n"
    ++ "  -v, --verbose...               More log output; repeat for more\n"
    ++ "  -q, --quiet                    Only log errors\n"

/-- Carries out a command. -/
def Command.run (net : Network) (root : ApiRoot) (program : String) (s : Session) :
    Command → Intent × Session
  | .call endpoint expression output => s.call net root program endpoint expression output
  | .scan plan =>
    let (intent, s) := s.scan net root program plan
    (intent.getD .failed, s)

end RegistryProbe.CommandLine
