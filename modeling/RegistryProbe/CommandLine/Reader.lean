import RegistryProbe.CommandLine.Part

/-! # Reading a command line

  The options that apply to every command may stand in either part. If both parts give one, the part
  that follows the command counts, for verbosity too. The address of the API root may also come from
  the environment, which counts less than either part. That quiet and verbose exclude each other
  is asked of each part by itself.
-/

namespace RegistryProbe.CommandLine

/-- Ends a part: looks at the value that is pending and at what excludes each other. -/
def Given.close (g : Given) : Except Halt Given := do
  let g ← g.settle
  if g.quiet ∧ 0 < g.verbose then .error (.refused .conflict) else return g

/-- The command that a part gives. -/
def Given.command (part : Part) (g : Given) : Except UsageError Command :=
  match part, g.positional.reverse with
  | .front, _ => .error .noCommand
  | .call, [] => .error (.missingArgument "<ENDPOINT>")
  | .call, [_] => .error (.missingArgument "<EXPECT>")
  | .call, [_, _] => .error (.missingArgument "<OUTPUT>")
  | .call, [endpoint, expression, output] =>
    if output = "" then .error (.emptyValue "<OUTPUT>")
    else .ok (.call endpoint expression output)
  | .call, _ :: _ :: _ :: extra :: _ => .error (.unexpectedArgument extra)
  | .scan, [] => .error (.missingArgument "<ENDPOINTS>...")
  | .scan, endpoints => .ok (.scan ⟨g.expect.getD ".", g.stopOnNotFound, endpoints⟩)

/-- The invocation that two parts give for a command. -/
def invocation (environmentUrl : Option String) (front part : Given) (command : Command) :
    Invocation :=
  let defaults : Settings := {}
  { settings :=
      { baseUrl := (part.baseUrl <|> front.baseUrl <|> environmentUrl).getD defaults.baseUrl
        userAgent := (part.userAgent <|> front.userAgent).getD defaults.userAgent
        timeout := part.timeout <|> front.timeout }
    verbose := if part.verbose = 0 then front.verbose else part.verbose
    quiet := part.quiet || front.quiet
    command := command }

/-- Reads what follows the name of a command. -/
def readCommand (environmentUrl : Option String) (front : Given) (part : Part)
    (arguments : List String) : Except Halt Invocation := do
  let (given, _) ← ({} : Given).read part arguments
  let given ← given.close
  match given.command part with
  | .error e => .error (.refused e)
  | .ok command =>
    let front ← front.close
    return invocation environmentUrl front given command

/-- Reads the names behind the command that explains the program: at most one, that of a
    command. -/
def readHelp : List String → Halt
  | [] => .help
  | name :: rest =>
    if !isCommandName name then .refused (.unknownCommand name)
    else
      match rest with
      | [] => .help
      | extra :: _ => .refused (.unknownCommand extra)

/-- Reads an argument list up to where reading stops. -/
def readAll (environmentUrl : Option String) (arguments : List String) :
    Except Halt Invocation := do
  let (front, rest) ← ({} : Given).read .front arguments
  match rest with
  | [] =>
    let _ ← front.close
    .error (.refused .noCommand)
  | name :: rest =>
    match Part.named? name with
    | some part => readCommand environmentUrl front part rest
    | none => .error (readHelp rest)

/-- Reads an argument list. The address of the registry may also come from the environment. -/
def read (environmentUrl : Option String) (arguments : List String) :
    Except UsageError Purpose :=
  match readAll environmentUrl arguments with
  | .ok i => .ok (.run i)
  | .error .version => .ok .version
  | .error .help => .ok .help
  | .error (.refused e) => .error e

end RegistryProbe.CommandLine
