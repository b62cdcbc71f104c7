import RegistryProbe.CommandLine.Reader
import RegistryProbe.LogFilter.Reader
import RegistryProbe.Transcript
import RegistryProbe.Wire
import Std.Async

/-! # The program

  The outermost layer: it reads arguments and environment, lets requests go out, and carries what a
  session did over to the real files and streams. A session is carried out anew whenever an answer
  has come in, with all answers so far, until it asks for nothing more; what it does is a function
  of the answers alone.
-/

namespace RegistryProbe.Main

open Std.Async CommandLine

/-! ### Requests -/

/-- Receives until the other side closes. -/
partial def receiveAll (client : TCP.Socket.Client) (done : ByteArray) : Async ByteArray := do
  match ← client.recv? 65536 with
  | some piece => receiveAll client (done ++ piece)
  | none => return done

/-- Sends a request on a fresh connection and receives the reply. -/
def exchange (name : String) (request : RegistryProbe.Request) (u : Uri) : Async Bytes := do
  let (host, service) := Wire.hostAndService u
  let addresses ← DNS.getAddrInfo host (toString service)
  let client ← TCP.Socket.Client.mk
  match (addresses[0]? : Option Std.Net.IPAddr) with
  | some (.v4 address) => client.connect (.v4 ⟨address, service.toUInt16⟩)
  | some (.v6 address) => client.connect (.v6 ⟨address, service.toUInt16⟩)
  | none => throw (IO.userError "host not found")
  client.send (Wire.requestText name request u).toUTF8
  return (← receiveAll client .empty).data.toList

/-- Sends a request and receives the reply. Only plain connections can be made. -/
def converse (name : String) (request : RegistryProbe.Request) (u : Uri) :
    Async (Except TransportCause Bytes) := do
  if u.scheme = some "https" then return .error .connectionFailed
  try
    return .ok (← exchange name request u)
  catch e =>
    return .error (.io (toString e))

instance : Inhabited (Except TransportCause Delivery) := ⟨.error .timedOut⟩

/-- The last response to a URI, or none in time if the time is limited to so many seconds. -/
def within (limit : Option Nat) (work : Async (Except TransportCause Delivery)) :
    Async (Except TransportCause Delivery) :=
  match limit with
  | none => work
  | some seconds =>
    Async.race work do
      sleep (.ofNat (seconds * 1000))
      return .error .timedOut

/-- The round trip of a request. -/
def roundTrip (settings : Settings) (request : RegistryProbe.Request) :
    IO (Except ProbeError Response) := do
  let name := settings.userAgent
  let delivery ← match Agent.target name request with
    | .error cause => pure (.error cause)
    | .ok u =>
      (within settings.timeout (Wire.ask (converse name request) Wire.maxRedirects u)).block
  return Agent.execute ⟨name, fun _ => delivery⟩ request

/-! ### Carrying out a command -/

/-- Carries out a command with the answers so far, and anew after each further answer. -/
partial def attend (i : Invocation) (program : String) (s : Session)
    (answers : List (Except ProbeError Response)) : IO (Intent × Session) := do
  let net : Network := fun sent request =>
    answers.getD sent.length (.error (.transport request.url .connectionFailed))
  let (intent, s') := i.command.run net (ApiRoot.ofUrl i.settings.baseUrl) program s
  match s'.sent[answers.length]? with
  | none => return (intent, s')
  | some request =>
    let answer ← roundTrip i.settings request
    attend i program s (answers ++ [answer])

/-- The change that puts at a path of a model what really stands there. -/
def standing (path : String) : IO (List Files.Change) := do
  let exists? (path : String) : IO Bool := do
    try
      discard <| IO.FS.realPath path
      return true
    catch _ => return false
  if ← exists? (path ++ "/.") then return [.makeDirectories path]
  else if ← exists? path then return [.write path []]
  else return []

/-- The paths whose files a command depends on. -/
def touched (temp : String) : Command → List String
  | .call _ _ output => [output, statusPath output]
  | .scan _ => [temp]

/-- Carries the files of a command over; those of a scan are gone at its end. -/
def commit (s : Session) : Command → IO Unit
  | .call _ _ output =>
    for path in [output, statusPath output] do
      match s.disk.look? path with
      | some (.file content) => IO.FS.writeBinFile path ⟨content.toArray⟩
      | _ => pure ()
  | .scan _ => pure ()

/-- Shows what a session tells, in the order in which it happened. -/
def tell (m : Manner) (s : Session) : IO Unit := do
  for u in s.transcript m do
    let stream ← match u.channel with
      | .results => IO.getStdout
      | .remarks => IO.getStderr
    stream.write ⟨u.text.toArray⟩
    stream.flush

/-- The session in which a command starts. -/
def startSession (command : Command) : IO Session := do
  let home := toString (← IO.currentDir)
  let temp := (← IO.getEnv "TMPDIR").getD "/tmp"
  let paths := (touched temp command).flatMap fun path =>
    Files.PathText.along (Files.PathText.join home path)
  let changes ← paths.mapM standing
  let seed ← IO.rand 0 999999
  return .start home temp changes.flatten fun n => .numbered (seed + n)

/-- Carries out an invocation and gives the status of the process. -/
def carryOut (i : Invocation) : IO UInt32 := do
  let program := programName (some (toString (← IO.appPath)))
  let before ← startSession i.command
  let (intent, after) ← attend i program before []
  let (intent, after) ← try
      commit after i.command
      pure (intent, after)
    catch e =>
      -- the model of the files did not see this coming, so the files have the last word
      let path := (touched before.temp i.command).headD ""
      let text := ((toString e).splitOn "\n").headD ""
      pure (before.report program (.file .writing path (.other text)))
  let plain := ((← IO.getEnv "NO_COLOR").getD "") ≠ ""
  let filter := LogFilter.choose (← IO.getEnv "RUST_LOG") i.quiet i.verbose
  tell ⟨filter, plain⟩ after
  return intent.exitStatus

end RegistryProbe.Main

open RegistryProbe in
/-- Reads the arguments and does what they ask for. -/
def main (arguments : List String) : IO UInt32 := do
  match CommandLine.read (← IO.getEnv "REGISTRY_API_URL") arguments with
  | .error e =>
    (← IO.getStderr).putStrLn ("error: " ++ e.message)
    return 2
  | .ok .version =>
    IO.println (CommandLine.defaultProgram ++ " " ++ programVersion)
    return 0
  | .ok .help =>
    IO.print CommandLine.usage
    return 0
  | .ok (.run i) => Main.carryOut i
