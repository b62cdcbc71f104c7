import RegistryProbe.Journal
import RegistryProbe.Text.Decimal

/-! # Log lines

  Some events of a journal have a line in the log. A line tells its level, right-aligned in five
  columns, a message and fields. Its topic is not shown, but lines can be chosen by it.
-/

namespace RegistryProbe

/-- How urgent a log line is. -/
inductive Level where
  /-- Something failed. -/
  | error
  /-- Something is unusual. -/
  | warn
  /-- Something worth knowing. -/
  | info
  /-- A step of the work. -/
  | debug
  /-- A detail of a step. -/
  | trace
deriving DecidableEq, Repr

namespace Level

/-- The levels from the most urgent on. -/
def rank : Level → Nat
  | error => 0
  | warn => 1
  | info => 2
  | debug => 3
  | trace => 4

/-- The name of a level, right-aligned in five columns. -/
def label : Level → String
  | error => "ERROR"
  | warn => " WARN"
  | info => " INFO"
  | debug => "DEBUG"
  | trace => "TRACE"

/-- The number of a level's colour on a terminal. -/
def colour : Level → String
  | error => "31"
  | warn => "33"
  | info => "32"
  | debug => "34"
  | trace => "35"

end Level

/-- What a log line is about. -/
inductive Topic where
  /-- A request on its way. -/
  | transport
  /-- What a response says. -/
  | response
  /-- One probe from its request to its files. -/
  | probe
  /-- The workspace of a scan. -/
  | workspace
  /-- The command that is carried out. -/
  | command
deriving DecidableEq, Repr

/-- The name of a topic, for those who choose lines by it. -/
def Topic.name : Topic → String
  | transport => "registry_check_core::transport"
  | response => "registry_check_core::client"
  | probe => "registry_check_core::call"
  | workspace => "registry_check_core::workspace"
  | command => "registry_check"

/-- A line in the log. -/
structure LogLine where
  /-- What it is about. -/
  topic : Topic
  /-- How urgent it is. -/
  level : Level
  /-- What happened. -/
  message : String
  /-- Names and values of fields. -/
  fields : List (String × String)
deriving DecidableEq, Repr

namespace LogLine

/-- The names of a line's fields. The message counts as one of them. -/
def fieldNames (l : LogLine) : List String := "message" :: l.fields.map Prod.fst

/-- The line without styles. -/
def plain (l : LogLine) : String :=
  l.level.label ++ " " ++ l.message
    ++ String.join (l.fields.map fun f => " " ++ f.1 ++ "=" ++ f.2)

/-- A text in a style of a terminal. -/
def styled (style text : String) : String := "\x1b[" ++ style ++ "m" ++ text ++ "\x1b[0m"

/-- The line in the styles of a terminal. -/
def coloured (l : LogLine) : String :=
  styled l.level.colour l.level.label ++ " " ++ l.message
    ++ String.join (l.fields.map fun f => " " ++ styled "3" f.1 ++ styled "2" "=" ++ f.2)

end LogLine

/-- The log line of an event, for the events that have one. -/
def Event.logLine? : Event → Option LogLine
  | sent r => some ⟨.transport, .debug, r.method.name, [("url", r.url)]⟩
  | received status finalUrl size =>
    some ⟨.transport, .debug, "response received", [("status", Text.Decimal.text status.toNat),
      ("final_url", finalUrl), ("bytes", Text.Decimal.text size)]⟩
  | redirected url finalUrl =>
    some ⟨.probe, .warn, "request was redirected", [("url", url), ("final_url", finalUrl)]⟩
  | saved bodyPath statusPath =>
    some ⟨.probe, .debug, "response saved", [("body", bodyPath), ("status", statusPath)]⟩
  | notJson url => some ⟨.response, .debug, "response body is not JSON", [("url", url)]⟩
  | accepted url status =>
    some ⟨.probe, .debug, "response validated",
      [("url", url), ("status", Text.Decimal.text status.toNat)]⟩
  | workspaceMade path => some ⟨.workspace, .debug, "workspace created", [("path", path)]⟩
  | workspaceClosed path intent =>
    some ⟨.workspace, .debug, "workspace removed", [("path", path), ("intent", intent.name)]⟩
  | detail endpoint text => some ⟨.command, .info, text, [("endpoint", endpoint)]⟩
  | stopped endpoint =>
    some ⟨.command, .warn, "stopping at missing endpoint", [("endpoint", endpoint)]⟩
  | _ => none

end RegistryProbe
