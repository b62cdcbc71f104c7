import RegistryProbe.Files.Fault
import RegistryProbe.Http
import RegistryProbe.Text.Decimal
import RegistryProbe.Text.Quoted

/-! # Why a probe fails

  A probe fails because of what the registry answered, because no whole answer arrived, because of
  the files, or because the caller's expectation cannot be read. Only the first kind carries a body,
  and no failure is ever tried again.
-/

namespace RegistryProbe

/-- Why no response arrived. -/
inductive TransportCause where
  /-- The host has no address. -/
  | hostNotFound
  /-- Redirects did not end. -/
  | tooManyRedirects
  /-- No connection could be made. -/
  | connectionFailed
  /-- The time for the request ran out. -/
  | timedOut
  /-- Sending or receiving failed. -/
  | io (text : String)
  /-- The address cannot be used. -/
  | badUri (text : String)
  /-- The request cannot be formed. -/
  | malformed (text : String)
  /-- The agent's own name cannot be the value of a header. -/
  | badHeaderValue
deriving DecidableEq, Repr

/-- The text of a cause. -/
def TransportCause.message : TransportCause → String
  | hostNotFound => "host not found"
  | tooManyRedirects => "too many redirects"
  | connectionFailed => "connection failed"
  | timedOut => "timeout: global"
  | io text => "io: " ++ text
  | badUri text => "bad uri: " ++ text
  | malformed text => "http: " ++ text
  | badHeaderValue => "protocol: bad header: " ++ HeaderFault.value.message

/-- What was being done to a path when it failed. -/
inductive FileAction where
  /-- Writing a file. -/
  | writing
  /-- Reading a file. -/
  | reading
  /-- Making a workspace directory below the path. -/
  | creatingWorkspace
  /-- Removing the workspace directory at the path. -/
  | removingWorkspace
deriving DecidableEq, Repr

/-- The words for an action in front of its path. -/
def FileAction.phrase : FileAction → String
  | writing => "writing"
  | reading => "reading"
  | creatingWorkspace => "creating workspace in"
  | removingWorkspace => "removing workspace"

/-- Why an action on a path failed. -/
inductive FileCause where
  /-- The operation itself failed. -/
  | fault (f : Files.Fault)
  /-- The operation failed at a path that is told besides. -/
  | faultAt (f : Files.Fault) (path : String)
  /-- Another cause, given by its text. -/
  | other (text : String)
deriving DecidableEq, Repr

/-- The text of a cause. -/
def FileCause.message : FileCause → String
  | fault f => f.message
  | faultAt f path => f.message ++ " at path " ++ Text.Quoted.quote path
  | other text => text

/-- Why a probe fails. -/
inductive ProbeError where
  /-- The status was neither 200 nor 404. -/
  | unexpectedStatus (status : UInt16) (url : String) (body : Bytes)
  /-- The body is no document, or the expectation in force does not hold on it. -/
  | mismatch (url : String) (expectation : String) (body : Bytes)
  /-- The text of an expectation is no selector. -/
  | invalidExpectation (expression : String) (reason : String)
  /-- No response arrived. -/
  | transport (url : String) (cause : TransportCause)
  /-- A response arrived, but its body could not be read to the end. -/
  | bodyRead (url : String) (cause : String)
  /-- A file operation failed. -/
  | file (action : FileAction) (path : String) (cause : FileCause)
deriving DecidableEq, Repr

namespace ProbeError

/-- The line that tells the failure. -/
def message : ProbeError → String
  | unexpectedStatus status url _ =>
    "unexpected HTTP status " ++ Text.Decimal.text status.toNat ++ " from " ++ url
  | mismatch url expectation _ =>
    "response from " ++ url ++ " does not satisfy `" ++ expectation ++ "`"
  | invalidExpectation expression reason =>
    "invalid expectation `" ++ expression ++ "`: " ++ reason
  | transport url cause => "request to " ++ url ++ " failed: " ++ cause.message
  | bodyRead url cause => "reading response body from " ++ url ++ " failed: " ++ cause
  | file action path cause =>
    "error while " ++ action.phrase ++ " " ++ path ++ ": " ++ cause.message

/-- The body of the response that caused the failure, for the failures that have one. -/
def body? : ProbeError → Option Bytes
  | unexpectedStatus _ _ body => some body
  | mismatch _ _ body => some body
  | _ => none

end ProbeError

end RegistryProbe
