import RegistryProbe.ApiRoot
import RegistryProbe.Envelope
import RegistryProbe.Session
import RegistryProbe.Verdict

/-! # Probing an endpoint

  A probe asks for one endpoint, saves what arrives and judges it, in this order:

  - The expectation is read. If it cannot be, nothing is sent.
  - One request goes out. If no whole response comes back, no file is touched.
  - The body is written, then the status. If one cannot be written, the response is not judged.
  - The verdict is given. It comes last, so the files never depend on it.
-/

namespace RegistryProbe

/-- What answers requests. The answer may depend on the requests that were sent before. -/
abbrev Network := List Request → Request → Except ProbeError Response

/-- The whole body as the status file holds it: the decimal status and nothing else. -/
def statusBytes (status : UInt16) : Bytes := Bytes.ofText (Text.Decimal.text status.toNat)

/-- A probe to be made. -/
structure Errand where
  /-- The endpoint. -/
  endpoint : String
  /-- The text of the expectation; `none` for the error list. -/
  expression : Option String
  /-- The file for the body. -/
  output : String
deriving DecidableEq, Repr

/-- The errand whose output is seen from a directory. -/
def Errand.inside (base : String) (e : Errand) : Errand :=
  { e with output := Files.PathText.join base e.output }

namespace Session

/-- Sends a request and waits for the answer. -/
def send (net : Network) (request : Request) (s : Session) :
    Except ProbeError Response × Session :=
  match net s.sent request with
  | .error e => (.error e, s.note (.sent request))
  | .ok response =>
    let received := Event.received response.status response.finalUrl response.body.length
    (.ok response, (s.note (.sent request)).note received)

/-- Writes a file, or tells why not. -/
def write (path : String) (content : Bytes) (s : Session) : Except ProbeError Unit × Session :=
  match s.disk.write path content with
  | .error f => (.error (.file .writing path (.fault f)), s)
  | .ok disk => (.ok (), { s with disk := disk })

/-- Writes the body of a response and then its status. -/
def save (output : String) (response : Response) (s : Session) :
    Except ProbeError Unit × Session :=
  match s.write output response.body with
  | (.error e, s) => (.error e, s)
  | (.ok (), s) =>
    match s.write (statusPath output) (statusBytes response.status) with
    | (.error e, s) => (.error e, s)
    | (.ok (), s) => (.ok (), s.note (.saved output (statusPath output)))

/-- Judges a response that has been saved. -/
def judge (request : Request) (response : Response) (expectation : Expectation) (s : Session) :
    Except ProbeError Json × Session :=
  match verdict request response expectation with
  | .ok d => (.ok d, s.note (.accepted request.url response.status))
  | .error e =>
    if (expectation.inForce? response.status).isSome ∧ (Json.ofBytes? response.body).isNone then
      (.error e, s.note (.notJson request.url))
    else (.error e, s)

/-- Notes if a response comes from another address than the one asked. -/
def noteRedirect (request : Request) (response : Response) (s : Session) : Session :=
  if response.wasRedirected request.url then s.note (.redirected request.url response.finalUrl)
  else s

/-- What is found in an accepted response that was saved. -/
def outcome (request : Request) (response : Response) (output : String) (d : Json) : Outcome :=
  { status := response.status
    url := request.url
    finalUrl := response.finalUrl
    bodyPath := output
    statusPath := statusPath output
    errors := if response.status = 404 then Envelope.details d else [] }

/-- Asks for an endpoint, saves the response and judges it. -/
def probe (net : Network) (root : ApiRoot) (endpoint : String) (expectation : Expectation)
    (output : String) (s : Session) : Except ProbeError Outcome × Session :=
  let request := root.request endpoint
  match s.send net request with
  | (.error e, s) => (.error e, s)
  | (.ok response, s) =>
    match (s.noteRedirect request response).save output response with
    | (.error e, s) => (.error e, s)
    | (.ok (), s) =>
      match s.judge request response expectation with
      | (.error e, s) => (.error e, s)
      | (.ok d, s) => (.ok (outcome request response output d), s)

/-- A probe whose expectation is given as a selector's text. -/
def probeText (net : Network) (root : ApiRoot) (endpoint expression output : String)
    (s : Session) : Except ProbeError Outcome × Session :=
  match Expectation.read expression with
  | .error e => (.error e, s)
  | .ok expectation => s.probe net root endpoint expectation output

/-- Makes the probe of an errand. -/
def perform (net : Network) (root : ApiRoot) (e : Errand) (s : Session) :
    Except ProbeError Outcome × Session :=
  match e.expression with
  | some expression => s.probeText net root e.endpoint expression e.output
  | none => s.probe net root e.endpoint .errorList e.output

end Session

end RegistryProbe
