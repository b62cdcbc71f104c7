import RegistryProbe.Probe
import RegistryProbe.Uri.Reader

/-! # The round trip over HTTP

  An HTTP agent follows redirects and hands back the last response, whose body then arrives piece by
  piece. What the agent does is taken as given; this module says what becomes of it:

  - An address that is no URI, or whose scheme stands for no service, is not asked at all. Neither
    is any other one if a header of the request or the agent's own name cannot be sent.
  - The body is copied reading by reading. If it ends cleanly, the copy is the body, however many
    bytes it has.
  - If the body breaks off, nothing of it is kept.
-/

namespace RegistryProbe

/-- The last response as the agent hands it back. -/
structure Delivery where
  /-- The status code. -/
  status : UInt16
  /-- Header names and the bytes of their values. -/
  headers : List (String × Bytes)
  /-- The URI of the last request that was sent. -/
  servedFrom : Uri
  /-- The pieces of the body in the order in which they arrive. -/
  pieces : List Bytes
  /-- Why the body broke off after these pieces; `none` if it ended cleanly. -/
  broken : Option String
deriving DecidableEq, Repr

/-- The readings of a delivered body: its pieces, and at the end the failure if it breaks off. -/
def Delivery.readings (d : Delivery) : List (Except String Bytes) :=
  d.pieces.map .ok ++ d.broken.toList.map .error

/-- Puts what a reading gives behind what has been copied. -/
def takeReading (copied : Bytes) (reading : Except String Bytes) : Except String Bytes :=
  reading.map (copied ++ ·)

/-- Copies a body reading by reading. The first one that fails ends the copying, and what has been
    copied is dropped. -/
def copyReadings (readings : List (Except String Bytes)) : Except String Bytes :=
  readings.foldlM takeReading []

/-- An agent that makes requests. -/
structure Agent where
  /-- The name that it gives itself. -/
  name : String
  /-- What it does with a URI. -/
  ask : Uri → Except TransportCause Delivery

namespace Agent

/-- The number of the service that a scheme stands for: HTTP itself, or a proxy for it. The case of
    the letters plays no role. -/
def service? (scheme : String) : Option Nat :=
  match scheme.toLower with
  | "http" => some 80
  | "https" => some 443
  | "socks" | "socks4" | "socks4a" | "socks5" => some 1080
  | _ => none

/-- The URI to which a request of an agent goes. Of several faults the first one in this order is
    told: of the address as a text, of a header, of the agent's own name, of the scheme. -/
def target (name : String) (request : Request) : Except TransportCause Uri :=
  match Uri.read request.url, request.headers.findSome? headerFault? with
  | .error f, _ => .error (.malformed f.message)
  | .ok _, some f => .error (.malformed f.message)
  | .ok u, none =>
    if (request.agentName? name).any (!isHeaderValue ·) then .error .badHeaderValue
    else
      match u.scheme with
      | none => .error (.badUri (u.text ++ " is missing scheme"))
      | some scheme =>
        match service? scheme with
        | some _ => .ok u
        | none => .error (.badUri ("unknown scheme: " ++ scheme))

/-- The value of a header if it is visible ASCII. -/
def visibleValue? (value : Bytes) : Option String :=
  if value.all fun b => (0x20 ≤ b && b ≤ 0x7E) || b == 0x09 then Bytes.text? value else none

/-- The headers whose values are visible ASCII. -/
def visibleHeaders (headers : List (String × Bytes)) : List (String × String) :=
  headers.filterMap fun h => (visibleValue? h.2).map (h.1, ·)

/-- What an agent has for a request: a delivery, or the reason why there is none. -/
def reply (agent : Agent) (request : Request) : Except TransportCause Delivery :=
  (target agent.name request).bind agent.ask

/-- The round trip of a request: the whole response, or the error that kept it away. -/
def execute (agent : Agent) (request : Request) : Except ProbeError Response :=
  match agent.reply request with
  | .error cause => .error (.transport request.url cause)
  | .ok delivery =>
    match copyReadings delivery.readings with
    | .error cause => .error (.bodyRead request.url cause)
    | .ok body =>
      .ok { status := delivery.status
            headers := visibleHeaders delivery.headers
            body := body
            finalUrl := delivery.servedFrom.text }

/-- The network that an agent reaches. -/
def network (agent : Agent) : Network := fun _ request => agent.execute request

/-- An agent on a host without a route to any other. -/
def unreachable (name : String) : Agent :=
  ⟨name, fun _ => .error (.io "Network is unreachable (os error 101)")⟩

end Agent

end RegistryProbe
