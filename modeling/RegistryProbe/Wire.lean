import RegistryProbe.Agent

/-! # Messages on a connection

  An agent that asks on a fresh connection every time and reads what arrives until the other side
  closes. This module holds what such an agent sends and how it reads a reply:

  - The head of a reply ends at the first empty line.
  - The body has the length that the head gives, or comes in chunks that give their own lengths, or
    goes on to the end of the reply. A reply that ends before its body does is broken off.
  - A redirect is followed to the place that the head names, at most `maxRedirects` times.
-/

namespace RegistryProbe.Wire

/-! ### The request -/

/-- What an agent of a name sends to ask for a URI. -/
def requestText (name : String) (request : Request) (u : Uri) : String :=
  let target := u.effectivePath ++ (u.query.map ("?" ++ ·)).getD ""
  let own := (request.agentName? name).toList.map ("user-agent", ·)
  let headers := [("host", u.authority)] ++ own ++ request.headers ++ [("connection", "close")]
  request.method.name ++ " " ++ target ++ " HTTP/1.1\r\n"
    ++ String.join (headers.map fun h => h.1 ++ ": " ++ h.2 ++ "\r\n") ++ "\r\n"

/-- The host that a URI names and the number of the service there, which is the one of the scheme
    if none is given. -/
def hostAndService (u : Uri) : String × Nat :=
  let t := (u.authority.toList.reverse.takeWhile (· ≠ '@')).reverse
  let digits := (t.reverse.takeWhile Text.Decimal.isDigit).reverse
  let name := t.take (t.length - digits.length)
  let usual := (u.scheme.bind Agent.service?).getD 80
  match name.getLast?, Text.Decimal.readBelow? UInt16.size digits with
  | some ':', some service => (String.ofList name.dropLast, service)
  | some ':', none => (String.ofList name.dropLast, usual)
  | _, _ => (String.ofList t, usual)

/-! ### The head of a reply -/

/-- A line without the carriage return at its end, given and taken with the last byte first. -/
def withoutReturn : Bytes → Bytes
  | 0x0D :: line => line
  | line => line

/-- Splits a reply after its first empty line. The lines in front are given in order, `done` and
    `line` hold the lines and the bytes of the current line so far, the last one first. -/
def headFrom (done : List Bytes) (line : Bytes) : Bytes → Option (List Bytes × Bytes)
  | [] => none
  | 0x0A :: rest =>
    match withoutReturn line with
    | [] => some (done.reverse, rest)
    | line => headFrom (line.reverse :: done) [] rest
  | b :: rest => headFrom done (b :: line) rest

/-- The status that the first line of a reply tells. -/
def status? (line : Bytes) : Option UInt16 := do
  let text := (← Bytes.text? line).toList
  if "HTTP/1.".toList.isPrefixOf text then
    let digits := ((text.dropWhile (· ≠ ' ')).dropWhile (· = ' ')).takeWhile (· ≠ ' ')
    if digits.length = 3 then
      let n ← Text.Decimal.readBelow? 1000 digits
      if 100 ≤ n then return n.toUInt16
  none

/-- A byte with a letter in lower case. -/
def lowerByte (b : UInt8) : UInt8 := if 0x41 ≤ b && b ≤ 0x5A then b + 0x20 else b

/-- A space or tab. -/
def isPadding (b : UInt8) : Bool := b == 0x20 || b == 0x09

/-- The name and value of a header line. -/
def header? (line : Bytes) : Option (String × Bytes) := do
  let name ← Bytes.text? ((line.takeWhile (· ≠ 0x3A)).map lowerByte)
  let value := (line.dropWhile (· ≠ 0x3A)).drop 1
  let value := ((value.dropWhile isPadding).reverse.dropWhile isPadding).reverse
  if 0x3A ∈ line ∧ name ≠ "" then return (name, value) else none

/-! ### The body of a reply -/

/-- The length of a chunk, which its first line gives in hexadecimal. -/
def chunkLength? (line : Bytes) : Option Nat := do
  let digits := line.takeWhile fun b => b ≠ 0x3B ∧ !isPadding b
  if digits = [] then none
  else
    digits.foldlM (fun n b => do
      let d ← Text.Hex.digitValue? (Char.ofNat b.toNat)
      return n * 16 + d) 0

/-- Splits a text after its first line; the line is given without its end. -/
def lineFrom (line : Bytes) : Bytes → Option (Bytes × Bytes)
  | [] => none
  | 0x0A :: rest => some ((withoutReturn line).reverse, rest)
  | b :: rest => lineFrom (b :: line) rest

/-- What is told of a body that breaks off. -/
def brokenOff : String := "peer disconnected"

/-- The chunks at the front of a text, at most so many, and whether the body broke off there. -/
def chunks : Nat → Bytes → List Bytes × Option String
  | 0, _ => ([], some brokenOff)
  | most + 1, t =>
    match lineFrom [] t with
    | none => ([], some brokenOff)
    | some (line, rest) =>
      match chunkLength? line with
      | none => ([], some "chunk expected")
      | some 0 => ([], none)
      | some n =>
        if rest.length < n then ([rest], some brokenOff)
        else
          match lineFrom [] (rest.drop n) with
          | some ([], rest') =>
            let (more, broken) := chunks most rest'
            (rest.take n :: more, broken)
          | _ => ([rest.take n], some brokenOff)

/-- The value of the first header of a name. -/
def value? (name : String) (headers : List (String × Bytes)) : Option String :=
  (headers.lookup name).bind Bytes.text?

/-- The pieces of a body and whether it broke off. -/
def bodyOf (status : UInt16) (headers : List (String × Bytes)) (t : Bytes) :
    List Bytes × Option String :=
  if status < 200 || status = 204 || status = 304 then ([], none)
  else if (value? "transfer-encoding" headers).any (·.toLower.endsWith "chunked") then
    chunks t.length t
  else
    match (value? "content-length" headers).bind fun s => Text.Decimal.read? s.toList with
    | none => ([t], none)
    | some n => if t.length < n then ([t], some brokenOff) else ([t.take n], none)

/-- The delivery that a reply to a URI makes. -/
def delivery (u : Uri) (reply : Bytes) : Except TransportCause Delivery :=
  match headFrom [] [] reply with
  | none => .error (.io brokenOff)
  | some (lines, rest) =>
    match lines with
    | [] => .error (.malformed "missing status line")
    | first :: others =>
      match status? first, others.mapM header? with
      | some status, some headers =>
        let (pieces, broken) := bodyOf status headers rest
        .ok ⟨status, headers, u, pieces, broken⟩
      | _, _ => .error (.malformed "invalid head")

/-! ### Redirects -/

/-- How many redirects are followed. -/
def maxRedirects : Nat := 10

/-- A path without what follows its last slash. -/
def directoryOf (path : String) : List Char :=
  (path.toList.reverse.dropWhile (· ≠ '/')).reverse

/-- The URI that a location names when it is given by another one. -/
def resolve (u : Uri) (location : String) : Except Uri.Fault Uri :=
  let t := location.toList
  let origin := (u.scheme.getD "http") ++ "://" ++ u.authority
  if "//".toList.isPrefixOf t then Uri.read ((u.scheme.getD "http") ++ ":" ++ location)
  else if t.head? = some '/' then Uri.read (origin ++ location)
  else
    match Uri.scheme? t with
    | .ok (some _, _) => Uri.read location
    | _ => Uri.read (origin ++ String.ofList (directoryOf u.effectivePath) ++ location)

/-- The location to which a delivery sends its receiver on. -/
def Delivery.location? (d : Delivery) : Option String :=
  if [301, 302, 303, 307, 308].contains d.status then value? "location" d.headers else none

/-- Asks for a URI and follows redirects, at most so many. -/
def ask {m : Type → Type} [Monad m] (converse : Uri → m (Except TransportCause Bytes)) :
    Nat → Uri → m (Except TransportCause Delivery)
  | redirects, u => do
    match ← converse u with
    | .error cause => return .error cause
    | .ok reply =>
      match delivery u reply with
      | .error cause => return .error cause
      | .ok d =>
        match Delivery.location? d with
        | none => return .ok d
        | some location =>
          match redirects with
          | 0 => return .error .tooManyRedirects
          | redirects + 1 =>
            match resolve u location with
            | .error f => return .error (.malformed f.message)
            | .ok next => ask converse redirects next

end RegistryProbe.Wire
