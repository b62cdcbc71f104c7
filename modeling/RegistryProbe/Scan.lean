import RegistryProbe.Scope

/-! # Scanning endpoints

  A scan probes endpoints one after the other, all under one expectation, inside one workspace. It
  prints a line for every accepted response. The first failure ends it, and so does the first 404 if
  it is told to stop there; only a scan that reaches its end marks its work as done.
-/

namespace RegistryProbe

/-- What a scan is asked to do. -/
structure ScanPlan where
  /-- The text of the expectation. -/
  expression : String
  /-- Whether to stop at the first 404. -/
  stopOnNotFound : Bool
  /-- The endpoints in order. -/
  endpoints : List String
deriving DecidableEq, Repr

namespace Session

/-- The line that a scan prints for an accepted response. -/
def scanLine (o : Outcome) (endpoint : String) : String :=
  Text.Decimal.text o.status.toNat ++ " " ++ endpoint

/-- The file for the body of the endpoint at an index. -/
def scanOutput (w : Workspace) (index : Nat) : String :=
  Files.PathText.join w.path (Text.Decimal.text index ++ ".json")

/-- Probes endpoints in order, the first of which has the given index. -/
def scanFrom (net : Network) (root : ApiRoot) (expectation : Expectation) (stop : Bool)
    (w : Workspace) : Nat → List String → Session → Ending × Intent × Session
  | _, [], s => (.returned, w.finish.intent, s)
  | index, endpoint :: endpoints, s =>
    match s.probe net root endpoint expectation (scanOutput w index) with
    | (.error e, s) => (.failed e, w.intent, s)
    | (.ok o, s) =>
      let s := o.errors.foldl (fun s text => s.note (.detail endpoint text)) s
      let s := s.print (scanLine o endpoint)
      if stop && o.isNotFound then (.returned, w.intent, s.note (.stopped endpoint))
      else scanFrom net root expectation stop w (index + 1) endpoints s

/-- Carries out a scan. -/
def scan (net : Network) (root : ApiRoot) (program : String) (plan : ScanPlan) (s : Session) :
    Option Intent × Session :=
  match Expectation.read plan.expression with
  | .error e =>
    let (intent, s) := s.report program e
    (some intent, s)
  | .ok expectation =>
    s.runScope program fun w s =>
      scanFrom net root expectation plan.stopOnNotFound w 0 plan.endpoints s

/-- Probes one endpoint and prints its status. -/
def call (net : Network) (root : ApiRoot) (program endpoint expression output : String)
    (s : Session) : Intent × Session :=
  match s.probeText net root endpoint expression output with
  | (.error e, s) => s.report program e
  | (.ok o, s) => (.completed, s.print (Text.Decimal.text o.status.toNat))

end Session

end RegistryProbe
