import LiveAnalysis.Json.Value
import LiveAnalysis.Text.Blank
import LiveAnalysis.Text.Decimal
import LiveAnalysis.Text.Quoted

/-!
The settings of the service. They start from their defaults; a client's options go over them, and the
environment goes over both.
-/

namespace LiveAnalysis

structure Config where
  /-- How long a query waits, in milliseconds. -/
  timeout : Nat := 30000
  trace : Bool := false
  updates : Bool := true
  deriving DecidableEq, Repr

abbrev Environment := String → Option String

namespace Config

inductive Complaint where
  | options
  | timeout (raw : String)
  | trace (raw : String)
  deriving DecidableEq, Repr

def timeoutVariable : String :=
  "ANALYSIS_COORDINATOR_TIMEOUT_MS"

def traceVariable : String :=
  "ANALYSIS_COORDINATOR_TRACE"

def Complaint.message : Complaint → String
  | .options => "ignoring invalid initialization options"
  | .timeout raw => s!"ignoring {timeoutVariable}={Text.quoted raw}: not a number of milliseconds"
  | .trace raw => s!"ignoring {traceVariable}={Text.quoted raw}: expected a boolean"

def toJson (c : Config) : Json.Value :=
  .obj [("defaultTimeoutMs", .ofNat c.timeout), ("traceLogging", .bool c.trace),
    ("analysisUpdates", .bool c.updates)]

def logDirective (c : Config) : String :=
  if c.trace then "debug" else "info"

def milliseconds? (v : Json.Value) : Option Nat :=
  v.nat?.filter (· < UInt64.size)

def option? (options : Json.Value) (key : String) (read : Json.Value → Option α) (old : α) : Option α :=
  match options.get? key with
  | none => some old
  | some v => read v

def merged? (c : Config) (options : Json.Value) : Option Config := do
  let timeout ← option? options "defaultTimeoutMs" milliseconds? c.timeout
  let trace ← option? options "traceLogging" Json.Value.bool? c.trace
  let updates ← option? options "analysisUpdates" Json.Value.bool? c.updates
  return { timeout, trace, updates }

/--
Options that are no object have no members and change nothing, and members of other names do not count.
One value of a wrong type spoils them all.
-/
def merge (c : Config) (options : Json.Value) : Config × List Complaint :=
  match c.merged? options with
  | some c => (c, [])
  | none => (c, [.options])

def timeoutOf? (raw : String) : Option Nat :=
  Text.word? (Text.trim raw.toList)

def traceOf? (raw : String) : Option Bool :=
  let word := String.ofList ((Text.trim raw.toList).map Char.toLower)
  if word ∈ ["1", "true", "yes", "on"] then some true
  else if word ∈ ["0", "false", "no", "off", ""] then some false
  else none

def applyTimeout (c : Config) : Option String → Config × List Complaint
  | none => (c, [])
  | some raw =>
    match timeoutOf? raw with
    | some timeout => ({ c with timeout }, [])
    | none => (c, [.timeout raw])

def applyTrace (c : Config) : Option String → Config × List Complaint
  | none => (c, [])
  | some raw =>
    match traceOf? raw with
    | some trace => ({ c with trace }, [])
    | none => (c, [.trace raw])

def applyEnvironment (c : Config) (environment : Environment) : Config × List Complaint :=
  let (c, first) := c.applyTimeout (environment timeoutVariable)
  let (c, second) := c.applyTrace (environment traceVariable)
  (c, first ++ second)

def load (environment : Environment) : Config × List Complaint :=
  applyEnvironment {} environment

end Config

end LiveAnalysis
