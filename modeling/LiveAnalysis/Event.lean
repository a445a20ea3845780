namespace LiveAnalysis

inductive Severity where
  | error
  | warning
  | info
  | log
  deriving DecidableEq, Repr

namespace Severity

def all : List Severity :=
  [.error, .warning, .info, .log]

def text : Severity → String
  | .error => "error"
  | .warning => "warning"
  | .info => "info"
  | .log => "log"

def ofText? (s : String) : Option Severity :=
  all.find? (·.text = s)

def level : Severity → String
  | .error => "ERROR"
  | .warning => "WARN"
  | .info => "INFO"
  | .log => "DEBUG"

end Severity

structure Event where
  severity : Severity
  message : String
  deriving DecidableEq, Repr

inductive Sink where
  | listener
  | record
  | nowhere
  deriving DecidableEq, Repr

structure Outlet where
  listening : Bool := true
  received : List Event := []
  recorded : List Event := []
  deriving DecidableEq, Repr

namespace Outlet

def emit (o : Outlet) (sink : Sink) (e : Event) : Outlet :=
  match sink with
  | .listener => if o.listening then { o with received := o.received ++ [e] } else o
  | .record => { o with recorded := o.recorded ++ [e] }
  | .nowhere => o

def leave (o : Outlet) : Outlet :=
  { o with listening := false }

end Outlet

end LiveAnalysis
