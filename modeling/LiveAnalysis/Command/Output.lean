import LiveAnalysis.Batch
import LiveAnalysis.Command.Help
import LiveAnalysis.Json.Printer

namespace LiveAnalysis.Command

structure Output where
  code : Nat
  text : String
  deriving DecidableEq, Repr

def Stop.output : Stop → Output
  | .wrongUsage => ⟨2, ""⟩
  | .version => ⟨0, versionText⟩
  | .help topic brief => ⟨0, helpText topic brief⟩

def render (format : Format) (reports : List Report) : String :=
  match format with
  | .json => (Json.Value.ofList Report.toJson reports).pretty ++ "\n"
  | .markdown => markdown reports

def reportOutput (format : Format) (reports : List Report) : Output where
  code := if reports.all (·.error.isNone) then 0 else 1
  text := render format reports

def settings (i : Invocation) (environment : Environment) : Config :=
  let (config, _) := Config.load environment
  { config with trace := config.trace || i.trace }

def analyze (i : Invocation) (config : Config) (timeout : Option Nat) (now : Time.Instant) (files : List File) :
    Output × List Event :=
  let (reports, events) := Batch.run config (timeout.getD config.timeout) now files
  (reportOutput i.format reports, events)

end LiveAnalysis.Command
