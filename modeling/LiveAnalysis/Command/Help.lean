import LiveAnalysis.Command.Invocation

namespace LiveAnalysis.Command

def program : String :=
  "analysis-coordinator"

def versionText : String :=
  s!"{program} 0.1.0\n"

structure Explained where
  shown : String
  brief : String
  full : String
  added : List String := []

def formatOption : Explained where
  shown := "    --format <FORMAT>"
  brief := "Output format"
  full := "Output format.\n  json     JSON (default, best for programmatic use)\n  markdown Human-readable markdown"
  added := ["[default: json]", "[possible values: json, markdown]"]

def plain (shown text : String) : Explained where
  shown := shown
  brief := text
  full := text

def timeoutOption : Explained :=
  plain "-t, --timeout-ms <TIMEOUT_MS>" "Per-file wait bound in milliseconds (default from config)"

def traceOption : Explained :=
  plain "    --trace" "Log at debug level (same as ANALYSIS_COORDINATOR_TRACE=1)"

def helpOption : Explained where
  shown := "-h, --help"
  brief := "Print help (see more with '--help')"
  full := "Print help (see a summary with '-h')"

def versionOption : Explained :=
  plain "-V, --version" "Print version"

def filesOperand : Explained :=
  plain "<FILES>..." "Files to analyze"

def lines (texts : List String) : String :=
  "\n".intercalate texts

def spaces (n : Nat) : String :=
  String.ofList (List.replicate n ' ')

def briefText (e : Explained) : String :=
  " ".intercalate (e.brief :: e.added)

def fullText (e : Explained) : String :=
  let text := if e.added.isEmpty then e.full else e.full ++ "\n\n" ++ lines e.added
  ("\n" ++ spaces 10).intercalate (text.splitOn "\n")

def fullSection (heading : String) (es : List Explained) : String :=
  let paragraph (e : Explained) : String := "  " ++ e.shown ++ "\n" ++ spaces 10 ++ fullText e
  heading ++ ":\n" ++ "\n\n".intercalate (es.map paragraph)

def briefSection (heading : String) (es : List Explained) : String :=
  let width := (es.map (·.shown.length)).foldl max 0
  let line (e : Explained) : String :=
    "  " ++ e.shown ++ spaces (width - e.shown.length + 2) ++ briefText e
  heading ++ ":\n" ++ lines (es.map line)

def commands : List Explained :=
  [plain "analyze" "Analyze files and print one report per file",
   plain "lsp" "Start the Language Server Protocol server (stdio)",
   plain "help" "Print this message or the help of the given subcommand(s)"]

def programAbout : String :=
  lines
    ["Keeps a background analysis of every open document up to date and answers queries only from an "
      ++ "analysis of the current version.",
     "",
     "Examples:",
     "  analysis-coordinator analyze module.py other.py",
     "  analysis-coordinator analyze module.py --timeout-ms 500 --format markdown",
     "  analysis-coordinator lsp"]

def analyzeAbout : String :=
  lines
    ["Open each file, wait for its analysis and print a report.",
     "",
     "A file whose analysis fails (for example unbalanced brackets) is",
     "reported as timed out: failures are logged, never returned to waiters.",
     "",
     "Examples:",
     "  analysis-coordinator analyze module.py",
     "  analysis-coordinator analyze a.py b.py --timeout-ms 2000"]

def page (parts : List String) : String :=
  "\n\n".intercalate parts ++ "\n"

def programOptions : List Explained :=
  [formatOption, traceOption, helpOption, versionOption]

def analyzeOptions : List Explained :=
  [formatOption, timeoutOption, traceOption, helpOption]

def lspOptions : List Explained :=
  [formatOption, traceOption, helpOption]

def usage (form : String) : String :=
  s!"Usage: {program} {form}"

def helpText : Topic → Bool → String
  | .program, true =>
    page ["Versioned background analysis for open documents", usage "[OPTIONS] <COMMAND>",
      briefSection "Commands" commands, briefSection "Options" programOptions]
  | .program, false =>
    page [programAbout, usage "[OPTIONS] <COMMAND>", briefSection "Commands" commands,
      fullSection "Options" programOptions]
  | .analyze, true =>
    page ["Analyze files and print one report per file", usage "analyze [OPTIONS] <FILES>...",
      briefSection "Arguments" [filesOperand], briefSection "Options" analyzeOptions]
  | .analyze, false =>
    page [analyzeAbout, usage "analyze [OPTIONS] <FILES>...", fullSection "Arguments" [filesOperand],
      fullSection "Options" analyzeOptions]
  | .lsp, true =>
    page ["Start the Language Server Protocol server (stdio)", usage "lsp [OPTIONS]",
      briefSection "Options" lspOptions]
  | .lsp, false =>
    page ["Start the Language Server Protocol server (stdio)", usage "lsp [OPTIONS]",
      fullSection "Options" lspOptions]
  | .help, _ =>
    page ["Print this message or the help of the given subcommand(s)", usage "help [COMMAND]...",
      briefSection "Arguments" [plain "[COMMAND]..." "Print help for the subcommand(s)"]]

end LiveAnalysis.Command
