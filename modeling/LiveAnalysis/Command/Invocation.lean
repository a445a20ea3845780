import LiveAnalysis.Command.Item
import LiveAnalysis.Text.Decimal

/-!
What a command line asks for. It is read from left to right, and the first thing that ends the reading
counts: a request for help or for the version, or a mistake.
-/

namespace LiveAnalysis.Command

inductive Format where
  | json
  | markdown
  deriving DecidableEq, Repr

inductive Topic where
  | program
  | analyze
  | lsp
  | help
  deriving DecidableEq, Repr

inductive Task where
  | analyze (files : List String) (timeout : Option Nat)
  | serve
  deriving DecidableEq, Repr

structure Invocation where
  format : Format
  trace : Bool
  task : Task
  deriving DecidableEq, Repr

inductive Stop where
  | wrongUsage
  | version
  | help (topic : Topic) (brief : Bool)
  deriving DecidableEq, Repr

structure Given where
  format : Option Format := none
  trace : Bool := false
  timeout : Option Nat := none
  files : List String := []
  deriving DecidableEq, Repr

def formatOf? (name : String) : Option Format :=
  if name = "json" then some .json else if name = "markdown" then some .markdown else none

def formatSpec : Spec := { long := "format", takesValue := true }

def traceSpec : Spec := { long := "trace" }

def helpSpec : Spec := { long := "help", short := some 'h' }

def versionSpec : Spec := { long := "version", short := some 'V' }

def timeoutSpec : Spec := { long := "timeout-ms", short := some 't', takesValue := true }

def Given.add (g : Given) (topic : Topic) : Item → Except Stop Given
  | .wrong => .error .wrongUsage
  | .operand file =>
    if topic = .analyze ∧ !file.isEmpty then .ok { g with files := g.files ++ [file] } else .error .wrongUsage
  | .flag "help" brief => .error (.help topic brief)
  | .flag "version" _ => .error .version
  | .flag _ _ => if g.trace then .error .wrongUsage else .ok { g with trace := true }
  | .option "format" value =>
    match g.format, formatOf? value with
    | none, some format => .ok { g with format := some format }
    | _, _ => .error .wrongUsage
  | .option _ value =>
    match g.timeout, Text.word? value.toList with
    | none, some timeout => .ok { g with timeout := some timeout }
    | _, _ => .error .wrongUsage

def Given.ofItems (topic : Topic) (items : List Item) : Except Stop Given :=
  items.foldlM (fun g i => g.add topic i) {}

def invocation (outer inner : Given) (task : Task) : Invocation where
  format := (inner.format <|> outer.format).getD .json
  trace := outer.trace || inner.trace
  task := task

def readAnalyze (outer : Given) (arguments : List String) : Except Stop Invocation := do
  let inner ← Given.ofItems .analyze (items [formatSpec, timeoutSpec, traceSpec, helpSpec] arguments)
  if inner.files.isEmpty then .error .wrongUsage
  else .ok (invocation outer inner (.analyze inner.files inner.timeout))

def readLsp (outer : Given) (arguments : List String) : Except Stop Invocation := do
  let inner ← Given.ofItems .lsp (items [formatSpec, traceSpec, helpSpec] arguments)
  return invocation outer inner .serve

def helpTopic : List String → Stop
  | [] => .help .program false
  | ["analyze"] => .help .analyze false
  | ["lsp"] => .help .lsp false
  | ["help"] => .help .help false
  | _ => .wrongUsage

def read (arguments : List String) : Except Stop Invocation := do
  let (items, rest) := leading [formatSpec, traceSpec, helpSpec, versionSpec] arguments
  let outer ← Given.ofItems .program items
  match rest with
  | "analyze" :: rest => readAnalyze outer rest
  | "lsp" :: rest => readLsp outer rest
  | "help" :: rest => .error (helpTopic rest)
  | _ => .error .wrongUsage

end LiveAnalysis.Command
