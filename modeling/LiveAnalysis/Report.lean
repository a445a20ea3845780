import LiveAnalysis.Document.Id
import LiveAnalysis.Document.Version
import LiveAnalysis.Json.Value
import LiveAnalysis.Source.Summary
import LiveAnalysis.Time.Instant

namespace LiveAnalysis

structure Report where
  document : DocumentId
  version : Version
  computedAt : Time.Instant
  payload : Option Source.Summary := none
  error : Option String := none
  deriving DecidableEq, Repr

namespace Report

def bindingJson (b : Source.Binding) : Json.Value :=
  .obj [("name", .str b.name), ("line", .ofNat b.line), ("column", .ofNat b.column)]

def functionJson (f : Source.Function) : Json.Value :=
  .obj [("name", .str f.name), ("parameters", .ofList .str f.parameters), ("line", .ofNat f.line)]

def summaryJson (s : Source.Summary) : Json.Value :=
  .obj [("line_count", .ofNat s.lineCount), ("bindings", .ofList bindingJson s.bindings),
    ("functions", .ofList functionJson s.functions)]

def member? (key : String) (encode : α → Json.Value) (value : Option α) : List (String × Json.Value) :=
  (value.map fun a => (key, encode a)).toList

def toJson (r : Report) : Json.Value :=
  .obj ([("document", .str r.document.text), ("version", .ofNat r.version.number),
      ("computed_at", .str r.computedAt.stamp)]
    ++ member? "payload" summaryJson r.payload ++ member? "error" .str r.error)

def item (code : String) (line : Nat) : String :=
  s!"- `{code}` (line {line + 1})\n"

def itemList (heading : String) (items : List String) : String :=
  if items.isEmpty then "" else s!"## {heading}\n\n" ++ String.join items ++ "\n"

def summaryMarkdown (s : Source.Summary) : String :=
  s!"**Lines**: {s.lineCount}\n\n"
    ++ itemList "Bindings" (s.bindings.map fun b => item b.name b.line)
    ++ itemList "Functions" (s.functions.map fun f => item f.label f.line)

def toMarkdown (r : Report) : String :=
  s!"# {r.document}\n\n" ++
    match r.error with
    | some error => s!"**Error**: {error}\n\n"
    | none =>
      s!"**Version**: {r.version} (computed {r.computedAt.readable})\n\n"
        ++ (r.payload.map summaryMarkdown).getD ""

end Report

def markdown (reports : List Report) : String :=
  String.join (reports.map Report.toMarkdown)

end LiveAnalysis
