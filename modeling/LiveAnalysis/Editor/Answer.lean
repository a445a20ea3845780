import LiveAnalysis.Document.Id
import LiveAnalysis.Source.Cursor
import LiveAnalysis.Source.Summary

/-!
What an editor is told about a place in a text, given the text and its summary. Lines and columns count
from zero; in what people read, lines count from one.
-/

namespace LiveAnalysis.Editor

structure Position where
  line : UInt32
  character : UInt32
  deriving DecidableEq, Repr

structure Range where
  start : Position
  stop : Position
  deriving DecidableEq, Repr

def Range.ofOccurrence (o : Source.Occurrence) : Range where
  start := ⟨o.line.toUInt32, o.column.toUInt32⟩
  stop := ⟨o.line.toUInt32, o.endColumn.toUInt32⟩

structure Location where
  id : DocumentId
  range : Range
  deriving DecidableEq, Repr

structure Completion where
  name : String
  function : Option Source.Function
  deriving DecidableEq, Repr

structure SignatureHelp where
  function : Source.Function
  active : Nat
  deriving DecidableEq, Repr

structure Hover where
  text : String
  range : Range
  deriving DecidableEq, Repr

def nameAt? (s : Source.Summary) (p : Position) : Option Source.Occurrence :=
  s.occurrenceAt? p.line.toNat p.character.toNat

def completions (s : Source.Summary) (text : String) (p : Position) : List Completion :=
  (s.completions (Source.wordBefore text p.line.toNat p.character.toNat)).map fun name =>
    ⟨name, s.signature? name⟩

def signatureHelp? (s : Source.Summary) (text : String) (p : Position) : Option SignatureHelp := do
  let (callee, active) ← Source.callAround? text p.line.toNat p.character.toNat
  let function ← s.signature? callee
  return { function, active }

def bindingLines (s : Source.Summary) (name : String) : List Nat :=
  (s.bindings.filter (·.name = name)).map (·.line + 1)

def description? (s : Source.Summary) (name : String) : Option String :=
  match s.signature? name with
  | some f => some (String.join ["```python\ndef ", f.label, "\n```\n", s!"Defined on line {f.line + 1}"])
  | none =>
    match bindingLines s name with
    | [] => none
    | lines => some (String.join ["`", name, "` bound on line ", ", ".intercalate (lines.map toString)])

def hover? (s : Source.Summary) (p : Position) : Option Hover := do
  let target ← nameAt? s p
  let text ← description? s target.name
  return { text, range := Range.ofOccurrence target }

def references (s : Source.Summary) (id : DocumentId) (p : Position) (definitions : Bool) : List Location :=
  match nameAt? s p with
  | none => []
  | some target => (s.references target.name definitions).map fun o => ⟨id, Range.ofOccurrence o⟩

end LiveAnalysis.Editor
