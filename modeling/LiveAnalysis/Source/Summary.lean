import LiveAnalysis.Source.Bracket
import LiveAnalysis.Source.Declaration
import LiveAnalysis.Source.Literal

/-!
The summary of a source text: what it binds, which functions it declares, and where each name
stands. Lines and columns count from zero, columns in characters.
-/

namespace LiveAnalysis.Source

structure Occurrence where
  name : String
  line : Nat
  column : Nat
  isDefinition : Bool
  deriving DecidableEq, Repr

def Occurrence.endColumn (o : Occurrence) : Nat :=
  o.column + o.name.length

structure Summary where
  lineCount : Nat := 0
  bindings : List Binding := []
  functions : List Function := []
  occurrences : List Occurrence := []
  deriving DecidableEq, Repr

namespace Summary

def append (s t : Summary) : Summary where
  lineCount := s.lineCount + t.lineCount
  bindings := s.bindings ++ t.bindings
  functions := s.functions ++ t.functions
  occurrences := s.occurrences ++ t.occurrences

def ofLine (number : Nat) (line : List Char) : Summary :=
  let names := tokens line
  let bound := boundName? line names
  let declared := declared? number line names
  let defines (t : Token) : Bool :=
    bound.any (·.column = t.column) || declared.any (·.1 = t.column)
  { lineCount := 1
    bindings := (bound.map fun t => ⟨t.name, number, t.column⟩).toList
    functions := (declared.map (·.2)).toList
    occurrences := (names.filter fun t => !isKeyword t.name).map fun t =>
      ⟨t.name, number, t.column, defines t⟩ }

def ofLines : Nat → List (List Char) → Summary
  | _, [] => {}
  | number, line :: more => (ofLine number line).append (ofLines (number + 1) more)

def insertName (name : String) : List String → List String
  | [] => [name]
  | n :: ns =>
    if name < n then name :: n :: ns
    else if name = n then n :: ns
    else n :: insertName name ns

def completions (s : Summary) (lead : String) : List String :=
  let names := s.bindings.map (·.name) ++ s.functions.map (·.name)
  (names.filter fun n => lead.toList.isPrefixOf n.toList).foldr insertName []

def signature? (s : Summary) (name : String) : Option Function :=
  s.functions.reverse.find? (·.name = name)

def references (s : Summary) (name : String) (definitions : Bool) : List Occurrence :=
  s.occurrences.filter fun o => o.name = name && (definitions || !o.isDefinition)

/-- The first name on the line that holds the column or ends right before it. -/
def occurrenceAt? (s : Summary) (line column : Nat) : Option Occurrence :=
  s.occurrences.find? fun o => o.line = line && o.column ≤ column && column ≤ o.endColumn

end Summary

def summarize (text : String) : Except SyntaxFault Summary := do
  let code := codeLines text.toList
  checkBrackets code
  return Summary.ofLines 0 code

end LiveAnalysis.Source
