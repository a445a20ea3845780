import LiveAnalysis.Document.Version
import LiveAnalysis.Source.Summary

namespace LiveAnalysis

inductive Verdict (P : Type) where
  | found (payload : P)
  | failed (reason : String)
  -- The tail is what the report of a panic adds to the word, from the colon on.
  | panicked (tail : String := "")
  deriving DecidableEq, Repr

/-- An analyzer is given the number of its call, counted from one, besides the text and its version. -/
abbrev Analyzer (P : Type) := Nat → String → Version → Verdict P

def summarizer : Analyzer Source.Summary := fun _ text _ =>
  match Source.summarize text with
  | .ok summary => .found summary
  | .error fault => .failed fault.message

end LiveAnalysis
