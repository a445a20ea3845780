import LiveAnalysis.Refusal

namespace LiveAnalysis

structure Finding (P : Type) where
  id : DocumentId
  version : Version
  payload : P
  deriving DecidableEq, Repr

inductive Publication where
  | stored
  | superseded
  | closed
  deriving DecidableEq, Repr

/-- Holds the newest finding of a document until the document closes, and keeps it from then on. -/
structure Slot (P : Type) where
  latest : Option (Finding P) := none
  closed : Bool := false
  deriving DecidableEq, Repr

namespace Slot

variable {P : Type}

def publish (s : Slot P) (f : Finding P) : Slot P × Publication :=
  if s.closed then (s, .closed)
  else
    match s.latest with
    | some old => if f.version < old.version then (s, .superseded) else ({ s with latest := some f }, .stored)
    | none => ({ s with latest := some f }, .stored)

def close (s : Slot P) : Slot P :=
  { s with closed := true }

def satisfying? (s : Slot P) (atLeast : Version) : Option (Finding P) :=
  s.latest.filter fun f => atLeast ≤ f.version

/-- How a wait for a version ends, if it ends: a finding that is new enough counts even after the close. -/
def answer? (s : Slot P) (id : DocumentId) (atLeast : Version) : Option (Except Refusal (Finding P)) :=
  match s.satisfying? atLeast with
  | some f => some (.ok f)
  | none => if s.closed then some (.error (.documentClosed id)) else none

end Slot

end LiveAnalysis
