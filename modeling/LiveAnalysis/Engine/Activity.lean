import LiveAnalysis.Analysis.Analyzer
import LiveAnalysis.Document.Store
import LiveAnalysis.Work.Bell

/-!
What goes on in the engine. Each activity has a ticket, is woken when what it waits for may have come, and
then takes one turn: it acts until it ends or has to wait.
-/

namespace LiveAnalysis

inductive Stage (P : Type) where
  | idle
  | underway (snapshot : Snapshot)
  | judged (snapshot : Snapshot) (verdict : Verdict P)
  deriving DecidableEq, Repr

inductive Goal where
  | finding
  | paired (text : String) (attempts : Nat)
  deriving DecidableEq, Repr

abbrev Token := Nat

structure Watch where
  id : DocumentId
  generation : Nat
  atLeast : Version
  timeout : Nat
  deadline : Nat
  token : Option Token
  goal : Goal
  deriving DecidableEq, Repr

inductive Call where
  | wait (id : DocumentId) (atLeast : Option Version) (timeout : Nat) (token : Option Token)
  | openAndWait (id : DocumentId) (text : String) (timeout : Nat)
  | changeAndWait (id : DocumentId) (text : String) (timeout : Nat)
  | query (id : DocumentId) (timeout : Nat)
  deriving DecidableEq, Repr

inductive Activity (P : Type) where
  | take
  | process (id : DocumentId) (stage : Stage P)
  | loop (stage : Stage P)
  | analysis (owner : Ticket) (snapshot : Snapshot) (call : Option Nat)
  | wait (line : Nat) (atLeast : Version)
  | call (call : Call)
  | watch (watch : Watch)
  | shutdown (begun : Bool)
  deriving DecidableEq, Repr

inductive Treatment where
  | published (outcome : Publication)
  | notOpen
  | failed
  deriving DecidableEq, Repr

inductive Ending (P : Type) where
  | taken (id : DocumentId)
  | treated (treatment : Treatment)
  | stopped
  | found (finding : Finding P)
  | paired (finding : Finding P) (text : String)
  | outrun
  | down
  | refused (why : Refusal)
  deriving DecidableEq, Repr

/-- The waits on one waiter in their order; only the first can end. -/
structure Line where
  id : DocumentId
  generation : Nat
  tickets : List Ticket := []
  deriving DecidableEq, Repr

structure Worker (P : Type) where
  analyzer : Analyzer P
  announces : Bool

end LiveAnalysis
