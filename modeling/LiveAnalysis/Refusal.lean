import LiveAnalysis.Document.Id
import LiveAnalysis.Document.Version
import LiveAnalysis.Time.Span

namespace LiveAnalysis

inductive Refusal where
  | alreadyOpen (id : DocumentId)
  | notOpen (id : DocumentId)
  | documentClosed (id : DocumentId)
  | timedOut (id : DocumentId) (atLeast : Version) (waited : Nat)
  | cancelled (id : DocumentId)
  | shutDown
  deriving DecidableEq, Repr

def Refusal.message : Refusal → String
  | .alreadyOpen id => s!"document already open: {id}"
  | .notOpen id => s!"document not open: {id}"
  | .documentClosed id => s!"document closed while waiting for analysis: {id}"
  | .timedOut id atLeast waited =>
    s!"timed out after {Time.spanText waited} waiting for analysis of {id} at {atLeast} or later"
  | .cancelled id => s!"wait for analysis of {id} was cancelled"
  | .shutDown => "analysis coordinator is shut down"

end LiveAnalysis
