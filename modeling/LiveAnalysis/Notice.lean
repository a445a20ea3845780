import LiveAnalysis.Document.Store
import LiveAnalysis.Event

namespace LiveAnalysis

inductive Notice where
  | started
  | opened (id : DocumentId)
  | closed (id : DocumentId)
  | failed (s : Snapshot) (reason : String)
  | panicked (s : Snapshot) (tail : String)
  | ready (s : Snapshot)
  | down
  deriving DecidableEq, Repr

def Notice.event : Notice → Event
  | .started => ⟨.log, "Analysis coordinator started"⟩
  | .opened id => ⟨.log, s!"Opened {id}"⟩
  | .closed id => ⟨.log, s!"Closed {id}"⟩
  | .failed s reason => ⟨.error, s!"Analysis of {s.id} at {s.version} failed: {reason}"⟩
  | .panicked s tail => ⟨.error, s!"Analysis of {s.id} at {s.version} panicked{tail}"⟩
  | .ready s => ⟨.info, s!"Analysis of {s.id} at {s.version} is ready"⟩
  | .down => ⟨.log, "Analysis coordinator shut down"⟩

end LiveAnalysis
