import LiveAnalysis.Report
import LiveAnalysis.Service

/-!
A batch of files, each of which is opened in one service and then waited for in turn. Every file has its
report, in the order in which the files are named.
-/

namespace LiveAnalysis

inductive ReadFault where
  | absent
  | notFolder
  | folder
  | notText
  | other (reason : String)
  deriving DecidableEq, Repr

def ReadFault.message : ReadFault → String
  | .absent => "No such file or directory (os error 2)"
  | .notFolder => "Not a directory (os error 20)"
  | .folder => "Is a directory (os error 21)"
  | .notText => "stream did not contain valid UTF-8"
  | .other reason => reason

structure File where
  path : String
  id : DocumentId
  content : Except ReadFault String

namespace File

def decode (bytes : ByteArray) : Except ReadFault String :=
  match String.fromUTF8? bytes with
  | some text => .ok text
  | none => .error .notText

def found (path absolute : String) (bytes : Except ReadFault ByteArray) : File where
  path
  id := DocumentId.ofPath absolute
  content := bytes.bind decode

end File

namespace Batch

inductive Problem where
  | unreadable (path : String) (fault : ReadFault)
  | refused (why : Refusal)
  deriving DecidableEq, Repr

def Problem.message : Problem → String
  | .unreadable path fault => s!"Cannot read {path}: {fault.message}"
  | .refused why => why.message

abbrev Analyses := Service Source.Summary

def openFile (s : Analyses) (f : File) : Analyses × Option Problem :=
  match f.content with
  | .error fault => (s, some (.unreadable f.path fault))
  | .ok text =>
    match s.receive (.openDocument f.id text) with
    | (s, .refused why) => (s, some (.refused why))
    | (s, _) => (s, none)

def openFiles (s : Analyses) : List File → Analyses × List (File × Option Problem)
  | [] => (s, [])
  | f :: more =>
    let (s, problem) := openFile s.settle f
    let (s, opened) := openFiles s more
    (s, (f, problem) :: opened)

def endingOf? (s : Analyses) (call : Ticket) : Option (Ending Source.Summary) :=
  (s.engine.ended.find? (·.1 = call)).map (·.2)

/-- Goes on until a call has ended. Once nothing else goes on, only the clock can end it. -/
def goOn (s : Analyses) (call : Ticket) (timeout : Nat) : Analyses :=
  if (endingOf? s call).isSome then s
  else
    let s := s.settle
    if (endingOf? s call).isSome then s else (s.receive (.advance (min timeout Engine.longestWait))).1.settle

def await (s : Analyses) (id : DocumentId) (timeout : Nat) : Analyses × Option (Ending Source.Summary) :=
  let call := s.engine.tickets
  let s := goOn (s.receive (.call (.wait id none timeout none))).1.startNow call timeout
  (s, endingOf? s call)

def failed (f : File) (now : Time.Instant) (message : String) : Report where
  document := f.id
  version := .baseline
  computedAt := now
  error := some message

def reportOf (f : File) (now : Time.Instant) : Option (Ending Source.Summary) → Report
  | some (.found finding) =>
    { document := f.id, version := finding.version, computedAt := now, payload := some finding.payload }
  | some (.refused why) => failed f now why.message
  | _ => failed f now Refusal.shutDown.message

def awaitFiles (s : Analyses) (timeout : Nat) (now : Time.Instant) :
    List (File × Option Problem) → Analyses × List Report
  | [] => (s, [])
  | (f, some problem) :: more =>
    let (s, reports) := awaitFiles s timeout now more
    (s, failed f now problem.message :: reports)
  | (f, none) :: more =>
    let (s, ending) := await s f.id timeout
    let (s, reports) := awaitFiles s timeout now more
    (s, reportOf f now ending :: reports)

def run (config : Config) (timeout : Nat) (now : Time.Instant) (files : List File) :
    List Report × List Event :=
  let (s, opened) := openFiles (Service.start summarizer config none) files
  let (s, reports) := awaitFiles s timeout now opened
  let s := (s.receive .shutdown).1.startNow.settle
  (reports, s.engine.events)

end Batch

end LiveAnalysis
