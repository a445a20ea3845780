import LiveAnalysis.Engine.Basic

namespace LiveAnalysis.Engine

variable {P : Type}

def begin (e : Engine P) (owner : Ticket) (s : Snapshot) : Engine P :=
  e.start (.analysis owner s none)

def conclude (w : Worker P) (e : Engine P) (s : Snapshot) (verdict : Verdict P) : Engine P × Treatment :=
  match verdict with
  | .failed reason => (e.emit (.failed s reason), .failed)
  | .panicked tail => (e.emit (.panicked s tail), .failed)
  | .found payload =>
    let (e, outcome) := e.publish s payload
    if outcome = .stored ∧ w.announces then
      (e.emit (.ready s), .published outcome)
    else (e, .published outcome)

def takeTurn (e : Engine P) (t : Ticket) : Engine P :=
  let e := { e with bell := e.bell.answer t }
  match e.queue.hand with
  | (queue, .item id) => { e with queue }.finish t (.taken id)
  | (_, .shutDown) => e.finish t (.refused .shutDown)
  | (_, .nothing) => { e with bell := e.bell.wait t }

def closers (e : Engine P) : List Ticket :=
  e.activities.filterMap fun
    | (t, .shutdown true) => some t
    | _ => none

def endLoop (e : Engine P) (t : Ticket) : Engine P :=
  let (bell, woken) := e.bell.leave t
  let e := ({ e with bell }.finish t .stopped).wakeSome woken
  e.wakeAll e.closers

/--
A loop with nothing at hand ends if it has been told to or the queue is shut down. Else it takes documents
from the queue, passes over those that are closed, and begins the analysis of the first that is open.
-/
def seek (e : Engine P) (t : Ticket) : Engine P :=
  if e.stopped then e.endLoop t
  else if e.queue.shutDown then { e with bell := e.bell.answer t }.endLoop t
  else
    let e := { e with bell := e.bell.answer t }
    match e.store.firstOpen? e.queue.order with
    | some (s, rest) =>
      ({ e with queue := e.queue.leave rest }.set t (.loop (.underway s))).begin t s
    | none =>
      { e with queue := e.queue.leave [], bell := e.bell.wait t }.set t (.loop .idle)

def loopTurn (w : Worker P) (e : Engine P) (t : Ticket) : Stage P → Engine P
  | .idle => e.seek t
  | .underway _ => e
  | .judged s verdict => (e.conclude w s verdict).1.seek t

def processTurn (w : Worker P) (e : Engine P) (t : Ticket) (id : DocumentId) : Stage P → Engine P
  | .idle =>
    match e.store.find? id with
    | none => e.finish t (.treated .notOpen)
    | some l => (e.set t (.process id (.underway l.snapshot))).begin t l.snapshot
  | .underway _ => e
  | .judged s verdict =>
    let (e, treatment) := e.conclude w s verdict
    e.finish t (.treated treatment)

def deliver (e : Engine P) (owner : Ticket) (s : Snapshot) (verdict : Verdict P) : Engine P :=
  match e.activity? owner with
  | some (.loop _) => (e.set owner (.loop (.judged s verdict))).wake owner
  | some (.process id _) => (e.set owner (.process id (.judged s verdict))).wake owner
  | _ => e

def judge (w : Worker P) (e : Engine P) (t owner : Ticket) (s : Snapshot) (call : Nat) : Engine P :=
  (e.remove t).deliver owner s (w.analyzer call s.text s.version)

def analysisTurn (w : Worker P) (e : Engine P) (t owner : Ticket) (s : Snapshot) :
    Option Nat → Engine P
  | some call => e.judge w t owner s call
  | none =>
    let call := e.calls + 1
    let e := { e with calls := call }
    match e.gate with
    | none => e.judge w t owner s call
    | some gate =>
      match gate.arrive t with
      | (gate, true) => { e with gate := some gate }.judge w t owner s call
      | (gate, false) => { e with gate := some gate }.set t (.analysis owner s (some call))

end LiveAnalysis.Engine
