import LiveAnalysis.Engine.Basic

namespace LiveAnalysis.Engine

variable {P : Type}

def ensureRunning (e : Engine P) : Except Refusal Unit :=
  if e.stopped then .error .shutDown else .ok ()

def noteOpened (e : Engine P) (id : DocumentId) (text : String) : Except Refusal (Engine P) := do
  e.ensureRunning
  let e ← e.openDocument id text
  return e.emit (.opened id)

def noteChanged (e : Engine P) (id : DocumentId) (text : String) :
    Except Refusal (Engine P × Version) := do
  e.ensureRunning
  e.change id text

def noteClosed (e : Engine P) (id : DocumentId) : Except Refusal (Engine P) := do
  e.ensureRunning
  let e ← e.close id
  return e.emit (.closed id)

def requestAnalysis (e : Engine P) (id : DocumentId) : Except Refusal (Engine P × Enqueued) := do
  e.ensureRunning
  let _ ← e.store.get id
  return e.enqueue id

def requestAnalyses (e : Engine P) : List DocumentId → Engine P × Except Refusal Unit
  | [] => (e, .ok ())
  | id :: more =>
    match e.requestAnalysis id with
    | .ok (e, _) => e.requestAnalyses more
    | .error why => (e, .error why)

def slot (e : Engine P) (generation : Nat) : Slot P :=
  match e.store.ofGeneration? generation with
  | some l => l.slot
  | none => { closed := true }

def waitTurn (e : Engine P) (t : Ticket) (place : Nat) (atLeast : Version) : Engine P :=
  match e.lines[place]? with
  | none => e
  | some line =>
    let tickets := if t ∈ line.tickets then line.tickets else line.tickets ++ [t]
    let answer := if tickets.head? = some t then (e.slot line.generation).answer? line.id atLeast else none
    match answer with
    | none => { e with lines := e.lines.set place { line with tickets } }
    | some answer =>
      let e := { e with lines := e.lines.set place { line with tickets := tickets.tail } }
      let ending := match answer with
        | .ok f => .found f
        | .error why => .refused why
      (e.finish t ending).wakeSome tickets.tail.head?

def isCancelled (e : Engine P) (w : Watch) : Bool :=
  w.token.any (· ∈ e.cancelled)

/--
How a watch ends, if it ends now: with the finding or the close of its lifetime, else because it was
cancelled, else because the service is shut down, else because its alarm has gone off.
-/
def outcome? (e : Engine P) (w : Watch) : Option (Except Refusal (Finding P)) :=
  match (e.slot w.generation).answer? w.id w.atLeast with
  | some answer => some answer
  | none =>
    if e.isCancelled w then some (.error (.cancelled w.id))
    else if e.stopped then some (.error .shutDown)
    else if w.deadline ≤ e.alarmed then some (.error (.timedOut w.id w.atLeast w.timeout))
    else none

def newWatch (e : Engine P) (id : DocumentId) (atLeast : Option Version) (timeout : Nat)
    (token : Option Token) (goal : Goal) : Except Refusal Watch := do
  e.ensureRunning
  let l ← e.store.get id
  return { id, generation := l.generation, atLeast := atLeast.getD l.version, timeout,
           deadline := e.alarmIn timeout, token, goal }

/--
Pairs a finding with the text of its version. If the finding is of a later version than the text at hand,
the current text is read; if that has moved on too, one more wait is made for its version, as long as
attempts are left.
-/
def pair (e : Engine P) (t : Ticket) (w : Watch) (text : String) : Nat → Finding P → Engine P
  | attempts, f =>
    let current := if f.version = w.atLeast then .ok (text, w.atLeast)
      else (e.store.get w.id).map fun l => (l.text, l.version)
    match current with
    | .error why => e.finish t (.refused why)
    | .ok (text, version) =>
      if f.version = version then e.finish t (.paired f text)
      else
        match attempts with
        | 0 => e.finish t .outrun
        | attempts + 1 =>
          match e.newWatch w.id (some version) w.timeout w.token (.paired text attempts) with
          | .error why => e.finish t (.refused why)
          | .ok w =>
            match e.outcome? w with
            | none => e.set t (.watch w)
            | some (.error why) => e.finish t (.refused why)
            | some (.ok f) => e.pair t w text attempts f

def watchTurn (e : Engine P) (t : Ticket) (w : Watch) : Engine P :=
  match e.outcome? w with
  | none => e.set t (.watch w)
  | some (.error why) => e.finish t (.refused why)
  | some (.ok f) =>
    match w.goal with
    | .finding => e.finish t (.found f)
    | .paired text attempts => e.pair t w text attempts f

def watchFrom (e : Engine P) (t : Ticket) (id : DocumentId) (atLeast : Option Version) (timeout : Nat)
    (token : Option Token) (goal : Goal) : Engine P :=
  match e.newWatch id atLeast timeout token goal with
  | .error why => e.finish t (.refused why)
  | .ok w => e.watchTurn t w

def furtherAttempts : Nat := 2

def callTurn (e : Engine P) (t : Ticket) : Call → Engine P
  | .wait id atLeast timeout token => e.watchFrom t id atLeast timeout token .finding
  | .openAndWait id text timeout =>
    match e.noteOpened id text with
    | .error why => e.finish t (.refused why)
    | .ok e => e.watchFrom t id (some .baseline) timeout none .finding
  | .changeAndWait id text timeout =>
    match e.noteChanged id text with
    | .error why => e.finish t (.refused why)
    | .ok (e, version) => e.watchFrom t id (some version) timeout none .finding
  | .query id timeout =>
    match e.store.get id with
    | .error why => e.finish t (.refused why)
    | .ok l => e.watchFrom t id (some l.version) timeout none (.paired l.text furtherAttempts)

def watches (e : Engine P) : List Ticket :=
  e.activities.filterMap fun
    | (t, .watch _) => some t
    | _ => none

def hasLoop (e : Engine P) : Bool :=
  e.activities.any fun
    | (_, .loop _) => true
    | _ => false

def endShutdown (e : Engine P) (t : Ticket) : Engine P :=
  (e.emit .down).finish t .down

def shutdownTurn (e : Engine P) (t : Ticket) : Bool → Engine P
  | true => e.endShutdown t
  | false =>
    if e.stopped then e.finish t .down
    else
      let e := e.stop
      let e := (e.wakeAll e.watches).shutQueue
      if e.hasLoop then e.set t (.shutdown true) else e.endShutdown t

end LiveAnalysis.Engine
