import LiveAnalysis.Config
import LiveAnalysis.Engine.Turn

/-!
The service keeps a finding for the newest text of every open document. Its one worker is under way from
the start. What comes from outside takes effect at once; what it starts goes on in turns.
-/

namespace LiveAnalysis

structure Service (P : Type) where
  worker : Worker P
  config : Config := {}
  engine : Engine P

inductive Request where
  | openDocument (id : DocumentId) (text : String)
  | change (id : DocumentId) (text : String)
  | close (id : DocumentId)
  | analyse (id : DocumentId)
  | analyseAll (ids : List DocumentId)
  | call (c : Call)
  | cancel (token : Token)
  | shutdown
  | abandon
  | release (permits : Nat)
  | advance (ms : Nat)
  deriving DecidableEq, Repr

inductive Reply where
  | version (v : Version)
  | enqueued (outcome : Enqueued)
  | started (call : Ticket)
  | done
  | refused (why : Refusal)
  deriving DecidableEq, Repr

namespace Service

variable {P : Type}

def start (analyzer : Analyzer P) (config : Config) (gate : Option Gate) : Service P where
  worker := ⟨analyzer, config.updates⟩
  config
  engine := (Engine.start { gate } (.loop .idle)).emit .started

def begin (s : Service P) (a : Activity P) : Service P × Reply :=
  ({ s with engine := s.engine.start a }, .started s.engine.tickets)

/-- A refused request changes nothing, except that of several documents those before the refused one count. -/
def receive (s : Service P) : Request → Service P × Reply
  | .openDocument id text =>
    match s.engine.noteOpened id text with
    | .ok engine => ({ s with engine }, .version .baseline)
    | .error why => (s, .refused why)
  | .change id text =>
    match s.engine.noteChanged id text with
    | .ok (engine, version) => ({ s with engine }, .version version)
    | .error why => (s, .refused why)
  | .close id =>
    match s.engine.noteClosed id with
    | .ok engine => ({ s with engine }, .done)
    | .error why => (s, .refused why)
  | .analyse id =>
    match s.engine.requestAnalysis id with
    | .ok (engine, outcome) => ({ s with engine }, .enqueued outcome)
    | .error why => (s, .refused why)
  | .analyseAll ids =>
    match s.engine.requestAnalyses ids with
    | (engine, .ok ()) => ({ s with engine }, .done)
    | (engine, .error why) => ({ s with engine }, .refused why)
  | .call c => s.begin (.call c)
  | .cancel token => ({ s with engine := s.engine.cancel token }, .done)
  | .shutdown => s.begin (.shutdown false)
  | .abandon => ({ s with engine := s.engine.abandon }, .done)
  | .release permits => ({ s with engine := s.engine.release permits }, .done)
  | .advance ms => ({ s with engine := s.engine.advance ms }, .done)

def startNow (s : Service P) : Service P :=
  match s.engine.ready.getLast? with
  | none => s
  | some t => { s with engine := { s.engine with ready := s.engine.ready.dropLast }.turn s.worker t }

def step (s : Service P) : Service P :=
  { s with engine := s.engine.step s.worker }

def settle (s : Service P) : Service P :=
  { s with engine := s.engine.settle s.worker }

def document (s : Service P) (id : DocumentId) : Except Refusal (String × Version) :=
  (s.engine.store.get id).map fun l => (l.text, l.version)

def version (s : Service P) (id : DocumentId) : Except Refusal Version :=
  (s.engine.store.get id).map (·.version)

def latest (s : Service P) (id : DocumentId) : Except Refusal (Option (Finding P)) :=
  (s.engine.store.get id).map (·.slot.latest)

def documents (s : Service P) : List DocumentId :=
  s.engine.store.ids

def isShutDown (s : Service P) : Bool :=
  s.engine.stopped

end Service

end LiveAnalysis
