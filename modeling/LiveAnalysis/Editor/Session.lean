import LiveAnalysis.Editor.Message
import LiveAnalysis.Service

/-!
A session with an editor. Each message is accepted or refused as it comes. It then waits in the inbox until
the session settles, when the messages are heard one after the other. The service is there from the first
`initialize` that is heard.
-/

namespace LiveAnalysis.Editor

structure Incoming where
  number : Nat
  wantsReply : Bool
  method : String
  params : Json.Value
  deriving Repr

inductive Outcome where
  | result (v : Json.Value)
  | fault (f : Fault)
  | heard
  deriving Repr

def Incoming.refusal (m : Incoming) (f : Fault) : Outcome :=
  if m.wantsReply then .fault f else .heard

structure Pending where
  ticket : Ticket
  number : Nat
  query : Option Query

structure Session where
  config : Config := {}
  environment : Environment := fun _ => none
  service : Option (Service Source.Summary) := none
  shutDown : Bool := false
  inbox : List (Nat × Except Outcome Message) := []
  pending : List Pending := []
  outcomes : List (Nat × Outcome) := []
  warnings : List String := []

namespace Session

def finish (s : Session) (number : Nat) (outcome : Outcome) : Session :=
  { s with outcomes := s.outcomes ++ [(number, outcome)] }

def warn (s : Session) (warning : String) : Session :=
  { s with warnings := s.warnings ++ [warning] }

/--
Before the service is there, only `initialize` is accepted, and `initialize` only then. After `shutdown`
nothing is. That counts before the parameters do.
-/
def accept (s : Session) (m : Incoming) : Except Fault Message :=
  let message := Message.read m.method m.params
  if s.shutDown then .error .invalidRequest
  else
    match s.service, message with
    | none, .ok (.connect options) => .ok (.connect options)
    | none, _ => .error .notInitialized
    | some _, .ok (.connect _) => .error .invalidRequest
    | some _, message => message

def post (s : Session) (m : Incoming) : Session :=
  match s.accept m with
  | .ok message =>
    { s with
      shutDown := s.shutDown || message matches .shutdown
      inbox := s.inbox ++ [(m.number, .ok message)] }
  | .error f => { s with inbox := s.inbox ++ [(m.number, .error (m.refusal f))] }

def configure (s : Session) : Option Json.Value → Session
  | none => s
  | some options =>
    let (config, first) := s.config.merge options
    let (config, second) := config.applyEnvironment s.environment
    { s with config, warnings := s.warnings ++ (first ++ second).map (·.message) }

/-- The service is started once; options that come later count for waits only. -/
def connect (s : Session) (number : Nat) (options : Option Json.Value) : Session :=
  let s := s.configure options
  let service := s.service.getD (Service.start summarizer s.config none)
  { s with service := some service }.finish number (.result capabilities)

def tell (s : Session) (service : Service Source.Summary) (about : String) (r : Request) : Session :=
  match service.receive r with
  | (service, .refused why) => { s with service := some service }.warn s!"{about} rejected: {why.message}"
  | (service, _) => { s with service := some service }

def call (s : Session) (service : Service Source.Summary) (number : Nat) (query : Option Query) (r : Request) :
    Session :=
  let ticket := service.engine.tickets
  { s with
    service := some (service.receive r).1.startNow
    pending := s.pending ++ [{ ticket, number, query }] }

def hear (s : Session) (number : Nat) (message : Message) : Session :=
  match message, s.service with
  | .connect options, _ => s.connect number options
  | .opened id text, some service =>
    (s.tell service "didOpen" (.openDocument id text)).finish number .heard
  | .changed id texts, some service =>
    match texts.getLast? with
    | some text => (s.tell service "didChange" (.change id text)).finish number .heard
    | none => s.finish number .heard
  | .closed id, some service => (s.tell service "didClose" (.close id)).finish number .heard
  | .query q, some service => s.call service number (some q) (.call (.query q.id s.config.timeout))
  | .shutdown, some service => s.call service number none .shutdown
  | _, _ => s.finish number .heard

def conclude (s : Session) (p : Pending) : Ending Source.Summary → Session
  | .paired finding text =>
    let result := match p.query with
      | some q => q.answer finding.payload text
      | none => .null
    s.finish p.number (.result result)
  | .outrun => (s.warn "document kept changing while waiting for analysis").finish p.number (.result .null)
  | .refused (.notOpen _) => s.finish p.number (.result .null)
  | .refused why => (s.warn s!"no fresh analysis: {why.message}").finish p.number (.result .null)
  | _ => s.finish p.number (.result .null)

def collect (s : Session) : List (Ticket × Ending Source.Summary) → Session
  | [] => s
  | (t, ending) :: more =>
    match s.pending.find? (·.ticket = t) with
    | none => s.collect more
    | some p => ({ s with pending := s.pending.filter (·.ticket ≠ t) }.conclude p ending).collect more

def gather (s : Session) : Session :=
  match s.service with
  | none => s
  | some service =>
    let ended := service.engine.ended
    { s with service := some { service with engine := { service.engine with ended := [] } } }.collect ended

def handle (s : Session) : Nat × Except Outcome Message → Session
  | (number, .ok message) => (s.hear number message).gather
  | (number, .error outcome) => s.finish number outcome

def settle (s : Session) : Session :=
  let s := s.inbox.foldl handle { s with inbox := [] }
  { s with service := s.service.map Service.settle }.gather

def advance (s : Session) (ms : Nat) : Session :=
  match s.service with
  | none => s
  | some service => { s with service := some (service.receive (.advance ms)).1 }

end Session

def logKind : Severity → Nat
  | .error => 1
  | .warning => 2
  | .info => 3
  | .log => 4

def Session.takeEvents (s : Session) : List Event × Session :=
  match s.service with
  | none => ([], s)
  | some service =>
    (service.engine.events,
      { s with service := some { service with engine := { service.engine with events := [] } } })

end LiveAnalysis.Editor
