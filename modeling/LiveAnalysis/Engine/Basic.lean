import LiveAnalysis.Engine.Activity
import LiveAnalysis.Notice
import LiveAnalysis.Work.Gate
import LiveAnalysis.Work.Queue

/-!
The engine: documents, the queue of those to be analysed, and all activities on them. `ready` holds the
tickets of woken activities in the order in which they take their turns.

Each operation below is one step, and so is each turn, which is what an activity does between two places
where it can wait. Nothing else happens during a step: threads that race inside an `enqueue` or a `close`,
say between the store and the queue, are outside this model.
-/

namespace LiveAnalysis

structure Engine (P : Type) where
  store : Store P := {}
  queue : Queue := {}
  bell : Bell := {}
  gate : Option Gate := none
  calls : Nat := 0
  lines : List Line := []
  activities : List (Ticket × Activity P) := []
  tickets : Nat := 0
  ready : List Ticket := []
  cancelled : List Token := []
  stopped : Bool := false
  abandoned : Bool := false
  /-- Milliseconds since the start. -/
  clock : Nat := 0
  /-- The time up to which alarms have gone off. They go off when nobody is ready. -/
  alarmed : Nat := 0
  events : List Event := []
  ended : List (Ticket × Ending P) := []

namespace Engine

variable {P : Type}

def activity? (e : Engine P) (t : Ticket) : Option (Activity P) :=
  (e.activities.find? (·.1 = t)).map (·.2)

def wake (e : Engine P) (t : Ticket) : Engine P :=
  if t ∈ e.ready then e else { e with ready := e.ready ++ [t] }

def wakeAll (e : Engine P) (ts : List Ticket) : Engine P :=
  ts.foldl wake e

def wakeSome (e : Engine P) (t : Option Ticket) : Engine P :=
  t.elim e e.wake

def start (e : Engine P) (a : Activity P) : Engine P :=
  { e with
    activities := e.activities ++ [(e.tickets, a)]
    tickets := e.tickets + 1
    ready := e.ready ++ [e.tickets] }

def set (e : Engine P) (t : Ticket) (a : Activity P) : Engine P :=
  { e with activities := e.activities.map fun p => if p.1 = t then (t, a) else p }

def remove (e : Engine P) (t : Ticket) : Engine P :=
  { e with activities := e.activities.filter (·.1 ≠ t) }

def finish (e : Engine P) (t : Ticket) (ending : Ending P) : Engine P :=
  { e.remove t with ended := e.ended ++ [(t, ending)] }

def emit (e : Engine P) (n : Notice) : Engine P :=
  { e with events := e.events ++ [n.event] }

def ring (e : Engine P) : Engine P :=
  let (bell, woken) := e.bell.ring
  { e with bell }.wakeSome woken

def watchers (e : Engine P) (generation : Nat) : List Ticket :=
  (e.lines.filter (·.generation = generation)).filterMap (·.tickets.head?)
    ++ e.activities.filterMap fun
      | (t, .watch w) => if w.generation = generation then some t else none
      | _ => none

def enqueue (e : Engine P) (id : DocumentId) : Engine P × Enqueued :=
  let (queue, outcome) := e.queue.enqueue id
  let e := { e with queue }
  (if outcome = .added then e.ring else e, outcome)

def openDocument (e : Engine P) (id : DocumentId) (text : String) : Except Refusal (Engine P) := do
  let store ← e.store.openDocument id text
  return ({ e with store }.enqueue id).1

def change (e : Engine P) (id : DocumentId) (text : String) : Except Refusal (Engine P × Version) := do
  let (store, version) ← e.store.change id text
  return (({ e with store }.enqueue id).1, version)

def close (e : Engine P) (id : DocumentId) : Except Refusal (Engine P) := do
  let (store, generation) ← e.store.close id
  let e := { e with store, queue := (e.queue.remove id).1 }
  return e.wakeAll (e.watchers generation)

def publish (e : Engine P) (s : Snapshot) (payload : P) : Engine P × Publication :=
  let (store, outcome) := e.store.publish s payload
  let e := { e with store }
  (if outcome = .stored then e.wakeAll (e.watchers s.generation) else e, outcome)

def subscribe (e : Engine P) (id : DocumentId) : Except Refusal (Engine P × Nat × Version) := do
  let l ← e.store.get id
  return ({ e with lines := e.lines ++ [{ id, generation := l.generation }] }, e.lines.length, l.version)

def shutQueue (e : Engine P) : Engine P :=
  let (bell, woken) := e.bell.ringAll
  { e with queue := e.queue.shut, bell := bell.ring.1 }.wakeAll woken

def idleLoops (e : Engine P) : List Ticket :=
  e.activities.filterMap fun
    | (t, .loop .idle) => some t
    | _ => none

def stop (e : Engine P) : Engine P :=
  { e with stopped := true }.wakeAll e.idleLoops

def release (e : Engine P) (permits : Nat) : Engine P :=
  match e.gate with
  | none => e
  | some gate =>
    let (gate, through) := gate.release permits
    { e with gate := some gate }.wakeAll through

def lastMoment : Nat := UInt64.size - 3

/-- No alarm is set for later than 30 years from now. -/
def longestWait : Nat := 30 * 365 * 24 * 3600 * 1000

def alarmIn (e : Engine P) (ms : Nat) : Nat :=
  min (e.clock + min ms longestWait) lastMoment

def advance (e : Engine P) (ms : Nat) : Engine P :=
  { e with clock := min (e.clock + ms) lastMoment }

def overdue (e : Engine P) : List Ticket :=
  let due := e.activities.filterMap fun
    | (t, .watch w) => if w.deadline ≤ e.alarmed then some (w.deadline, t) else none
    | _ => none
  (due.mergeSort fun a b => a.1 ≤ b.1).map (·.2)

def soundAlarms (e : Engine P) : Engine P :=
  let e := { e with alarmed := e.clock }
  e.wakeAll e.overdue

def holders (e : Engine P) (token : Token) : List Ticket :=
  e.activities.filterMap fun
    | (t, .watch w) => if w.token = some token then some t else none
    | _ => none

def cancel (e : Engine P) (token : Token) : Engine P :=
  let e := { e with cancelled := token :: e.cancelled }
  e.wakeAll (e.holders token)

end Engine

end LiveAnalysis
