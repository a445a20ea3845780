import Mathlib.Logic.Function.Basic
import LiveAnalysis.Editor.Session

namespace LiveAnalysis.Editor

inductive Step where
  | message (m : Incoming)
  | advance (ms : Nat)
  deriving Repr

def Session.take (s : Session) : Step → Session
  | .message m => (s.post m).settle
  | .advance ms => (s.advance ms).settle

def Session.after (s : Session) (steps : List Step) : Session :=
  steps.foldl Session.take s

/-!
The reference: a server that keeps the text of each open document and nothing that is computed from it.
A query that has no answer yet is asked again after each step until it is given up.
-/

structure Waiting where
  number : Nat
  query : Query
  since : Nat
  deriving Repr

structure Reference where
  texts : DocumentId → Option String := fun _ => none
  waiting : List Waiting := []
  clock : Nat := 0
  outcomes : List (Nat × Outcome) := []

namespace Reference

def finish (r : Reference) (number : Nat) (outcome : Outcome) : Reference :=
  { r with outcomes := r.outcomes ++ [(number, outcome)] }

def answer? (r : Reference) (q : Query) : Option Json.Value :=
  match r.texts q.id with
  | none => some .null
  | some text =>
    match Source.summarize text with
    | .ok summary => some (q.answer summary text)
    | .error _ => none

def result? (late : Nat → Nat → Bool) (r : Reference) (w : Waiting) : Option Json.Value :=
  match r.answer? w.query with
  | some v => some v
  | none => if late w.since r.clock then some .null else none

def serve (late : Nat → Nat → Bool) (r : Reference) : Reference :=
  { r with
    waiting := r.waiting.filter fun w => (r.result? late w).isNone
    outcomes := r.outcomes ++ r.waiting.filterMap fun w =>
      (r.result? late w).map fun v => (w.number, .result v) }

def setText (r : Reference) (id : DocumentId) (text : Option String) : Reference :=
  { r with texts := Function.update r.texts id text }

def accept (m : Incoming) : Except Fault Message :=
  match Message.read m.method m.params with
  | .ok (.connect _) => .error .invalidRequest
  | message => message

def hear (r : Reference) (number : Nat) : Message → Reference
  | .opened id text => (if (r.texts id).isNone then r.setText id (some text) else r).finish number .heard
  | .changed id texts =>
    match texts.getLast? with
    | some text => (if (r.texts id).isSome then r.setText id (some text) else r).finish number .heard
    | none => r.finish number .heard
  | .closed id => (r.setText id none).finish number .heard
  | .query q => { r with waiting := r.waiting ++ [⟨number, q, r.clock⟩] }
  | _ => r.finish number .heard

def take (late : Nat → Nat → Bool) (r : Reference) : Step → Reference
  | .message m =>
    match accept m with
    | .ok message => (r.hear m.number message).serve late
    | .error f => (r.finish m.number (m.refusal f)).serve late
  | .advance ms => { r with clock := r.clock + ms }.serve late

def after (late : Nat → Nat → Bool) (r : Reference) (steps : List Step) : Reference :=
  steps.foldl (take late) r

end Reference

/-- When an alarm for a time after a moment has gone off, on a clock that does not count on for ever. -/
def overdue (timeout since now : Nat) : Bool :=
  min (min since Engine.lastMoment + min timeout Engine.longestWait) Engine.lastMoment ≤
    min now Engine.lastMoment

end LiveAnalysis.Editor
