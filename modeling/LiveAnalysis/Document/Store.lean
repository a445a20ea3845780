import LiveAnalysis.Analysis.Slot

/-!
The documents of the service. Each accepted open starts a lifetime, numbered by its generation, and the
close ends it; those who still wait for a document that was closed look at the lifetime they know.
-/

namespace LiveAnalysis

structure Lifetime (P : Type) where
  id : DocumentId
  generation : Nat
  text : String
  version : Version := .baseline
  slot : Slot P := {}
  deriving DecidableEq, Repr

def Lifetime.isOpen (l : Lifetime P) : Bool :=
  !l.slot.closed

structure Snapshot where
  id : DocumentId
  text : String
  version : Version
  generation : Nat
  deriving DecidableEq, Repr

def Lifetime.snapshot (l : Lifetime P) : Snapshot :=
  ⟨l.id, l.text, l.version, l.generation⟩

/-- All lifetimes so far, the newest first. -/
structure Store (P : Type) where
  lifetimes : List (Lifetime P) := []
  deriving DecidableEq, Repr

namespace Store

variable {P : Type}

def find? (s : Store P) (id : DocumentId) : Option (Lifetime P) :=
  s.lifetimes.find? fun l => l.id = id && l.isOpen

def get (s : Store P) (id : DocumentId) : Except Refusal (Lifetime P) :=
  match s.find? id with
  | some l => .ok l
  | none => .error (.notOpen id)

def ofGeneration? (s : Store P) (generation : Nat) : Option (Lifetime P) :=
  s.lifetimes.find? (·.generation = generation)

def contains (s : Store P) (id : DocumentId) : Bool :=
  (s.find? id).isSome

def update (s : Store P) (generation : Nat) (f : Lifetime P → Lifetime P) : Store P :=
  ⟨s.lifetimes.map fun l => if l.generation = generation then f l else l⟩

def openDocument (s : Store P) (id : DocumentId) (text : String) : Except Refusal (Store P) :=
  match s.find? id with
  | some _ => .error (.alreadyOpen id)
  | none => .ok ⟨{ id, generation := s.lifetimes.length + 1, text } :: s.lifetimes⟩

def change (s : Store P) (id : DocumentId) (text : String) : Except Refusal (Store P × Version) := do
  let l ← s.get id
  let version := l.version.next
  return (s.update l.generation fun l => { l with text, version }, version)

def close (s : Store P) (id : DocumentId) : Except Refusal (Store P × Nat) := do
  let l ← s.get id
  return (s.update l.generation fun l => { l with slot := l.slot.close }, l.generation)

def publish (s : Store P) (snap : Snapshot) (payload : P) : Store P × Publication :=
  match s.find? snap.id with
  | none => (s, .closed)
  | some l =>
    if l.generation = snap.generation then
      let (slot, outcome) := l.slot.publish ⟨snap.id, snap.version, payload⟩
      (s.update l.generation fun l => { l with slot }, outcome)
    else (s, .closed)

def firstOpen? (s : Store P) : List DocumentId → Option (Snapshot × List DocumentId)
  | [] => none
  | id :: more =>
    match s.find? id with
    | some l => some (l.snapshot, more)
    | none => s.firstOpen? more

def openLifetimes (s : Store P) : List (Lifetime P) :=
  s.lifetimes.filter Lifetime.isOpen

def size (s : Store P) : Nat :=
  s.openLifetimes.length

def ids (s : Store P) : List DocumentId :=
  (s.openLifetimes.map (·.id)).mergeSort fun a b => a.text ≤ b.text

end Store

end LiveAnalysis
