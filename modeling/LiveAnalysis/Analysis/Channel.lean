import LiveAnalysis.Analysis.Slot

/-!
One slot shared by its publisher and any number of waiters. A waiter serves its waits one after the other,
so a wait that could end stays behind an earlier one that cannot.
-/

namespace LiveAnalysis

structure Wait where
  ticket : Nat
  atLeast : Version
  deriving DecidableEq, Repr

structure Waiter where
  id : DocumentId
  held : Bool := true
  line : List Wait := []
  deriving DecidableEq, Repr

def Waiter.isAlive (w : Waiter) : Bool :=
  w.held || !w.line.isEmpty

structure Channel (P : Type) where
  id : DocumentId
  slot : Slot P := {}
  dropped : Bool := false
  waiters : List Waiter := []
  tickets : Nat := 0
  ended : List (Nat × Except Refusal (Finding P)) := []

namespace Channel

variable {P : Type}

def publish (c : Channel P) (version : Version) (payload : P) (id : DocumentId := c.id) :
    Channel P × Publication :=
  let (slot, outcome) := c.slot.publish ⟨id, version, payload⟩
  ({ c with slot }, outcome)

def close (c : Channel P) : Channel P :=
  { c with slot := c.slot.close }

def drop (c : Channel P) : Channel P :=
  { c with slot := c.slot.close, dropped := true }

def subscribe (c : Channel P) (id : DocumentId := c.id) : Channel P × Nat :=
  ({ c with waiters := c.waiters ++ [{ id }] }, c.waiters.length)

def letGo (c : Channel P) (waiter : Nat) : Channel P :=
  { c with waiters := c.waiters.modify waiter fun w => { w with held := false } }

def waiterCount (c : Channel P) : Nat :=
  c.waiters.countP Waiter.isAlive

def wait (c : Channel P) (waiter : Nat) (atLeast : Version) : Channel P × Nat :=
  let waiters := c.waiters.modify waiter fun w => { w with line := w.line ++ [⟨c.tickets, atLeast⟩] }
  ({ c with waiters, tickets := c.tickets + 1 }, c.tickets)

def serve (slot : Slot P) (id : DocumentId) :
    List Wait → List (Nat × Except Refusal (Finding P)) × List Wait
  | [] => ([], [])
  | w :: line =>
    match slot.answer? id w.atLeast with
    | none => ([], w :: line)
    | some answer =>
      let (ended, rest) := serve slot id line
      ((w.ticket, answer) :: ended, rest)

def settle (c : Channel P) : Channel P :=
  { c with
    waiters := c.waiters.map fun w => { w with line := (serve c.slot w.id w.line).2 }
    ended := c.ended ++ c.waiters.flatMap fun w => (serve c.slot w.id w.line).1 }

end Channel

end LiveAnalysis
