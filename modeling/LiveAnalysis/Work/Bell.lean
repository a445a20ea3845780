/-!
A bell that consumers wait for. One ring wakes the consumer who has waited longest. A ring that nobody
waits for is kept for the next who comes; no more than one is kept. Who leaves after a ring was meant for
him, without having answered it, passes it on.
-/

namespace LiveAnalysis

abbrev Ticket := Nat

structure Bell where
  kept : Bool := false
  waiting : List Ticket := []
  rung : List Ticket := []
  deriving DecidableEq, Repr

namespace Bell

def ring (b : Bell) : Bell × Option Ticket :=
  match b.waiting with
  | [] => ({ b with kept := true }, none)
  | t :: rest => ({ b with waiting := rest, rung := t :: b.rung }, some t)

def ringAll (b : Bell) : Bell × List Ticket :=
  ({ b with waiting := [] }, b.waiting)

def answer (b : Bell) (t : Ticket) : Bell :=
  { kept := false, waiting := b.waiting.erase t, rung := b.rung.erase t }

def wait (b : Bell) (t : Ticket) : Bell :=
  { b with waiting := b.waiting ++ [t] }

def leave (b : Bell) (t : Ticket) : Bell × Option Ticket :=
  if t ∈ b.rung then { b with rung := b.rung.erase t }.ring
  else ({ b with waiting := b.waiting.erase t }, none)

end Bell

end LiveAnalysis
