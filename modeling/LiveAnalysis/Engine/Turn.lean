import LiveAnalysis.Engine.Waiting
import LiveAnalysis.Engine.Working

/-!
Turns in their order. The engine is settled when nobody is ready and all alarms up to the present have gone
off: then nothing more happens without a new call or the clock. Settling takes no more steps than the engine
has energy, since every step costs some.
-/

namespace LiveAnalysis

namespace Activity

variable {P : Type}

def isAnalysis : Activity P → Bool
  | .analysis .. => true
  | _ => false

def isCaller : Activity P → Bool
  | .call _ => true
  | .watch _ => true
  | .shutdown _ => true
  | _ => false

def energy (n : Nat) : Activity P → Nat
  | .take => 0
  | .process _ .idle => n + 4
  | .process _ _ => n + 1
  | .loop .idle => n + 2
  | .loop _ => 2 * n + 3
  | .analysis .. => 2
  | .wait .. => 1
  | .call _ => n + 7
  | .watch _ => 0
  | .shutdown false => n + 1
  | .shutdown true => 0

end Activity

namespace Engine

variable {P : Type}

def turn (w : Worker P) (e : Engine P) (t : Ticket) : Engine P :=
  match e.activity? t with
  | none => e
  | some .take => e.takeTurn t
  | some (.process id stage) => e.processTurn w t id stage
  | some (.loop stage) => e.loopTurn w t stage
  | some (.analysis owner s call) => e.analysisTurn w t owner s call
  | some (.wait place atLeast) => e.waitTurn t place atLeast
  | some (.call c) => e.callTurn t c
  | some (.watch watch) => e.watchTurn t watch
  | some (.shutdown begun) => e.shutdownTurn t begun

def hangUp (e : Engine P) : Engine P :=
  if e.abandoned && !e.stopped && !e.activities.any (·.2.isCaller) then e.stop.shutQueue else e

def abandon (e : Engine P) : Engine P :=
  { e with abandoned := true }.hangUp

def step (w : Worker P) (e : Engine P) : Engine P :=
  match e.ready with
  | [] => e.soundAlarms
  | t :: rest => ({ e with ready := rest }.turn w t).hangUp

def isSettled (e : Engine P) : Bool :=
  e.ready.isEmpty && e.clock ≤ e.alarmed

def energy (e : Engine P) : Nat :=
  let n := e.activities.countP (!·.2.isAnalysis)
  let toHangUp := if e.abandoned && !e.stopped then n else 0
  let toSound := if e.clock ≤ e.alarmed then 0 else n + 1
  e.ready.length + toHangUp + toSound + (n + 5) * e.queue.order.length + (e.activities.map (·.2.energy n)).foldr (· + ·) 0

def run (w : Worker P) : Nat → Engine P → Engine P
  | 0, e => e
  | n + 1, e => if e.isSettled then e else run w n (e.step w)

def settle (w : Worker P) (e : Engine P) : Engine P :=
  e.run w e.energy

end Engine

end LiveAnalysis
