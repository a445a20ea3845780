import LiveAnalysis.Work.Bell

namespace LiveAnalysis

structure Gate where
  permits : Nat := 0
  waiting : List Ticket := []
  deriving DecidableEq, Repr

namespace Gate

def arrive (g : Gate) (t : Ticket) : Gate × Bool :=
  if 0 < g.permits then ({ g with permits := g.permits - 1 }, true)
  else ({ g with waiting := g.waiting ++ [t] }, false)

def release (g : Gate) (n : Nat) : Gate × List Ticket :=
  ({ permits := g.permits + (n - g.waiting.length), waiting := g.waiting.drop n }, g.waiting.take n)

end Gate

end LiveAnalysis
