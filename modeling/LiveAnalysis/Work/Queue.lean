import LiveAnalysis.Document.Id

namespace LiveAnalysis

inductive Enqueued where
  | added
  | coalesced
  | rejected
  deriving DecidableEq, Repr

/--
Documents to be analysed, first come first served and none twice. Those in the row are also kept as a set,
which is what an operation asks whether a document waits.
-/
structure Queue where
  order : List DocumentId := []
  pending : List DocumentId := []
  shutDown : Bool := false
  deriving DecidableEq, Repr

inductive Handed where
  | item (id : DocumentId)
  | nothing
  | shutDown
  deriving DecidableEq, Repr

namespace Queue

def enqueue (q : Queue) (id : DocumentId) : Queue × Enqueued :=
  if q.shutDown then (q, .rejected)
  else if id ∈ q.pending then (q, .coalesced)
  else ({ q with order := q.order ++ [id], pending := id :: q.pending }, .added)

def remove (q : Queue) (id : DocumentId) : Queue × Bool :=
  if id ∈ q.pending then
    ({ q with order := q.order.filter (· ≠ id), pending := q.pending.erase id }, true)
  else (q, false)

def hand (q : Queue) : Queue × Handed :=
  if q.shutDown then (q, .shutDown)
  else
    match q.order with
    | [] => (q, .nothing)
    | id :: rest => ({ q with order := rest, pending := q.pending.erase id }, .item id)

def leave (q : Queue) (rest : List DocumentId) : Queue :=
  { q with order := rest, pending := q.pending.filter (· ∈ rest) }

def shut (_ : Queue) : Queue :=
  { order := [], pending := [], shutDown := true }

end Queue

end LiveAnalysis
