namespace LiveAnalysis.Uri.Punycode

def digit (d : Nat) : Char :=
  if d < 26 then Char.ofNat (97 + d) else Char.ofNat (22 + d)

def threshold (position bias : Nat) : Nat :=
  if position ≤ bias then 1 else min 26 (position - bias)

theorem threshold_pos (position bias : Nat) : 0 < threshold position bias := by
  unfold threshold
  split <;> omega

def number (bias position n : Nat) : List Char :=
  let t := threshold position bias
  if n < t then [digit n]
  else digit (t + (n - t) % (36 - t)) :: number bias (position + 36) ((n - t) / (36 - t))
termination_by n
decreasing_by
  have h := threshold_pos position bias
  exact Nat.lt_of_le_of_lt (Nat.div_le_self _ _) (by omega)

def shrink (delta steps : Nat) : Nat × Nat :=
  if 455 < delta then shrink (delta / 35) (steps + 1) else (delta, steps)
termination_by delta
decreasing_by exact Nat.div_lt_self (by omega) (by omega)

def adapt (delta handled : Nat) (first : Bool) : Nat :=
  let scaled := if first then delta / 700 else delta / 2
  let (rest, steps) := shrink (scaled + scaled / handled) 0
  36 * steps + 36 * rest / (rest + 38)

structure State where
  out : List Char
  delta : Nat
  bias : Nat
  handled : Nat

def visit (basic m : Nat) (s : State) (c : Char) : State :=
  if c.toNat < m then { s with delta := s.delta + 1 }
  else if c.toNat = m then
    { out := s.out ++ number s.bias 36 s.delta
      delta := 0
      bias := adapt s.delta (s.handled + 1) (s.handled = basic)
      handled := s.handled + 1 }
  else s

/-- Inserts the code points of `todo`, ascending, one by one; all below `next` are in. -/
def insertAll (label : List Char) (basic : Nat) : (todo : List Nat) → (next : Nat) → State → State
  | [], _, s => s
  | m :: more, next, s =>
    let s := { s with delta := s.delta + (m - next) * (s.handled + 1) }
    let s := label.foldl (visit basic m) s
    insertAll label basic more (m + 1) { s with delta := s.delta + 1 }

def insertPoint (n : Nat) : List Nat → List Nat
  | [] => [n]
  | m :: ms => if n < m then n :: m :: ms else if n = m then m :: ms else m :: insertPoint n ms

def encode (label : List Char) : List Char :=
  let basic := label.filter (·.toNat < 128)
  let others := ((label.filter (128 ≤ ·.toNat)).map Char.toNat).foldr insertPoint []
  let start := if basic.isEmpty then [] else basic ++ ['-']
  (insertAll label basic.length others 128 ⟨start, 0, 72, basic.length⟩).out

def digitValue? (c : Char) : Option Nat :=
  if c.isDigit then some (c.toNat - 22)
  else if c.isLower then some (c.toNat - 97)
  else if c.isUpper then some (c.toNat - 65)
  else none

structure Reading where
  out : List Char
  point : Nat := 128
  index : Nat := 0
  bias : Nat := 72
  position : Nat := 36
  weight : Nat := 1
  number : Nat := 0

def Reading.place (r : Reading) (number : Nat) : Option Reading :=
  let length := r.out.length + 1
  let point := r.point + (r.index + number) / length
  let index := (r.index + number) % length
  if point.isValidChar then
    some
      { out := r.out.insertIdx index (Char.ofNat point)
        point
        index := index + 1
        bias := adapt number length (r.index = 0) }
  else none

def Reading.take (r : Reading) (c : Char) : Option Reading := do
  let d ← digitValue? c
  let t := threshold r.position r.bias
  let number := r.number + d * r.weight
  if d < t then r.place number
  else some { r with number, weight := r.weight * (36 - t), position := r.position + 36 }

def decode? (cs : List Char) : Option (List Char) := do
  let digits := (cs.reverse.takeWhile (· ≠ '-')).reverse
  let r ← digits.foldlM Reading.take { out := cs.take (cs.length - digits.length - 1) }
  if r.weight = 1 then some r.out else none

end LiveAnalysis.Uri.Punycode
