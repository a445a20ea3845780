namespace LiveAnalysis.Time

def padded (width n : Nat) : String :=
  let digits := Nat.toDigits 10 n
  String.ofList (List.replicate (width - digits.length) '0' ++ digits)

def thousandths (n : Nat) : String :=
  if n = 0 then ""
  else if n % 100 = 0 then "." ++ padded 1 (n / 100)
  else if n % 10 = 0 then "." ++ padded 2 (n / 10)
  else "." ++ padded 3 n

/--
A span of whole milliseconds: in seconds from one second on, in milliseconds below that, and nothing
at all in the smallest unit, the nanosecond.
-/
def spanText (ms : Nat) : String :=
  if ms = 0 then "0ns"
  else if ms < 1000 then s!"{ms}ms"
  else toString (ms / 1000) ++ thousandths (ms % 1000) ++ "s"

end LiveAnalysis.Time
