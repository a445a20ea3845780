import LiveAnalysis.Time.Span

/-!
Instants on the civil calendar. The calendar is the proleptic Gregorian one, in universal time. It counts no
leap seconds, but an instant may lie in one, as in a second that takes twice as long.
-/

namespace LiveAnalysis.Time

/--
Seconds since the start of 1970, and nanoseconds within the second. From the thousand millionth nanosecond on,
the instant lies in the leap second after it.
-/
structure Instant where
  seconds : Int
  nanos : Nat
  deriving DecidableEq, Repr

structure Date where
  year : Int
  month : Nat
  day : Nat
  deriving DecidableEq, Repr

def isLeap (year : Int) : Bool :=
  year % 4 = 0 && (year % 100 ≠ 0 || year % 400 = 0)

def eraDays : Int := 146097

/--
The date that comes so many days after the start of 1970. Years are counted from March, so that a
leap day ends its year: day `d` of an era lies in year `(d - d/1460 + d/36524 - d/146096) / 365`,
and the months from March on have 31, 30, 31, 30, 31 days over and over.
-/
def dateOfDays (days : Int) : Date :=
  let shifted := days + 719468
  let era := shifted / eraDays
  let d := (shifted % eraDays).toNat
  let y := (d - d / 1460 + d / 36524 - d / 146096) / 365
  let inYear := d - (365 * y + y / 4 - y / 100)
  let m := (5 * inYear + 2) / 153
  let month := if m < 10 then m + 3 else m - 9
  { year := y + era * 400 + (if month ≤ 2 then 1 else 0)
    month
    day := inYear - (153 * m + 2) / 5 + 1 }

def yearText (year : Int) : String :=
  if year < 0 then "-" ++ padded 4 year.natAbs
  else if year ≤ 9999 then padded 4 year.natAbs
  else "+" ++ padded 4 year.natAbs

namespace Instant

def date (t : Instant) : Date :=
  dateOfDays (t.seconds / 86400)

def dateText (t : Instant) : String :=
  let d := t.date
  yearText d.year ++ "-" ++ padded 2 d.month ++ "-" ++ padded 2 d.day

def timeText (t : Instant) : String :=
  let s := (t.seconds % 86400).toNat
  padded 2 (s / 3600) ++ ":" ++ padded 2 (s / 60 % 60) ++ ":" ++ padded 2 (s % 60 + t.nanos / 1000000000)

def fractionText (t : Instant) : String :=
  let nanos := t.nanos % 1000000000
  if nanos = 0 then ""
  else if nanos % 1000000 = 0 then "." ++ padded 3 (nanos / 1000000)
  else if nanos % 1000 = 0 then "." ++ padded 6 (nanos / 1000)
  else "." ++ padded 9 nanos

def stamp (t : Instant) : String :=
  t.dateText ++ "T" ++ t.timeText ++ t.fractionText ++ "Z"

def readable (t : Instant) : String :=
  t.dateText ++ " " ++ t.timeText ++ " UTC"

end Instant

end LiveAnalysis.Time
