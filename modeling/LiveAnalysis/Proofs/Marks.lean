import Mathlib.Data.List.Forall2
import LiveAnalysis.Source.Literal

namespace LiveAnalysis.Source

inductive Kind where
  | code
  | comment
  | literal
  | lineEnd
  deriving DecidableEq, Repr

/--
Where a reader of single characters stands. Behind two quotes it is open whether they are an empty literal
or the first two of three; inside a long literal the quotes of its kind that stand in a row are counted.
-/
inductive Place where
  | code
  | comment
  | opening (quote : Char)
  | doubled (quote : Char)
  | short (quote : Char) (escaped : Bool)
  | long (quote : Char) (escaped : Bool) (run : Nat)
  deriving DecidableEq, Repr

namespace Place

def readCode (c : Char) : Kind × Place :=
  if c = '#' then (.comment, .comment)
  else if isQuote c then (.literal, .opening c)
  else (.code, .code)

def readShort (quote c : Char) : Place :=
  if c = '\\' then .short quote true
  else if c = quote then .code
  else .short quote false

def readLong (quote : Char) (run : Nat) (c : Char) : Place :=
  if c = '\\' then .long quote true 0
  else if c = quote then if run = 2 then .code else .long quote false (run + 1)
  else .long quote false 0

def read : Place → Char → Kind × Place
  | .code, c => readCode c
  | .comment, _ => (.comment, .comment)
  | .opening quote, c => (.literal, if c = quote then .doubled quote else readShort quote c)
  | .doubled quote, c => if c = quote then (.literal, .long quote false 0) else readCode c
  | .short quote true, _ => (.literal, .short quote false)
  | .short quote false, c => (.literal, readShort quote c)
  | .long quote true _, _ => (.literal, .long quote false 0)
  | .long quote false run, c => (.literal, readLong quote run c)

def atLineEnd : Place → Place
  | .short quote true => .short quote false
  | .long quote _ _ => .long quote false 0
  | _ => .code

end Place

/-- A carriage return right before a line feed is part of the line end. -/
def markFrom : Place → List Char → List (Char × Kind)
  | _, [] => []
  | place, '\n' :: rest => ('\n', .lineEnd) :: markFrom place.atLineEnd rest
  | place, '\r' :: '\n' :: rest => ('\r', .lineEnd) :: ('\n', .lineEnd) :: markFrom place.atLineEnd rest
  | place, c :: rest => (c, (place.read c).1) :: markFrom (place.read c).2 rest

def marked (text : List Char) : List (Char × Kind) :=
  markFrom .code text

def rows : List (Char × Kind) → List (List (Char × Kind))
  | [] => []
  | (c, kind) :: rest =>
    if kind = .lineEnd then if c = '\n' then [] :: rows rest else rows rest
    else
      match rows rest with
      | [] => [[(c, kind)]]
      | row :: more => ((c, kind) :: row) :: more

namespace Place

def isOpen : Place → Bool
  | .code | .doubled _ => true
  | _ => false

def Sound : Place → Prop
  | .code | .comment => True
  | .opening quote | .doubled quote | .short quote _ | .long quote _ _ => isQuote quote = true

inductive Reads (place : Place) (c : Char) : Kind → Place → Prop where
  | code : place.isOpen → c ≠ '#' → isQuote c = false → Reads place c .code .code
  | comment : place = .comment ∨ c = '#' → Reads place c .comment .comment
  | literal (next : Place) : place ≠ .comment → next ≠ .comment →
      (place.Sound → next.Sound ∧ (next.isOpen → isQuote c = true)) → Reads place c .literal next

theorem reads_code {place : Place} (h : place.isOpen) (c : Char) :
    Reads place c (readCode c).1 (readCode c).2 := by
  have hc : place ≠ .comment := by
    rintro rfl
    cases h
  unfold readCode
  split
  case isTrue hn => exact .comment (.inr hn)
  case isFalse hn =>
    split
    case isTrue hq => exact .literal _ hc nofun fun _ => ⟨hq, nofun⟩
    case isFalse hq => exact .code h hn (eq_false_of_ne_true hq)

theorem reads_short (place : Place) {quote : Char} (hc : place ≠ .comment)
    (hs : place.Sound → isQuote quote = true) (c : Char) : Reads place c .literal (readShort quote c) := by
  unfold readShort
  split
  · exact .literal _ hc nofun fun h => ⟨hs h, nofun⟩
  · split
    case isTrue he => exact .literal _ hc nofun fun h => ⟨trivial, fun _ => he ▸ hs h⟩
    case isFalse => exact .literal _ hc nofun fun h => ⟨hs h, nofun⟩

theorem reads_long (place : Place) {quote : Char} (hc : place ≠ .comment)
    (hs : place.Sound → isQuote quote = true) (run : Nat) (c : Char) :
    Reads place c .literal (readLong quote run c) := by
  unfold readLong
  split
  · exact .literal _ hc nofun fun h => ⟨hs h, nofun⟩
  · split
    case isFalse => exact .literal _ hc nofun fun h => ⟨hs h, nofun⟩
    case isTrue he =>
      split
      · exact .literal _ hc nofun fun h => ⟨trivial, fun _ => he ▸ hs h⟩
      · exact .literal _ hc nofun fun h => ⟨hs h, nofun⟩

theorem reads (place : Place) (c : Char) : Reads place c (place.read c).1 (place.read c).2 := by
  cases place with
  | code => exact reads_code rfl c
  | comment => exact .comment (.inl rfl)
  | opening quote =>
    by_cases hc : c = quote
    · simp only [read, if_pos hc]
      exact .literal _ nofun nofun fun h => ⟨h, fun _ => hc ▸ h⟩
    · simp only [read, if_neg hc]
      exact reads_short (.opening quote) nofun id c
  | doubled quote =>
    by_cases hc : c = quote
    · simp only [read, if_pos hc]
      exact .literal _ nofun nofun fun h => ⟨h, nofun⟩
    · simp only [read, if_neg hc]
      exact reads_code rfl c
  | short quote escaped =>
    cases escaped
    · exact reads_short (.short quote false) nofun id c
    · exact .literal _ nofun nofun fun h => ⟨h, nofun⟩
  | long quote escaped run =>
    cases escaped
    · exact reads_long (.long quote false run) nofun id run c
    · exact .literal _ nofun nofun fun h => ⟨h, nofun⟩

theorem read_ne_lineEnd (place : Place) (c : Char) : (place.read c).1 ≠ .lineEnd := by
  intro h
  have hr := place.reads c
  rw [h] at hr
  cases hr

theorem isOpen_of_code {place : Place} {c : Char} (h : (place.read c).1 = .code) : place.isOpen := by
  have hr := place.reads c
  rw [h] at hr
  generalize (place.read c).2 = next at hr
  cases hr with
  | code ho => exact ho

theorem Sound.read {place : Place} (h : place.Sound) (c : Char) : (place.read c).2.Sound := by
  have hr := place.reads c
  generalize (place.read c).1 = kind, (place.read c).2 = next at hr ⊢
  cases hr with
  | code | comment => trivial
  | literal _ _ _ hs => exact (hs h).1

theorem Sound.isQuote {place : Place} (h : place.Sound) {c : Char} (hl : (place.read c).1 = .literal)
    (ho : (place.read c).2.isOpen) : Source.isQuote c = true := by
  have hr := place.reads c
  rw [hl] at hr
  generalize (place.read c).2 = next at hr ho
  cases hr with
  | literal _ _ _ hs => exact (hs h).2 ho

theorem Sound.atLineEnd {place : Place} (h : place.Sound) : place.atLineEnd.Sound := by
  cases place with
  | short quote escaped => cases escaped <;> trivial
  | long => exact h
  | _ => trivial

theorem atLineEnd_ne_comment (place : Place) : place.atLineEnd ≠ .comment := by
  cases place with
  | short quote escaped => cases escaped <;> nofun
  | _ => nofun

end Place

def markLine : Place → List Char → List (Char × Kind) × Place
  | place, [] => ([], place.atLineEnd)
  | place, c :: rest =>
    ((c, (place.read c).1) :: (markLine (place.read c).2 rest).1, (markLine (place.read c).2 rest).2)

def markRows : Place → List (List Char) → List (List (Char × Kind))
  | _, [] => []
  | place, line :: more => (markLine place line).1 :: markRows (markLine place line).2 more

theorem markLine_ne_comment (place : Place) (line : List Char) : (markLine place line).2 ≠ .comment := by
  induction line generalizing place with
  | nil => exact place.atLineEnd_ne_comment
  | cons c line ih => exact ih _

theorem rows_markFrom (place : Place) (text : List Char) :
    rows (markFrom place text) = markRows place (Text.lines text) := by
  fun_induction markFrom place text with
  | case1 place => rfl
  | case2 place rest ih => simp [rows, Text.lines, markRows, markLine, ih]
  | case3 place rest ih => simp [rows, Text.lines, markRows, markLine, ih]
  | case4 place c rest hn hr ih =>
    rw [rows, if_neg (place.read_ne_lineEnd c), ih, Text.lines]
    · cases Text.lines rest <;> rfl
    · exact hn
    · exact hr

theorem markFrom_chars (place : Place) (text : List Char) : (markFrom place text).map Prod.fst = text := by
  fun_induction markFrom place text <;> simp_all

theorem markLine_chars (place : Place) (line : List Char) : (markLine place line).1.map Prod.fst = line := by
  induction line generalizing place with
  | nil => rfl
  | cons c line ih => simp [markLine, ih]

theorem rows_chars (text : List Char) : (rows (marked text)).map (·.map Prod.fst) = Text.lines text := by
  rw [marked, rows_markFrom]
  generalize Place.code = place
  induction Text.lines text generalizing place with
  | nil => rfl
  | cons line more ih => simp [markRows, markLine_chars, ih]

theorem rows_line {text : List Char} {number : Nat} {row : List (Char × Kind)}
    (h : (rows (marked text))[number]? = some row) : (Text.lines text)[number]? = some (row.map Prod.fst) := by
  rw [← rows_chars, List.getElem?_map, h]
  rfl

def Quoted (row : List (Char × Kind)) : Prop :=
  row.IsChain fun p q => p.2 = .literal → q.2 = .code → isQuote p.1 = true

theorem quoted_markLine {place : Place} (h : place.Sound) (line : List Char) :
    Quoted (markLine place line).1 ∧ (markLine place line).2.Sound := by
  induction line generalizing place with
  | nil => exact ⟨.nil, h.atLineEnd⟩
  | cons c line ih =>
    obtain ⟨hrow,hlast⟩ := ih (h.read c)
    refine ⟨?_, hlast⟩
    cases line with
    | nil => exact .singleton _
    | cons d line => exact .cons_cons (fun hl hc => h.isQuote hl (Place.isOpen_of_code hc)) hrow

theorem quoted_rows (text : List Char) : ∀ row ∈ rows (marked text), Quoted row := by
  rw [marked, rows_markFrom]
  have hs : Place.code.Sound := trivial
  generalize Place.code = place at hs
  induction Text.lines text generalizing place with
  | nil => nofun
  | cons line more ih =>
    obtain ⟨hrow,hlast⟩ := quoted_markLine hs line
    exact List.forall_mem_cons.mpr ⟨hrow, ih _ hlast⟩

end LiveAnalysis.Source
