import Mathlib.Data.List.Chain
import LiveAnalysis.Source.Cursor
import LiveAnalysis.Proofs.Nesting

namespace LiveAnalysis.Source

namespace Place

/--
Whether the next character stands strictly inside a literal, given what follows it. A quote in a long literal
does unless it is one of the first three in a row.
-/
def isInside : Place → Char → List Char → Bool
  | .opening quote, c, _ => c ≠ quote
  | .short _ true, _, _ => true
  | .short quote false, c, _ => c ≠ quote
  | .long _ true _, _, _ => true
  | .long quote false run, c, rest => !(c = quote && (List.replicate (2 - run) quote).isPrefixOf rest)
  | _, _, _ => false

def isOutside : Place → Option Char → Bool
  | .code, _ => true
  | .doubled quote, next => next ≠ some quote
  | _, _ => false

def behind (place : Place) (cs : List Char) : Place :=
  cs.foldl (fun place c => (place.read c).2) place

end Place

def placeAt : Place → List (List Char) → Nat → Place
  | place, line :: more, number + 1 => placeAt (markLine place line).2 more number
  | place, _, _ => place

def inner : Place → List Char → List (Char × Bool)
  | _, [] => []
  | place, c :: rest => (c, place.isInside c rest) :: inner (place.read c).2 rest

structure Encloses (p : Char × Kind) (q : Char × Bool) : Prop where
  same : p.1 = q.1
  inside : q.2 = true → p.2 = .literal
  quote : p.2 = .literal → q.2 = true ∨ isQuote q.1 = true

def maskOne (p : Char × Bool) : Char :=
  if p.2 then 'x' else p.1

def maskFrom (number : Nat) : Nat → Place → List Char → List Char
  | _, _, [] => []
  | line, place, '\n' :: rest => '\n' :: maskFrom number (line + 1) place.atLineEnd rest
  | line, place, '\r' :: '\n' :: rest => '\r' :: '\n' :: maskFrom number (line + 1) place.atLineEnd rest
  | line, place, c :: rest =>
    maskOne (c, line = number && place.isInside c rest) :: maskFrom number line (place.read c).2 rest

def mask (text : String) (number : Nat) : String :=
  String.ofList (maskFrom number 0 .code text.toList)

def isOutsideAt (text : List Char) (number column : Nat) : Bool :=
  match (Text.lines text)[number]? with
  | none => true
  | some cs => ((placeAt .code (Text.lines text) number).behind (cs.take column)).isOutside cs[column]?

def innerBefore (text : List Char) (number column : Nat) : List (Char × Bool) :=
  match (Text.lines text)[number]? with
  | none => []
  | some line => (inner (placeAt .code (Text.lines text) number) line).take column

def contents : List Char → List (Char × Bool) → List (List Char × List (Char × Bool))
  | _, [] => []
  | content, (c, true) :: rest => contents (content ++ [c]) rest
  | [], (_, false) :: rest => contents [] rest
  | content, (_, false) :: rest => (content, rest) :: contents [] rest

/--
In how many closed brackets a place stands, as seen from a cursor behind it. There is no answer where a bracket between
them is still open at the cursor. The characters are read backwards.
-/
def depthFrom : Nat → List Char → Option Nat
  | depth, [] => some depth
  | depth, c :: before =>
    if isClosing c then depthFrom (depth + 1) before
    else if isOpening c then
      match depth with
      | 0 => none
      | depth + 1 => depthFrom depth before
    else depthFrom depth before

inductive Mild : List Char → Prop where
  | nil : Mild []
  | plain (c : Char) (rest : List Char) : isBracket c = false → c ≠ ',' → Mild rest → Mild (c :: rest)
  | pair (b : Char) (inside : List Char) (c : Char) (rest : List Char) : isOpening b = true → isClosing c = true →
      opening c = b → Nests inside → Mild rest → Mild (b :: (inside ++ c :: rest))

def Neutral : Nat → List Char → Prop
  | 0, content => Mild content
  | _ + 1, content => Nests content

/-- What stands in the literals of a line does not pass for arguments of a call around its end. -/
def Harmless (depth : Nat) (row : List (Char × Bool)) : Prop :=
  ∀ l ∈ contents [] row, ∀ d ∈ depthFrom depth (l.2.map maskOne).reverse, Neutral d l.1

section Back

variable {c : Char} {depth commas : Nat} {before : List Char}

theorem callFrom_closing (h : isClosing c = true) :
    callFrom depth commas (c :: before) = callFrom (depth + 1) commas before := by
  simp only [isClosing, Bool.or_eq_true, decide_eq_true_eq, or_assoc] at h
  rw [callFrom, if_pos h]

theorem callFrom_opening (h : isOpening c = true) :
    callFrom (depth + 1) commas (c :: before) = callFrom depth commas before := by
  have hc : ¬(c = ')' ∨ c = ']' ∨ c = '\x7d') := by
    simp only [isOpening, Bool.or_eq_true, decide_eq_true_eq] at h
    rcases h with (rfl | rfl) | rfl <;> decide
  simp only [isOpening, Bool.or_eq_true, decide_eq_true_eq, or_assoc] at h
  rw [callFrom, if_neg hc, if_pos h, if_pos (Nat.zero_lt_succ depth)]
  rfl

theorem callFrom_plain (h : isBracket c = false) (hc : ¬(c = ',' ∧ depth = 0)) :
    callFrom depth commas (c :: before) = callFrom depth commas before := by
  simp only [isBracket, isOpening, isClosing, Bool.or_eq_false_iff, decide_eq_false_iff_not] at h
  obtain ⟨⟨⟨h₁,h₂⟩,h₃⟩,⟨h₄,h₅⟩,h₆⟩ := h
  rw [callFrom, if_neg (by simp [h₄, h₅, h₆]), if_neg (by simp [h₁, h₂, h₃]), if_neg hc]

theorem callFrom_comma : callFrom 0 commas (',' :: before) = callFrom 0 (commas + 1) before := rfl

theorem callFrom_enclosing (h : isOpening c = true) {before' : List Char}
    (hcallee : (before.dropWhile Text.isBlank).takeWhile isNameChar =
      (before'.dropWhile Text.isBlank).takeWhile isNameChar) :
    callFrom 0 commas (c :: before) = callFrom 0 commas (c :: before') := by
  simp only [isOpening, Bool.or_eq_true, decide_eq_true_eq] at h
  rcases h with (rfl | rfl) | rfl
  · simp [callFrom, hcallee]
  · rfl
  · rfl

theorem depthFrom_closing (h : isClosing c = true) : depthFrom depth (c :: before) = depthFrom (depth + 1) before := by
  rw [depthFrom.eq_def]
  simp only [h, if_true]

theorem depthFrom_opening (h : isOpening c = true) : depthFrom (depth + 1) (c :: before) = depthFrom depth before := by
  have hc : isClosing c = false := eq_false_of_ne_true fun hc => by simp [not_isOpening hc] at h
  rw [depthFrom.eq_def]
  simp [h, hc]

theorem depthFrom_plain (h : isBracket c = false) : depthFrom depth (c :: before) = depthFrom depth before := by
  simp only [isBracket, Bool.or_eq_false_iff] at h
  rw [depthFrom.eq_def]
  simp [h]

end Back

theorem callFrom_nests {inside : List Char} (h : Nests inside) (depth commas : Nat) (before : List Char) :
    callFrom (depth + 1) commas (inside.reverse ++ before) = callFrom (depth + 1) commas before := by
  induction h generalizing depth before with
  | nil => rfl
  | plain c rest ho hc _ ih =>
    have hb : isBracket c = false := by simp [isBracket, ho, hc]
    rw [List.reverse_cons, List.append_assoc, ih]
    exact callFrom_plain hb (by simp)
  | pair b inside c rest hb hc _ _ _ ihinside ihrest =>
    have hsplit : (b :: (inside ++ c :: rest)).reverse ++ before =
        rest.reverse ++ c :: (inside.reverse ++ b :: before) := by simp
    rw [hsplit, ihrest, callFrom_closing hc, ihinside, callFrom_opening hb]

theorem callFrom_mild {content : List Char} (h : Mild content) (depth commas : Nat) (before : List Char) :
    callFrom depth commas (content.reverse ++ before) = callFrom depth commas before := by
  induction h generalizing before with
  | nil => rfl
  | plain c rest hb hc _ ih =>
    rw [List.reverse_cons, List.append_assoc, ih]
    exact callFrom_plain hb fun h => hc h.1
  | pair b inside c rest hb hc _ hn _ ih =>
    have hsplit : (b :: (inside ++ c :: rest)).reverse ++ before =
        rest.reverse ++ c :: (inside.reverse ++ b :: before) := by simp
    rw [hsplit, ih, callFrom_closing hc, callFrom_nests hn, callFrom_opening hb]

theorem callFrom_neutral {content : List Char} {depth : Nat} (h : Neutral depth content) (commas : Nat)
    (before : List Char) : callFrom depth commas (content.reverse ++ before) = callFrom depth commas before := by
  cases depth with
  | zero => exact callFrom_mild h 0 commas before
  | succ depth => exact callFrom_nests h depth commas before

theorem callFrom_replicate (depth commas n : Nat) (before : List Char) :
    callFrom depth commas (List.replicate n 'x' ++ before) = callFrom depth commas before := by
  induction n with
  | zero => rfl
  | succ n ih =>
    rw [List.replicate_succ, List.cons_append, callFrom_plain rfl (fun h => absurd h.1 (by decide)), ih]

theorem depthFrom_replicate (depth n : Nat) (before : List Char) :
    depthFrom depth (List.replicate n 'x' ++ before) = depthFrom depth before := by
  induction n with
  | zero => rfl
  | succ n ih => rw [List.replicate_succ, List.cons_append, depthFrom_plain rfl, ih]

namespace Place

theorem readShort_of_ne {quote c : Char} (h : c ≠ quote) : ∃ escaped, readShort quote c = .short quote escaped := by
  rw [readShort, if_neg h]
  split
  · exact ⟨true,rfl⟩
  · exact ⟨false,rfl⟩

theorem readLong_of_inside {quote c : Char} {run : Nat} {rest : List Char}
    (h : (long quote false run).isInside c rest = true) :
    ∃ escaped run', readLong quote run c = .long quote escaped run' := by
  unfold readLong
  split
  · exact ⟨true, 0, rfl⟩
  · split
    case isFalse => exact ⟨false, 0, rfl⟩
    case isTrue hc =>
      have hrun : run ≠ 2 := by
        rintro rfl
        simp [isInside, hc] at h
      rw [if_neg hrun]
      exact ⟨false, run + 1, rfl⟩

theorem goes_on {place : Place} {c : Char} {rest : List Char} (h : place.isInside c rest = true) : ∃ quote escaped,
    (place.Sound → Source.isQuote quote = true) ∧
      ((place.read c).2 = .short quote escaped ∨ ∃ run, (place.read c).2 = .long quote escaped run) := by
  cases place with
  | code | comment | doubled quote => cases h
  | opening quote =>
    have hc : c ≠ quote := by simpa [isInside] using h
    obtain ⟨escaped,he⟩ := readShort_of_ne hc
    exact ⟨quote, escaped, id, .inl (by simp [read, hc, he])⟩
  | short quote escaped =>
    cases escaped with
    | true => exact ⟨quote, false, id, .inl rfl⟩
    | false =>
      obtain ⟨escaped,he⟩ := readShort_of_ne (by simpa [isInside] using h)
      exact ⟨quote, escaped, id, .inl he⟩
  | long quote escaped run =>
    cases escaped with
    | true => exact ⟨quote, false, id, .inr ⟨0,rfl⟩⟩
    | false =>
      obtain ⟨escaped,run',he⟩ := readLong_of_inside h
      exact ⟨quote, escaped, id, .inr ⟨run',he⟩⟩

theorem not_isOpen_of_isInside {place : Place} {c : Char} {rest : List Char} (h : place.isInside c rest = true) :
    (place.read c).2.isOpen = false := by
  obtain ⟨quote,escaped,-,he | ⟨run,he⟩⟩ := goes_on h <;> rw [he] <;> rfl

theorem Sound.isQuote_of_isInside {place : Place} (hs : place.Sound) {c d : Char} {rest rest' : List Char}
    (h : place.isInside c rest = true) (hd : (place.read c).2.isInside d rest' = false) : Source.isQuote d = true := by
  obtain ⟨quote,escaped,hq,hnext⟩ := goes_on h
  have hdq : d = quote := by
    rcases hnext with he | ⟨run,he⟩ <;> rw [he] at hd <;> cases escaped <;> simp [isInside] at hd
    · exact hd
    · exact hd.1
  exact hdq ▸ hq hs

theorem literal_of_isInside {place : Place} {c : Char} {rest : List Char} (h : place.isInside c rest = true) :
    (place.read c).1 = .literal := by
  cases place with
  | code | comment | doubled => cases h
  | opening => rfl
  | short quote escaped => cases escaped <;> rfl
  | long quote escaped run => cases escaped <;> rfl

theorem isQuote_of_readCode {c : Char} (h : (readCode c).1 = .literal) : Source.isQuote c = true := by
  unfold readCode at h
  split at h
  · cases h
  · split at h
    case isTrue hq => exact hq
    case isFalse => cases h

theorem Sound.isQuote_of_not_isInside {place : Place} (hs : place.Sound) {c : Char} {rest : List Char}
    (hl : (place.read c).1 = .literal) (h : place.isInside c rest = false) : Source.isQuote c = true := by
  cases place with
  | code => exact isQuote_of_readCode hl
  | comment => cases hl
  | opening quote =>
    have hc : c = quote := by simpa [isInside] using h
    exact hc ▸ hs
  | doubled quote =>
    by_cases hc : c = quote
    · exact hc ▸ hs
    · rw [Place.read, if_neg hc] at hl
      exact isQuote_of_readCode hl
  | short quote escaped =>
    cases escaped with
    | true => cases h
    | false =>
      have hc : c = quote := by simpa [isInside] using h
      exact hc ▸ hs
  | long quote escaped run =>
    cases escaped with
    | true => cases h
    | false =>
      simp [isInside] at h
      exact h.1 ▸ hs

end Place

def Fenced (row : List (Char × Bool)) : Prop :=
  row.IsChain fun p q => p.2 = true → q.2 = false → isQuote q.1 = true

theorem inner_chars (place : Place) (line : List Char) : (inner place line).map Prod.fst = line := by
  induction line generalizing place with
  | nil => rfl
  | cons c line ih => rw [inner, List.map_cons, ih]

example : (inner .code "'a''\\'' + \"\"\"b\"\"c\"\"\" + ''".toList).filterMap (fun p => if p.2 then some p.1 else none) =
    "a\\'b\"\"c".toList := by
  decide +kernel

theorem inner_marks {place : Place} (h : place.Sound) (line : List Char) :
    List.Forall₂ Encloses (markLine place line).1 (inner place line) := by
  induction line generalizing place with
  | nil => exact .nil
  | cons c line ih =>
    refine .cons ⟨rfl, Place.literal_of_isInside, fun hl => ?_⟩ (ih (h.read c))
    cases hi : place.isInside c line with
    | true => exact .inl rfl
    | false => exact .inr (h.isQuote_of_not_isInside hl hi)

theorem fenced_inner {place : Place} (h : place.Sound) (line : List Char) : Fenced (inner place line) := by
  induction line generalizing place with
  | nil => exact .nil
  | cons c line ih =>
    cases line with
    | nil => exact .singleton _
    | cons d line => exact .cons_cons (fun hc hd => h.isQuote_of_isInside hc hd) (ih (h.read c))

theorem outside_last {place : Place} {line : List Char} {column : Nat}
    (h : (place.behind (line.take column)).isOpen = true) : ∀ p ∈ ((inner place line).take column).getLast?, p.2 = false := by
  induction line generalizing place column with
  | nil => simp [inner]
  | cons c line ih =>
    cases column with
    | zero => simp
    | succ column =>
      rw [inner, List.take_succ_cons]
      rcases htail : (inner (place.read c).2 line).take column with _ | ⟨q,tail⟩
      · have hnil : line.take column = [] := by
          have hchars := congrArg (List.map Prod.fst) htail
          rwa [List.map_take, inner_chars] at hchars
        rw [List.take_succ_cons, hnil] at h
        rintro p ⟨⟩
        refine eq_false_of_ne_true fun hp => ?_
        cases (Place.not_isOpen_of_isInside hp).symm.trans h
      · rw [List.getLast?_cons_cons, ← htail]
        exact ih h

theorem quote_plain {quote : Char} (h : isQuote quote = true) :
    isBracket quote = false ∧ quote ≠ ',' ∧ Text.isBlank quote = false ∧ isNameChar quote = false := by
  simp only [isQuote, Bool.or_eq_true, decide_eq_true_eq] at h
  rcases h with rfl | rfl <;> decide

inductive Closed : List (Char × Bool) → Prop where
  | nil : Closed []
  | visible (row : List (Char × Bool)) (c : Char) : Closed row → Closed (row ++ [(c,false)])
  | literal (row : List (Char × Bool)) (content : List Char) (quote : Char) : Closed row → content ≠ [] →
      isQuote quote = true → Closed (row ++ (content.map (·,true) ++ [(quote,false)]))

theorem Fenced.closed_part {row : List (Char × Bool)} (h : Fenced row) :
    ∃ (front : List (Char × Bool)) (content : List Char), row = front ++ content.map (·,true) ∧ Closed front := by
  induction row using List.reverseRecOn with
  | nil => exact ⟨[], [], rfl, .nil⟩
  | append_singleton row p ih =>
    obtain ⟨hrow,-,hnext⟩ := List.isChain_append.mp h
    obtain ⟨front,content,rfl,hfront⟩ := ih hrow
    obtain ⟨c,isInside⟩ := p
    cases isInside with
    | true => exact ⟨front, content ++ [c], by simp, hfront⟩
    | false =>
      rcases List.eq_nil_or_concat content with rfl | ⟨content,d,rfl⟩
      · exact ⟨front ++ [(c,false)], [], by simp, hfront.visible _ c⟩
      · have hquote : isQuote c = true := hnext (d,true) (by simp) (c,false) rfl rfl rfl
        exact ⟨_, [], by simp, hfront.literal _ (content ++ [d]) c (by simp) hquote⟩

theorem chars_inside (content : List Char) : (content.map (·,true)).map Prod.fst = content := by
  simp [Function.comp_def]

theorem masked_inside (content : List Char) : (content.map (·,true)).map maskOne = List.replicate content.length 'x' := by
  simp [maskOne, Function.comp_def]

theorem contents_inside (content read : List Char) (rest : List (Char × Bool)) :
    contents read (content.map (·,true) ++ rest) = contents (read ++ content) rest := by
  induction content generalizing read with
  | nil => simp
  | cons c content ih => simp [contents, ih]

theorem contents_closed {content : List Char} (h : content ≠ []) (c : Char) (rest : List (Char × Bool)) :
    contents [] (content.map (·,true) ++ (c,false) :: rest) = (content,rest) :: contents [] rest := by
  rw [contents_inside, List.nil_append]
  cases content with
  | nil => exact absurd rfl h
  | cons d content => rfl

theorem contents_append {content : List Char} {row : List (Char × Bool)} {l : List Char × List (Char × Bool)}
    (h : l ∈ contents content row) (more : List (Char × Bool)) :
    (l.1, l.2 ++ more) ∈ contents content (row ++ more) := by
  fun_induction contents content row with
  | case1 => cases h
  | case2 content c rest ih => exact ih h
  | case3 c rest ih => exact ih h
  | case4 content c rest hne ih =>
    rw [List.cons_append, contents]
    · rcases List.mem_cons.mp h with rfl | h
      · exact List.mem_cons_self
      · exact List.mem_cons_of_mem _ (ih h)
    · exact hne

namespace Closed

variable {row : List (Char × Bool)} (h : Closed row)

include h

theorem contents_eq (rest : List (Char × Bool)) : ∃ before, contents [] (row ++ rest) = before ++ contents [] rest := by
  induction h generalizing rest with
  | nil => exact ⟨[], rfl⟩
  | visible row c _ ih =>
    obtain ⟨before,he⟩ := ih ((c,false) :: rest)
    exact ⟨before, by simpa [contents] using he⟩
  | literal row content quote _ hne _ ih =>
    obtain ⟨before,he⟩ := ih (content.map (·,true) ++ (quote,false) :: rest)
    refine ⟨before ++ [(content,rest)], ?_⟩
    rw [contents_closed hne] at he
    simpa using he

theorem word : (row.map maskOne).reverse.takeWhile isNameChar = (row.map Prod.fst).reverse.takeWhile isNameChar := by
  induction h with
  | nil => rfl
  | visible row c _ ih => simp [maskOne, List.takeWhile_cons, ih]
  | literal row content quote _ _ hq _ => simp [maskOne, (quote_plain hq).2.2.2]

theorem callee : ((row.map maskOne).reverse.dropWhile Text.isBlank).takeWhile isNameChar =
    ((row.map Prod.fst).reverse.dropWhile Text.isBlank).takeWhile isNameChar := by
  induction h with
  | nil => rfl
  | visible row c hrow ih =>
    rw [List.map_append, List.map_append, List.reverse_append, List.reverse_append]
    by_cases hb : Text.isBlank c = true
    · simpa [maskOne, hb] using ih
    · simp [maskOne, hb, List.takeWhile_cons, hrow.word]
  | literal row content quote _ _ hq _ => simp [maskOne, (quote_plain hq).2.2.1, (quote_plain hq).2.2.2]

end Closed

namespace Harmless

variable {depth : Nat} {row : List (Char × Bool)}

theorem visible {depth' : Nat} {c : Char} (h : Harmless depth (row ++ [(c,false)]))
    (hd : ∀ before, depthFrom depth (c :: before) = depthFrom depth' before) : Harmless depth' row := by
  intro l hl d hdepth
  refine h _ (contents_append hl [(c,false)]) d ?_
  simpa [maskOne, hd] using hdepth

variable {content : List Char} {quote : Char} (h : Harmless depth (row ++ (content.map (·,true) ++ [(quote,false)])))

include h

theorem before (hq : isBracket quote = false) : Harmless depth row := by
  intro l hl d hdepth
  refine h _ (contents_append hl _) d ?_
  have hquote : maskOne (quote,false) = quote := rfl
  rw [List.map_append, List.map_append, masked_inside, List.map_singleton, hquote, ← List.append_assoc,
    List.reverse_concat, depthFrom_plain hq, List.reverse_append, List.reverse_replicate, depthFrom_replicate]
  exact hdepth

theorem neutral (hrow : Closed row) (hne : content ≠ []) : Neutral depth content := by
  obtain ⟨before,he⟩ := hrow.contents_eq (content.map (·,true) ++ [(quote,false)])
  rw [contents_closed hne] at he
  exact h (content,[]) (by simp [he]) depth rfl

end Harmless

theorem Closed.callFrom_masked {row : List (Char × Bool)} (h : Closed row) {depth : Nat} (commas : Nat)
    (hn : Harmless depth row) :
    callFrom depth commas (row.map maskOne).reverse = callFrom depth commas (row.map Prod.fst).reverse := by
  induction h generalizing depth commas with
  | nil => rfl
  | visible row c hrow ih =>
    have hchars : ((row ++ [(c,false)]).map Prod.fst).reverse = c :: (row.map Prod.fst).reverse := by simp
    have hmasked : ((row ++ [(c,false)]).map maskOne).reverse = c :: (row.map maskOne).reverse := by simp [maskOne]
    rw [hchars, hmasked]
    by_cases hclosing : isClosing c = true
    · rw [callFrom_closing hclosing, callFrom_closing hclosing]
      exact ih commas (hn.visible fun _ => depthFrom_closing hclosing)
    by_cases hopening : isOpening c = true
    · cases depth with
      -- the bracket of the call: what stands before it counts for the name only, whatever its literals hold
      | zero => exact callFrom_enclosing hopening hrow.callee
      | succ depth =>
        rw [callFrom_opening hopening, callFrom_opening hopening]
        exact ih commas (hn.visible fun _ => depthFrom_opening hopening)
    have hplain : isBracket c = false := by simp [isBracket, hclosing, hopening]
    have hbefore : Harmless depth row := hn.visible fun _ => depthFrom_plain hplain
    by_cases hcomma : c = ',' ∧ depth = 0
    · obtain ⟨rfl,rfl⟩ := hcomma
      rw [callFrom_comma, callFrom_comma]
      exact ih (commas + 1) hbefore
    · rw [callFrom_plain hplain hcomma, callFrom_plain hplain hcomma]
      exact ih commas hbefore
  | literal row content quote hrow hne hq ih =>
    obtain ⟨hplain,hcomma,-,-⟩ := quote_plain hq
    have hquote : ∀ before, callFrom depth commas (quote :: before) = callFrom depth commas before :=
      fun _ => callFrom_plain hplain fun h => hcomma h.1
    calc callFrom depth commas ((row ++ (content.map (·,true) ++ [(quote,false)])).map maskOne).reverse
        = callFrom depth commas (quote :: (List.replicate content.length 'x' ++ (row.map maskOne).reverse)) := by
          simp only [List.map_append, masked_inside, List.reverse_append, List.reverse_replicate, List.map_singleton]
          rfl
      _ = callFrom depth commas (row.map maskOne).reverse := by rw [hquote, callFrom_replicate]
      _ = callFrom depth commas (row.map Prod.fst).reverse := ih commas (hn.before hplain)
      _ = callFrom depth commas (quote :: (content.reverse ++ (row.map Prod.fst).reverse)) := by
          rw [hquote, callFrom_neutral (hn.neutral hrow hne)]
      _ = callFrom depth commas ((row ++ (content.map (·,true) ++ [(quote,false)])).map Prod.fst).reverse := by
          simp only [List.map_append, chars_inside, List.reverse_append, List.map_singleton]
          rfl

theorem lines_cons {c : Char} {rest : List Char} (hn : c ≠ '\n') (hr : ∀ more, c = '\r' → rest ≠ '\n' :: more) :
    Text.lines (c :: rest) = (c :: (Text.lines rest).headD []) :: (Text.lines rest).tail := by
  rw [Text.lines]
  · cases Text.lines rest <;> rfl
  · exact hn
  · exact fun more hc he => hr more hc he

theorem first_line (c : Char) (rest : List Char) :
    (c = '\n' ∨ c = '\r') ∧ (Text.lines (c :: rest)).headD [] = [] ∨
      (Text.lines (c :: rest)).headD [] = c :: (Text.lines rest).headD [] := by
  by_cases hn : c = '\n'
  · subst hn
    exact .inl ⟨.inl rfl, by rw [Text.lines]; rfl⟩
  by_cases hr : ∃ more, c = '\r' ∧ rest = '\n' :: more
  · obtain ⟨more,rfl,rfl⟩ := hr
    exact .inl ⟨.inr rfl, by rw [Text.lines]; rfl⟩
  · rw [lines_cons hn fun more hc he => hr ⟨more,hc,he⟩]
    exact .inr rfl

theorem quote_ne_lineEnd {quote : Char} (h : isQuote quote = true) : quote ≠ '\n' ∧ quote ≠ '\r' := by
  simp only [isQuote, Bool.or_eq_true, decide_eq_true_eq] at h
  rcases h with rfl | rfl <;> decide

theorem isPrefixOf_line {quote : Char} (h : isQuote quote = true) (n : Nat) (rest : List Char) :
    (List.replicate n quote).isPrefixOf rest = (List.replicate n quote).isPrefixOf ((Text.lines rest).headD []) := by
  induction n generalizing rest with
  | zero => rfl
  | succ n ih =>
    rw [List.replicate_succ]
    cases rest with
    | nil => rfl
    | cons c rest =>
      rcases first_line c rest with ⟨hc,he⟩ | he
      · have hne : (quote == c) = false := by
          refine beq_false_of_ne ?_
          rintro rfl
          exact hc.elim (quote_ne_lineEnd h).1 (quote_ne_lineEnd h).2
        rw [he, List.isPrefixOf_cons_cons, hne]
        rfl
      · rw [he, List.isPrefixOf_cons_cons, List.isPrefixOf_cons_cons, ih]

theorem Place.Sound.isInside_line {place : Place} (h : place.Sound) (c : Char) (rest : List Char) :
    place.isInside c rest = place.isInside c ((Text.lines rest).headD []) := by
  cases place with
  | long quote escaped run =>
    cases escaped with
    | true => rfl
    | false => rw [isInside, isInside, isPrefixOf_line h]
  | short quote escaped => cases escaped <;> rfl
  | _ => rfl

theorem maskOne_ne {p : Char × Bool} {c : Char} (hp : p.1 ≠ c) (hc : c ≠ 'x') : maskOne p ≠ c := by
  unfold maskOne
  split
  · exact Ne.symm hc
  · exact hp

theorem maskFrom_newline {number line : Nat} {place : Place} {text more : List Char}
    (h : maskFrom number line place text = '\n' :: more) : ∃ rest, text = '\n' :: rest := by
  revert h
  fun_cases maskFrom number line place text with
  | case1 => nofun
  | case2 => exact fun _ => ⟨_,rfl⟩
  | case3 => nofun
  | case4 line place c rest hn =>
    intro h
    exact absurd (List.cons.inj h).1 (maskOne_ne hn (by decide))

theorem lines_mask {number line i : Nat} (hi : line + i = number) {place : Place} (h : place.Sound) (text : List Char) :
    (Text.lines (maskFrom number line place text))[i]? =
      ((Text.lines text)[i]?).map fun row => (inner (placeAt place (Text.lines text) i) row).map maskOne := by
  fun_induction maskFrom number line place text generalizing i with
  | case1 => rfl
  | case2 line place rest ih =>
    rw [Text.lines, Text.lines]
    cases i with
    | zero => rfl
    | succ i => exact ih (by omega) h.atLineEnd
  | case3 line place rest ih =>
    rw [Text.lines, Text.lines]
    cases i with
    | zero => rfl
    | succ i => exact ih (by omega) h.atLineEnd
  | case4 line place c rest hn hr ih =>
    -- masking makes no line end and takes none away
    have hmasked : ∀ more, maskOne (c, line = number && place.isInside c rest) = '\r' →
        maskFrom number line (place.read c).2 rest ≠ '\n' :: more := by
      intro more hc he
      obtain ⟨more',hrest⟩ := maskFrom_newline he
      exact hr more' (Decidable.byContradiction fun hne => maskOne_ne hne (by decide) hc) hrest
    have htail := ih hi (h.read c)
    rw [lines_cons (maskOne_ne hn (by decide)) hmasked, lines_cons hn hr]
    cases i with
    | zero =>
      have hhead : (Text.lines (maskFrom number line (place.read c).2 rest)).headD [] =
          (inner (place.read c).2 ((Text.lines rest).headD [])).map maskOne := by
        rw [List.headD_eq_head?_getD, List.headD_eq_head?_getD, List.head?_eq_getElem?, List.head?_eq_getElem?, htail]
        rcases Text.lines rest with _ | ⟨first,more⟩ <;> rfl
      have hline : decide (line = number) = true := decide_eq_true hi
      simp only [List.getElem?_cons_zero, Option.map_some, placeAt, inner, List.map_cons, hhead, hline, Bool.true_and,
        h.isInside_line c rest]
    | succ i =>
      rw [List.getElem?_cons_succ, List.getElem?_cons_succ, List.getElem?_tail, List.getElem?_tail, htail]
      rcases hrest : Text.lines rest with _ | ⟨first,more⟩ <;> rfl

theorem sound_placeAt {place : Place} (h : place.Sound) (lines : List (List Char)) (number : Nat) :
    (placeAt place lines number).Sound := by
  induction lines generalizing place number with
  | nil => exact h
  | cons line more ih =>
    cases number with
    | zero => exact h
    | succ number => exact ih (quoted_markLine h line).2 number

theorem markRows_placeAt (place : Place) (lines : List (List Char)) (number : Nat) :
    (markRows place lines)[number]? = lines[number]?.map fun line => (markLine (placeAt place lines number) line).1 := by
  induction lines generalizing place number with
  | nil => rfl
  | cons line more ih =>
    cases number with
    | zero => rfl
    | succ number => exact ih (markLine place line).2 number

theorem inner_row {text line : List Char} {number : Nat} {row : List (Char × Kind)}
    (hline : (Text.lines text)[number]? = some line) (hrow : (rows (marked text))[number]? = some row) :
    List.Forall₂ Encloses row (inner (placeAt .code (Text.lines text) number) line) := by
  have hcode : Place.code.Sound := trivial
  rw [marked, rows_markFrom, markRows_placeAt, hline] at hrow
  cases hrow
  exact inner_marks (sound_placeAt hcode _ _) line

theorem backwards_mask (text : String) (number column : Nat) : backwards? (mask text number) number column =
    (Text.lines text.toList)[number]?.map fun line =>
      (((inner (placeAt .code (Text.lines text.toList) number) line).take column).map maskOne).reverse := by
  have hs : Place.code.Sound := trivial
  rw [backwards?, mask, String.toList_ofList, lines_mask (Nat.zero_add number) hs, Option.map_map]
  simp only [Function.comp_def, List.map_take]

theorem isOpen_of_isOutside {place : Place} {next : Option Char} (h : place.isOutside next = true) :
    place.isOpen = true := by
  cases place with
  | code | doubled => rfl
  | _ => cases h

theorem callFrom_inner {place : Place} (hs : place.Sound) {line : List Char} {column : Nat}
    (hopen : (place.behind (line.take column)).isOpen = true) (h : Harmless 0 ((inner place line).take column)) :
    callFrom 0 0 (((inner place line).take column).map maskOne).reverse = callFrom 0 0 (line.take column).reverse := by
  have hfenced : Fenced ((inner place line).take column) := (fenced_inner hs line).take column
  obtain ⟨front,content,he,hclosed⟩ := hfenced.closed_part
  have hlast := outside_last hopen
  -- no literal is open at the cursor
  have hcontent : content = [] := by
    rcases List.eq_nil_or_concat content with hnil | ⟨content,c,rfl⟩
    · exact hnil
    · cases hlast (c,true) (by simp [he])
  rw [hcontent, List.map_nil, List.append_nil] at he
  have hchars : line.take column = front.map Prod.fst := by rw [← he, List.map_take, inner_chars]
  rw [he] at h ⊢
  rw [hchars]
  exact hclosed.callFrom_masked 0 h

theorem call_ignores_contents {text : String} {number column : Nat} (hcursor : isOutsideAt text.toList number column = true)
    (hcontents : Harmless 0 (innerBefore text.toList number column)) :
    callAround? (mask text number) number column = callAround? text number column := by
  have hcode : Place.code.Sound := trivial
  have hs := sound_placeAt hcode (Text.lines text.toList) number
  rw [callAround?, callAround?, backwards_mask, backwards?]
  rw [isOutsideAt] at hcursor
  rw [innerBefore] at hcontents
  cases hline : (Text.lines text.toList)[number]? with
  | none => rfl
  | some line =>
    rw [hline] at hcursor hcontents
    exact callFrom_inner hs (isOpen_of_isOutside hcursor) hcontents

theorem call_ignores_contents_list :
    let text := "f(',') + g(h(','), '[1]', "
    callAround? (mask text 0) 0 26 = callAround? text 0 26 ∧ callAround? text 0 26 = some ("g",2) := by
  intro text
  have hcontents : (contents [] (innerBefore text.toList 0 26)).map
      (fun l => (l.1, depthFrom 0 (l.2.map maskOne).reverse)) = [([','],none), ([','],some 1), (['[','1',']'],some 0)] := by
    decide +kernel
  refine ⟨call_ignores_contents (by decide +kernel) fun l hl d hd => ?_, by decide +kernel⟩
  have hmem := List.mem_map_of_mem (f := fun l => (l.1, depthFrom 0 (l.2.map maskOne).reverse)) hl
  rw [hcontents, Option.mem_def.mp hd] at hmem
  obtain ⟨content,behind⟩ := l
  simp only [List.mem_cons, Prod.mk.injEq, List.not_mem_nil, or_false] at hmem
  obtain ⟨-,h⟩ | ⟨rfl,h⟩ | ⟨rfl,h⟩ := hmem <;> cases h
  · exact .plain ',' [] rfl rfl .nil
  · exact .pair '[' ['1'] ']' [] rfl rfl rfl (.plain '1' [] rfl rfl .nil) .nil

theorem comma_in_literal : ¬∀ (text : String) (number column : Nat), isOutsideAt text.toList number column = true →
    callAround? (mask text number) number column = callAround? text number column := by
  intro h
  have hsame := h "f(\",\", " 0 7 (by decide +kernel)
  have hmasked : callAround? (mask "f(\",\", " 0) 0 7 = some ("f",1) := by decide +kernel
  have hplain : callAround? "f(\",\", " 0 7 = some ("f",2) := by decide +kernel
  rw [hmasked, hplain] at hsame
  cases hsame

end LiveAnalysis.Source
