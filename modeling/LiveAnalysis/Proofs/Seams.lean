import LiveAnalysis.Proofs.Calls

/-! Texts put together at a line end: what is said of the second part is said of it behind the first, its lines further down -/

namespace LiveAnalysis.Source

def Mode.behind (mode : Mode) (lines : List (List Char)) : Mode :=
  lines.foldl (fun mode line => (scanLine mode false line).2) mode

def Binding.shift (n : Nat) (b : Binding) : Binding :=
  { b with line := n + b.line }

def Function.shift (n : Nat) (f : Function) : Function :=
  { f with line := n + f.line }

def Occurrence.shift (n : Nat) (o : Occurrence) : Occurrence :=
  { o with line := n + o.line }

def Summary.shift (n : Nat) (s : Summary) : Summary where
  lineCount := s.lineCount
  bindings := s.bindings.map (·.shift n)
  functions := s.functions.map (·.shift n)
  occurrences := s.occurrences.map (·.shift n)

namespace SyntaxFault

def line : SyntaxFault → Nat
  | .unbalanced _ line | .neverClosed _ line => line

def shift (n : Nat) : SyntaxFault → SyntaxFault
  | .unbalanced bracket line => .unbalanced bracket (n + line)
  | .neverClosed bracket line => .neverClosed bracket (n + line)

end SyntaxFault

def shiftOpen (n : Nat) (stack : Open) : Open :=
  stack.map fun p => (p.1, n + p.2)

def shiftRead (n : Nat) : Except SyntaxFault Open → Except SyntaxFault Open
  | .ok stack => .ok (shiftOpen n stack)
  | .error fault => .error (fault.shift n)

theorem lines_eq_nil {text : List Char} (h : Text.lines text = []) : text = [] := by
  revert h
  fun_cases Text.lines text <;> simp

theorem lines_append {a : List Char} (h : ∀ c ∈ a.getLast?, c = '\n') (b : List Char) :
    Text.lines (a ++ b) = Text.lines a ++ Text.lines b := by
  induction a using Text.lines.induct with
  | case1 => rfl
  | case2 rest ih =>
    rw [List.cons_append, Text.lines, Text.lines, ih fun c hc => h c (List.mem_getLast?_cons hc)]
    rfl
  | case3 rest ih =>
    rw [List.cons_append, List.cons_append, Text.lines, Text.lines,
      ih fun c hc => h c (List.mem_getLast?_cons (List.mem_getLast?_cons hc))]
    rfl
  | case4 c rest hn hr hnil =>
    cases lines_eq_nil hnil
    exact absurd (h c rfl) hn
  | case5 c rest hn hr line more hlines ih =>
    have hrest : ∀ more, c = '\r' → rest ++ b ≠ '\n' :: more := by
      intro more hc he
      cases rest with
      | nil => cases hlines
      | cons d tail =>
        obtain ⟨rfl,-⟩ := List.cons.inj he
        exact hr tail hc rfl
    rw [List.cons_append, lines_cons hn hrest, lines_cons hn fun more hc he => hr more hc he,
      ih fun c hc => h c (List.mem_getLast?_cons hc), hlines]
    rfl

theorem scanLines_append (mode : Mode) (xs ys : List (List Char)) :
    scanLines mode (xs ++ ys) = scanLines mode xs ++ scanLines (mode.behind xs) ys := by
  induction xs generalizing mode with
  | nil => rfl
  | cons line xs ih => exact congrArg ((scanLine mode false line).1 :: ·) (ih _)

theorem codeLines_append {a : List Char} (h : ∀ c ∈ a.getLast?, c = '\n') (hcode : Mode.code.behind (Text.lines a) = .code)
    (b : List Char) : codeLines (a ++ b) = codeLines a ++ codeLines b := by
  rw [codeLines, lines_append h, scanLines_append, hcode]
  rfl

theorem nestLines_append (number : Nat) (stack : Open) (xs ys : List (List Char)) :
    nestLines number stack (xs ++ ys) =
      (nestLines number stack xs >>= fun stack => nestLines (number + xs.length) stack ys) := by
  induction xs generalizing number stack with
  | nil => rfl
  | cons code xs ih =>
    simp only [List.cons_append, nestLines, ih, bind_assoc, List.length_cons, Nat.add_assoc, Nat.add_comm 1]

theorem shiftRead_bind (n : Nat) {read : Except SyntaxFault Open} {f g : Open → Except SyntaxFault Open}
    (h : ∀ stack, g (shiftOpen n stack) = shiftRead n (f stack)) : (shiftRead n read >>= g) = shiftRead n (read >>= f) := by
  cases read with
  | ok stack => exact h stack
  | error fault => rfl

theorem nestOne_shift (n : Nat) (stack : Open) (c : Char) (number : Nat) :
    nestOne (shiftOpen n stack) (c, n + number) = shiftRead n (nestOne stack (c,number)) := by
  unfold nestOne
  split
  · rfl
  · split
    · cases stack with
      | nil => rfl
      | cons p below =>
        simp only [shiftOpen, List.map_cons]
        split <;> rfl
    · rfl

theorem nestLine_shift (n number : Nat) (stack : Open) (code : List Char) :
    nestLine (n + number) (shiftOpen n stack) code = shiftRead n (nestLine number stack code) := by
  induction code generalizing stack with
  | nil => rfl
  | cons c code ih =>
    rw [nestLine_cons, nestLine_cons, nestOne_shift]
    exact shiftRead_bind n ih

theorem nestLines_shift (n number : Nat) (stack : Open) (lines : List (List Char)) :
    nestLines (n + number) (shiftOpen n stack) lines = shiftRead n (nestLines number stack lines) := by
  induction lines generalizing number stack with
  | nil => rfl
  | cons code lines ih =>
    rw [nestLines, nestLines, nestLine_shift]
    exact shiftRead_bind n fun stack => ih (number + 1) stack

theorem checkBrackets_ok {lines : List (List Char)} : checkBrackets lines = .ok () ↔ nestLines 0 [] lines = .ok [] := by
  unfold checkBrackets
  cases nestLines 0 [] lines with
  | error fault => exact ⟨nofun,nofun⟩
  | ok stack => cases stack <;> exact ⟨by simp [bind, Except.bind], by simp [bind, Except.bind]⟩

theorem checkBrackets_append {xs : List (List Char)} (h : checkBrackets xs = .ok ()) (ys : List (List Char)) :
    checkBrackets (xs ++ ys) = (checkBrackets ys).mapError (SyntaxFault.shift xs.length) := by
  have hread : nestLines 0 [] (xs ++ ys) = shiftRead xs.length (nestLines 0 [] ys) := by
    rw [nestLines_append, checkBrackets_ok.mp h, ← nestLines_shift, Nat.zero_add, Nat.add_zero]
    rfl
  rw [checkBrackets, checkBrackets, hread]
  cases nestLines 0 [] ys with
  | error fault => rfl
  | ok stack => cases stack <;> rfl

theorem declared?_shift (n number : Nat) (line : List Char) (names : List Token) :
    declared? (n + number) line names = (declared? number line names).map fun p => (p.1, p.2.shift n) := by
  simp only [declared?, Option.bind_eq_bind, Option.map_bind, Function.comp_def, Option.map_some]
  rfl

theorem ofLine_shift (n number : Nat) (line : List Char) :
    Summary.ofLine (n + number) line = (Summary.ofLine number line).shift n := by
  rw [Summary.ofLine, Summary.ofLine, declared?_shift]
  generalize boundName? line (tokens line) = bound, declared? number line (tokens line) = declared
  simp only [Summary.shift, List.map_map]
  cases bound <;> cases declared <;> rfl

theorem ofLines_shift (n number : Nat) (lines : List (List Char)) :
    Summary.ofLines (n + number) lines = (Summary.ofLines number lines).shift n := by
  induction lines generalizing number with
  | nil => rfl
  | cons line lines ih =>
    rw [Summary.ofLines, Summary.ofLines, ofLine_shift, Nat.add_assoc, ih]
    simp [Summary.append, Summary.shift]

theorem ofLines_append (number : Nat) (xs ys : List (List Char)) :
    Summary.ofLines number (xs ++ ys) = (Summary.ofLines number xs).append (Summary.ofLines (number + xs.length) ys) := by
  induction xs generalizing number with
  | nil => simp [Summary.ofLines, Summary.append]
  | cons line xs ih =>
    rw [List.cons_append, Summary.ofLines, Summary.ofLines, ih, List.length_cons, Nat.add_assoc, Nat.add_comm 1]
    simp [Summary.append, Nat.add_assoc]

theorem lineCount_ofLines (number : Nat) (lines : List (List Char)) : (Summary.ofLines number lines).lineCount = lines.length := by
  induction lines generalizing number with
  | nil => rfl
  | cons line lines ih => simp [Summary.ofLines, Summary.append, Summary.ofLine, ih, Nat.add_comm]

theorem summarize_eq_map (text : String) :
    summarize text = (checkBrackets (codeLines text.toList)).map fun _ => Summary.ofLines 0 (codeLines text.toList) := by
  rw [summarize]
  cases checkBrackets (codeLines text.toList) <;> rfl

theorem checkBrackets_of_summarize {text : String} {s : Summary} (h : summarize text = .ok s) :
    checkBrackets (codeLines text.toList) = .ok () := by
  rw [summarize_eq_map] at h
  cases hc : checkBrackets (codeLines text.toList) with
  | error fault =>
    rw [hc] at h
    cases h
  | ok => rfl

theorem message_shift (n : Nat) (fault : SyntaxFault) : ∃ reason, fault.message = s!"line {fault.line + 1}" ++ reason ∧
    (fault.shift n).message = s!"line {n + fault.line + 1}" ++ reason := by
  cases fault with
  | unbalanced bracket line =>
    refine ⟨s!": unbalanced '{bracket}'", ?_, ?_⟩ <;>
      simp only [SyntaxFault.message, SyntaxFault.line, SyntaxFault.shift, String.append_assoc]
  | neverClosed bracket line =>
    refine ⟨s!": '{bracket}' is never closed", ?_, ?_⟩ <;>
      simp only [SyntaxFault.message, SyntaxFault.line, SyntaxFault.shift, String.append_assoc]

section Whole

variable {a : String} {s : Summary} (hend : ∀ c ∈ a.toList.getLast?, c = '\n')
  (hcode : Mode.code.behind (Text.lines a.toList) = .code) (hs : summarize a = .ok s)

include hend hcode hs

theorem summarize_behind (b : String) : summarize (a ++ b) =
    ((summarize b).map fun t => s.append (t.shift s.lineCount)).mapError (SyntaxFault.shift s.lineCount) := by
  have hwhole : codeLines (a ++ b).toList = codeLines a.toList ++ codeLines b.toList := by
    rw [String.toList_append, codeLines_append hend hcode]
  have hcount : (codeLines a.toList).length = s.lineCount := by
    rw [summarize_ok hs, lineCount_ofLines]
  have hparts : Summary.ofLines 0 (codeLines a.toList ++ codeLines b.toList) =
      s.append ((Summary.ofLines 0 (codeLines b.toList)).shift s.lineCount) := by
    rw [ofLines_append, ← summarize_ok hs, ← ofLines_shift, hcount, Nat.zero_add, Nat.add_zero]
  rw [summarize_eq_map, summarize_eq_map b, hwhole, checkBrackets_append (checkBrackets_of_summarize hs), hcount, hparts]
  cases checkBrackets (codeLines b.toList) <;> rfl

theorem summarize_append (b : String) :
    ((∃ whole, summarize (a ++ b) = .ok whole) ↔ ∃ t, summarize b = .ok t) ∧
    (∀ t, summarize b = .ok t → summarize (a ++ b) = .ok (s.append (t.shift s.lineCount))) ∧
    ∀ fault, summarize b = .error fault → summarize (a ++ b) = .error (fault.shift s.lineCount) ∧
      ∃ reason, fault.message = s!"line {fault.line + 1}" ++ reason ∧
        (fault.shift s.lineCount).message = s!"line {s.lineCount + fault.line + 1}" ++ reason := by
  have hbehind := summarize_behind hend hcode hs b
  refine ⟨?_, fun t ht => ?_, fun fault hf => ⟨?_, message_shift s.lineCount fault⟩⟩
  · rw [hbehind]
    cases summarize b with
    | error fault => exact ⟨nofun,nofun⟩
    | ok t => exact ⟨fun _ => ⟨t,rfl⟩, fun _ => ⟨_,rfl⟩⟩
  · rw [hbehind, ht]
    rfl
  · rw [hbehind, hf]
    rfl

end Whole

theorem summarize_append_literal :
    let a := "x = '''(\r\n'''\n"
    (∀ c ∈ a.toList.getLast?, c = '\n') ∧ Mode.code.behind (Text.lines a.toList) = .code ∧
      summarize a = .ok ⟨2, [⟨"x",0,0⟩], [], [⟨"x",0,0,true⟩]⟩ ∧
      summarize (a ++ "y = x") = .ok ⟨3, [⟨"x",0,0⟩, ⟨"y",2,0⟩], [], [⟨"x",0,0,true⟩, ⟨"y",2,0,true⟩, ⟨"x",2,4,false⟩]⟩ ∧
      summarize (a ++ "f(\n]") = .error (.unbalanced ']' 3) := by
  intro a
  have hend : ∀ c ∈ a.toList.getLast?, c = '\n' := by
    have hlast : a.toList.getLast? = some '\n' := by decide +kernel
    rw [hlast]
    rintro _ ⟨⟩
    rfl
  have hcode : Mode.code.behind (Text.lines a.toList) = .code := by decide +kernel
  have hs : summarize a = .ok ⟨2, [⟨"x",0,0⟩], [], [⟨"x",0,0,true⟩]⟩ := by decide +kernel
  have ht : summarize "y = x" = .ok ⟨1, [⟨"y",0,0⟩], [], [⟨"y",0,0,true⟩, ⟨"x",0,4,false⟩]⟩ := by decide +kernel
  have hf : summarize "f(\n]" = .error (.unbalanced ']' 1) := by decide +kernel
  exact ⟨hend, hcode, hs, (summarize_append hend hcode hs "y = x").2.1 _ ht,
    ((summarize_append hend hcode hs "f(\n]").2.2 _ hf).1⟩

end LiveAnalysis.Source
