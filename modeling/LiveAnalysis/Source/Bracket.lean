namespace LiveAnalysis.Source

inductive SyntaxFault where
  | unbalanced (bracket : Char) (line : Nat)
  | neverClosed (bracket : Char) (line : Nat)
  deriving DecidableEq, Repr

def SyntaxFault.message : SyntaxFault → String
  | .unbalanced bracket line => s!"line {line + 1}: unbalanced '{bracket}'"
  | .neverClosed bracket line => s!"line {line + 1}: '{bracket}' is never closed"

def isOpening (c : Char) : Bool :=
  c = '(' || c = '[' || c = '\x7b'

def isClosing (c : Char) : Bool :=
  c = ')' || c = ']' || c = '\x7d'

def opening (c : Char) : Char :=
  if c = ')' then '(' else if c = ']' then '[' else '\x7b'

/-- The brackets still open, the innermost first, each with its line. -/
abbrev Open := List (Char × Nat)

def nestLine (line : Nat) : Open → List Char → Except SyntaxFault Open
  | stack, [] => .ok stack
  | stack, c :: rest =>
    if isOpening c then nestLine line ((c, line) :: stack) rest
    else if isClosing c then
      match stack with
      | (b, _) :: below =>
        if b = opening c then nestLine line below rest else .error (.unbalanced c line)
      | [] => .error (.unbalanced c line)
    else nestLine line stack rest

def nestLines : Nat → Open → List (List Char) → Except SyntaxFault Open
  | _, stack, [] => .ok stack
  | line, stack, code :: more => do
    let stack ← nestLine line stack code
    nestLines (line + 1) stack more

def checkBrackets (code : List (List Char)) : Except SyntaxFault Unit := do
  match ← nestLines 0 [] code with
  | [] => .ok ()
  | (b, line) :: _ => .error (.neverClosed b line)

end LiveAnalysis.Source
