import LiveAnalysis.Source.Name
import LiveAnalysis.Text.Blank
import LiveAnalysis.Text.Split

namespace LiveAnalysis.Source

structure Binding where
  name : String
  line : Nat
  column : Nat
  deriving DecidableEq, Repr

structure Function where
  name : String
  parameters : List String
  line : Nat
  deriving DecidableEq, Repr

def Function.label (f : Function) : String :=
  f.name ++ "(" ++ ", ".intercalate f.parameters ++ ")"

def startsAssignment : List Char → Bool
  | '=' :: '=' :: _ => false
  | '=' :: _ => true
  | _ => false

def boundName? (line : List Char) (names : List Token) : Option Token := do
  let first ← names.head?
  if isKeyword first.name then none
  else
    let rest ← first.name.toList.isPrefixOf? (Text.trimStart line)
    if startsAssignment (Text.trimStart rest) then some first else none

def beforeLast? (c : Char) (cs : List Char) : Option (List Char) :=
  match cs.reverse.dropWhile (· ≠ c) with
  | [] => none
  | _ :: front => some front.reverse

def parameterName (piece : List Char) : List Char :=
  Text.trim (piece.takeWhile fun c => c ≠ '=' && c ≠ ':')

def parameterNames (cs : List Char) : List String :=
  (((Text.split ',' cs).map parameterName).filter (!·.isEmpty)).map String.ofList

/--
The function that a line declares, with the column of its name: the line opens with `def`, its
second name is the function's, and its parameters stand between the first opening and the last
closing parenthesis.
-/
def declared? (number : Nat) (line : List Char) (names : List Token) : Option (Nat × Function) := do
  let code := Text.trimStart line
  let _ ← "def ".toList.isPrefixOf? code
  let name ← names[1]?
  let inside ← beforeLast? ')' (code.dropWhile (· ≠ '(')).tail
  some (name.column, ⟨name.name, parameterNames inside, number⟩)

end LiveAnalysis.Source
