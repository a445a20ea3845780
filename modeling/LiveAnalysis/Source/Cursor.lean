import LiveAnalysis.Source.Name
import LiveAnalysis.Text.Blank
import LiveAnalysis.Text.Lines

/-!
What stands before a cursor on its own line. These look at the source text as it is written, strings
and comments included.
-/

namespace LiveAnalysis.Source

def backwards? (text : String) (line character : Nat) : Option (List Char) :=
  (Text.lines text.toList)[line]?.map fun l => (l.take character).reverse

def wordBefore (text : String) (line character : Nat) : String :=
  match backwards? text line character with
  | none => ""
  | some before => String.ofList (before.takeWhile isNameChar).reverse

/--
Goes back from the cursor to the bracket that encloses it, past `depth` closed brackets of any kind,
and counts the commas on the way that no closed bracket holds. Only a parenthesis with a name before
it is a call.
-/
def callFrom (depth commas : Nat) : List Char → Option (String × Nat)
  | [] => none
  | c :: before =>
    if c = ')' ∨ c = ']' ∨ c = '\x7d' then callFrom (depth + 1) commas before
    else if c = '(' ∨ c = '[' ∨ c = '\x7b' then
      if 0 < depth then callFrom (depth - 1) commas before
      else if c = '(' then
        let callee := ((before.dropWhile Text.isBlank).takeWhile isNameChar).reverse
        if callee.isEmpty then none else some (String.ofList callee, commas)
      else none
    else if c = ',' ∧ depth = 0 then callFrom depth (commas + 1) before
    else callFrom depth commas before

def callAround? (text : String) (line character : Nat) : Option (String × Nat) :=
  backwards? text line character >>= callFrom 0 0

end LiveAnalysis.Source
