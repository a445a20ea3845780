import LiveAnalysis.Text.Alphanumeric

namespace LiveAnalysis.Source

def isNameChar (c : Char) : Bool :=
  c = '_' || Text.isAlphanumeric c

def startsName (c : Char) : Bool :=
  isNameChar c && !c.isDigit

def keywords : List String :=
  ["and", "as", "assert", "break", "class", "continue", "def", "del", "elif", "else", "except",
   "finally", "for", "from", "global", "if", "import", "in", "is", "lambda", "nonlocal", "not",
   "or", "pass", "raise", "return", "try", "while", "with", "yield", "None", "True", "False"]

def isKeyword (name : String) : Bool :=
  keywords.contains name

structure Token where
  column : Nat
  name : String
  deriving DecidableEq, Repr

/--
The names on a line, from the left, with the column of each first character. A name starts at the
first character that may start one and takes every name character after it.
-/
def tokensFrom (column : Nat) : List Char → List Token
  | [] => []
  | c :: rest =>
    if startsName c then
      let tail := rest.takeWhile isNameChar
      ⟨column, String.ofList (c :: tail)⟩ ::
        tokensFrom (column + 1 + tail.length) (rest.dropWhile isNameChar)
    else tokensFrom (column + 1) rest
termination_by line => line.length
decreasing_by
  · exact Nat.lt_succ_of_le (List.dropWhile_sublist _).length_le
  · simp

def tokens (line : List Char) : List Token :=
  tokensFrom 0 line

end LiveAnalysis.Source
