import LiveAnalysis.Text.Lines

/-!
String literals and comments of a source text. A code line is a source line with every character
of a literal replaced by one space and its comment cut off, so columns still agree.
-/

namespace LiveAnalysis.Source

inductive Mode where
  | code
  | short (quote : Char)
  | long (quote : Char)
  deriving DecidableEq, Repr

def isQuote (c : Char) : Bool :=
  c = '\'' || c = '"'

def Mode.atLineEnd : Mode → Bool → Mode
  | .short _, false => .code
  | mode, _ => mode

/--
The code of one line and the mode at its end. `escaped` says that the character before was a
backslash of a literal that protects the next one. Three quotes in a row open and close a long
literal, one quote a short one.
-/
def scanLine (mode : Mode) (escaped : Bool) : List Char → List Char × Mode
  | [] => ([], mode.atLineEnd escaped)
  | c :: rest =>
    match mode with
    | .code =>
      if c = '#' then ([], .code)
      else if isQuote c then
        match rest with
        | c₂ :: c₃ :: rest₃ =>
          if c₂ = c ∧ c₃ = c then blank 3 (scanLine (.long c) false rest₃)
          else blank 1 (scanLine (.short c) false (c₂ :: c₃ :: rest₃))
        | rest => blank 1 (scanLine (.short c) false rest)
      else keep c (scanLine .code false rest)
    | .short quote =>
      if escaped then blank 1 (scanLine mode false rest)
      else if c = '\\' then blank 1 (scanLine mode true rest)
      else if c = quote then blank 1 (scanLine .code false rest)
      else blank 1 (scanLine mode false rest)
    | .long quote =>
      if escaped then blank 1 (scanLine mode false rest)
      else if c = '\\' then blank 1 (scanLine mode true rest)
      else if c = quote then
        match rest with
        | c₂ :: c₃ :: rest₃ =>
          if c₂ = quote ∧ c₃ = quote then blank 3 (scanLine .code false rest₃)
          else blank 1 (scanLine mode false (c₂ :: c₃ :: rest₃))
        | rest => blank 1 (scanLine mode false rest)
      else blank 1 (scanLine mode false rest)
where
  blank (n : Nat) (r : List Char × Mode) : List Char × Mode := (List.replicate n ' ' ++ r.1, r.2)
  keep (c : Char) (r : List Char × Mode) : List Char × Mode := (c :: r.1, r.2)

def scanLines : Mode → List (List Char) → List (List Char)
  | _, [] => []
  | mode, line :: more =>
    let (code, next) := scanLine mode false line
    code :: scanLines next more

def codeLines (text : List Char) : List (List Char) :=
  scanLines .code (Text.lines text)

end LiveAnalysis.Source
