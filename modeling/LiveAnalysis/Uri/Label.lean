import LiveAnalysis.Text.Composed
import LiveAnalysis.Text.Direction
import LiveAnalysis.Text.Joining
import LiveAnalysis.Uri.Folding
import LiveAnalysis.Uri.Punycode

namespace LiveAnalysis.Uri

open Text (Direction)

def folded? (cs : List Char) : Option (List Char) :=
  (cs.mapM fold?).map fun texts => Text.composed texts.flatten

/--
A joiner stands after a virama. A non-joiner stands there too, or between letters that would join without
it. `before` is what stands before the character, the last first.
-/
def fits (before : List Char) (c : Char) (after : List Char) : Bool :=
  let afterVirama := before.head?.any Text.isVirama
  if c.toNat = 0x200D then afterVirama
  else if c.toNat = 0x200C then
    afterVirama
      || ((before.dropWhile Text.isJoinedThrough).head?.any Text.joinsAfter
        && (after.dropWhile Text.isJoinedThrough).head?.any Text.joinsBefore)
  else true

def allFit (before : List Char) : List Char → Bool
  | [] => true
  | c :: rest => fits before c rest && allFit (c :: before) rest

def isLabel (label : List Char) : Bool :=
  !label.head?.any Text.isMark && allFit [] label

def turns (label : List Char) : Bool :=
  label.any fun c => Text.direction c = .leftward || Text.direction c = .arabic

/--
A label that begins with a letter and stays in its direction. Marks apart it ends with a letter or a number.
To the left it has numbers of one kind at most, and to the right it has European ones only.
-/
def keepsDirection (label : List Char) : Bool :=
  let directions := label.map Text.direction
  let last := directions.reverse.find? (· ≠ .mark)
  match directions.head? with
  | none => true
  | some .rightward =>
    !directions.contains .leftward && !directions.contains .arabic
      && last.any fun d => d = .rightward || d = .european
  | some .leftward =>
    !directions.contains .rightward && !(directions.contains .european && directions.contains .arabic)
      && last.any (· ≠ .neutral)
  | some _ => false

def longestLabel : Nat := 1000

def longestAsciiLabel : Nat := 2000

def asciiLabel? (label : List Char) : Option (List Char) :=
  if label.all (·.toNat < 128) then some label
  else if label.length ≤ longestLabel then some ("xn--".toList ++ Punycode.encode label)
  else none

def labelOf? : List Char → Option (List Char)
  | 'x' :: 'n' :: '-' :: '-' :: written => do
    let label ← if written.length ≤ longestAsciiLabel then Punycode.decode? written else none
    if label.any (128 ≤ ·.toNat) ∧ folded? label = some label ∧ Punycode.encode label = written then
      some label
    else none
  | label => some label

end LiveAnalysis.Uri
