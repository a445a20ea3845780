import LiveAnalysis.Text.CombiningClass
import LiveAnalysis.Text.Composite

/-!
The composed form of a text, which is the same for all texts that differ only in how characters are composed
and in which order marks of different classes follow one another.
-/

namespace LiveAnalysis.Text

def elements : Nat → Char → List Char
  | 0, c => [c]
  | steps + 1, c =>
    match parts? c with
    | some parts => parts.flatMap (elements steps)
    | none => [c]

def deepest : Nat := 3

def insertMark (c : Char) : List Char → List Char
  | [] => [c]
  | d :: rest =>
    if 0 < combiningClass d ∧ combiningClass d < combiningClass c then d :: insertMark c rest
    else c :: d :: rest

def inCanonicalOrder (cs : List Char) : List Char :=
  cs.foldr insertMark []

/--
Joins to `base` every mark that has a composite with it, unless a mark of its own class or of a later one
stands between them. `passed` holds, the last first, the marks that stay.
-/
def joinMarks (base : Char) (passed : List Char) : List Char → List Char
  | [] => base :: passed.reverse
  | c :: rest =>
    let reaches := passed.head?.all (combiningClass · < combiningClass c)
    match if reaches then composite? base c else none with
    | some joined => joinMarks joined passed rest
    | none =>
      if combiningClass c = 0 then base :: passed.reverse ++ joinMarks c [] rest
      else joinMarks base (c :: passed) rest

def joined : List Char → List Char
  | [] => []
  | c :: rest => if combiningClass c = 0 then joinMarks c [] rest else c :: joined rest

def composed (cs : List Char) : List Char :=
  joined (inCanonicalOrder (cs.flatMap (elements deepest)))

end LiveAnalysis.Text
