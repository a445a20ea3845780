import LiveAnalysis.Text.Digits
import LiveAnalysis.Text.Split

/-!
Tables that put a text for a character. A row of such a table begins with a code point; then come the texts
for it and for the characters right after it, each as code points with dots between them.
-/

namespace LiveAnalysis.Text

structure Block where
  first : Nat
  texts : List (List Char)
  deriving DecidableEq, Repr

namespace Block

def pointOf (digits : List Char) : Nat :=
  (digitsIn? 16 digits).getD 0

def read (row : String) : Block :=
  match split ' ' row.toList with
  | [] => ⟨0, []⟩
  | first :: texts => ⟨pointOf first, texts.map fun t => (split '.' t).map fun p => Char.ofNat (pointOf p)⟩

def text? (b : Block) (c : Char) : Option (List Char) :=
  if c.toNat < b.first then none else b.texts[c.toNat - b.first]?

def source? (b : Block) (text : List Char) : Option Char :=
  (b.texts.idxOf? text).map fun i => Char.ofNat (b.first + i)

end Block

end LiveAnalysis.Text
