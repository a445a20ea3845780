namespace LiveAnalysis

/-- Counts the accepted changes of a document since it was opened. -/
structure Version where
  number : Nat
  deriving DecidableEq, Repr, Inhabited

namespace Version

def baseline : Version := ⟨0⟩

def next (v : Version) : Version := ⟨v.number + 1⟩

instance : LE Version := ⟨fun v w => v.number ≤ w.number⟩

instance : LT Version := ⟨fun v w => v.number < w.number⟩

instance (v w : Version) : Decidable (v ≤ w) :=
  inferInstanceAs (Decidable (v.number ≤ w.number))

instance (v w : Version) : Decidable (v < w) :=
  inferInstanceAs (Decidable (v.number < w.number))

instance : Ord Version := ⟨fun v w => compare v.number w.number⟩

def text (v : Version) : String :=
  s!"v{v.number}"

instance : ToString Version := ⟨text⟩

end Version

end LiveAnalysis
