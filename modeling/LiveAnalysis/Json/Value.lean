namespace LiveAnalysis.Json

/--
A JSON value. A whole number of at most 64 bits is an `int`; every other number is kept as it was
written. Members stay in order, and of two with one key the later counts.
-/
inductive Value where
  | null
  | bool (b : Bool)
  | int (n : Int)
  | real (digits : String)
  | str (s : String)
  | arr (items : List Value)
  | obj (members : List (String × Value))
  deriving Repr, Inhabited

namespace Value

def ofNat (n : Nat) : Value :=
  .int n

def ofOption (encode : α → Value) : Option α → Value
  | none => .null
  | some a => encode a

def ofList (encode : α → Value) (items : List α) : Value :=
  .arr (items.map encode)

def get? (v : Value) (key : String) : Option Value :=
  match v with
  | .obj members => (members.reverse.find? (·.1 = key)).map (·.2)
  | _ => none

def nat? : Value → Option Nat
  | .int (.ofNat n) => some n
  | _ => none

def int? : Value → Option Int
  | .int n => some n
  | _ => none

def bool? : Value → Option Bool
  | .bool b => some b
  | _ => none

def str? : Value → Option String
  | .str s => some s
  | _ => none

def arr? : Value → Option (List Value)
  | .arr items => some items
  | _ => none

end Value

end LiveAnalysis.Json
