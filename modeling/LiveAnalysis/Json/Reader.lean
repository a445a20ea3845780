import LiveAnalysis.Json.Value
import LiveAnalysis.Text.Decimal
import LiveAnalysis.Text.Digits

namespace LiveAnalysis.Json

open Text (decimal)

def skipBlanks (cs : List Char) : List Char :=
  cs.dropWhile fun c => c = ' ' || c = '\n' || c = '\r' || c = '\t'

def isHigh (n : Nat) : Bool :=
  0xD800 ≤ n && n < 0xDC00

def isLow (n : Nat) : Bool :=
  0xDC00 ≤ n && n < 0xE000

def readString : List Char → Option (List Char × List Char)
  | [] => none
  | '"' :: rest => some ([], rest)
  | '\\' :: 'u' :: a :: b :: c :: d :: rest => do
    let n ← Text.digitsIn? 16 [a, b, c, d]
    if isHigh n then
      match rest with
      | '\\' :: 'u' :: e :: f :: g :: h :: rest => do
        let m ← Text.digitsIn? 16 [e, f, g, h]
        if isLow m then
          let (s, r) ← readString rest
          return (Char.ofNat (0x10000 + (n - 0xD800) * 0x400 + (m - 0xDC00)) :: s, r)
        else none
      | _ => none
    else if isLow n then none
    else
      let (s, r) ← readString rest
      return (Char.ofNat n :: s, r)
  | '\\' :: c :: rest => do
    let e ← match c with
      | '"' => some '"'
      | '\\' => some '\\'
      | '/' => some '/'
      | 'b' => some (Char.ofNat 8)
      | 'f' => some (Char.ofNat 12)
      | 'n' => some '\n'
      | 'r' => some '\r'
      | 't' => some '\t'
      | _ => none
    let (s, r) ← readString rest
    return (e :: s, r)
  | c :: rest => do
    if c.toNat < 32 then none
    else
      let (s, r) ← readString rest
      return (c :: s, r)

def afterDigits? (cs : List Char) : Option (List Char) :=
  match cs with
  | [] => none
  | c :: _ => if c.isDigit then some (cs.dropWhile Char.isDigit) else none

def isNumber (cs : List Char) : Bool :=
  let unsigned := match cs with
    | '-' :: rest => rest
    | cs => cs
  let whole := match unsigned with
    | '0' :: rest => some rest
    | cs => afterDigits? cs
  let fraction := whole.bind fun
    | '.' :: rest => afterDigits? rest
    | cs => some cs
  let exponent := fraction.bind fun
    | c :: rest =>
      if c = 'e' ∨ c = 'E' then
        match rest with
        | '+' :: rest => afterDigits? rest
        | '-' :: rest => afterDigits? rest
        | rest => afterDigits? rest
      else some (c :: rest)
    | [] => some []
  exponent.any (·.isEmpty)

def numberOf (text : List Char) : Value :=
  let real : Value := .real (String.ofList text)
  match text with
  | '-' :: digits =>
    if digits.all Char.isDigit ∧ 0 < decimal digits ∧ decimal digits ≤ UInt64.size / 2 then
      .int (-(decimal digits : Int))
    else real
  | digits =>
    if digits.all Char.isDigit ∧ decimal digits < UInt64.size then .int (decimal digits) else real

def isNumberPart (c : Char) : Bool :=
  c.isDigit || c = '-' || c = '+' || c = '.' || c = 'e' || c = 'E'

def readNumber (cs : List Char) : Option (Value × List Char) :=
  let text := cs.takeWhile isNumberPart
  if isNumber text then some (numberOf text, cs.dropWhile isNumberPart) else none

def readWord (word : String) (v : Value) (cs : List Char) : Option (Value × List Char) :=
  if word.toList.isPrefixOf cs then some (v, cs.drop word.length) else none

mutual

/-- One value at the start of the text, and what follows it. Each level of nesting costs one of the budget. -/
def readValue (budget : Nat) (cs : List Char) : Option (Value × List Char) :=
  match budget with
  | 0 => none
  | budget + 1 =>
    match skipBlanks cs with
    | 'n' :: rest => readWord "null" .null ('n' :: rest)
    | 't' :: rest => readWord "true" (.bool true) ('t' :: rest)
    | 'f' :: rest => readWord "false" (.bool false) ('f' :: rest)
    | '"' :: rest => (readString rest).map fun (s, r) => (.str (String.ofList s), r)
    | '[' :: rest =>
      match skipBlanks rest with
      | ']' :: rest => some (.arr [], rest)
      | rest => (readItems budget rest).map fun (vs, r) => (.arr vs, r)
    | '\x7b' :: rest =>
      match skipBlanks rest with
      | '\x7d' :: rest => some (.obj [], rest)
      | rest => (readMembers budget rest).map fun (ms, r) => (.obj ms, r)
    | rest => readNumber rest
termination_by structural budget

def readItems (budget : Nat) (cs : List Char) : Option (List Value × List Char) :=
  match budget with
  | 0 => none
  | budget + 1 => do
    let (v, rest) ← readValue budget cs
    match skipBlanks rest with
    | ',' :: rest => do
      let (vs, rest) ← readItems budget rest
      return (v :: vs, rest)
    | ']' :: rest => some ([v], rest)
    | _ => none
termination_by structural budget

def readMembers (budget : Nat) (cs : List Char) : Option (List (String × Value) × List Char) :=
  match budget with
  | 0 => none
  | budget + 1 =>
    match skipBlanks cs with
    | '"' :: rest => do
      let (key, rest) ← readString rest
      match skipBlanks rest with
      | ':' :: rest => do
        let (v, rest) ← readValue budget rest
        match skipBlanks rest with
        | ',' :: rest => do
          let (ms, rest) ← readMembers budget rest
          return ((String.ofList key, v) :: ms, rest)
        | '\x7d' :: rest => some ([(String.ofList key, v)], rest)
        | _ => none
      | _ => none
    | _ => none
termination_by structural budget

end

def read? (text : String) : Option Value := do
  let (v, rest) ← readValue (2 * text.length + 1) text.toList
  if (skipBlanks rest).isEmpty then some v else none

end LiveAnalysis.Json
