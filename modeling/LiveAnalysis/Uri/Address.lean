import LiveAnalysis.Text.Digits
import LiveAnalysis.Text.Split
import LiveAnalysis.Uri.Fault

/-!
Numeric hosts. An IPv4 address has up to four numbers, each decimal, octal after a zero or hexadecimal
after `0x`, and the last one fills the bytes that are left. An IPv6 address has eight pieces of sixteen
bits, of which one run of zeros may be left out.
-/

namespace LiveAnalysis.Uri

open Text (digitsIn? split)

def ipv4Number? : List Char → Option Nat
  | [] => none
  | '0' :: x :: digits =>
    if x = 'x' ∨ x = 'X' then digitsIn? 16 digits else digitsIn? 8 (x :: digits)
  | digits => digitsIn? 10 digits

def withoutLastEmpty (parts : List (List Char)) : List (List Char) :=
  if parts.getLast? = some [] then parts.dropLast else parts

def endsInNumber (host : List Char) : Bool :=
  match (withoutLastEmpty (split '.' host)).getLast? with
  | none => false
  | some last => (!last.isEmpty && last.all Char.isDigit) || (ipv4Number? last).isSome

def ipv4? (host : List Char) : Except Fault Nat :=
  let parts := withoutLastEmpty (split '.' host)
  match parts.mapM ipv4Number? with
  | none => .error .ipv4
  | some numbers =>
    let front := numbers.dropLast
    let last := numbers.getLastD 0
    if 4 < numbers.length ∨ front.any (255 < ·) ∨ Nat.pow 256 (4 - front.length) ≤ last then .error .ipv4
    else .ok (front.zipIdx.foldl (fun total (n, i) => total + n * Nat.pow 256 (3 - i)) last)

def ipv4Text (address : Nat) : List Char :=
  let byte (i : Nat) := Nat.toDigits 10 (address / Nat.pow 256 i % 256)
  byte 3 ++ ['.'] ++ byte 2 ++ ['.'] ++ byte 1 ++ ['.'] ++ byte 0

def quad? (cs : List Char) : Option (List Nat) := do
  let numbers ← (split '.' cs).mapM fun part => do
    let n ← digitsIn? 10 part
    if part.isEmpty ∨ 255 < n ∨ (part.head? = some '0' ∧ 1 < part.length) then none else some n
  match numbers with
  | [a, b, c, d] => some [a * 256 + b, c * 256 + d]
  | _ => none

def piece? (cs : List Char) : Option Nat :=
  if cs.isEmpty ∨ 4 < cs.length then none else digitsIn? 16 cs

def pieces? : List (List Char) → Option (List Nat)
  | [] => some []
  | [last] => (piece? last).map ([·]) <|> quad? last
  | group :: more => do
    let n ← piece? group
    return n :: (← pieces? more)

def gap? : List Char → Option (List Char × List Char)
  | [] => none
  | ':' :: ':' :: rest => some ([], rest)
  | c :: rest => (gap? rest).map fun (l, r) => (c :: l, r)

def ipv6? (cs : List Char) : Except Fault (List Nat) :=
  let side (cs : List Char) := if cs.isEmpty then some [] else pieces? (split ':' cs)
  let found := match gap? cs with
    | none => do
      let all ← side cs
      if all.length = 8 then some all else none
    | some (l, r) => do
      let left ← if l.contains '.' then none else side l
      let right ← side r
      if left.length + right.length < 8 then
        some (left ++ List.replicate (8 - left.length - right.length) 0 ++ right)
      else none
  match found with
  | some pieces => .ok pieces
  | none => .error .ipv6

def longestGap (pieces : List Nat) : Nat × Nat :=
  let step (s : (Nat × Nat) × (Nat × Nat)) (p : Nat × Nat) :=
    let (best, run) := s
    let run := if p.1 = 0 then (if run.2 = 0 then (p.2, 1) else (run.1, run.2 + 1)) else (0, 0)
    (if best.2 < run.2 then run else best, run)
  (pieces.zipIdx.foldl step ((0, 0), (0, 0))).1

def colons (pieces : List Nat) : List Char :=
  List.intercalate [':'] (pieces.map (Nat.toDigits 16))

def ipv6Text (pieces : List Nat) : List Char :=
  let (start, length) := longestGap pieces
  let inner :=
    if length < 2 then colons pieces
    else colons (pieces.take start) ++ [':', ':'] ++ colons (pieces.drop (start + length))
  '[' :: inner ++ [']']

end LiveAnalysis.Uri
