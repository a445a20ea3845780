/-!
The items of a command line. An option has a long name and may have a short one of one letter. Its value
follows an equals sign, or is the next argument, or comes right after the letter. After two dashes on their
own there are operands only.
-/

namespace LiveAnalysis.Command

structure Spec where
  long : String
  short : Option Char := none
  takesValue : Bool := false
  deriving DecidableEq, Repr

inductive Item where
  | flag (long : String) (brief : Bool)
  | option (long : String) (value : String)
  | operand (text : String)
  | wrong
  deriving DecidableEq, Repr

inductive Beginning where
  | item (i : Item)
  | needsValue (long : String)
  deriving DecidableEq, Repr

def readLong (specs : List Spec) (cs : List Char) : Beginning :=
  let name := cs.takeWhile (· ≠ '=')
  let value := cs.dropWhile (· ≠ '=')
  match specs.find? (·.long.toList = name) with
  | none => .item .wrong
  | some spec =>
    match spec.takesValue, value with
    | true, [] => .needsValue spec.long
    | true, _ :: text => .item (.option spec.long (String.ofList text))
    | false, [] => .item (.flag spec.long false)
    | false, _ => .item .wrong

def readShort (specs : List Spec) (letter : Char) (cs : List Char) : Beginning :=
  match specs.find? (·.short = some letter) with
  | none => .item .wrong
  | some spec =>
    match spec.takesValue, cs with
    | false, _ => .item (.flag spec.long true)
    | true, [] => .needsValue spec.long
    | true, '=' :: text => .item (.option spec.long (String.ofList text))
    | true, text => .item (.option spec.long (String.ofList text))

def begins (specs : List Spec) (argument : String) : Option Beginning :=
  match argument.toList with
  | '-' :: '-' :: cs => some (readLong specs cs)
  | '-' :: c :: cs => some (readShort specs c cs)
  | _ => none

def isOperand (argument : String) : Bool :=
  match argument.toList with
  | '-' :: _ :: _ => false
  | _ => true

def leading (specs : List Spec) : List String → List Item × List String
  | [] => ([], [])
  | "--" :: _ => ([.wrong], [])
  | a :: rest =>
    match begins specs a with
    | none => ([], a :: rest)
    | some (.item i) =>
      let (items, operands) := leading specs rest
      (i :: items, operands)
    | some (.needsValue long) =>
      match rest with
      | [] => ([.wrong], [])
      | v :: rest =>
        if isOperand v then
          let (items, operands) := leading specs rest
          (.option long v :: items, operands)
        else ([.wrong], [])

def items (specs : List Spec) : List String → List Item
  | [] => []
  | "--" :: rest => rest.map .operand
  | a :: rest =>
    match begins specs a with
    | none => .operand a :: items specs rest
    | some (.item i) => i :: items specs rest
    | some (.needsValue long) =>
      match rest with
      | [] => [.wrong]
      | v :: rest => if isOperand v then .option long v :: items specs rest else [.wrong]

end LiveAnalysis.Command
