import LiveAnalysis.Text.Split
import LiveAnalysis.Uri.Percent

/-!
Hierarchical paths as lists of segments. A single dot stands for nothing and two dots take the segment
before them away, unless it names a drive; either may be written in percent form. A file may have a drive
for the first segment of its path, and then has no host.
-/

namespace LiveAnalysis.Uri

inductive Kind where
  | file
  | hosted
  | other
  deriving DecidableEq, Repr

def Kind.isSpecial : Kind → Bool
  | .other => false
  | _ => true

def isSlash (kind : Kind) (c : Char) : Bool :=
  c = '/' || (kind.isSpecial && c = '\\')

def isDot (segment : List Char) : Bool :=
  [".", "%2e"].contains (String.ofList (segment.map Char.toLower))

def isDoubleDot (segment : List Char) : Bool :=
  ["..", ".%2e", "%2e.", "%2e%2e"].contains (String.ofList (segment.map Char.toLower))

def isBreak (c : Char) : Bool :=
  c = '\t' || c = '\n' || c = '\r'

def withoutBreaks (cs : List Char) : List Char :=
  cs.filter (!isBreak ·)

def drive? : List Char → Option Char
  | [c, d] => if c.isAlpha ∧ (d = ':' ∨ d = '|') then some c else none
  | _ => none

def isPinned (segment : List Char) : Bool :=
  (drive? (segment.take 2)).isSome && (segment.drop 2).head?.all (· = '\\')

structure Trail where
  segments : List (List Char) := []
  onDrive : Bool := false
  deriving DecidableEq, Repr

namespace Trail

def up (t : Trail) : Trail :=
  if t.segments.getLast?.any isPinned then t else { t with segments := t.segments.dropLast }

def down (t : Trail) (segment : List Char) : Trail :=
  { t with segments := t.segments ++ [segment] }

def brokenDrive? (segment : List Char) : Option (Char × List Char) :=
  match segment.dropWhile isBreak with
  | c :: rest =>
    match rest.dropWhile isBreak with
    | ':' :: b :: name =>
      if c.isAlpha ∧ isBreak b ∧ name.any (!isBreak ·) then some (c, withoutBreaks name) else none
    | _ => none
  | [] => none

def put (kind : Kind) (t : Trail) (segment : List Char) : Trail :=
  match t.segments, kind with
  | [], .file =>
    match brokenDrive? segment, drive? (withoutBreaks segment) with
    | some (c, name), _ => (t.down [c, ':']).down (percentEncode inPath name)
    | none, some c => { segments := [[c, ':']], onDrive := true }
    | none, none => t.down (percentEncode inPath (withoutBreaks segment))
  | _, _ => t.down (percentEncode inPath (withoutBreaks segment))

def putAll (kind : Kind) : Trail → List (List Char) → Trail
  | t, [] => t
  | t, segment :: more =>
    let atEnd (t : Trail) := if more.isEmpty then t.down [] else t
    let t :=
      if isDoubleDot (withoutBreaks segment) then atEnd t.up
      else if isDot (withoutBreaks segment) then atEnd t
      else t.put kind segment
    putAll kind t more

end Trail

def rawSegments (kind : Kind) (cs : List Char) : List (List Char) :=
  Text.split '/' (cs.map fun c => if isSlash kind c then '/' else c)

def trailOf (kind : Kind) (cs : List Char) : Trail :=
  ({} : Trail).putAll kind (rawSegments kind cs)

def withoutLeadingEmpty : List (List Char) → List (List Char)
  | [] :: s :: more => withoutLeadingEmpty (s :: more)
  | path => path

def pathText (segments : List (List Char)) : List Char :=
  segments.flatMap ('/' :: ·)

end LiveAnalysis.Uri
