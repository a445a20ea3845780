import LiveAnalysis.Uri.Host
import LiveAnalysis.Uri.Path

/-!
Absolute URIs, read leniently and written in one normal form: blanks around the text and line breaks in
it go, scheme and host are in small letters, a default port is left out, dots in the path are resolved and
characters that do not belong are in percent form.
-/

namespace LiveAnalysis

structure Uri where
  scheme : List Char
  authority : Option (List Char)
  path : List Char
  query : Option (List Char)
  fragment : Option (List Char)
  deriving DecidableEq, Repr

namespace Uri

def toList (u : Uri) : List Char :=
  let authority := match u.authority with
    | some a => ['/', '/'] ++ a
    | none => if ['/', '/'].isPrefixOf u.path then ['/', '.'] else []
  let query := match u.query with
    | some q => '?' :: q
    | none => []
  let fragment := match u.fragment with
    | some f => '#' :: f
    | none => []
  u.scheme ++ ':' :: authority ++ u.path ++ query ++ fragment

def isEdge (c : Char) : Bool :=
  c.toNat ≤ 32

def withoutEdges (cs : List Char) : List Char :=
  ((cs.dropWhile isEdge).reverse.dropWhile isEdge).reverse

def isSchemeChar (c : Char) : Bool :=
  c.isAlphanum || c = '+' || c = '-' || c = '.'

def scheme? (cs : List Char) : Option (List Char × List Char) :=
  match cs.takeWhile isSchemeChar, cs.dropWhile isSchemeChar with
  | first :: name, ':' :: rest =>
    if first.isAlpha then some ((first :: name).map Char.toLower, rest) else none
  | _, _ => none

def defaultPorts : List (String × Nat) :=
  [("http", 80), ("https", 443), ("ws", 80), ("wss", 443), ("ftp", 21)]

def defaultPort? (scheme : List Char) : Option Nat :=
  defaultPorts.lookup (String.ofList scheme)

def kindOf (scheme : List Char) : Kind :=
  if String.ofList scheme = "file" then .file
  else if (defaultPort? scheme).isSome then .hosted
  else .other

def isTail (c : Char) : Bool :=
  c = '?' || c = '#'

def tailOf (kind : Kind) (cs : List Char) : Option (List Char) × Option (List Char) :=
  let reserved := if kind.isSpecial then inSpecialQuery else inQuery
  let fragment (cs : List Char) := match cs with
    | '#' :: f => some (percentEncode inFragment f)
    | _ => none
  match cs with
  | '?' :: rest =>
    (some (percentEncode reserved (rest.takeWhile (· ≠ '#'))), fragment (rest.dropWhile (· ≠ '#')))
  | cs => (none, fragment cs)

def userInfo? (cs : List Char) : Option (List Char × List Char) :=
  match cs.reverse.dropWhile (· ≠ '@') with
  | [] => none
  | _ :: front => some (front.reverse, (cs.reverse.takeWhile (· ≠ '@')).reverse)

def userInfoText (info : List Char) : List Char :=
  let user := info.takeWhile (· ≠ ':')
  let password := (info.dropWhile (· ≠ ':')).tail
  if user.isEmpty ∧ password.isEmpty then []
  else
    percentEncode inUserInfo user
      ++ (if password.isEmpty then [] else ':' :: percentEncode inUserInfo password) ++ ['@']

def hostText (inside : Bool) : List Char → List Char × List Char
  | [] => ([], [])
  | c :: rest =>
    if c = ':' ∧ !inside then ([], c :: rest)
    else
      let (host, after) := hostText (if c = '[' then true else if c = ']' then false else inside) rest
      (c :: host, after)

def portOf (scheme : List Char) (cs : List Char) : Except Fault (List Char × List Char) :=
  match cs with
  | ':' :: rest =>
    let digits := rest.takeWhile Char.isDigit
    let after := rest.dropWhile Char.isDigit
    let port := digits.foldl (fun n c => n * 10 + (c.toNat - 48)) 0
    if 65535 < port then .error .port
    else if !(after.isEmpty || after.head? = some '\\') then .error .port
    else if digits.isEmpty ∨ defaultPort? scheme = some port then .ok ([], after)
    else .ok (':' :: Nat.toDigits 10 port, after)
  | cs => .ok ([], cs)

def parseHosted (scheme : List Char) (kind : Kind) (cs : List Char) : Except Fault Uri := do
  let ends (c : Char) := isSlash kind c || isTail c
  let whole := cs.takeWhile (!ends ·)
  let rest := cs.dropWhile (!ends ·)
  let (info, hostPort) := match userInfo? whole with
    | some (info, hostPort) => (some info, hostPort)
    | none => (none, whole)
  if info = some [] ∧ hostPort.isEmpty ∧ !rest.isEmpty then throw .emptyHost
  let user := userInfoText (info.getD [])
  let (name, after) := hostText false hostPort
  if name.isEmpty ∧ (kind.isSpecial ∨ !after.isEmpty ∨ !user.isEmpty) then throw .emptyHost
  let host ← if kind.isSpecial then domainHost name else opaqueHost name
  let (port, after) ← portOf scheme after
  let rest := after ++ rest
  let pathPart := rest.takeWhile (!isTail ·)
  let path := match pathPart with
    | [] => if kind.isSpecial then ['/'] else []
    | c :: more => pathText (trailOf kind (if isSlash kind c then more else c :: more)).segments
  let (query, fragment) := tailOf kind (rest.dropWhile (!isTail ·))
  return ⟨scheme, some (user ++ host ++ port), path, query, fragment⟩

def afterSlash? (cs : List Char) : Option (List Char) :=
  match cs.dropWhile isBreak with
  | c :: rest => if isSlash .file c then some rest else none
  | [] => none

def withoutSlash (cs : List Char) : List Char :=
  (afterSlash? cs).getD cs

/--
The host of a file and the text of its path. The local host is no host, and a drive begins the path. Without
a host the path keeps its slash, so that it begins with an empty segment.
-/
def fileHost (cs : List Char) : Except Fault (List Char × List Char) := do
  let ends (c : Char) := isSlash .file c || isTail c
  let name := withoutBreaks (cs.takeWhile (!ends ·))
  let rest := cs.dropWhile (!ends ·)
  if (drive? name).isSome then return ([], cs)
  if name.isEmpty then return ([], rest)
  let host ← domainHost name
  return if String.ofList host = "localhost" then ([], rest) else (host, withoutSlash rest)

def parseFile (cs : List Char) : Except Fault Uri := do
  let (host, rest) ← match (afterSlash? cs).bind afterSlash? with
    | some more => fileHost more
    | none => pure ([], withoutSlash cs)
  let trail := trailOf .file (rest.takeWhile (!isTail ·))
  let (query, fragment) := tailOf .file (withoutBreaks (rest.dropWhile (!isTail ·)))
  return {
    scheme := "file".toList
    authority := some (if trail.onDrive then [] else host)
    path := pathText (withoutLeadingEmpty trail.segments)
    query, fragment }

def parsePlain (scheme : List Char) (cs : List Char) : Uri :=
  let pathPart := cs.takeWhile (!isTail ·)
  let path := match pathPart with
    | '/' :: more => pathText (trailOf .other more).segments
    | text => percentEncode [] text
  let (query, fragment) := tailOf .other (cs.dropWhile (!isTail ·))
  ⟨scheme, none, path, query, fragment⟩

def parse (text : String) : Except Fault Uri :=
  let cs := withoutEdges text.toList
  match scheme? (withoutBreaks cs) with
  | none => .error .relative
  | some (scheme, rest) =>
    match kindOf scheme, rest with
    | .file, _ => parseFile (cs.dropWhile (· ≠ ':')).tail
    | .hosted, rest => parseHosted scheme .hosted (rest.dropWhile (isSlash .hosted))
    | .other, '/' :: '/' :: rest => parseHosted scheme .other rest
    | .other, rest => .ok (parsePlain scheme rest)

def ofPath (path : String) : Uri :=
  let names := (Text.split '/' path.toList).filter fun n => !n.isEmpty && n ≠ ['.']
  let path := if names.isEmpty then ['/'] else pathText (names.map (percentEncode inFileName))
  ⟨"file".toList, some [], path, none, none⟩

end Uri

end LiveAnalysis
