import LiveAnalysis.Uri.Address
import LiveAnalysis.Uri.Label
import LiveAnalysis.Uri.Percent

namespace LiveAnalysis.Uri

def forbiddenInHost : List Char :=
  ['\x00', '\t', '\n', '\r', ' ', '#', '/', ':', '<', '>', '?', '@', '[', '\\', ']', '^', '|']

def forbiddenInDomain (c : Char) : Bool :=
  forbiddenInHost.contains c || c = '%' || isControl c

def asciiDomain? (bytes : List UInt8) : Option (List Char) := do
  let text ← String.fromUTF8? ⟨bytes.toArray⟩
  let name ← folded? text.toList
  let labels ← (Text.split '.' name).mapM labelOf?
  if !name.any forbiddenInDomain && labels.all isLabel
      && (!labels.any turns || labels.all keepsDirection) then
    return List.intercalate ['.'] (← labels.mapM asciiLabel?)
  else none

def bracketed? (host : List Char) : Option (Except Fault (List Char)) :=
  match host with
  | '[' :: rest =>
    if rest.getLast? = some ']' then some ((ipv6? rest.dropLast).map ipv6Text)
    else some (.error .ipv6)
  | _ => none

def domainHost (host : List Char) : Except Fault (List Char) :=
  match bracketed? host with
  | some found => found
  | none => do
    let some name := asciiDomain? (percentDecode host) | throw .domain
    if name.isEmpty then .error .emptyHost
    else if endsInNumber name then return ipv4Text (← ipv4? name)
    else .ok name

def opaqueHost (host : List Char) : Except Fault (List Char) :=
  match bracketed? host with
  | some found => found
  | none =>
    if host.any forbiddenInHost.contains then .error .domainCharacter
    else .ok (percentEncode [] host)

end LiveAnalysis.Uri
