import LiveAnalysis.Document.Id
import LiveAnalysis.Editor.Answer
import LiveAnalysis.Json.Value

namespace LiveAnalysis.Editor

inductive Question where
  | completion
  | signature
  | hover
  | references (definitions : Bool)
  deriving DecidableEq, Repr

structure Query where
  question : Question
  id : DocumentId
  position : Position
  deriving DecidableEq, Repr

inductive Message where
  | connect (options : Option Json.Value)
  | connected
  | shutdown
  | opened (id : DocumentId) (text : String)
  | changed (id : DocumentId) (texts : List String)
  | closed (id : DocumentId)
  | query (q : Query)
  deriving Repr

inductive Fault where
  | notInitialized
  | invalidRequest
  | invalidParameters
  | unknownMethod
  deriving DecidableEq, Repr

namespace Fault

def code : Fault → Int
  | notInitialized => -32002
  | invalidRequest => -32600
  | invalidParameters => -32602
  | unknownMethod => -32601

def text : Fault → String
  | notInitialized => "Server not initialized"
  | invalidRequest => "Invalid request"
  | invalidParameters => "Invalid params"
  | unknownMethod => "Method not found"

end Fault

def documentOf? (params : Json.Value) : Option Json.Value :=
  params.get? "textDocument"

def idOf? (params : Json.Value) : Option DocumentId := do
  let uri ← (← (← documentOf? params).get? "uri").str?
  (DocumentId.parse uri).toOption

def textOf? (holder : Json.Value) : Option String := do
  (← holder.get? "text").str?

def coordinate? (v : Json.Value) : Option UInt32 :=
  (v.nat?.filter (· < UInt32.size)).map Nat.toUInt32

def positionOf? (params : Json.Value) : Option Position := do
  let position ← params.get? "position"
  return ⟨← coordinate? (← position.get? "line"), ← coordinate? (← position.get? "character")⟩

def queryOf? (question : Question) (params : Json.Value) : Option Message := do
  return .query ⟨question, ← idOf? params, ← positionOf? params⟩

def referencesOf? (params : Json.Value) : Option Message := do
  let definitions ← (← (← params.get? "context").get? "includeDeclaration").bool?
  queryOf? (.references definitions) params

def optionsOf (params : Json.Value) : Option Json.Value :=
  match params.get? "initializationOptions" with
  | some .null => none
  | options => options

def openedOf? (params : Json.Value) : Option Message := do
  return .opened (← idOf? params) (← textOf? (← documentOf? params))

def changedOf? (params : Json.Value) : Option Message := do
  let changes ← (← params.get? "contentChanges").arr?
  return .changed (← idOf? params) (← changes.mapM textOf?)

def closedOf? (params : Json.Value) : Option Message := do
  return .closed (← idOf? params)

def reader? (method : String) : Option (Json.Value → Option Message) :=
  match method with
  | "initialize" => some fun params => some (.connect (optionsOf params))
  | "initialized" => some fun _ => some .connected
  | "shutdown" => some fun _ => some .shutdown
  | "textDocument/didOpen" => some openedOf?
  | "textDocument/didChange" => some changedOf?
  | "textDocument/didClose" => some closedOf?
  | "textDocument/completion" => some (queryOf? .completion)
  | "textDocument/signatureHelp" => some (queryOf? .signature)
  | "textDocument/hover" => some (queryOf? .hover)
  | "textDocument/references" => some referencesOf?
  | _ => none

def Message.read (method : String) (params : Json.Value) : Except Fault Message :=
  match reader? method with
  | none => .error .unknownMethod
  | some read =>
    match read params with
    | some m => .ok m
    | none => .error .invalidParameters

def positionJson (p : Position) : Json.Value :=
  .obj [("line", .ofNat p.line.toNat), ("character", .ofNat p.character.toNat)]

def rangeJson (r : Range) : Json.Value :=
  .obj [("start", positionJson r.start), ("end", positionJson r.stop)]

def locationJson (l : Location) : Json.Value :=
  .obj [("uri", .str l.id.text), ("range", rangeJson l.range)]

def completionJson (c : Completion) : Json.Value :=
  match c.function with
  | some f => .obj [("label", .str c.name), ("kind", .int 3), ("detail", .str f.label)]
  | none => .obj [("label", .str c.name), ("kind", .int 6)]

def signatureHelpJson (h : SignatureHelp) : Json.Value :=
  let parameters := h.function.parameters.map fun p => Json.Value.obj [("label", .str p)]
  let signature := Json.Value.obj [("label", .str h.function.label), ("parameters", .arr parameters),
    ("activeParameter", .ofNat h.active)]
  .obj [("signatures", .arr [signature]), ("activeSignature", .int 0), ("activeParameter", .ofNat h.active)]

def hoverJson (h : Hover) : Json.Value :=
  .obj [("contents", .obj [("kind", .str "markdown"), ("value", .str h.text)]), ("range", rangeJson h.range)]

def listJson (encode : α → Json.Value) (items : List α) : Json.Value :=
  if items.isEmpty then .null else .ofList encode items

def capabilities : Json.Value :=
  .obj [("capabilities", .obj
    [("textDocumentSync", .int 1),
     ("completionProvider", .obj []),
     ("signatureHelpProvider", .obj [("triggerCharacters", .arr [.str "(", .str ","])]),
     ("referencesProvider", .bool true),
     ("hoverProvider", .bool true)])]

def Query.answer (q : Query) (s : Source.Summary) (text : String) : Json.Value :=
  match q.question with
  | .completion => listJson completionJson (completions s text q.position)
  | .signature => .ofOption signatureHelpJson (signatureHelp? s text q.position)
  | .hover => .ofOption hoverJson (hover? s q.position)
  | .references definitions => listJson locationJson (references s q.id q.position definitions)

end LiveAnalysis.Editor
