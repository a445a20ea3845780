import LiveAnalysis.Command.Output
import LiveAnalysis.Editor.Session
import LiveAnalysis.Json.Reader
import Std.Time.DateTime.Timestamp

namespace LiveAnalysis.Main

def now : IO Time.Instant := do
  let t ← Std.Time.Timestamp.now
  return ⟨t.val.second.val, t.val.nano.val.toNat⟩

def environment : IO Environment := do
  let timeout ← IO.getEnv Config.timeoutVariable
  let trace ← IO.getEnv Config.traceVariable
  return fun name =>
    if name = Config.timeoutVariable then timeout else if name = Config.traceVariable then trace else none

def faultOf (e : IO.Error) : ReadFault :=
  match e with
  | .noFileOrDirectory .. => .absent
  | .inappropriateType (some _) .. => .notFolder
  | .inappropriateType none .. => .folder
  | .permissionDenied .. => .other "Permission denied (os error 13)"
  | e => .other (toString e)

def readFile (path : String) : IO (Except ReadFault ByteArray) := do
  match ← (IO.FS.readBinFile path).toBaseIO with
  | .error e => return .error (faultOf e)
  | .ok bytes => return .ok bytes

def file (folder path : String) : IO File := do
  let absolute := if path.startsWith "/" then path else folder ++ "/" ++ path
  return File.found path absolute (← readFile path)

def log (config : Config) (e : Event) : IO Unit := do
  if config.trace || e.severity ≠ .log then IO.eprintln s!"{e.severity.level} {e.message}"

def lengthOf? (header : String) : Option Nat :=
  match header.splitOn ":" with
  | [name, value] =>
    if name.toLower = "content-length" then Text.word? (Text.trim value.toList) else none
  | _ => none

partial def readHeader (stdin : IO.FS.Stream) (length : Option Nat) : IO (Option Nat) := do
  let line ← stdin.getLine
  if line.isEmpty then return none
  else if (Text.trim line.toList).isEmpty then return length
  else readHeader stdin (lengthOf? line <|> length)

partial def readBytes (stdin : IO.FS.Stream) (n : Nat) (sofar : ByteArray) : IO ByteArray := do
  if n ≤ sofar.size then return sofar
  else
    let more ← stdin.read (n - sofar.size).toUSize
    if more.isEmpty then return sofar else readBytes stdin n (sofar ++ more)

def readMessage (stdin : IO.FS.Stream) : IO (Option Json.Value) := do
  match ← readHeader stdin none with
  | none => return none
  | some n =>
    let bytes ← readBytes stdin n ByteArray.empty
    return (String.fromUTF8? bytes).bind Json.read?

def send (stdout : IO.FS.Stream) (members : List (String × Json.Value)) : IO Unit := do
  let text := (Json.Value.obj (("jsonrpc", .str "2.0") :: members)).compact
  stdout.putStr s!"Content-Length: {text.utf8ByteSize}\r\n\r\n{text}"
  stdout.flush

def reply (stdout : IO.FS.Stream) (id : Json.Value) : Editor.Outcome → IO Unit
  | .result v => send stdout [("id", id), ("result", v)]
  | .fault f => send stdout [("id", id), ("error", .obj [("code", .int f.code), ("message", .str f.text)])]
  | .heard => return ()

def tell (stdout : IO.FS.Stream) (e : Event) : IO Unit :=
  send stdout [("method", .str "window/logMessage"),
    ("params", .obj [("type", .ofNat (Editor.logKind e.severity)), ("message", .str e.message)])]

structure Connection where
  session : Editor.Session
  ids : List (Nat × Json.Value) := []
  messages : Nat := 0

def Connection.post (c : Connection) (message : Json.Value) : Connection :=
  match (message.get? "method").bind Json.Value.str? with
  | none => c
  | some method =>
    let id := message.get? "id"
    let params := (message.get? "params").getD .null
    { session := c.session.post { number := c.messages, wantsReply := id.isSome, method, params }
      ids := (id.map fun id => (c.messages, id)).toList ++ c.ids
      messages := c.messages + 1 }

def Connection.flush (c : Connection) (stdout : IO.FS.Stream) : IO Connection := do
  let session := c.session.settle
  for (number, outcome) in session.outcomes do
    match c.ids.find? (·.1 = number) with
    | some (_, id) => reply stdout id outcome
    | none => pure ()
  for warning in session.warnings do
    IO.eprintln s!"{Severity.warning.level} {warning}"
  let (events, session) := { session with outcomes := [], warnings := [] }.takeEvents
  for e in events do
    log session.config e
    tell stdout e
  return { c with session, ids := c.ids.filter fun (n, _) => session.pending.any (·.number = n) }

def isExit (message : Json.Value) : Bool :=
  ((message.get? "method").bind Json.Value.str?) = some "exit"

partial def serve (stdin stdout : IO.FS.Stream) (c : Connection) (clock : Nat)
    (next : Task (Except IO.Error (Option Json.Value))) : IO Unit := do
  let time ← IO.monoMsNow
  let c := { c with session := c.session.advance (time - clock) }
  if ← IO.hasFinished next then
    match next.get with
    | .ok (some message) =>
      let c ← (c.post message).flush stdout
      if isExit message then return
      else serve stdin stdout c time (← IO.asTask (readMessage stdin))
    | _ => return
  else
    let c ← c.flush stdout
    IO.sleep 10
    serve stdin stdout c time next

def run (i : Command.Invocation) : IO UInt32 := do
  let environment ← environment
  for complaint in (Config.load environment).2 do
    IO.eprintln s!"{Severity.warning.level} {complaint.message}"
  let config := Command.settings i environment
  match i.task with
  | .serve =>
    let stdin ← IO.getStdin
    let stdout ← IO.getStdout
    let next ← IO.asTask (readMessage stdin)
    serve stdin stdout { session := { config, environment } } (← IO.monoMsNow) next
    return 0
  | .analyze paths timeout =>
    let folder := (← IO.currentDir).toString
    let files ← paths.mapM (file folder)
    let (output, events) := Command.analyze i config timeout (← now) files
    events.forM (log config)
    IO.print output.text
    return output.code.toUInt32

end LiveAnalysis.Main

def main (arguments : List String) : IO UInt32 := do
  match LiveAnalysis.Command.read arguments with
  | .ok i => LiveAnalysis.Main.run i
  | .error stop =>
    let output := stop.output
    IO.print output.text
    return output.code.toUInt32
