import LiveAnalysis.Text.Quoted
import LiveAnalysis.Uri.Parser

namespace LiveAnalysis

/-- A document is known by the normal form of its URI. -/
structure DocumentId where
  text : String
  deriving DecidableEq, Repr, Inhabited

namespace DocumentId

def ofUri (uri : Uri) : DocumentId :=
  ⟨String.ofList uri.toList⟩

def parse (text : String) : Except Uri.Fault DocumentId :=
  (Uri.parse text).map ofUri

def invalidMessage (text : String) (fault : Uri.Fault) : String :=
  s!"Invalid document URI {Text.quoted text}: {fault.reason}"

def ofPath (path : String) : DocumentId :=
  ofUri (Uri.ofPath path)

def scheme (id : DocumentId) : String :=
  String.ofList (id.text.toList.takeWhile (· ≠ ':'))

instance : ToString DocumentId := ⟨text⟩

end DocumentId

end LiveAnalysis
