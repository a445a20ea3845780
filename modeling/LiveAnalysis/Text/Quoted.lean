import LiveAnalysis.Text.Combining
import LiveAnalysis.Text.Printable

/-!
Text quoted for a message: on one line, between double quotes, with everything that a reader could
not see or could misread written as an escape.
-/

namespace LiveAnalysis.Text

def codePoint (c : Char) : List Char :=
  Nat.toDigits 16 c.toNat

def quoteChar (c : Char) : List Char :=
  if c.toNat = 0 then ['\\', '0']
  else if c = '\t' then ['\\', 't']
  else if c = '\r' then ['\\', 'r']
  else if c = '\n' then ['\\', 'n']
  else if c = '"' then ['\\', '"']
  else if c = '\\' then ['\\', '\\']
  else if isPrintable c && !isCombining c then [c]
  else '\\' :: 'u' :: '\x7b' :: codePoint c ++ ['\x7d']

def quoted (s : String) : String :=
  String.ofList ('"' :: s.toList.flatMap quoteChar ++ ['"'])

end LiveAnalysis.Text
