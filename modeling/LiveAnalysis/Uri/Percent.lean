import LiveAnalysis.Text.Digits

namespace LiveAnalysis.Uri

def upperHex (n : Nat) : Char :=
  if n < 10 then Char.ofNat (48 + n) else Char.ofNat (55 + n)

def percentByte (b : UInt8) : List Char :=
  ['%', upperHex (b.toNat / 16), upperHex (b.toNat % 16)]

def isControl (c : Char) : Bool :=
  c.toNat < 32 || c.toNat = 127

def percentChar (reserved : List Char) (c : Char) : List Char :=
  if 128 ≤ c.toNat || isControl c || reserved.contains c then
    (String.utf8EncodeChar c).flatMap percentByte
  else [c]

def percentEncode (reserved : List Char) (cs : List Char) : List Char :=
  cs.flatMap (percentChar reserved)

def inFragment : List Char := [' ', '"', '<', '>', '`']

def inPath : List Char := inFragment ++ ['#', '?', '\x7b', '\x7d']

def inUserInfo : List Char := inPath ++ ['/', ':', ';', '=', '@', '[', '\\', ']', '^', '|']

def inQuery : List Char := [' ', '"', '#', '<', '>']

def inSpecialQuery : List Char := inQuery ++ ['\'']

/-- For one name of a file path, where a slash, a backslash or a percent sign means itself. -/
def inFileName : List Char := inPath ++ ['/', '%', '\\']

def percentDecode : List Char → List UInt8
  | [] => []
  | '%' :: a :: b :: rest =>
    match Text.hexValue? a, Text.hexValue? b with
    | some x, some y => (16 * x + y).toUInt8 :: percentDecode rest
    | _, _ => '%'.toUInt8 :: percentDecode (a :: b :: rest)
  | c :: rest => String.utf8EncodeChar c ++ percentDecode rest

end LiveAnalysis.Uri
