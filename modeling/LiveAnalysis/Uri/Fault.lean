namespace LiveAnalysis.Uri

inductive Fault where
  | relative
  | emptyHost
  | domain
  | domainCharacter
  | port
  | ipv4
  | ipv6
  deriving DecidableEq, Repr

def Fault.reason : Fault → String
  | .relative => "relative URL without a base"
  | .emptyHost => "empty host"
  | .domain => "invalid international domain name"
  | .domainCharacter => "invalid domain character"
  | .port => "invalid port number"
  | .ipv4 => "invalid IPv4 address"
  | .ipv6 => "invalid IPv6 address"

end LiveAnalysis.Uri
