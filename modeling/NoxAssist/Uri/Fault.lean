namespace NoxAssist.Uri

inductive Fault where
  | noScheme
  | emptyHost
  | badDomain
  | badHost
  | badShortAddress
  | badLongAddress
  | badService
deriving DecidableEq, Repr

def Fault.message : Fault → String
  | .noScheme => "relative URL without a base"
  | .emptyHost => "empty host"
  | .badDomain => "invalid international domain name"
  | .badHost => "invalid domain character"
  | .badShortAddress => "invalid IPv4 address"
  | .badLongAddress => "invalid IPv6 address"
  | .badService => "invalid port number"

end NoxAssist.Uri
