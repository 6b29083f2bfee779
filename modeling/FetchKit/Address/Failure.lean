/-! # Why a text is no address -/

namespace FetchKit.Address

inductive Failure where
  | noBase
  /-- The base has no parts that the text could be relative to. -/
  | wholeBase
  | emptyHost
  | badPort
  | badIpv4
  | badIpv6
  | badInternational
  | badDomainCharacter
  deriving Repr, DecidableEq, Inhabited

def Failure.message : Failure → String
  | noBase => "relative URL without a base"
  | wholeBase => "relative URL with a cannot-be-a-base base"
  | emptyHost => "empty host"
  | badPort => "invalid port number"
  | badIpv4 => "invalid IPv4 address"
  | badIpv6 => "invalid IPv6 address"
  | badInternational => "invalid international domain name"
  | badDomainCharacter => "invalid domain character"

end FetchKit.Address
