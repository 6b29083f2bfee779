import FetchKit.Address.Domain
import FetchKit.Address.Failure
import FetchKit.Address.Ip
import FetchKit.Address.Percent

/-! # Hosts -/

namespace FetchKit.Address

inductive Host where
  | domain (name : List Char)
  | ipv4 (value : Nat)
  | ipv6 (pieces : List Nat)
  deriving Repr, DecidableEq, Inhabited

namespace Host

def text : Host → List Char
  | domain name => name
  | ipv4 value => ipv4Text value
  | ipv6 pieces => '[' :: ipv6Text pieces ++ [']']

def isEmpty : Host → Bool
  | domain [] => true
  | _ => false

/-- An address in brackets. -/
def parseBracketed (cs : List Char) : Except Failure Host :=
  match cs.reverse with
  | ']' :: inner =>
    match ipv6? inner.reverse with
    | some pieces => .ok (.ipv6 pieces)
    | none => .error .badIpv6
  | _ => .error .badIpv6

/-- The host of a scheme that knows what hosts are. -/
def parse (cs : List Char) : Except Failure Host :=
  match cs with
  | '[' :: rest => parseBracketed rest
  | cs =>
    match domainToAscii (percentDecode cs) with
    | none => .error .badInternational
    | some [] => .error .emptyHost
    | some name =>
      if endsInNumber name then
        match ipv4? name with
        | some value => .ok (.ipv4 value)
        | none => .error .badIpv4
      else .ok (.domain name)

/-- Characters that no host may hold. -/
def forbidden (c : Char) : Bool :=
  c.toNat == 0 ||
    ['\t', '\n', '\r', ' ', '#', '/', ':', '<', '>', '?', '@', '[', '\\', ']', '^', '|'].contains c

/-- The host of any other scheme: it is kept as it stands. -/
def parseUnknown (cs : List Char) : Except Failure Host :=
  match cs with
  | '[' :: rest => parseBracketed rest
  | cs =>
    if cs.any forbidden then .error .badDomainCharacter
    else .ok (.domain (percentEncode inControlSet cs))

end Host

end FetchKit.Address
