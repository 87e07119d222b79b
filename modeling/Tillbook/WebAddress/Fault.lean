/-!
# Faults of web addresses

## Main definitions

* `WebAddress.Fault` — what is wrong with an address.
* `WebAddress.Fault.message` — the wording.
-/

namespace Tillbook.WebAddress

/-- What is wrong with an address. -/
inductive Fault where
  | noScheme
  | emptyHost
  | badPort
  | badGroups
  | badNumbers
  | badDomain
  | badCharacter
  deriving DecidableEq, Repr

/-- The wording of a fault. -/
def Fault.message : Fault → String
  | .noScheme => "relative URL without a base"
  | .emptyHost => "empty host"
  | .badPort => "invalid port number"
  | .badGroups => "invalid IPv6 address"
  | .badNumbers => "invalid IPv4 address"
  | .badDomain => "invalid international domain name"
  | .badCharacter => "invalid domain character"

end Tillbook.WebAddress
