import WebScope.Text.Basic

/-!
# Why a text is no URL
-/

namespace WebScope
namespace Url

/-- **The reasons for which a text is refused as a URL.** -/
inductive ParseError
  /-- It does not start with a scheme. -/
  | relativeWithoutBase
  /-- A host is required, or follows user information, or precedes a port, and is empty. -/
  | emptyHost
  /-- The host is no domain name. -/
  | invalidDomain
  /-- The port is no number, or is above 65535. -/
  | invalidPort
  /-- The host ends in a number and is no IPv4 address. -/
  | invalidIpv4
  /-- The host is in brackets and is no IPv6 address. -/
  | invalidIpv6
  /-- The host of a scheme without rules of its own holds a character that ends hosts. -/
  | invalidHostCharacter
  deriving DecidableEq, Repr

/-- The wording of a reason. -/
def ParseError.reason : ParseError → Text
  | .relativeWithoutBase => "relative URL without a base".toList
  | .emptyHost => "empty host".toList
  | .invalidDomain => "invalid international domain name".toList
  | .invalidPort => "invalid port number".toList
  | .invalidIpv4 => "invalid IPv4 address".toList
  | .invalidIpv6 => "invalid IPv6 address".toList
  | .invalidHostCharacter => "invalid domain character".toList

/-- The message shown for a text that is no URL. -/
def ParseError.message (e : ParseError) : Text := "invalid url: ".toList ++ e.reason

end Url
end WebScope
