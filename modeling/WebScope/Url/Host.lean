import WebScope.Text.Utf8
import WebScope.Url.Address
import WebScope.Url.Domain
import WebScope.Url.Error
import WebScope.Url.Percent

/-!
# Hosts

A host is a domain name, an address, or in schemes without rules of their own any text that holds no character with a
meaning in URLs. Two spellings of one host are read as the same value.
-/

namespace WebScope

/-- **The host of a URL.** -/
inductive Host
  /-- A domain name in its one form. -/
  | domain (name : Text)
  /-- An IPv4 address. -/
  | ipv4 (value : Nat)
  /-- An IPv6 address, as its pieces. -/
  | ipv6 (pieces : List Nat)
  /-- The host of a scheme without rules of its own, controls in percent form. -/
  | verbatim (text : Text)
  deriving DecidableEq, Repr

namespace Host

/-- The host in brackets of which `s` is the text behind the opening bracket. -/
def ofBrackets (s : Text) : Except Url.ParseError Host :=
  match (Text.before? [']'] s).bind Address.ipv6? with
  | some pieces => .ok (.ipv6 pieces)
  | none => .error .invalidIpv6

/-- The host that a domain name in its one form stands for. -/
def ofName (name : Text) : Except Url.ParseError Host :=
  if name = [] then .error .emptyHost
  else if Address.endsInNumber name then
    match Address.ipv4? name with
    | some value => .ok (.ipv4 value)
    | none => .error .invalidIpv4
  else .ok (.domain name)

/-- **The host of a scheme that has domain names.** Octets in percent form are read before the name is. -/
def ofSpecial : Text → Except Url.ParseError Host
  | '[' :: s => ofBrackets s
  | s =>
    match (Utf8.decode? (Percent.decode s)).bind Domain.ofText? with
    | some name => ofName name
    | none => .error .invalidDomain

/-- The characters that no host of the other schemes holds. -/
def isForbidden (c : Char) : Bool :=
  [Char.ofNat 0, '\t', '\n', '\r', ' ', '#', '/', ':', '<', '>', '?', '@', '[', '\\', ']', '^', '|'].contains c

/-- **The host of any other scheme.** -/
def ofOther : Text → Except Url.ParseError Host
  | '[' :: s => ofBrackets s
  | s => if s.any isForbidden then .error .invalidHostCharacter else .ok (.verbatim (Percent.encode Percent.isControl s))

end Host
end WebScope
