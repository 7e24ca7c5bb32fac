import WebScope.Url.Host

/-!
# Authorities

What stands between `//` and the path: user information up to the last `@`, the host, and a port behind a colon. The
authority ends at a slash, at the query or at the fragment, and in schemes that have domain names at a backslash.
-/

namespace WebScope

/-- **Where a URL is served.** Without a host it names no place. -/
structure Authority where
  host : Option Host
  port : Option Nat
  deriving DecidableEq, Repr

namespace Authority

/-- Whether a character ends an authority. -/
def isEnd (special : Bool) (c : Char) : Bool := c == '/' || c == '?' || c == '#' || (special && c == '\\')

/-- The text of the host and the text from its colon on; a colon in brackets belongs to the host. -/
def hostAndRest (inBrackets : Bool) : Text → Text × Text
  | [] => ([], [])
  | c :: s =>
    if c == ':' && !inBrackets then ([], c :: s)
    else
      let (host, rest) := hostAndRest (c == '[' || (inBrackets && c != ']')) s
      (c :: host, rest)

/-- The greatest port. -/
def maxPort : Nat := 65535

/-- Whether a character may follow the digits of a port. -/
def endsPort (c : Char) : Bool := c == '/' || c == '\\' || c == '?' || c == '#'

/-- The port behind a colon and the text behind the port. The default port of the scheme is the same as none. -/
def port? (default? : Option Nat) (s : Text) : Except Url.ParseError (Option Nat × Text) :=
  let digits := s.takeWhile Char.isDigit
  let rest := s.dropWhile Char.isDigit
  match Text.number? 10 digits with
  | some n =>
    if maxPort < n ∨ rest.head?.any (!endsPort ·) then .error .invalidPort
    else .ok (if digits = [] ∨ some n = default? then none else some n, rest)
  | none => .error .invalidPort

/-- The host that is written; in schemes without rules of their own it can be missing. -/
def host? (special : Bool) (s : Text) : Except Url.ParseError (Option Host) :=
  if special then (if s = [] then .error .emptyHost else (Host.ofSpecial s).map some)
  else if s = [] then .ok none
  else (Host.ofOther s).map some

/-- Host, port and the text behind them, where `tail` follows the authority. -/
def ofHostAndPort (special : Bool) (default? : Option Nat) (s tail : Text) :
    Except Url.ParseError (Authority × Text) := do
  let (name, rest) := hostAndRest false s
  let host ← host? special name
  match rest with
  | ':' :: digits =>
    if host.isNone then throw .emptyHost
    let (port, behind) ← port? default? (digits ++ tail)
    return (⟨host, port⟩, behind)
  | _ => return (⟨host, none⟩, rest ++ tail)

/-- The user information of an authority, if there is any, and the rest. -/
def userAndRest (s : Text) : Option Text × Text :=
  match Text.cutLast? '@' s with
  | some (user, rest) => (some user, rest)
  | none => (none, s)

/-- **Reads an authority** and gives the text behind it. User information that says something needs a host, and an `@`
that stands first needs a host if a path, a query or a fragment follows. -/
def ofText (special : Bool) (default? : Option Nat) (s : Text) : Except Url.ParseError (Authority × Text) := do
  let (user, place) := userAndRest (s.takeWhile (!isEnd special ·))
  let tail := s.dropWhile (!isEnd special ·)
  if user = some [] ∧ place = [] ∧ tail ≠ [] then throw .emptyHost
  let (authority, behind) ← ofHostAndPort special default? place tail
  if authority.host.isNone ∧ user.any (fun u => u ≠ [] ∧ u ≠ [':']) then throw .emptyHost
  return (authority, behind)

end Authority
end WebScope
