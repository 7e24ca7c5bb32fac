import WebScope.Url.Authority
import WebScope.Url.Path

/-!
# URLs

Reading of absolute URLs as browsers do: what is lenient in spelling (letter case, slashes, tabs and line breaks inside,
blanks around) is brought to one form, what has no meaning is an error.

`Url.parse` first cuts the scheme off (`Url.scheme?`), whose kind says how the rest is read: `file` URLs have a host
without a port, the other schemes of the web always have an authority, all others have one only behind `//`.
Main statement: characters up to the space around a text do not matter (`parse_trim`).
-/

namespace WebScope

/-- **A URL** in its normal form; user information, query and fragment are not kept. -/
structure Url where
  scheme : Text
  host : Option Host
  port : Option Nat
  path : Text
  deriving DecidableEq, Repr

namespace Url

/-- How the URLs of a scheme are read. -/
inductive SchemeKind
  /-- Files: the host has no port, and the path can start with a drive letter. -/
  | file
  /-- An authority always follows, and the scheme has a default port. -/
  | web (defaultPort : Nat)
  /-- Every other scheme. -/
  | other
  deriving DecidableEq, Repr

/-- The schemes with rules of their own. -/
def schemeKinds : List (Text × SchemeKind) :=
  [("http".toList, .web 80), ("https".toList, .web 443), ("ws".toList, .web 80), ("wss".toList, .web 443),
    ("ftp".toList, .web 21), ("file".toList, .file)]

/-- The kind of a scheme. -/
def schemeKind (scheme : Text) : SchemeKind := (schemeKinds.lookup scheme).getD .other

/-- Whether a character can follow the first letter of a scheme. -/
def isSchemeChar (c : Char) : Bool := c.isAlphanum || c == '+' || c == '-' || c == '.'

/-- The scheme, in small letters, and the text behind its colon. -/
def scheme? (s : Text) : Option (Text × Text) :=
  match s.takeWhile isSchemeChar, s.dropWhile isSchemeChar with
  | c :: scheme, ':' :: rest => if c.isAlpha then some (Text.lower (c :: scheme), rest) else none
  | _, _ => none

/-- Whether a character is dropped at both ends of a text. -/
def isMargin (c : Char) : Bool := c ≤ ' '

/-- Whether a character is dropped wherever it stands. -/
def isDropped (c : Char) : Bool := c == '\t' || c == '\n' || c == '\r'

/-- A `file` URL behind its two slashes. A drive letter in place of the host starts the path; a drive letter that starts
the path drops the host, and so does the name of the machine itself. -/
def ofFileHost (scheme s : Text) : Except ParseError Url :=
  let name := s.takeWhile (!Authority.isEnd true ·)
  let tail := s.dropWhile (!Authority.isEnd true ·)
  if Path.isDrive name then .ok ⟨scheme, none, none, Path.ofFile s⟩
  else if name = [] then .ok ⟨scheme, none, none, Path.ofFile tail⟩
  else
    (Host.ofSpecial name).map fun host =>
      let local? := host = .domain "localhost".toList ∨ Path.hasDrive tail
      ⟨scheme, if local? then none else some host, none, Path.ofFile tail⟩

/-- A `file` URL behind its colon. -/
def ofFile (scheme : Text) : Text → Except ParseError Url
  | c :: d :: s =>
    if Path.isSeparator true c && Path.isSeparator true d then ofFileHost scheme s
    else .ok ⟨scheme, none, none, Path.ofFile (c :: d :: s)⟩
  | s => .ok ⟨scheme, none, none, Path.ofFile s⟩

/-- A URL behind the slashes of its authority. -/
def ofAuthority (scheme : Text) (special : Bool) (default? : Option Nat) (s : Text) : Except ParseError Url :=
  (Authority.ofText special default? s).map fun (authority, behind) =>
    ⟨scheme, authority.host, authority.port, Path.behindAuthority special behind⟩

/-- A URL of a scheme without rules of its own, behind its colon. -/
def ofOther (scheme : Text) : Text → Except ParseError Url
  | '/' :: '/' :: s => ofAuthority scheme false none s
  | '/' :: s => .ok ⟨scheme, none, none, Path.resolve false false s⟩
  | s => .ok ⟨scheme, none, none, Path.plain s⟩

/-- A URL behind its colon. The schemes of the web take any number of slashes and backslashes before the authority. -/
def ofScheme (scheme s : Text) : Except ParseError Url :=
  match schemeKind scheme with
  | .file => ofFile scheme s
  | .web port => ofAuthority scheme true (some port) (s.dropWhile (Path.isSeparator true))
  | .other => ofOther scheme s

/-- The text that is read: without the margins, tabs and line breaks. -/
def significant (input : Text) : Text := (Text.trim isMargin input).filter (!isDropped ·)

/-- **Reads an absolute URL.** -/
def parse (input : Text) : Except ParseError Url :=
  match scheme? (significant input) with
  | none => .error .relativeWithoutBase
  | some (scheme, rest) => ofScheme scheme rest

/-- Margins do not matter. -/
theorem parse_trim (input : Text) : parse (Text.trim isMargin input) = parse input := by
  simp only [parse, significant, Text.trim_trim]

end Url
end WebScope
