import WebScope.Text.Basic

/-!
# The segments of a match pattern

A match pattern reads `protocols://host/path`. `Segments.ofText?` cuts it into its three parts and checks each of them:

- the protocols are `http`, `https`, `file`, `ftp` or `*`, joined by `+`;
- the host is empty, `*`, `*.` before a name, or a name; a name holds neither `*` nor `/`;
- the path starts with `/` and holds no line feed.

Main statement: the segments make up the pattern again (`eq_of_ofText?`).
-/

namespace WebScope

/-- The protocols that patterns can name. -/
def allowedProtocols : List Text := ["http".toList, "https".toList, "file".toList, "ftp".toList]

/-- The token that stands for every protocol or every host. -/
def matchAll : Text := ['*']

/-- What joins the protocols of a pattern. -/
def protocolDelimiter : Char := '+'

/-- What stands between the protocol and the host. -/
def hostMark : Text := "://".toList

/-- **The three parts of a match pattern**, as written. -/
structure Segments where
  protocols : Text
  host : Text
  path : Text
  deriving DecidableEq, Repr

namespace Segments

/-- The alternatives of a protocol list. -/
def alternatives (protocols : Text) : List Text := Text.fields (· == protocolDelimiter) protocols

/-- Whether a text is a protocol list. -/
def isProtocolList (s : Text) : Bool :=
  (alternatives s).all fun p => p == matchAll || allowedProtocols.contains p

/-- Whether a text is a host name of a pattern, a port included. -/
def isName (s : Text) : Bool := s != [] && s.all fun c => c != '*' && c != '/'

/-- Whether a text is a host of a pattern. -/
def isHost (s : Text) : Bool :=
  s == [] || s == matchAll || isName s || (Text.after? "*.".toList s).any isName

/-- Whether a text is a path of a pattern. -/
def isPath (s : Text) : Bool := s.head? == some '/' && s.all (· != '\n')

/-- **Cuts a pattern into its segments.** The host ends where the path starts, at the first slash. -/
def ofText? (raw : Text) : Option Segments := do
  let (protocols, rest) ← Text.cutMark? hostMark raw
  let host := rest.takeWhile (· != '/')
  let path := rest.dropWhile (· != '/')
  if isProtocolList protocols && isHost host && isPath path then some ⟨protocols, host, path⟩ else none

/-- The pattern that segments make up. -/
def toText (s : Segments) : Text := s.protocols ++ hostMark ++ s.host ++ s.path

/-- The segments of a pattern make it up. -/
theorem eq_of_ofText? {raw : Text} {s : Segments} (h : ofText? raw = some s) : raw = s.toText := by
  simp only [ofText?, Option.bind_eq_bind, Option.bind_eq_some_iff, Prod.exists] at h
  obtain ⟨p, r, hr, h⟩ := h
  split at h
  · simp only [Option.some.injEq] at h
    subst h
    rw [Text.eq_of_cutMark? hr, toText]
    simp [List.append_assoc]
  · cases h

end Segments
end WebScope
