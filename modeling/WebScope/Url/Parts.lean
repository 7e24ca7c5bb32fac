import WebScope.Url.Basic

/-!
# The parts of a URL

Patterns look at three parts of a URL: protocol, remote (the host with its port) and path. `Parts.ofText` lets
`Url.parse` decide whether a text is a URL, and then cuts the parts out of the text as it is written, without folding
case, dropping default ports or encoding. Only a text without `://` has its parts taken from the URL that was read.
Main statement: written parts and the text around them make up the URL (`eq_of_written?`).
-/

namespace WebScope

/-- **The parts of a URL that patterns look at.** -/
structure Parts where
  protocol : Text
  remote : Text
  path : Text
  deriving DecidableEq, Repr

namespace Parts

/-- What stands between the protocol and the authority. -/
def mark : Text := "://".toList

/-- The remote of an authority: what follows the user information. -/
def remoteOf (authority : Text) : Text := (Authority.userAndRest authority).2

/-- Whether a character starts the query or the fragment. -/
def startsQuery (c : Char) : Bool := c == '?' || c == '#'

/-- A path as written; an empty one is the root. -/
def pathOf (s : Text) : Text := if s = [] then ['/'] else s

/-- The parts as they are written, for a text with a mark; the first mark counts. -/
def written? (s : Text) : Option Parts :=
  (Text.cutMark? mark s).map fun (protocol, rest) =>
    let authority := rest.takeWhile (!Authority.isEnd false ·)
    let tail := rest.dropWhile (!Authority.isEnd false ·)
    ⟨protocol, remoteOf authority, pathOf (tail.takeWhile (!startsQuery ·))⟩

/-- The parts of a URL that was read and whose text has no mark. -/
def ofUrl (url : Url) : Parts := ⟨url.scheme, [], url.path⟩

/-- **The parts of a text that is a URL.** -/
def ofText (input : Text) : Except Url.ParseError Parts :=
  (Url.parse input).map fun url => (written? (Text.trim Url.isMargin input)).getD (ofUrl url)

/-- **Written parts and what stands around them make up the text.** -/
theorem eq_of_written? {s : Text} {p : Parts} (h : written? s = some p) :
    ∃ authority path query, s = p.protocol ++ mark ++ authority ++ path ++ query ∧ p.remote = remoteOf authority ∧
      p.path = pathOf path := by
  simp only [written?, Option.map_eq_some_iff, Prod.exists] at h
  obtain ⟨protocol, rest, hc, rfl⟩ := h
  refine ⟨_, _, (rest.dropWhile (!Authority.isEnd false ·)).dropWhile (!startsQuery ·), ?_, rfl, rfl⟩
  rw [Text.eq_of_cutMark? hc]
  simp only [List.append_assoc, List.takeWhile_append_dropWhile]

/-- Margins do not matter. -/
theorem ofText_trim (input : Text) : ofText (Text.trim Url.isMargin input) = ofText input := by
  simp only [ofText, Url.parse_trim, Text.trim_trim]

end Parts
end WebScope
