import WebScope.Pattern.Record
import WebScope.Property

/-!
# Match patterns

A pattern such as `https+http://*.example.com/api/*` says which URLs are meant. It keeps its text as it was written,
valid or not, beside the record it compiles to. A pattern that does not compile matches nothing; `<all_urls>` needs no
record and matches everything.

Main statement: whatever a pattern was updated with, its record is the one of its text (`compiled_update`).
-/

namespace WebScope

/-- The text of the pattern that matches every URL, and every text that is no URL. -/
def matchAllUrls : Text := "<all_urls>".toList

/-- The record of a text, if it needs one and compiles. -/
def compiledForm (raw : Text) : Option Record :=
  if raw = matchAllUrls then none else (Record.compile raw).toOption

/-- **A match pattern.** -/
structure Pattern where
  /-- The text as it was written. -/
  raw : Text := matchAllUrls
  /-- What the text compiles to. -/
  compiled : Option Record := none
  deriving Repr

namespace Pattern

/-- What a pattern is set to; nothing leaves it as it is. -/
structure Definition where
  pattern : Option Text := none
  deriving DecidableEq, Repr

/-- Patterns are equal if their texts are. -/
instance : BEq Pattern where beq p q := p.raw == q.raw

/-- The pattern after a definition was applied: a missing or empty text keeps the text there is. The record is compiled
anew either way. -/
def update (p : Pattern) (d : Definition) : Pattern :=
  let raw := (d.pattern.filter (· ≠ [])).getD p.raw
  ⟨raw, compiledForm raw⟩

/-- The definition that describes a pattern: its text. -/
def definition (p : Pattern) : Definition := ⟨some p.raw⟩

instance : Property Pattern Definition where
  name := "UrlMatchPattern".toList
  update := update
  definition := definition

/-- The pattern that a definition describes. -/
def ofDefinition (d : Definition) : Pattern := update {} d

/-- **The pattern of a text.** The empty text is the pattern that matches everything. -/
def ofText (raw : Text) : Pattern := ofDefinition ⟨some raw⟩

/-- Whether a pattern matches everything. -/
def isMatchAll (p : Pattern) : Bool := p.raw == matchAllUrls

/-- Whether a pattern is meant to match anything at all: it matches everything, or it compiles. -/
def isValid (p : Pattern) : Bool := p.isMatchAll || p.compiled.isSome

/-- The protocols that a pattern lists, each once; none if it does not compile. -/
def protocols (p : Pattern) : List Text := (p.compiled.map Record.protocols).getD []

/-- **The record of an updated pattern is the one of its text.** -/
theorem compiled_update (p : Pattern) (d : Definition) : (p.update d).compiled = compiledForm (p.update d).raw := rfl

/-- The record of the pattern of a text is the one of the text it has. -/
theorem compiled_ofText (raw : Text) : (ofText raw).compiled = compiledForm (ofText raw).raw := rfl

/-- A text that is not empty becomes the text of the pattern. -/
theorem raw_ofText {raw : Text} (h : raw ≠ []) : (ofText raw).raw = raw := by
  simp [ofText, ofDefinition, update, Option.filter, h]

/-- The empty text is read as the pattern that matches everything. -/
theorem raw_ofText_nil : (ofText []).raw = matchAllUrls := rfl

end Pattern
end WebScope
