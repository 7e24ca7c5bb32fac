import WebScope.Property
import WebScope.Text.Blank

/-!
# Headers

A header has a key, a value and two flags that may be unset. It is edited by definitions, and written and read as one
line `key: value`.
Main statement: a header is unchanged by its own definition (`update_definition`).
-/

namespace WebScope

/-- **A header.** -/
structure Header where
  key : Text := []
  value : Text := []
  /-- Whether the header was added by a tool and not by hand. -/
  system : Option Bool := none
  disabled : Option Bool := none
  deriving DecidableEq, Repr

namespace Header

/-- What a header is set to. -/
structure Definition where
  key : Option Text := none
  value : Option Text := none
  system : Option Bool := none
  disabled : Option Bool := none
  deriving DecidableEq, Repr

/-- The header after a definition was applied. Key and value are replaced, by nothing if the definition has none; flags
stay if the definition does not set them. -/
def update (h : Header) (d : Definition) : Header :=
  ⟨d.key.getD [], d.value.getD [], d.system.or h.system, d.disabled.or h.disabled⟩

/-- The definition that describes a header. -/
def definition (h : Header) : Definition := ⟨some h.key, some h.value, h.system, h.disabled⟩

/-- Whether a header is switched off. -/
def isDisabled (h : Header) : Bool := h.disabled.getD false

instance : Property Header Definition where
  name := "Header".toList
  update := update
  definition := definition
  isDisabled := isDisabled

/-- The header that a definition describes. -/
def ofDefinition (d : Definition) : Header := update {} d

/-- What ends the key in a line. -/
def keyMark : Char := ':'

/-- **Reads a line**: the key ends at the first colon; without one the whole line is the key. -/
def ofLine (line : Text) : Header :=
  match Text.cut? keyMark line with
  | some (key, value) => { key := Text.trimBlanks key, value := Text.trimBlanks value }
  | none => { key := Text.trimBlanks line }

/-- **The line of a header.** -/
def toLine (h : Header) : Text := h.key ++ keyMark :: ' ' :: h.value

/-- **A header is unchanged by its own definition.** -/
theorem update_definition (h : Header) : h.update h.definition = h := by
  cases h with
  | mk key value system disabled => simp [update, definition]

/-- The definition of a header describes it. -/
theorem ofDefinition_definition (h : Header) : ofDefinition h.definition = h := by
  cases h with
  | mk key value system disabled => simp [ofDefinition, update, definition]

end Header
end WebScope
