import WebScope.Text.Basic

/-!
# Properties

A property is a value with a raw form that is kept as it was written: it is edited by definitions, and it projects to
one. Patterns and headers are properties.
-/

namespace WebScope

/-- **A value that is edited by definitions** of type `δ`. -/
class Property (α : Type) (δ : outParam Type) where
  /-- The name under which values of this kind are listed. -/
  name : Text
  /-- The value after a definition was applied. -/
  update : α → δ → α
  /-- The definition that describes the value. -/
  definition : α → δ
  /-- Whether the value is switched off. -/
  isDisabled : α → Bool := fun _ => false

namespace Property

/-- The definitions of a list of values. -/
def definitions {α δ : Type} [Property α δ] (xs : List α) : List δ := xs.map definition

/-- The values that are switched on, in order. -/
def enabled {α δ : Type} [Property α δ] (xs : List α) : List α := xs.filter fun x => !isDisabled x

end Property
end WebScope
