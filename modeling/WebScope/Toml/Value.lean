import WebScope.Json.Basic

/-!
# TOML values

The values of TOML. Tables and arrays remember how they came to be, because that decides what later lines of a document
may add to them. Numbers and dates are kept as they are written.
-/

namespace WebScope
namespace Toml

/-- How a table came to be. -/
inductive Origin
  /-- By a header of its own, or as the document itself. -/
  | header
  /-- By the header of a table inside it. -/
  | implied
  /-- By a dotted key. -/
  | dotted
  /-- In braces; nothing can be added. -/
  | braces
  deriving DecidableEq, Repr

/-- **A value of TOML.** -/
inductive Value
  | string (text : Text)
  | integer (value : Int)
  | float (lexeme : Text)
  | boolean (value : Bool)
  | datetime (lexeme : Text)
  /-- An array; to one that headers made, headers can add tables. -/
  | array (fromHeaders : Bool) (items : List Value)
  /-- A table, with its entries in the order in which they were added. -/
  | table (origin : Origin) (entries : List (Text × Value))

/-- The entries of a table. -/
abbrev Entries := List (Text × Value)

mutual

/-- **The outline of a value**: arrays, tables and texts as they are, and `null` for all other scalars. -/
def Value.outline : Value → Json
  | .string s => .string s
  | .array _ items => .array (itemOutlines items)
  | .table _ entries => .object (entryOutlines entries)
  | _ => .null

/-- The outlines of items. -/
def itemOutlines : List Value → List Json
  | [] => []
  | v :: vs => v.outline :: itemOutlines vs

/-- The outlines of entries. -/
def entryOutlines : List (Text × Value) → List (Text × Json)
  | [] => []
  | (key, v) :: es => (key, v.outline) :: entryOutlines es

end

end Toml
end WebScope
