import WebScope.Json.Number

/-!
# JSON values

The values of JSON and their compact text. The members of an object are kept in the order in which they are written, and
a name can stand more than once. Strings escape the quote, the backslash and the controls below the space, and nothing
else.
-/

namespace WebScope

/-- **A value of JSON.** -/
inductive Json
  | null
  | bool (value : Bool)
  | number (value : Number)
  | string (value : Text)
  | array (items : List Json)
  | object (members : List (Text × Json))

namespace Json

/-! ## Writing -/

/-- A character as it is written in a string. -/
def escape (c : Char) : Text :=
  if c = '"' then ['\\', '"']
  else if c = '\\' then ['\\', '\\']
  else if c = '\x08' then ['\\', 'b']
  else if c = '\x0c' then ['\\', 'f']
  else if c = '\n' then ['\\', 'n']
  else if c = '\r' then ['\\', 'r']
  else if c = '\t' then ['\\', 't']
  else if c.toNat < 0x20 then
    ['\\', 'u', '0', '0', Text.hexDigit 'a' (c.toNat / 16), Text.hexDigit 'a' (c.toNat % 16)]
  else [c]

/-- **A text in quotes.** -/
def quote (s : Text) : Text := '"' :: s.flatMap escape ++ ['"']

mutual

/-- **The compact text of a value.** -/
def toText : Json → Text
  | .null => "null".toList
  | .bool true => "true".toList
  | .bool false => "false".toList
  | .number n => n.toText
  | .string s => quote s
  | .array items => '[' :: itemsText items
  | .object members => '{' :: membersText members

/-- The items of an array, with the closing bracket. -/
def itemsText : List Json → Text
  | [] => [']']
  | [v] => v.toText ++ [']']
  | v :: items => v.toText ++ ',' :: itemsText items

/-- The members of an object, with the closing bracket. -/
def membersText : List (Text × Json) → Text
  | [] => ['}']
  | [(name, v)] => quote name ++ ':' :: v.toText ++ ['}']
  | (name, v) :: members => quote name ++ ':' :: v.toText ++ ',' :: membersText members

end

/-! ## Looking inside -/

/-- The text of a string. -/
def text? : Json → Option Text
  | .string s => some s
  | _ => none

/-- The values of the members of a name, in order. -/
def valuesOf (name : Text) (members : List (Text × Json)) : List Json :=
  (members.filter (·.1 == name)).map (·.2)

/-- A value or `null`. -/
def ofOption {α : Type} (f : α → Json) : Option α → Json
  | some a => f a
  | none => .null

/-- The member of a value that is there. -/
def memberIfAny {α : Type} (name : String) (f : α → Json) : Option α → List (Text × Json)
  | some a => [(name.toList, f a)]
  | none => []

end Json
end WebScope
