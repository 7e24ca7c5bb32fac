import WebScope.Json.Reader
import WebScope.Pattern.Explanation

/-!
# Patterns in JSON

A pattern is written as its definition, an object with the member `pattern`, or plainly as its text. It is read from
either form, and leniently: a value that is neither is read as the definition that sets nothing. A definition read on
its own is refused if it is no record.
-/

namespace WebScope
namespace Pattern

/-- The name of the only member of a definition. -/
def memberName : Text := "pattern".toList

/-- The JSON form of a definition; a definition that sets nothing is the empty object. -/
def Definition.toJson (d : Definition) : Json := .object (Json.memberIfAny "pattern" .string d.pattern)

/-- **The JSON form of a pattern**: its definition. -/
def toJson (p : Pattern) : Json := p.definition.toJson

/-- The plain JSON form of a pattern: its text. -/
def toPlainJson (p : Pattern) : Json := .string p.raw

/-- **The definition that a JSON value is**: an object with at most one member `pattern`, or an array of at most one
item. Only strings set the text. -/
def Definition.ofJson? : Json → Option Definition
  | .object members =>
    match Json.valuesOf memberName members with
    | [] => some {}
    | [v] => some ⟨v.text?⟩
    | _ => none
  | .array [] => some {}
  | .array [v] => some ⟨v.text?⟩
  | _ => none

/-- **The pattern of a JSON value.** -/
def ofJson : Json → Pattern
  | .string s => ofText s
  | v => ofDefinition ((Definition.ofJson? v).getD {})

/-- Reads a pattern from any value. -/
def reader : Json.Reader Pattern := fun room t => (Json.Reader.value room t).map ofJson

/-- Reads a definition from a record. -/
def Definition.reader : Json.Reader Definition :=
  .record [⟨memberName, false, fun _ room t => (Json.Reader.value room t).map fun v => ⟨v.text?⟩⟩] {}

/-- The JSON form of the parts of a URL. -/
def partsJson (p : Parts) : Json :=
  .object [("protocol".toList, .string p.protocol), ("remote".toList, .string p.remote), ("path".toList, .string p.path)]

/-- **The JSON form of an explanation.** What was not reached is `null`. -/
def explanationJson (e : Explanation) : Json :=
  .object [("pattern".toList, .string e.pattern), ("match_all".toList, .bool e.matchAll),
    ("compiled".toList, .bool e.compiled), ("url".toList, .ofOption partsJson e.url),
    ("url_error".toList, .ofOption (fun r => .string r.message) e.urlError),
    ("protocol".toList, .ofOption .bool e.protocol), ("host".toList, .ofOption .bool e.host),
    ("path".toList, .ofOption .bool e.path), ("matched".toList, .bool e.matched)]

end Pattern
end WebScope
