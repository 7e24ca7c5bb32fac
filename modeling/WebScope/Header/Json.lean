import WebScope.Header.List
import WebScope.Json.Reader

/-!
# Headers in JSON

A header is written as an object with key, value and the flags that are set; a definition writes key and value always,
`null` if they are missing. A header is read from a record that has key and value, a definition from any record; `null`
flags are not set.
-/

namespace WebScope
namespace Header

/-- The flags that are set. -/
def flagMembers (system disabled : Option Bool) : List (Text × Json) :=
  Json.memberIfAny "system" .bool system ++ Json.memberIfAny "disabled" .bool disabled

/-- **The JSON form of a header.** -/
def toJson (h : Header) : Json :=
  .object ([("key".toList, .string h.key), ("value".toList, .string h.value)] ++ flagMembers h.system h.disabled)

/-- **The JSON form of a definition.** -/
def Definition.toJson (d : Definition) : Json :=
  .object ([("key".toList, .ofOption .string d.key), ("value".toList, .ofOption .string d.value)] ++
    flagMembers d.system d.disabled)

namespace Definition

/-- The fields that both forms have. -/
def flagFields : List (Json.Reader.Field Definition) :=
  [⟨"system".toList, false, fun d room t => (Json.Reader.optional .flag room t).map fun b => { d with system := b }⟩,
    ⟨"disabled".toList, false, fun d room t =>
      (Json.Reader.optional .flag room t).map fun b => { d with disabled := b }⟩]

/-- The fields of a definition. -/
def fields : List (Json.Reader.Field Definition) :=
  [⟨"key".toList, false, fun d room t => (Json.Reader.optional .string room t).map fun s => { d with key := s }⟩,
    ⟨"value".toList, false, fun d room t =>
      (Json.Reader.optional .string room t).map fun s => { d with value := s }⟩] ++ flagFields

/-- The fields of a header, of which key and value must be there. -/
def headerFields : List (Json.Reader.Field Definition) :=
  [⟨"key".toList, true, fun d room t => (Json.Reader.string room t).map fun s => { d with key := some s }⟩,
    ⟨"value".toList, true, fun d room t => (Json.Reader.string room t).map fun s => { d with value := some s }⟩] ++
    flagFields

/-- **Reads a definition.** -/
def reader : Json.Reader Definition := .record fields {}

end Definition

/-- **Reads a header.** -/
def reader : Json.Reader Header := fun room t => (Json.Reader.record Definition.headerFields {} room t).map ofDefinition

end Header

namespace HeaderList

/-- **The JSON form of a list.** -/
def toJson (l : HeaderList) : Json := .array (l.headers.map Header.toJson)

/-- The JSON form of the definitions of a list. -/
def definitionsJson (l : HeaderList) : Json := .array (l.definitions.map Header.Definition.toJson)

/-- **Reads a list of headers.** -/
def reader : Json.Reader HeaderList := fun room t => (Json.Reader.list Header.reader room t).map HeaderList.mk

end HeaderList
end WebScope
