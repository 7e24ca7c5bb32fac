import WebScope.Header.Json
import WebScope.Proofs.Json.ReadBack
import WebScope.Proofs.Json.Stepping

/-!
# Headers are read back from their JSON texts

A header is written with its key, its value and the flags that are set; a definition writes `null` for a key or value
that it does not have. A header must be read with key and value, a definition may lack any of the fields. Both are
gathered field by field, so each member is one step.

- Behind key and value the flags are read, those that are set and no others (`fieldMembers_flagMembers`); so a
  definition is read back from its tree (`Definition.reader_ofJson`), and a header (`reader_ofJson`).
- **The forms of headers are faithful** (`json_forms_faithful`): headers, definitions and lists are read back from
  their texts, and definitions bring back the headers that they describe.
-/

namespace WebScope
namespace Header

open Json (Tree)
open Json.Reader (fieldMembers fieldMembers_of_find?)

namespace Definition

/-- The flags are read behind key and value, into a definition that has none. -/
theorem fieldMembers_flagMembers {fs : List (Json.Reader.Field Definition)} (hfs : fs = fields ∨ fs = headerFields)
    (room : Nat) (key value : Option Text) (system disabled : Option Bool) :
    fieldMembers fs room none (Tree.ofMembers (flagMembers system disabled)) ["value".toList, "key".toList]
      ⟨key, value, none, none⟩ = .ok ⟨key, value, system, disabled⟩ := by
  rcases hfs with rfl | rfl <;> cases system <;> cases disabled <;> rfl

/-- **A definition is read back from its tree.** -/
theorem reader_ofJson (room : Nat) (d : Definition) : reader (room + 1) (Tree.ofJson d.toJson) = .ok d := by
  obtain ⟨key, value, system, disabled⟩ := d
  show fieldMembers fields room none
    ((some "key".toList, Tree.ofJson (.ofOption .string key)) ::
      (some "value".toList, Tree.ofJson (.ofOption .string value)) ::
        Tree.ofMembers (flagMembers system disabled)) [] {} = _
  rw [fieldMembers_of_find? (b := ⟨key, none, none, none⟩) rfl (by decide) (by cases key <;> rfl),
    fieldMembers_of_find? (b := ⟨key, value, none, none⟩) rfl (by decide) (by cases value <;> rfl)]
  exact fieldMembers_flagMembers (Or.inl rfl) room key value system disabled

theorem isWellFormed_toJson (d : Definition) : d.toJson.IsWellFormed := by
  have hstring : ∀ s : Option Text, (Json.ofOption .string s).IsWellFormed := Json.isWellFormed_ofOption .string
  have hflag : ∀ (name : String) (b : Option Bool), ∀ m ∈ Json.memberIfAny name .bool b, m.2.IsWellFormed :=
    Json.isWellFormed_memberIfAny .bool
  refine .object (List.forall_mem_append.mpr ⟨?_, List.forall_mem_append.mpr ⟨hflag _ d.system, hflag _ d.disabled⟩⟩)
  exact List.forall_mem_cons.mpr ⟨hstring d.key, List.forall_mem_cons.mpr ⟨hstring d.value, fun _ h => nomatch h⟩⟩

end Definition

/-- **A header is read back from its tree.** -/
theorem reader_ofJson (room : Nat) (h : Header) : reader (room + 1) (Tree.ofJson h.toJson) = .ok h := by
  obtain ⟨key, value, system, disabled⟩ := h
  have hrecord : Json.Reader.record Definition.headerFields {} (room + 1)
      (Tree.ofJson (toJson ⟨key, value, system, disabled⟩)) = .ok ⟨some key, some value, system, disabled⟩ := by
    show fieldMembers Definition.headerFields room none
      ((some "key".toList, .string (some key)) :: (some "value".toList, .string (some value)) ::
        Tree.ofMembers (flagMembers system disabled)) [] {} = _
    rw [fieldMembers_of_find? (b := ⟨some key, none, none, none⟩) rfl (by decide) rfl,
      fieldMembers_of_find? (b := ⟨some key, some value, none, none⟩) rfl (by decide) rfl]
    exact Definition.fieldMembers_flagMembers (Or.inr rfl) room _ _ system disabled
  rw [reader, hrecord]
  exact congrArg Except.ok (ofDefinition_definition ⟨key, value, system, disabled⟩)

/-- A header is written as its definition is. -/
theorem toJson_definition (h : Header) : h.definition.toJson = h.toJson := rfl

theorem isWellFormed_toJson (h : Header) : h.toJson.IsWellFormed := h.definition.isWellFormed_toJson

end Header

namespace HeaderList

theorem isWellFormed_toJson (l : HeaderList) : l.toJson.IsWellFormed := by
  refine .array fun v hv => ?_
  obtain ⟨h, _, rfl⟩ := List.mem_map.mp hv
  exact h.isWellFormed_toJson

/-- **A list of headers is read back from its tree.** -/
theorem reader_ofJson (room : Nat) (l : HeaderList) : reader (room + 2) (Json.Tree.ofJson l.toJson) = .ok l := by
  have hlist : Json.Reader.list Header.reader (room + 2) (Json.Tree.ofJson l.toJson) = .ok l.headers :=
    Json.Reader.list_ofItems fun h _ => Header.reader_ofJson room h
  rw [reader, hlist]
  rfl

/-- The definitions of a list describe its headers. -/
theorem map_ofDefinition_definitions (l : HeaderList) : l.definitions.map Header.ofDefinition = l.headers := by
  rw [definitions, Property.definitions, List.map_map]
  exact List.map_id'' Header.ofDefinition_definition l.headers

end HeaderList

/-- **The JSON forms of headers are faithful.** A header is read back from its text, and so is the header that is
described by what its text, or the text of its definition, is read as; it is left alone by its own definition. A
definition is read back from its text, whatever it lacks. A list is read back from its text, and its definitions describe
its headers. -/
theorem Header.json_forms_faithful :
    (∀ h : Header,
      Header.reader.run h.toJson.toText = .ok h ∧
      (Definition.reader.run h.toJson.toText).map ofDefinition = .ok h ∧
      (Definition.reader.run h.definition.toJson.toText).map ofDefinition = .ok h ∧
      h.update h.definition = h) ∧
    (∀ d : Definition, Definition.reader.run d.toJson.toText = .ok d) ∧
    ∀ l : HeaderList,
      HeaderList.reader.run l.toJson.toText = .ok l ∧ l.definitions.map ofDefinition = l.headers := by
  have hdefinition : ∀ d : Definition, Definition.reader.run d.toJson.toText = .ok d := fun d => by
    rw [Json.Reader.run_toText Definition.reader d.isWellFormed_toJson]
    exact d.reader_ofJson _
  have hdescribed : ∀ h : Header, (Definition.reader.run h.definition.toJson.toText).map ofDefinition = .ok h :=
    fun h => by
      rw [hdefinition]
      exact congrArg Except.ok h.ofDefinition_definition
  refine ⟨fun h => ⟨?_, ?_, hdescribed h, h.update_definition⟩, hdefinition, fun l => ⟨?_, ?_⟩⟩
  · rw [Json.Reader.run_toText reader h.isWellFormed_toJson]
    exact h.reader_ofJson _
  · rw [← h.toJson_definition]
    exact hdescribed h
  · rw [Json.Reader.run_toText HeaderList.reader l.isWellFormed_toJson]
    exact l.reader_ofJson _
  · exact l.map_ofDefinition_definitions

end WebScope
