import WebScope.Proofs.Json.ReadBack
import WebScope.Proofs.Pattern.History

/-!
# Patterns are read back from their JSON texts

A pattern is written as an object with one member, or plainly as its text in quotes. The reader of patterns takes any
value and never fails, so a form that it did not recognize would give the pattern that matches everything, and so would
the empty text. Neither happens to what was written: the text of a pattern is never empty, and both forms are read for
what they are.

- A pattern that has a history is the pattern of its own text (`ofText_raw`).
- **Both forms of a pattern are read back as the pattern**, with the record it has, and the object is read as its
  definition (`run_reader_toText`).
-/

namespace WebScope
namespace Pattern

theorem isWellFormed_toJson (p : Pattern) : p.toJson.IsWellFormed :=
  .object (List.forall_mem_cons.mpr ⟨.string p.raw, fun _ h => nomatch h⟩)

theorem isWellFormed_toPlainJson (p : Pattern) : p.toPlainJson.IsWellFormed := .string p.raw

/-- **Both forms of a pattern are read back as the pattern**, whatever its history and whatever characters are in its
text: the object with the text as its only member, and the text in quotes. The object is also read as the definition of
the pattern. -/
theorem run_reader_toText (h : History) :
    (h.pattern.toJson.toText = "\x7b\"pattern\":".toList ++ Json.quote h.pattern.raw ++ ['\x7d'] ∧
      reader.run h.pattern.toJson.toText = .ok h.pattern) ∧
    (h.pattern.toPlainJson.toText = Json.quote h.pattern.raw ∧
      reader.run h.pattern.toPlainJson.toText = .ok h.pattern) ∧
    Definition.reader.run h.pattern.toJson.toText = .ok h.pattern.definition := by
  have hself : ofText h.pattern.raw = h.pattern := (settled_pattern h).ofText_raw
  refine ⟨⟨rfl, ?_⟩, ⟨rfl, ?_⟩, ?_⟩
  · rw [Json.Reader.run_toText reader (isWellFormed_toJson _)]
    show Except.ok (ofText h.pattern.raw) = _
    rw [hself]
  · rw [Json.Reader.run_toText reader (isWellFormed_toPlainJson _)]
    show Except.ok (ofText h.pattern.raw) = _
    rw [hself]
  · rw [Json.Reader.run_toText Definition.reader (isWellFormed_toJson _)]
    rfl

end Pattern
end WebScope
