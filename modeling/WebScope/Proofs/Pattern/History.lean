import WebScope.Pattern.Json

/-!
# The history of a pattern

A pattern starts as the one that matches everything, from a text, from a definition or from a JSON value, and is updated
any number of times (`Pattern.History`). Its record is kept beside its text and compared by nobody: patterns are equal
if their texts are. So a record that was not compiled anew on some way would make equal patterns answer differently.

- `Pattern.Settled` is what an update keeps (`settled_update`): the text is the last one that was supplied and is not
  empty, and the record is the one of the text. Every start has it (`settled_start`), so every history has
  (`settled_pattern`).
- Patterns that are settled and equal are the same pattern (`eq_of_settled`), and thus **equal patterns give the same
  answers, whatever their histories** (`history_determines_answers`).
-/

namespace WebScope
namespace Pattern

/-! ## Histories -/

/-- The text that a JSON value supplies: itself, its only member `pattern`, or its only item, if that is a string. -/
def suppliedByJson? : Json → Option Text
  | .string s => some s
  | .object members =>
    match Json.valuesOf memberName members with
    | [v] => v.text?
    | _ => none
  | .array [v] => v.text?
  | _ => none

/-- **How a pattern comes to be.** -/
inductive Start
  /-- As the pattern that matches everything. -/
  | matchAll
  | text (raw : Text)
  | definition (d : Definition)
  /-- From a value of JSON, or from the outline of a value of TOML. -/
  | json (v : Json)

/-- The pattern at a start. -/
def Start.pattern : Start → Pattern
  | .matchAll => {}
  | .text raw => ofText raw
  | .definition d => ofDefinition d
  | .json v => ofJson v

/-- The text that a start supplies. -/
def Start.supplied? : Start → Option Text
  | .matchAll => none
  | .text raw => some raw
  | .definition d => d.pattern
  | .json v => suppliedByJson? v

/-- **The history of a pattern**: its start and its updates, from the first to the last. -/
structure History where
  start : Start
  updates : List Definition := []

namespace History

/-- The pattern behind all updates. -/
def pattern (h : History) : Pattern := h.updates.foldl update h.start.pattern

/-- The texts that were supplied, in order. -/
def supplied (h : History) : List Text := h.start.supplied?.toList ++ h.updates.filterMap Definition.pattern

end History

/-- The last text that is not empty; without one it is the text of the pattern that matches everything. -/
def lastSupplied (texts : List Text) : Text := (texts.filter (· ≠ [])).getLast?.getD matchAllUrls

/-! ## What an update keeps -/

/-- **The pattern is the one of the texts that were supplied**: the last one that is not empty is its text, and its
record is the one of its text. -/
structure Settled (texts : List Text) (p : Pattern) : Prop where
  raw_ne_nil : p.raw ≠ []
  raw : p.raw = lastSupplied texts
  compiled : p.compiled = compiledForm p.raw

theorem lastSupplied_append (ts us : List Text) :
    lastSupplied (ts ++ us) = (us.filter (· ≠ [])).getLast?.getD (lastSupplied ts) := by
  rw [lastSupplied, lastSupplied, List.filter_append, List.getLast?_append]
  cases (us.filter (· ≠ [])).getLast? <;> rfl

theorem raw_update (p : Pattern) (d : Definition) :
    (p.update d).raw = (d.pattern.toList.filter (· ≠ [])).getLast?.getD p.raw := by
  have hraw : (p.update d).raw = (d.pattern.filter (· ≠ [])).getD p.raw := rfl
  rw [hraw]
  cases d.pattern with
  | none => rfl
  | some s =>
    by_cases hs : s = []
    · simp [hs, Option.filter]
    · simp [hs, Option.filter]

theorem raw_update_ne_nil {p : Pattern} (h : p.raw ≠ []) (d : Definition) : (p.update d).raw ≠ [] := by
  rw [raw_update]
  cases hl : (d.pattern.toList.filter (· ≠ [])).getLast? with
  | none => exact h
  | some s =>
    have hs := List.mem_filter.mp (List.mem_of_getLast? hl)
    simpa using hs.2

/-- **An update keeps the pattern settled**, whether it supplies a text or not. -/
theorem settled_update {texts : List Text} {p : Pattern} (h : Settled texts p) (d : Definition) :
    Settled (texts ++ d.pattern.toList) (p.update d) where
  raw_ne_nil := raw_update_ne_nil h.raw_ne_nil d
  raw := by rw [raw_update, lastSupplied_append, h.raw]
  compiled := compiled_update p d

theorem settled_matchAll : Settled [] {} where
  raw_ne_nil := by decide
  raw := rfl
  compiled := rfl

/-- A JSON value is read as the definition of the text that it supplies. -/
theorem ofJson_eq_ofDefinition (v : Json) : ofJson v = ofDefinition ⟨suppliedByJson? v⟩ := by
  cases v with
  | object members =>
    have hread : ofJson (.object members) = ofDefinition ((Definition.ofJson? (.object members)).getD {}) := rfl
    rw [hread, Definition.ofJson?, suppliedByJson?]
    cases Json.valuesOf memberName members with
    | nil => rfl
    | cons v vs => cases vs <;> rfl
  | array items =>
    match items with
    | [] => rfl
    | [_] => rfl
    | _ :: _ :: _ => rfl
  | _ => rfl

/-- **Every start is settled.** -/
theorem settled_start (s : Start) : Settled s.supplied?.toList s.pattern := by
  cases s with
  | matchAll => exact settled_matchAll
  | text raw => exact settled_update settled_matchAll ⟨some raw⟩
  | definition d => exact settled_update settled_matchAll d
  | json v =>
    rw [Start.pattern, ofJson_eq_ofDefinition]
    exact settled_update settled_matchAll ⟨suppliedByJson? v⟩

theorem settled_foldl_update : ∀ {ds : List Definition} {texts : List Text} {p : Pattern}, Settled texts p →
    Settled (texts ++ ds.filterMap Definition.pattern) (ds.foldl update p)
  | [], texts, p, h => by simpa using h
  | d :: ds, texts, p, h => by
    have hd : Settled (texts ++ d.pattern.toList ++ ds.filterMap Definition.pattern) (ds.foldl update (p.update d)) :=
      settled_foldl_update (settled_update h d)
    rw [List.append_assoc] at hd
    have hsupplied : d.pattern.toList ++ ds.filterMap Definition.pattern =
        (d :: ds).filterMap Definition.pattern := by
      rw [List.filterMap_cons]
      cases d.pattern <;> rfl
    rwa [hsupplied] at hd

/-- **Every history leaves its pattern settled.** -/
theorem settled_pattern (h : History) : Settled h.supplied h.pattern := settled_foldl_update (settled_start h.start)

/-! ## What the text decides -/

/-- A text has no record if it is the one that matches everything, or does not compile. -/
theorem compiledForm_eq_none_iff {raw : Text} :
    compiledForm raw = none ↔ raw = matchAllUrls ∨ ∃ e, Record.compile raw = .error e := by
  unfold compiledForm
  split
  · rename_i hall; simp [hall]
  · rename_i hall
    cases Record.compile raw <;> simp [Except.toOption, hall]

/-- Any other text has the record that it compiles to. -/
theorem compiledForm_eq_some_iff {raw : Text} {r : Record} :
    compiledForm raw = some r ↔ raw ≠ matchAllUrls ∧ Record.compile raw = .ok r := by
  unfold compiledForm
  split
  · rename_i hall; simp [hall]
  · rename_i hall
    cases Record.compile raw <;> simp [Except.toOption, hall]

theorem eq_of_settled {ts us : List Text} {p q : Pattern} (hp : Settled ts p) (hq : Settled us q)
    (h : (p == q) = true) : p = q := by
  have hraw : p.raw = q.raw := beq_iff_eq.mp (show (p.raw == q.raw) = true from h)
  have hcompiled : p.compiled = q.compiled := by rw [hp.compiled, hq.compiled, hraw]
  cases p with
  | mk raw compiled =>
    cases hraw
    cases hcompiled
    rfl

/-- **A settled pattern is the pattern of its own text.** -/
theorem Settled.ofText_raw {ts : List Text} {p : Pattern} (h : Settled ts p) : ofText p.raw = p := by
  have hraw : ((ofText p.raw).raw == p.raw) = true := beq_iff_eq.mpr (raw_ofText h.raw_ne_nil)
  exact eq_of_settled (settled_update settled_matchAll ⟨some p.raw⟩) h hraw

/-- **Two patterns give the same answers**, to every question that a pattern can be asked. -/
structure SameAnswers (p q : Pattern) : Prop where
  test : ∀ url, p.test url = q.test url
  admits : ∀ parts, p.admits parts = q.admits parts
  admitsProtocol : ∀ s, p.admitsProtocol s = q.admitsProtocol s
  admitsRemote : ∀ s, p.admitsRemote s = q.admitsRemote s
  admitsPath : ∀ s, p.admitsPath s = q.admitsPath s
  explain : ∀ url, p.explain url = q.explain url
  protocols : p.protocols = q.protocols
  isValid : p.isValid = q.isValid
  toJson : p.toJson = q.toJson
  toPlainJson : p.toPlainJson = q.toPlainJson

theorem SameAnswers.refl (p : Pattern) : SameAnswers p p :=
  ⟨fun _ => rfl, fun _ => rfl, fun _ => rfl, fun _ => rfl, fun _ => rfl, fun _ => rfl, rfl, rfl, rfl, rfl⟩

/-- **The history of a pattern decides its answers, through its text alone.** The text is the last one that was supplied
and is not empty, or `<all_urls>`; there is a record exactly if the text is another one and compiles, and then it is
what the text compiles to. So any other pattern that is equal to it gives the same answers, whatever its history. -/
theorem history_determines_answers (h : History) :
    h.pattern.raw ≠ [] ∧ h.pattern.raw = lastSupplied h.supplied ∧
      (h.pattern.compiled = none ↔
        h.pattern.raw = matchAllUrls ∨ ∃ e, Record.compile h.pattern.raw = .error e) ∧
      (∀ r, h.pattern.compiled = some r ↔ h.pattern.raw ≠ matchAllUrls ∧ Record.compile h.pattern.raw = .ok r) ∧
      ∀ h' : History, (h.pattern == h'.pattern) = true → SameAnswers h.pattern h'.pattern := by
  have hs := settled_pattern h
  refine ⟨hs.raw_ne_nil, hs.raw, ?_, ?_, ?_⟩
  · rw [hs.compiled, compiledForm_eq_none_iff]
  · intro r
    rw [hs.compiled, compiledForm_eq_some_iff]
  · intro h' heq
    rw [← eq_of_settled hs (settled_pattern h') heq]
    exact SameAnswers.refl _

/-- A pattern that is invalid on its way, and is updated with nothing and with the empty text. -/
def History.detour : History :=
  ⟨.text "http://a.com/*".toList, [⟨some "bogus".toList⟩, {}, ⟨some "ftp+file://*/*".toList⟩, ⟨some []⟩]⟩

/-- A pattern that is read from JSON and not updated. -/
def History.direct : History := ⟨.json (.object [(memberName, .string "ftp+file://*/*".toList)]), []⟩

/-- Both ways lead to a pattern with the same text, and so to the same answers. -/
theorem sameAnswers_of_detour :
    (History.detour.pattern == History.direct.pattern) = true ∧
      SameAnswers History.detour.pattern History.direct.pattern := by
  have heq : (History.detour.pattern == History.direct.pattern) = true := by decide +kernel
  exact ⟨heq, (history_determines_answers History.detour).2.2.2.2 History.direct heq⟩

end Pattern
end WebScope
