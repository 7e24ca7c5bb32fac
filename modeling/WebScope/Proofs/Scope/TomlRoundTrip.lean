import WebScope.Proofs.Pattern.History
import WebScope.Proofs.Toml.Items
import WebScope.Scope.Evaluation
import WebScope.Scope.Toml

/-!
# Scopes are read back from their documents

A scope is written as a document and read again. Each rule is written as a table, with its pattern as a text in the
quotes that the text needs, and patterns are compiled anew when they are read.

- The document of a scope has the statements of its rules (`reads_toToml`), and the table of a rule is read as the rule
  (`ofValue?_entries`), if the pattern came to be in any of the ways in which patterns do.
- So **a scope is read back from its document** (`ofToml?_toToml`), and every text fares in it as before
  (`ofToml?_toToml_evaluate`).
-/

namespace WebScope

open Toml (Value Entries DistinctKeys)
open Toml.Document (Reads IsPlainKey IsValueText itemStatements)

/-! ## One rule -/

namespace Rule

/-- **A rule that can be had**: its pattern has some history. Kind and switch can be any. -/
def IsBuilt (r : Rule) : Prop := ∃ h : Pattern.History, r.pattern = h.pattern

/-- A pattern that has a history is the pattern of its own text. -/
theorem ofText_raw_pattern {r : Rule} (h : r.IsBuilt) : Pattern.ofText r.pattern.raw = r.pattern := by
  obtain ⟨h, hpattern⟩ := h
  have hs := Pattern.settled_pattern h
  rw [← hpattern] at hs
  exact hs.ofText_raw

/-- The entries of the table of a rule. -/
def entries (r : Rule) : Entries :=
  [(kindKey, .string r.kind.name), (patternKey, .string r.pattern.raw), (enabledKey, .boolean r.enabled)]

theorem distinctKeys_entries (r : Rule) : DistinctKeys r.entries := by
  show [kindKey, patternKey, enabledKey].Nodup
  decide +kernel

theorem quoted_name (k : RuleKind) : '"' :: k.name ++ ['"'] = Toml.Quoted.write k.name := by
  cases k <;> decide

/-- None of the keys needs quotes. -/
theorem isPlainKey_of_mem : ∀ key ∈ [rulesKey, kindKey, patternKey, enabledKey], IsPlainKey key := by decide +kernel

/-- **The lines of a rule are a header and its entries.** -/
theorem reads_toToml (r : Rule) : Reads r.toToml (itemStatements rulesKey r.entries) := by
  have hheader : Reads ("[[".toList ++ rulesKey ++ "]]".toList ++ ['\n']) [.header true ([], rulesKey)] :=
    Toml.Document.reads_itemHeader (isPlainKey_of_mem _ (by simp))
  have hline : ∀ key ∈ [rulesKey, kindKey, patternKey, enabledKey], ∀ {w v}, IsValueText w v →
      Reads (tomlLine key w) [.assignment ([], key) v] :=
    fun key hkey _ _ hw => Toml.Document.reads_assignment (isPlainKey_of_mem key hkey) hw
  have hkind := hline kindKey (by simp) (Toml.Document.isValueText_write r.kind.name)
  have hpattern := hline patternKey (by simp) (Toml.Document.isValueText_write r.pattern.raw)
  have henabled := hline enabledKey (by simp) (Toml.Document.isValueText_boolean r.enabled)
  have hall := ((hheader.append hkind).append hpattern).append henabled
  -- The quotes around a kind are always the same ones; for the names of kinds they are the ones that are needed.
  rw [← quoted_name, List.append_assoc _ "]]".toList] at hall
  exact hall

/-- **The table of a rule is read as the rule.** -/
theorem ofValue?_entries {r : Rule} (h : r.IsBuilt) : ofValue? (.table .header r.entries) = some r := by
  have hkind : r.entries.lookup kindKey = some (.string r.kind.name) := rfl
  have hpattern : r.entries.lookup patternKey = some (.string r.pattern.raw) := rfl
  have henabled : r.entries.lookup enabledKey = some (.boolean r.enabled) := rfl
  have hread : Pattern.ofJson (Value.string r.pattern.raw).outline = r.pattern := ofText_raw_pattern h
  rw [ofValue?, hkind, hpattern, henabled]
  simp only [Option.bind_eq_bind, Option.bind_some, ofFields?, RuleKind.ofValue?, RuleKind.ofName?_name, hread,
    switchOf?]
  rfl

end Rule

/-! ## All rules -/

namespace Scope

/-- No document starts with a mark of byte order, which would be dropped. -/
theorem head?_toToml (s : Scope) : s.toToml.head? ≠ some '\ufeff' := by
  rw [toToml]
  split
  · decide
  · rename_i hne
    obtain ⟨r, rules, hrules⟩ := List.exists_cons_of_ne_nil hne
    have hbracket : (['\n'].intercalate ((r :: rules).map Rule.toToml)).head? = some '[' := by cases rules <;> rfl
    rw [hrules, hbracket]
    decide

/-- **The document of rules has their statements**, one rule after the other. -/
theorem statements?_toToml {s : Scope} (hne : s.rules ≠ []) :
    Toml.Document.statements? s.toToml = some ((s.rules.map Rule.entries).flatMap (itemStatements rulesKey)) := by
  have hread := Toml.Document.reads_intercalate Toml.Document.reads_blank Rule.reads_toToml s.rules
  have htext : s.toToml = ['\n'].intercalate (s.rules.map Rule.toToml) := if_neg hne
  rw [← htext] at hread
  rw [hread.statements?_eq (head?_toToml s), List.flatMap_map]

/-- The table of the document has an array with the tables of the rules. -/
theorem ofText?_toToml {s : Scope} (hne : s.rules ≠ []) :
    Toml.Document.ofText? s.toToml =
      some [(rulesKey, .array true ((s.rules.map Rule.entries).map (Value.table .header)))] := by
  have hdistinct : ∀ es ∈ s.rules.map Rule.entries, DistinctKeys es := by
    intro es hes
    obtain ⟨r, _, rfl⟩ := List.mem_map.mp hes
    exact r.distinctKeys_entries
  have hne' : s.rules.map Rule.entries ≠ [] := by simpa using hne
  rw [Toml.Document.ofText?, statements?_toToml hne, Option.bind_some]
  exact Toml.Document.ofStatements?_items rulesKey hne' hdistinct

theorem mapM_ofValue? : ∀ {rules : List Rule}, (∀ r ∈ rules, r.IsBuilt) →
    ((rules.map Rule.entries).map (Value.table .header)).mapM Rule.ofValue? = some rules
  | [], _ => rfl
  | r :: rules, h => by
    obtain ⟨hr, hrules⟩ := List.forall_mem_cons.mp h
    rw [List.map_cons, List.map_cons, List.mapM_cons, Rule.ofValue?_entries hr, mapM_ofValue? hrules]
    rfl

/-- A scope without rules is written as an empty array, and read back. -/
theorem ofToml?_noRules : ofToml? (toToml {}) = some {} := by
  have hread : Reads (toToml {}) [.assignment ([], rulesKey) (.array false [])] :=
    Toml.Document.reads_assignment (Rule.isPlainKey_of_mem _ (by simp)) Toml.Document.isValueText_noItems
  rw [ofToml?, Toml.Document.ofText?, hread.statements?_eq (head?_toToml {})]
  rfl

/-- **A scope is read back from its document.** -/
theorem ofToml?_toToml {s : Scope} (h : ∀ r ∈ s.rules, r.IsBuilt) : ofToml? s.toToml = some s := by
  by_cases hne : s.rules = []
  · obtain ⟨rules⟩ := s
    cases hne
    exact ofToml?_noRules
  · rw [ofToml?, ofText?_toToml hne, Option.bind_some, ofEntries?, List.lookup_cons_self]
    exact congrArg (Option.map Scope.mk) (mapM_ofValue? h)

/-- **Scopes survive their documents**: from the document of a scope a scope is read, it has the same rules in the same
order, and every text fares in it as in the scope that was written. -/
theorem ofToml?_toToml_evaluate {s : Scope} (h : ∀ r ∈ s.rules, r.IsBuilt) :
    ∃ s', ofToml? s.toToml = some s' ∧ s' = s ∧ ∀ url, evaluate s'.rules url = evaluate s.rules url :=
  ⟨s, ofToml?_toToml h, rfl, fun _ => rfl⟩

/-- A scope with patterns of all kinds: `<all_urls>`, valid ones, and texts that need each form of quotes. -/
def motley : Scope :=
  ⟨[⟨.including, .ofText matchAllUrls, true⟩, ⟨.excluding, .ofText "http+ftp://*.example.com/a*".toList, false⟩,
    ⟨.including, .ofText "a\"b\\c".toList, true⟩, ⟨.excluding, .ofText "it's \"x\"".toList, true⟩,
    ⟨.including, .ofText "'''\"\"\"\\ \t\r\n\x00\x7fü\n".toList, false⟩, ⟨.excluding, .ofText [], true⟩]⟩

/-- It is read back from its document. -/
theorem ofToml?_toToml_motley :
    (∀ r ∈ motley.rules, r.IsBuilt) ∧
      ∃ s', ofToml? motley.toToml = some s' ∧ s' = motley ∧
        ∀ url, evaluate s'.rules url = evaluate motley.rules url := by
  have hbuilt : ∀ r ∈ motley.rules, r.IsBuilt := by
    simp only [motley, List.forall_mem_cons, List.not_mem_nil, false_implies, implies_true, and_true]
    exact ⟨⟨⟨.text _, []⟩, rfl⟩, ⟨⟨.text _, []⟩, rfl⟩, ⟨⟨.text _, []⟩, rfl⟩, ⟨⟨.text _, []⟩, rfl⟩,
      ⟨⟨.text _, []⟩, rfl⟩, ⟨⟨.text _, []⟩, rfl⟩⟩
  exact ⟨hbuilt, ofToml?_toToml_evaluate hbuilt⟩

end Scope
end WebScope
