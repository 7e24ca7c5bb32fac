import WebScope.Pattern.Json
import WebScope.Scope.Rule
import WebScope.Toml.Document

/-!
# Scopes in TOML

A scope is kept in a document with an array of tables `rules`. Each rule has a kind, a pattern, and a switch that is on
if it is missing; a rule can also be written as an array of these in order. Patterns are read as leniently as from JSON.

`Scope.toToml` writes a document, `Scope.ofToml?` reads one.
-/

namespace WebScope

open Toml (Value Entries)

/-! ## Writing -/

/-- The name of the array of rules. -/
def rulesKey : Text := "rules".toList

/-- The name of the kind of a rule. -/
def kindKey : Text := "rule_type".toList

/-- The name of the pattern of a rule. -/
def patternKey : Text := "pattern".toList

/-- The name of the switch of a rule. -/
def enabledKey : Text := "enabled".toList

/-- A line that sets a key. -/
def tomlLine (key value : Text) : Text := key ++ " = ".toList ++ value ++ ['\n']

/-- A truth value. -/
def tomlFlag (b : Bool) : Text := if b then "true".toList else "false".toList

/-- The lines of a rule. -/
def Rule.toToml (r : Rule) : Text :=
  "[[".toList ++ rulesKey ++ "]]\n".toList ++ tomlLine kindKey ('"' :: r.kind.name ++ ['"']) ++
    tomlLine patternKey (Toml.Quoted.write r.pattern.raw) ++ tomlLine enabledKey (tomlFlag r.enabled)

/-- **The document of a scope**, with a blank line between rules. -/
def Scope.toToml (s : Scope) : Text :=
  if s.rules = [] then tomlLine rulesKey "[]".toList else ['\n'].intercalate (s.rules.map Rule.toToml)

/-! ## Reading -/

/-- Whether a value is a table or an array with nothing in it. -/
def isEmptyValue : Value → Bool
  | .table _ [] => true
  | .array _ [] => true
  | _ => false

/-- The kind that a value names: as a text, or as the only key of a table with an empty value. -/
def RuleKind.ofValue? : Value → Option RuleKind
  | .string s => ofName? s
  | .table _ [(name, v)] => if isEmptyValue v then ofName? name else none
  | _ => none

/-- The switch that a value is; a missing one is on. -/
def switchOf? : Option Value → Option Bool
  | none => some true
  | some (.boolean b) => some b
  | some _ => none

/-- The rule of a kind, a pattern and a switch. -/
def Rule.ofFields? (kind pattern : Value) (enabled : Option Value) : Option Rule := do
  return ⟨← RuleKind.ofValue? kind, Pattern.ofJson pattern.outline, ← switchOf? enabled⟩

/-- **Reads a rule.** What comes after the three fields does not count. -/
def Rule.ofValue? : Value → Option Rule
  | .table _ es => do ofFields? (← es.lookup kindKey) (← es.lookup patternKey) (es.lookup enabledKey)
  | .array _ (kind :: pattern :: rest) => ofFields? kind pattern rest.head?
  | _ => none

/-- The scope of a table; without rules it is empty. -/
def Scope.ofEntries? (es : Entries) : Option Scope :=
  match es.lookup rulesKey with
  | none => some {}
  | some (.array _ vs) => (vs.mapM Rule.ofValue?).map Scope.mk
  | some _ => none

/-- **Reads a document.** -/
def Scope.ofToml? (s : Text) : Option Scope := (Toml.Document.ofText? s).bind ofEntries?

end WebScope
