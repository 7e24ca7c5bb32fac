import WebScope.Regex

/-!
# Path globs

A glob is a text in which `?` stands for one character and `*` for any run of characters, line feeds apart; every other
character stands for itself. `Glob.Matches` is its language. Globs are tested by compiling them: `Glob.source` writes
the expression in three passes over the whole text, `Glob.compile` compiles it.
-/

namespace WebScope
namespace Glob

/-- **The language of a glob.** -/
inductive Matches : Text → Text → Prop
  | nil : Matches [] []
  | one {c : Char} {g s : Text} : c ≠ '\n' → Matches g s → Matches ('?' :: g) (c :: s)
  | run {g run s : Text} : (∀ c ∈ run, c ≠ '\n') → Matches g s → Matches ('*' :: g) (run ++ s)
  | char {c : Char} {g s : Text} : c ≠ '?' → c ≠ '*' → Matches g s → Matches (c :: g) (c :: s)

/-- The characters that are escaped in the expression: its operators but for the two wildcards. -/
def escapedChars : List Char := ['.', '+', '^', '$', '{', '}', '(', ')', '|', '[', ']', '\\']

/-- The glob with a backslash before each character that is escaped. -/
def escape (g : Text) : Text := g.flatMap fun c => if escapedChars.contains c then ['\\', c] else [c]

/-- **The expression that a glob is compiled from.** Wildcards are put in behind the escapes, so that what stands for them
stays unescaped. -/
def source (g : Text) : Text :=
  ['\\', 'A'] ++ Text.replace '*' ['.', '*'] (Text.replace '?' ['.'] (escape g)) ++ ['\\', 'z']

/-- The compiled glob. -/
def compile (g : Text) : Except Regex.CompileError Regex := Regex.compile (source g)

end Glob
end WebScope
