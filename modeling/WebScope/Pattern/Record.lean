import WebScope.Pattern.Glob
import WebScope.Pattern.Segments

/-!
# Compiled patterns

A pattern is compiled to a record: its protocols without repetitions, its host as written, and its path as an
expression. `Record.compile` says why a text does not compile.
Main statement: a text that compiles has segments (`exists_segments_of_compile`).
-/

namespace WebScope

/-- **Why a text does not compile to a pattern.** -/
inductive PatternError
  /-- It does not follow the grammar of patterns. -/
  | grammar (raw : Text)
  /-- Its path does not compile. -/
  | glob (cause : Regex.CompileError)
  deriving DecidableEq, Repr

/-- The message shown for a text that does not compile. -/
def PatternError.message : PatternError → Text
  | .grammar raw => "pattern does not follow the match pattern grammar: ".toList ++ raw
  | .glob cause => "path glob did not translate to a regex: ".toList ++ cause.message

/-- **A compiled pattern.** -/
structure Record where
  /-- The protocols in the order of their first mention, none of them twice. -/
  protocols : List Text
  host : Text
  path : Regex
  deriving DecidableEq, Repr

namespace Record

/-- The record of the segments of a pattern. -/
def ofSegments (s : Segments) : Except PatternError Record :=
  match Glob.compile s.path with
  | .ok path => .ok ⟨(Segments.alternatives s.protocols).eraseDups, s.host, path⟩
  | .error cause => .error (.glob cause)

/-- **Compiles a pattern.** -/
def compile (raw : Text) : Except PatternError Record :=
  match Segments.ofText? raw with
  | some s => ofSegments s
  | none => .error (.grammar raw)

/-- A text that compiles has segments, and its record is theirs. -/
theorem exists_segments_of_compile {raw : Text} {r : Record} (h : compile raw = .ok r) :
    ∃ s, Segments.ofText? raw = some s ∧ ofSegments s = .ok r := by
  rw [compile] at h
  split at h
  · rename_i s hs
    exact ⟨s, hs, h⟩
  · cases h

end Record
end WebScope
