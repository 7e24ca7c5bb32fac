import WebScope.Pattern.Basic
import WebScope.Pattern.Host
import WebScope.Url.Parts

/-!
# Matching

A pattern admits the parts of a URL in three stages: protocol, remote and path. The protocol has to be one that patterns
can name, whatever the pattern says. `Pattern.test` puts the stages together for a text that may or may not be a URL.
Main statements: the test of a URL is the test of its parts (`test_of_ok`), and a pattern without a record that does not
match everything matches nothing (`test_eq_false`).
-/

namespace WebScope
namespace Pattern

/-- Whether a pattern admits a protocol. -/
def admitsProtocol (p : Pattern) (protocol : Text) : Bool :=
  p.compiled.any fun r =>
    allowedProtocols.contains protocol && r.protocols.any fun q => q == matchAll || q == protocol

/-- Whether a pattern admits a remote. -/
def admitsRemote (p : Pattern) (remote : Text) : Bool := p.compiled.any fun r => HostToken.admits r.host remote

/-- Whether a pattern admits a path. -/
def admitsPath (p : Pattern) (path : Text) : Bool := p.compiled.any fun r => r.path.isMatch path

/-- **Whether a pattern admits the parts of a URL.** -/
def admits (p : Pattern) (parts : Parts) : Bool :=
  p.isMatchAll || (p.admitsProtocol parts.protocol && p.admitsRemote parts.remote && p.admitsPath parts.path)

/-- **Whether a pattern matches a text.** Only the pattern that matches everything matches a text that is no URL; a
pattern without a record does not look at the text. -/
def test (p : Pattern) (url : Text) : Bool :=
  if p.isMatchAll then true
  else if p.compiled.isNone then false
  else
    match Parts.ofText url with
    | .ok parts => p.admits parts
    | .error _ => false

/-- A pattern that is not valid admits no protocol. -/
theorem admitsProtocol_of_not_isValid {p : Pattern} (h : p.isValid = false) (s : Text) :
    p.admitsProtocol s = false := by
  simp only [isValid, Bool.or_eq_false_iff, Option.isSome_eq_false_iff, Option.isNone_iff_eq_none] at h
  simp [admitsProtocol, h.2]

/-- A pattern that is not valid admits no parts. -/
theorem admits_of_not_isValid {p : Pattern} (h : p.isValid = false) (parts : Parts) : p.admits parts = false := by
  have ha : p.isMatchAll = false := by
    simp only [isValid, Bool.or_eq_false_iff] at h; exact h.1
  simp [admits, ha, admitsProtocol_of_not_isValid h]

/-- A pattern without a record admits no parts unless it matches everything. -/
theorem admits_of_compiled_eq_none {p : Pattern} (h : p.compiled = none) (parts : Parts) :
    p.admits parts = p.isMatchAll := by
  simp [admits, admitsProtocol, h]

/-- The test of a text that is a URL is the test of its parts. -/
theorem test_of_ok {url : Text} {parts : Parts} (h : Parts.ofText url = .ok parts) (p : Pattern) :
    p.test url = p.admits parts := by
  unfold test
  rw [h]
  split
  · rename_i ha; simp [admits, ha]
  · rename_i ha
    split
    · rename_i hc
      rw [admits_of_compiled_eq_none (Option.isNone_iff_eq_none.mp hc)]
      simp [ha]
    · rfl

/-- Of a text that is no URL only the pattern that matches everything admits anything. -/
theorem test_of_error {url : Text} {e : Url.ParseError} (h : Parts.ofText url = .error e) (p : Pattern) :
    p.test url = p.isMatchAll := by
  unfold test
  rw [h]
  cases p.isMatchAll <;> simp

/-- **A pattern that is not valid matches nothing.** -/
theorem test_eq_false {p : Pattern} (h : p.isValid = false) (url : Text) : p.test url = false := by
  have ha : p.isMatchAll = false := by
    simp only [isValid, Bool.or_eq_false_iff] at h; exact h.1
  cases hu : Parts.ofText url with
  | ok parts => rw [test_of_ok hu]; exact admits_of_not_isValid h parts
  | error e => rw [test_of_error hu]; exact ha

end Pattern
end WebScope
