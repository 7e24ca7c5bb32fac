import WebScope.Command.Arguments
import WebScope.Command.LogFilter
import WebScope.Header.Json
import WebScope.Pattern.Json
import WebScope.Scope.Files

/-!
# What commands do

A command reads at most one file and writes lines. `Command.run` says what it writes, what it warns of, and whether it
fails, given the content of its file; nothing else of the world matters.

Verdicts are computed by one function for each command: `testLine`, `explainLine` and `scopeLine`.
-/

namespace WebScope

/-- **What a command warns of.** -/
inductive Warning
  /-- A pattern to test is not valid. -/
  | pattern (raw : Text)
  /-- The pattern of a rule is not valid. -/
  | rule (index : Nat) (raw : Text)
  deriving DecidableEq, Repr

namespace Warning

/-- The part of the program that a warning comes from, as log filters name it. -/
def target : Warning → Text
  | .pattern _ => "urlscope".toList
  | .rule _ _ => "urlscope_scope::config".toList

/-- The wording of a warning. -/
def message : Warning → Text
  | .pattern raw =>
    "pattern \u0060".toList ++ raw ++ "\u0060 does not follow the match pattern grammar and matches nothing".toList
  | .rule index raw =>
    "scope rule pattern is invalid and will match nothing rule=".toList ++ Text.ofNat index ++ " pattern=".toList ++
      Json.quote raw

/-- Whether a warning is shown. -/
def isShown (filter : Text) (w : Warning) : Bool := (LogFilter.ofText filter).shows w.target .warn

end Warning

/-- **What a command does.** -/
structure Outcome where
  /-- The lines that it writes. -/
  lines : List Text := []
  warnings : List Warning := []
  /-- Why it failed. -/
  failure : Option Text := none
  deriving DecidableEq, Repr

namespace Outcome

/-- What is written, each line with its end. -/
def output (o : Outcome) : Text := o.lines.flatMap (· ++ ['\n'])

/-- The exit status of a command that was run. -/
def exit (o : Outcome) : Nat := if o.failure.isSome then 1 else 0

/-- The exit status of a usage error. -/
def usageError : Nat := 2

end Outcome

/-! ## Lines -/

/-- The line that tells whether a pattern matches a URL. -/
def testLine (p : Pattern) (url : Text) : Text :=
  (if p.test url then "match".toList else "no match".toList) ++ '\t' :: url

/-- The line that explains the test of a URL. -/
def explainLine (p : Pattern) (url : Text) : Text := (Pattern.explanationJson (p.explain url)).toText

/-- The JSON form of indices. -/
def indicesJson (is : List Nat) : Json := .array (is.map fun i => .number (.ofNat i))

/-- The JSON form of how a URL fares in a scope. -/
def evaluationJson (url : Text) (e : Evaluation) : Json :=
  .object [("url".toList, .string url), ("in_scope".toList, .bool e.inScope),
    ("matched_include".toList, indicesJson e.including), ("matched_exclude".toList, indicesJson e.excluding)]

/-- The line that tells how a URL fares in a scope. -/
def scopeLine (rules : List Rule) (url : Text) : Text := (evaluationJson url (evaluate rules url)).toText

/-- The line that gives the headers of a list, and their block again. -/
def headersLine (l : HeaderList) (separator : Separator) : Text :=
  (Json.object [("headers".toList, l.definitionsJson),
    ("unparsed".toList, .string (l.toBlock (some separator.toText)))]).toText

/-! ## Commands -/

/-- The warnings of a pattern to test. -/
def Pattern.warnings (p : Pattern) : List Warning := if p.isValid then [] else [.pattern p.raw]

/-- The warnings behind one more rule, at the index `i`: it is warned of if its pattern is not valid. -/
def Warning.note (ws : List Warning) : Rule × Nat → List Warning
  | (r, i) => if r.pattern.isValid then ws else ws ++ [.rule i r.pattern.raw]

/-- The warnings of a scope that was loaded, one rule after the other. -/
def Scope.warnings (s : Scope) : List Warning := s.rules.zipIdx.foldl Warning.note []

/-- Why the content of a file cannot be read as text. -/
def readFailure (exists? : Bool) : Text :=
  if exists? then "stream did not contain valid UTF-8".toList else "No such file or directory (os error 2)".toList

/-- **Runs a command** on the content of its file. -/
def Command.run (content : Option (Option Text)) : Command → Outcome
  | .test pattern urls =>
    let p := Pattern.ofText pattern
    { lines := urls.map (testLine p), warnings := p.warnings }
  | .explain pattern url => { lines := [explainLine (Pattern.ofText pattern) url] }
  | .scope _ urls =>
    match Scope.load content with
    | .ok s => { lines := urls.map (scopeLine s.rules), warnings := s.warnings }
    | .error e => { failure := some e.message }
  | .headers separator _ =>
    match content with
    | some (some s) => { lines := [headersLine (HeaderList.ofBlock s) separator] }
    | _ => { failure := some (readFailure content.isSome) }

/-- **Runs a command under its log filter**, which decides about the warnings that are shown. -/
def Invocation.run (i : Invocation) (content : Option (Option Text)) : Outcome :=
  let o := i.command.run content
  { o with warnings := o.warnings.filter (·.isShown i.logFilter) }

end WebScope
