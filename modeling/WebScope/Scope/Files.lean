import WebScope.Scope.Evaluation
import WebScope.Scope.Toml

/-!
# Scope files

A scope is loaded from files and saved to them. A `Session` holds a scope and the files around it, and takes one step at
a time; a step that fails leaves everything as it was.
Main statement: a step that fails changes nothing (`run_eq_of_failed`).
-/

namespace WebScope

/-- **Why a scope cannot be loaded.** -/
inductive ScopeError
  /-- There is no such file. -/
  | notFound
  /-- The file is no text. -/
  | notText
  /-- The text describes no scope. -/
  | config
  deriving DecidableEq, Repr

/-- The message shown for a file that cannot be loaded; what is wrong with its text is not told. -/
def ScopeError.message : ScopeError → Text
  | .notFound => "scope IO error: No such file or directory (os error 2)".toList
  | .notText => "scope IO error: stream did not contain valid UTF-8".toList
  | .config => "scope configuration error".toList

/-- **The files of a directory**: for each name its text, or nothing if its octets are no text. -/
abbrev Files := List (Text × Option Text)

namespace Files

/-- The content of a file: whether there is one, and its text. -/
def get? (fs : Files) (name : Text) : Option (Option Text) := fs.lookup name

/-- The files without one of them. -/
def delete (fs : Files) (name : Text) : Files := fs.filter (·.1 != name)

/-- The files with a new content of one of them. -/
def put (fs : Files) (name : Text) (content : Option Text) : Files := (name, content) :: fs.delete name

/-- A deletion leaves the other files alone. -/
theorem get?_delete_of_ne {fs : Files} {a b : Text} (h : a ≠ b) : (fs.delete a).get? b = fs.get? b := by
  induction fs with
  | nil => rfl
  | cons p fs ih =>
    simp only [get?, delete] at ih ⊢
    by_cases hp : p.1 = a
    · have hb : (b == p.1) = false := by rw [hp]; simpa using fun e => h e.symm
      rw [List.filter_cons_of_neg (by simpa using hp), List.lookup_cons, hb]
      exact ih
    · rw [List.filter_cons_of_pos (by simpa using hp), List.lookup_cons, List.lookup_cons]
      split
      · rfl
      · exact ih

/-- A file has the content that was put. -/
theorem get?_put_self (fs : Files) (name : Text) (content : Option Text) :
    (fs.put name content).get? name = some content := by
  simp [get?, put]

/-- Putting a file leaves the other files alone. -/
theorem get?_put_of_ne {fs : Files} {a b : Text} (content : Option Text) (h : a ≠ b) :
    (fs.put a content).get? b = fs.get? b := by
  have hb : (b == a) = false := by simpa using fun e => h e.symm
  simp only [get?, put, List.lookup_cons, hb]
  exact get?_delete_of_ne h

end Files

/-- **Loads a scope** from the content of a file. -/
def Scope.load (content : Option (Option Text)) : Except ScopeError Scope :=
  match content with
  | none => .error .notFound
  | some none => .error .notText
  | some (some s) =>
    match Scope.ofToml? s with
    | some scope => .ok scope
    | none => .error .config

/-- **A scope and the files around it.** -/
structure Session where
  scope : Scope := {}
  files : Files := []

/-- What can be done in a session. -/
inductive Session.Step
  | write (file : Text) (content : Option Text)
  | read (file : Text)
  | delete (file : Text)
  | load (file : Text)
  /-- Loads a file, or makes one with no rules if there is none. -/
  | loadOrCreate (file : Text)
  | save (file : Text)
  | push (rule : Rule)
  | enable (index : Nat) (enabled : Bool)
  | setPattern (index : Nat) (definition : Pattern.Definition)
  | evaluate (urls : List Text)
  | invalid

/-- What a step answers. -/
inductive Session.Answer
  | done
  /-- The text of a file, if it has one. -/
  | content (text : Option Text)
  /-- Whether the file was there. -/
  | deleted (existed : Bool)
  /-- The scope that was loaded; its invalid rules are warned of. -/
  | loaded (scope : Scope)
  | size (rules : Nat)
  | changed (scope : Scope)
  | evaluated (evaluations : List Evaluation)
  | invalid (indices : List Nat)
  | failed (error : ScopeError)
  | noRule

namespace Session

/-- The session with a loaded scope. -/
def loadFrom (s : Session) (file : Text) : Session × Answer :=
  match Scope.load (s.files.get? file) with
  | .ok scope => ({ s with scope }, .loaded scope)
  | .error e => (s, .failed e)

/-- The session with one rule changed. -/
def changeRule (s : Session) (index : Nat) (f : Rule → Rule) : Session × Answer :=
  match s.scope.rules[index]? with
  | none => (s, .noRule)
  | some r =>
    let scope : Scope := ⟨s.scope.rules.set index (f r)⟩
    ({ s with scope }, .changed scope)

/-- **Takes a step.** -/
def run (s : Session) : Step → Session × Answer
  | .write file content => ({ s with files := s.files.put file content }, .done)
  | .read file => (s, .content (s.files.get? file).join)
  | .delete file => ({ s with files := s.files.delete file }, .deleted (s.files.get? file).isSome)
  | .load file => s.loadFrom file
  | .loadOrCreate file =>
    if (s.files.get? file).isSome then s.loadFrom file
    else (⟨{}, s.files.put file (some (Scope.toToml {}))⟩, .loaded {})
  | .save file => ({ s with files := s.files.put file (some s.scope.toToml) }, .done)
  | .push rule =>
    let scope := s.scope.push rule
    ({ s with scope }, .size scope.rules.length)
  | .enable index enabled => s.changeRule index fun r => { r with enabled }
  | .setPattern index definition => s.changeRule index fun r => { r with pattern := r.pattern.update definition }
  | .evaluate urls => (s, .evaluated (urls.map (WebScope.evaluate s.scope.rules)))
  | .invalid => (s, .invalid (s.scope.invalidRules.map (·.1)))

/-- Takes several steps. -/
def runAll (s : Session) : List Step → Session × List Answer
  | [] => (s, [])
  | step :: steps =>
    let (s, answer) := s.run step
    let (s, answers) := s.runAll steps
    (s, answer :: answers)

/-- A failed load changes nothing. -/
theorem loadFrom_eq_of_failed {s s' : Session} {file : Text} {e : ScopeError}
    (h : s.loadFrom file = (s', .failed e)) : s' = s := by
  rw [loadFrom] at h
  split at h
  · simp at h
  · simp only [Prod.mk.injEq] at h; exact h.1.symm

/-- **A step that fails changes nothing.** -/
theorem run_eq_of_failed {s s' : Session} {step : Step} {e : ScopeError} (h : s.run step = (s', .failed e)) :
    s' = s := by
  cases step with
  | load file => exact loadFrom_eq_of_failed h
  | loadOrCreate file =>
    rw [run] at h
    split at h
    · exact loadFrom_eq_of_failed h
    · simp at h
  | enable index enabled =>
    rw [run, changeRule] at h
    split at h <;> simp at h
  | setPattern index definition =>
    rw [run, changeRule] at h
    split at h <;> simp at h
  | _ => simp [run] at h

end Session
end WebScope
