import WebScope.Proofs.Scope.TomlRoundTrip
import WebScope.Scope.Files

/-!
# Runs over scope files

A session starts with no files and no rules, and takes steps: files are written, deleted, saved and loaded; rules are
added, switched, and given new patterns.

- The rules of a session have patterns with a history, those from files included: a step keeps this (`isBuilt_run`), and
  so does a run (`isBuilt_after`).
- A step that does not set a file leaves it as it is (`get?_run_of_not_sets`), and so do any number of such steps
  (`get?_runAll_of_spares`).
- So a file to which a scope was stored, and which nothing has set since, holds the document of that scope
  (`get?_after_of_lastStored`), and a load brings the scope back (`loadFrom_after_of_lastStored`).

Main statement: **what runs do to files**, and what is loaded from them behind a run (`files_after`).
-/

namespace WebScope

/-! ## Rules from files -/

/-- A rule that is read has a pattern that is read from a value. -/
theorem Rule.isBuilt_of_ofFields? {kind pattern : Toml.Value} {enabled : Option Toml.Value} {r : Rule}
    (h : Rule.ofFields? kind pattern enabled = some r) : r.IsBuilt := by
  simp only [Rule.ofFields?, Option.bind_eq_bind, Option.bind_eq_some_iff, Option.pure_def, Option.some.injEq] at h
  obtain ⟨k, _, b, _, rfl⟩ := h
  exact ⟨⟨.json pattern.outline, []⟩, rfl⟩

theorem Rule.isBuilt_of_ofValue? {v : Toml.Value} {r : Rule} (h : Rule.ofValue? v = some r) : r.IsBuilt := by
  unfold Rule.ofValue? at h
  split at h
  · simp only [Option.bind_eq_bind, Option.bind_eq_some_iff] at h
    obtain ⟨_, _, _, _, h⟩ := h
    exact isBuilt_of_ofFields? h
  · exact isBuilt_of_ofFields? h
  · cases h

theorem Rule.isBuilt_of_mapM : ∀ {vs : List Toml.Value} {rules : List Rule}, vs.mapM Rule.ofValue? = some rules →
    ∀ r ∈ rules, r.IsBuilt
  | [], _, h => by
    cases h
    simp
  | v :: vs, _, h => by
    simp only [List.mapM_cons, Option.bind_eq_bind, Option.bind_eq_some_iff, Option.pure_def, Option.some.injEq] at h
    obtain ⟨r, hr, rules, hrules, rfl⟩ := h
    exact List.forall_mem_cons.mpr ⟨isBuilt_of_ofValue? hr, isBuilt_of_mapM hrules⟩

/-- A rule that is updated still has a history, with one more update. -/
theorem Rule.isBuilt_update {r : Rule} (h : r.IsBuilt) (d : Pattern.Definition) :
    ({ r with pattern := r.pattern.update d } : Rule).IsBuilt := by
  obtain ⟨h, hpattern⟩ := h
  refine ⟨⟨h.start, h.updates ++ [d]⟩, ?_⟩
  show r.pattern.update d = (h.updates ++ [d]).foldl Pattern.update h.start.pattern
  rw [hpattern, List.foldl_append]
  rfl

namespace Scope

/-- **A scope that can be had**: each of its rules can. -/
def IsBuilt (s : Scope) : Prop := ∀ r ∈ s.rules, r.IsBuilt

theorem isBuilt_noRules : IsBuilt {} := fun _ hr => nomatch hr

theorem isBuilt_push {s : Scope} {r : Rule} (hs : s.IsBuilt) (hr : r.IsBuilt) : (s.push r).IsBuilt := by
  intro r' hr'
  rcases List.mem_append.mp hr' with h | h
  · exact hs r' h
  · rw [List.mem_singleton.mp h]
    exact hr

/-- **Every scope that is read from a document can be had.** -/
theorem isBuilt_of_ofToml? {t : Text} {s : Scope} (h : ofToml? t = some s) : s.IsBuilt := by
  obtain ⟨es, _, hes⟩ := Option.bind_eq_some_iff.mp h
  unfold ofEntries? at hes
  split at hes
  · cases hes
    exact isBuilt_noRules
  · obtain ⟨rules, hrules, rfl⟩ := Option.map_eq_some_iff.mp hes
    exact Rule.isBuilt_of_mapM hrules
  · cases hes

theorem isBuilt_of_load {content : Option (Option Text)} {s : Scope} (h : load content = .ok s) : s.IsBuilt := by
  unfold load at h
  split at h
  · cases h
  · cases h
  · split at h
    · rename_i hread
      cases h
      exact isBuilt_of_ofToml? hread
    · cases h

/-- The document of a scope is loaded as the scope. -/
theorem load_toToml {s : Scope} (h : s.IsBuilt) : load (some (some s.toToml)) = .ok s := by
  rw [load, ofToml?_toToml h]

end Scope

namespace Session

/-! ## Rules in a session -/

/-- **A step that can be had**: a rule that it adds can. -/
def Step.IsBuilt : Step → Prop
  | .push rule => rule.IsBuilt
  | _ => True

variable {s : Session}

theorem isBuilt_loadFrom (hs : s.scope.IsBuilt) (file : Text) : (s.loadFrom file).1.scope.IsBuilt := by
  unfold loadFrom
  split
  · rename_i hload
    exact Scope.isBuilt_of_load hload
  · exact hs

theorem isBuilt_changeRule (hs : s.scope.IsBuilt) (index : Nat) {f : Rule → Rule}
    (hf : ∀ r : Rule, r.IsBuilt → (f r).IsBuilt) : (s.changeRule index f).1.scope.IsBuilt := by
  unfold changeRule
  split
  · exact hs
  · rename_i r hr
    intro r' hr'
    rcases List.mem_or_eq_of_mem_set hr' with h | rfl
    · exact hs r' h
    · exact hf r (hs r (List.mem_of_getElem? hr))

/-- **A step keeps the rules built.** -/
theorem isBuilt_run (hs : s.scope.IsBuilt) {step : Step} (h : step.IsBuilt) : (s.run step).1.scope.IsBuilt := by
  cases step with
  | load file => exact isBuilt_loadFrom hs file
  | loadOrCreate file =>
    rw [run]
    split
    · exact isBuilt_loadFrom hs file
    · exact Scope.isBuilt_noRules
  | push rule => exact Scope.isBuilt_push hs h
  | enable index enabled => exact isBuilt_changeRule hs index fun _ hr => hr
  | setPattern index d => exact isBuilt_changeRule hs index fun _ hr => Rule.isBuilt_update hr d
  | _ => exact hs

theorem isBuilt_runAll : ∀ {steps : List Step} {s : Session}, s.scope.IsBuilt → (∀ step ∈ steps, step.IsBuilt) →
    (s.runAll steps).1.scope.IsBuilt
  | [], _, hs, _ => hs
  | step :: steps, s, hs, h => by
    obtain ⟨hstep, hsteps⟩ := List.forall_mem_cons.mp h
    show ((s.run step).1.runAll steps).1.scope.IsBuilt
    exact isBuilt_runAll (isBuilt_run hs hstep) hsteps

/-! ## Files under steps -/

/-- **Whether a step sets a file**: it writes or deletes it, saves to it, or makes it because there is none. -/
def Step.Sets (s : Session) (file : Text) : Step → Prop
  | .write f _ => f = file
  | .delete f => f = file
  | .save f => f = file
  | .loadOrCreate f => f = file ∧ s.files.get? f = none
  | _ => False

instance (s : Session) (file : Text) : (step : Step) → Decidable (step.Sets s file)
  | .write _ _ | .delete _ | .save _ => inferInstanceAs (Decidable (_ = _))
  | .loadOrCreate _ => inferInstanceAs (Decidable (_ ∧ _))
  | .read _ | .load _ | .push _ | .enable _ _ | .setPattern _ _ | .evaluate _ | .invalid => .isFalse id

theorem files_loadFrom (s : Session) (file : Text) : (s.loadFrom file).1.files = s.files := by
  unfold loadFrom
  split <;> rfl

theorem files_changeRule (s : Session) (index : Nat) (f : Rule → Rule) :
    (s.changeRule index f).1.files = s.files := by
  unfold changeRule
  split <;> rfl

/-- A file that is there is loaded. -/
theorem run_loadOrCreate_of_get? {file : Text} (h : s.files.get? file ≠ none) :
    s.run (.loadOrCreate file) = s.loadFrom file :=
  if_pos (Option.isSome_iff_ne_none.mpr h)

/-- **A step that does not set a file leaves it as it is.** -/
theorem get?_run_of_not_sets {file : Text} {step : Step} (h : ¬step.Sets s file) :
    (s.run step).1.files.get? file = s.files.get? file := by
  cases step with
  | write f content => exact Files.get?_put_of_ne content h
  | delete f => exact Files.get?_delete_of_ne h
  | save f => exact Files.get?_put_of_ne _ h
  | load f => rw [run, files_loadFrom]
  | loadOrCreate f =>
    -- If there is no file `f`, one is made, which is not `file`; otherwise `f` is loaded.
    by_cases hf : s.files.get? f = none
    · have hne : f ≠ file := fun e => h ⟨e, hf⟩
      rw [run, if_neg (by simp [hf])]
      exact Files.get?_put_of_ne _ hne
    · rw [run_loadOrCreate_of_get? hf, files_loadFrom]
  | enable index enabled => rw [run, files_changeRule]
  | setPattern index d => rw [run, files_changeRule]
  | _ => rfl

/-- **Whether steps spare a file**: none of them sets it. -/
def Spares (file : Text) (s : Session) : List Step → Prop
  | [] => True
  | step :: steps => ¬step.Sets s file ∧ Spares file (s.run step).1 steps

instance decidableSpares (file : Text) : (s : Session) → (steps : List Step) → Decidable (Spares file s steps)
  | _, [] => .isTrue trivial
  | s, step :: steps =>
    have := decidableSpares file (s.run step).1 steps
    inferInstanceAs (Decidable (_ ∧ _))

/-- Steps that spare a file leave it as it is. -/
theorem get?_runAll_of_spares {file : Text} : ∀ {steps : List Step} {s : Session}, Spares file s steps →
    (s.runAll steps).1.files.get? file = s.files.get? file
  | [], _, _ => rfl
  | _ :: _, _, ⟨hstep, hsteps⟩ => (get?_runAll_of_spares hsteps).trans (get?_run_of_not_sets hstep)

/-! ## Scopes in files -/

/-- The scope that a step stores to a file: the one there is if it saves, one without rules if it makes the file. -/
def Step.stored? (s : Session) (file : Text) : Step → Option Scope
  | .save f => if f = file then some s.scope else none
  | .loadOrCreate f => if f = file ∧ s.files.get? f = none then some {} else none
  | _ => none

/-- **The two ways to store a scope.** -/
theorem stored?_cases {file : Text} {step : Step} {scope : Scope} (h : step.stored? s file = some scope) :
    (step = .save file ∧ scope = s.scope) ∨
      (step = .loadOrCreate file ∧ s.files.get? file = none ∧ scope = {}) := by
  unfold Step.stored? at h
  split at h
  · obtain ⟨rfl, hscope⟩ := Option.ite_none_right_eq_some.mp h
    exact .inl ⟨rfl, (Option.some.inj hscope).symm⟩
  · obtain ⟨⟨rfl, hnone⟩, hscope⟩ := Option.ite_none_right_eq_some.mp h
    exact .inr ⟨rfl, hnone, (Option.some.inj hscope).symm⟩
  · cases h

/-- A file to which a scope was stored holds its document. -/
theorem get?_run_of_stored {file : Text} {step : Step} {scope : Scope} (h : step.stored? s file = some scope) :
    (s.run step).1.files.get? file = some (some scope.toToml) := by
  obtain ⟨rfl, rfl⟩ | ⟨rfl, hnone, rfl⟩ := stored?_cases h
  · exact Files.get?_put_self ..
  · rw [run, if_neg (by simp [hnone])]
    exact Files.get?_put_self ..

theorem isBuilt_of_stored (hs : s.scope.IsBuilt) {file : Text} {step : Step} {scope : Scope}
    (h : step.stored? s file = some scope) : scope.IsBuilt := by
  obtain ⟨-, rfl⟩ | ⟨-, -, rfl⟩ := stored?_cases h
  · exact hs
  · exact Scope.isBuilt_noRules

/-- **The session behind steps**, from no files and no rules. -/
def after (steps : List Step) : Session := (runAll {} steps).1

/-- **The scope that was last stored to a file** on a run: some step stored it, and nothing has set the file since. -/
def LastStored (file : Text) (steps : List Step) (scope : Scope) : Prop :=
  ∃ before step rest, steps = before ++ step :: rest ∧ step.stored? (after before) file = some scope ∧
    Spares file ((after before).run step).1 rest

theorem runAll_append : ∀ (steps more : List Step) (s : Session),
    (s.runAll (steps ++ more)).1 = ((s.runAll steps).1.runAll more).1
  | [], _, _ => rfl
  | step :: steps, more, s => runAll_append steps more (s.run step).1

theorem isBuilt_after {steps : List Step} (h : ∀ step ∈ steps, step.IsBuilt) : (after steps).scope.IsBuilt :=
  isBuilt_runAll Scope.isBuilt_noRules h

/-- **A file holds the document of the scope that was last stored to it.** -/
theorem get?_after_of_lastStored {file : Text} {steps : List Step} {scope : Scope}
    (h : LastStored file steps scope) : (after steps).files.get? file = some (some scope.toToml) := by
  obtain ⟨before, step, rest, rfl, hstored, hspares⟩ := h
  have hafter : after (before ++ step :: rest) = (((after before).run step).1.runAll rest).1 := runAll_append ..
  rw [hafter, get?_runAll_of_spares hspares]
  exact get?_run_of_stored hstored

/-- **A load brings back the scope that was last stored.** -/
theorem loadFrom_after_of_lastStored {file : Text} {steps : List Step} {scope : Scope}
    (hbuilt : ∀ step ∈ steps, step.IsBuilt) (h : LastStored file steps scope) :
    (after steps).loadFrom file = ({ after steps with scope }, .loaded scope) := by
  have hcontent := get?_after_of_lastStored h
  -- The document is read as the scope because its rules were built when it was stored, in the middle of the run.
  obtain ⟨before, step, rest, rfl, hstored, -⟩ := h
  have hbefore : ∀ step ∈ before, step.IsBuilt := fun t ht => hbuilt t (List.mem_append_left _ ht)
  have hscope : scope.IsBuilt := isBuilt_of_stored (isBuilt_after hbefore) hstored
  rw [loadFrom, hcontent, Scope.load_toToml hscope]

/-- **What runs do to files.** Behind any run, only a step that sets a file changes it; a load changes no file, and
neither does `loadOrCreate` if the file is there, whatever it holds; the scope that was last stored to a file is brought
back from it either way; and a step that fails changes nothing at all. -/
theorem files_after {steps : List Step} (hbuilt : ∀ step ∈ steps, step.IsBuilt) (file : Text) :
    (∀ step, ((after steps).run step).1.files.get? file ≠ (after steps).files.get? file →
        step.Sets (after steps) file) ∧
      ((after steps).run (.load file)).1.files = (after steps).files ∧
      ((after steps).files.get? file ≠ none →
        ((after steps).run (.loadOrCreate file)).1.files = (after steps).files) ∧
      (∀ scope, LastStored file steps scope →
        (after steps).run (.load file) = ({ after steps with scope }, .loaded scope) ∧
          (after steps).run (.loadOrCreate file) = ({ after steps with scope }, .loaded scope)) ∧
      ∀ step e, ((after steps).run step).2 = .failed e → ((after steps).run step).1 = after steps := by
  refine ⟨fun step hchange => ?_, files_loadFrom _ file, fun hthere => ?_, fun scope hlast => ?_, fun step e hfail => ?_⟩
  · by_contra hsets
    exact hchange (get?_run_of_not_sets hsets)
  · rw [run_loadOrCreate_of_get? hthere, files_loadFrom]
  · have hthere : (after steps).files.get? file ≠ none := by simp [get?_after_of_lastStored hlast]
    rw [run_loadOrCreate_of_get? hthere]
    exact ⟨loadFrom_after_of_lastStored hbuilt hlast, loadFrom_after_of_lastStored hbuilt hlast⟩
  · exact run_eq_of_failed (Prod.ext rfl hfail)

/-- A run that saves a rule to `a`, changes it, fails to load a file that is no scope and one that is no text, makes the
file `d`, and deletes another. -/
def errands : List Step :=
  [.write "b".toList (some "rules = 1".toList), .write "c".toList none,
    .push ⟨.including, .ofText "http+ftp://*.a.com/*".toList, false⟩, .save "a".toList,
    .setPattern 0 ⟨some "bogus".toList⟩, .loadOrCreate "b".toList, .load "c".toList, .loadOrCreate "d".toList,
    .push ⟨.excluding, .ofText "it's \"x\"".toList, true⟩, .delete "c".toList]

/-- The rule that was saved is brought back from `a`, as it was when it was saved. -/
theorem load_after_errands :
    (∀ step ∈ errands, step.IsBuilt) ∧
      ∃ scope, LastStored "a".toList errands scope ∧
        scope.rules = [⟨.including, .ofText "http+ftp://*.a.com/*".toList, false⟩] ∧
        (after errands).run (.load "a".toList) = ({ after errands with scope }, .loaded scope) := by
  have hbuilt : ∀ step ∈ errands, step.IsBuilt := by
    simp only [errands, List.forall_mem_cons, List.not_mem_nil, false_implies, implies_true, and_true]
    exact ⟨trivial, trivial, ⟨⟨.text _, []⟩, rfl⟩, trivial, trivial, trivial, trivial, trivial,
      ⟨⟨.text _, []⟩, rfl⟩, trivial⟩
  have hlast : LastStored "a".toList errands ⟨[⟨.including, .ofText "http+ftp://*.a.com/*".toList, false⟩]⟩ :=
    ⟨errands.take 3, .save "a".toList, errands.drop 4, rfl, rfl, by decide +kernel⟩
  obtain ⟨-, -, -, hload, -⟩ := files_after hbuilt "a".toList
  exact ⟨hbuilt, _, hlast, rfl, (hload _ hlast).1⟩

end Session
end WebScope
