import WebScope.Command.Outcome
import WebScope.Proofs.Json.OneLine
import WebScope.Proofs.Scope.FileRuns

/-!
# The verdicts of the commands

Three commands tell whether a pattern matches a URL: `test` says so in words, `explain` in an object that tells all
stages, and `scope` in an object for each URL, under the rules of a file. Their objects are lines of compact JSON, and
are read back here (`Json.memberOf?`).

- What a line says is what was written on it: the explanation (`memberOf?_explainLine`) and the evaluation
  (`memberOf?_scopeLine`). No URL breaks a line (`not_mem_scopeLine`, `Outcome.fields_output`).
- With one rule that includes, an evaluation is the test of its pattern (`evaluate_including`), also if the rule comes
  from the file that it was saved to (`run_scope_of_saved`).
- So each line says a verdict exactly if it is that of the test (`testSays_iff`, `explainSays_iff`, `scopeSays_iff`).

Main statement: **the commands give one verdict** (`commands_give_one_verdict`).
-/

namespace WebScope

namespace Json

/-- The member of a name, in the object that a text is read as. -/
def memberOf? (name : String) (line : Text) : Option Json :=
  match Reader.run Reader.value line with
  | .ok (.object ms) => ms.lookup name.toList
  | _ => none

theorem memberOf?_toText (name : String) {ms : List (Text × Json)} (h : (object ms).IsWellFormed)
    (hfits : Reader.fits (.object ms) Reader.depth = true) :
    memberOf? name (object ms).toText = ms.lookup name.toList := by
  rw [memberOf?, Reader.run_value_toText h hfits]

end Json

/-! ## Explanations -/

namespace Pattern

theorem isWellFormed_partsJson (parts : Parts) : (partsJson parts).IsWellFormed := by
  refine .object ?_
  simp only [List.forall_mem_cons]
  exact ⟨.string _, .string _, .string _, fun _ h => nomatch h⟩

theorem isWellFormed_explanationJson (e : Explanation) : (explanationJson e).IsWellFormed := by
  have hstage : ∀ b : Option Bool, (Json.ofOption .bool b).IsWellFormed := Json.isWellFormed_ofOption .bool
  refine .object ?_
  simp only [List.forall_mem_cons]
  exact ⟨.string _, .bool _, .bool _, Json.isWellFormed_ofOption isWellFormed_partsJson _,
    Json.isWellFormed_ofOption (fun _ => .string _) _, hstage _, hstage _, hstage _, .bool _, fun _ h => nomatch h⟩

theorem fits_explanationJson (e : Explanation) : Json.Reader.fits (explanationJson e) Json.Reader.depth = true := by
  have hparts : Json.Reader.fits (.ofOption partsJson e.url) 126 = true := Json.Reader.fits_ofOption (fun _ => rfl) _
  have herror : Json.Reader.fits (.ofOption (fun r : Url.ParseError => .string r.message) e.urlError) 126 = true :=
    Json.Reader.fits_ofOption (fun _ => rfl) _
  have hstage : ∀ b : Option Bool, Json.Reader.fits (.ofOption .bool b) 126 = true :=
    Json.Reader.fits_ofOption fun _ => rfl
  show Json.Reader.fits (.object _) (126 + 1) = true
  simp only [Json.Reader.fits, Json.Reader.fitMembers, hparts, herror, hstage, Bool.and_self]

end Pattern

theorem memberOf?_explainLine (p : Pattern) (url : Text) :
    Json.memberOf? "matched" (explainLine p url) = some (.bool (p.test url)) := by
  rw [explainLine, Pattern.explanationJson, Json.memberOf?_toText _ (Pattern.isWellFormed_explanationJson _)
    (Pattern.fits_explanationJson _), ← p.matched_explain url]
  rfl

/-! ## Evaluations -/

theorem isWellFormed_indicesJson (is : List Nat) : (indicesJson is).IsWellFormed := by
  refine .array fun v hv => ?_
  obtain ⟨i, _, rfl⟩ := List.mem_map.mp hv
  exact .number (Number.isWellFormed_ofNat i)

theorem isWellFormed_evaluationJson (url : Text) (e : Evaluation) : (evaluationJson url e).IsWellFormed := by
  refine .object ?_
  simp only [List.forall_mem_cons]
  exact ⟨.string url, .bool _, isWellFormed_indicesJson _, isWellFormed_indicesJson _, fun _ h => nomatch h⟩

theorem not_mem_scopeLine (rules : List Rule) (url : Text) : '\n' ∉ scopeLine rules url :=
  Json.not_mem_toText (isWellFormed_evaluationJson ..)

/-- **A scope with one rule, which includes.** -/
def Scope.including (pattern : Text) : Scope := ⟨[{ kind := .including, pattern := .ofText pattern }]⟩

theorem Scope.isBuilt_including (pattern : Text) : (including pattern).IsBuilt := by
  intro r hr
  rw [List.mem_singleton.mp hr]
  exact ⟨⟨.text pattern, []⟩, rfl⟩

/-- With one rule that includes, an evaluation is the test of its pattern. -/
theorem evaluate_including (pattern url : Text) :
    evaluate (Scope.including pattern).rules url =
      ⟨(Pattern.ofText pattern).test url, if (Pattern.ofText pattern).test url then [0] else [], []⟩ := by
  have happlies := applies_partsOf { kind := .including, pattern := .ofText pattern } url
  show (Evaluation.note (partsOf url) {} (({ kind := .including, pattern := .ofText pattern } : Rule), 0)).conclude = _
  rw [Evaluation.note, happlies]
  cases (Pattern.ofText pattern).test url <;> rfl

/-- **A line of an evaluation says what was evaluated**, with one rule that includes. -/
theorem memberOf?_scopeLine (pattern url : Text) {verdict : Bool} (h : (Pattern.ofText pattern).test url = verdict) :
    Json.memberOf? "url" (scopeLine (Scope.including pattern).rules url) = some (.string url) ∧
      Json.memberOf? "in_scope" (scopeLine (Scope.including pattern).rules url) = some (.bool verdict) ∧
      Json.memberOf? "matched_include" (scopeLine (Scope.including pattern).rules url) =
        some (indicesJson (if verdict then [0] else [])) ∧
      Json.memberOf? "matched_exclude" (scopeLine (Scope.including pattern).rules url) = some (indicesJson []) := by
  have hfits : Json.Reader.fits
      (evaluationJson url ⟨verdict, if verdict then [0] else [], []⟩) Json.Reader.depth = true := by
    cases verdict <;> rfl
  have hread : ∀ name, Json.memberOf? name
      (evaluationJson url ⟨verdict, if verdict then [0] else [], []⟩).toText = _ :=
    fun name => Json.memberOf?_toText name (isWellFormed_evaluationJson _ _) hfits
  simp only [scopeLine, evaluate_including, h, hread]
  exact ⟨rfl, rfl, rfl, rfl⟩

/-! ## What is written -/

/-- **Lines that no line feed breaks are what is between the line feeds** of what is written. -/
theorem Outcome.fields_output (o : Outcome) (h : ∀ line ∈ o.lines, '\n' ∉ line) :
    Text.fields (· == '\n') o.output = o.lines ++ [[]] := by
  obtain ⟨lines, warnings, failure⟩ := o
  show Text.fields _ (lines.flatMap (· ++ ['\n'])) = lines ++ [[]]
  induction lines with
  | nil => rfl
  | cons line lines ih =>
    obtain ⟨hline, hlines⟩ := List.forall_mem_cons.mp h
    have hfree : ∀ c ∈ line, (c == '\n') = false := fun c hc => beq_eq_false_iff_ne.mpr fun e => hline (e ▸ hc)
    rw [List.flatMap_cons, List.append_assoc, List.singleton_append, Text.fields_append_cons rfl,
      Text.fields_of_not_mem hfree, ih hlines]
    rfl

/-- What `scope` does with a file that a scope was saved to. -/
theorem run_scope_of_saved {s : Scope} (h : s.IsBuilt) (files : Files) (file : Text) (urls : List Text) :
    (Command.scope file urls).run (((⟨s, files⟩ : Session).run (.save file)).1.files.get? file) =
      { lines := urls.map (scopeLine s.rules), warnings := s.warnings } := by
  have hget : ((⟨s, files⟩ : Session).run (.save file)).1.files.get? file = some (some s.toToml) :=
    Files.get?_put_self ..
  rw [hget, Command.run, Scope.load_toToml h]

/-! ## Verdicts -/

/-- Whether a line of a test says a verdict about a URL. -/
def TestSays (verdict : Bool) (url line : Text) : Prop :=
  line = (if verdict then "match".toList else "no match".toList) ++ '\t' :: url

/-- Whether a line of an explanation says a verdict. -/
def ExplainSays (verdict : Bool) (line : Text) : Prop := Json.memberOf? "matched" line = some (.bool verdict)

/-- Whether a line of an evaluation says a verdict: the only rule is noted if the URL is in scope, and never to exclude
it. -/
def ScopeSays (verdict : Bool) (line : Text) : Prop :=
  Json.memberOf? "in_scope" line = some (.bool verdict) ∧
    Json.memberOf? "matched_include" line = some (indicesJson (if verdict then [0] else [])) ∧
    Json.memberOf? "matched_exclude" line = some (indicesJson [])

theorem testSays_iff {p : Pattern} {url : Text} {verdict : Bool} :
    TestSays verdict url (testLine p url) ↔ p.test url = verdict := by
  rw [TestSays, testLine, List.append_left_inj]
  cases p.test url <;> cases verdict <;> decide

theorem explainSays_iff {p : Pattern} {url : Text} {verdict : Bool} :
    ExplainSays verdict (explainLine p url) ↔ p.test url = verdict := by
  rw [ExplainSays, memberOf?_explainLine, Option.some.injEq, Json.bool.injEq]

theorem scopeSays_iff {pattern url : Text} {verdict : Bool} :
    ScopeSays verdict (scopeLine (Scope.including pattern).rules url) ↔ (Pattern.ofText pattern).test url = verdict := by
  constructor
  · rintro ⟨hin, -⟩
    obtain ⟨-, hin', -⟩ := memberOf?_scopeLine pattern url rfl
    rw [hin', Option.some.injEq, Json.bool.injEq] at hin
    exact hin
  · intro h
    exact (memberOf?_scopeLine pattern url h).2

/-- **The commands give one verdict.** For any pattern, a test and an evaluation, under the file to which one rule that
includes was saved, write one line for each URL, in their order; the lines of the evaluation are what is between its
line feeds. Each of them is about its URL, and says a verdict exactly if the test does, and the explanation. -/
theorem commands_give_one_verdict (pattern : Text) (urls : List Text) (files : Files) (file : Text) :
    let saved := ((⟨.including pattern, files⟩ : Session).run (.save file)).1.files.get? file
    let tests := (Command.test pattern urls).run none
    let evaluations := (Command.scope file urls).run saved
    tests.failure = none ∧ tests.lines.length = urls.length ∧
      evaluations.failure = none ∧ evaluations.lines.length = urls.length ∧
      Text.fields (· == '\n') evaluations.output = evaluations.lines ++ [[]] ∧
      ∀ i : Fin urls.length, ∃ tested explained evaluated,
        tests.lines[i]? = some tested ∧ (Command.explain pattern urls[i]).run none = { lines := [explained] } ∧
          evaluations.lines[i]? = some evaluated ∧ Json.memberOf? "url" evaluated = some (.string urls[i]) ∧
          (∃ verdict, TestSays verdict urls[i] tested) ∧
          ∀ verdict, (TestSays verdict urls[i] tested ↔ ExplainSays verdict explained) ∧
            (ExplainSays verdict explained ↔ ScopeSays verdict evaluated) := by
  intro saved tests evaluations
  have hevaluations : evaluations = { lines := urls.map (scopeLine _), warnings := _ } :=
    run_scope_of_saved (Scope.isBuilt_including pattern) files file urls
  have hlines : evaluations.lines = urls.map (scopeLine (Scope.including pattern).rules) :=
    congrArg Outcome.lines hevaluations
  refine ⟨rfl, List.length_map _, congrArg Outcome.failure hevaluations, by rw [hlines, List.length_map],
    Outcome.fields_output _ fun line hline => ?_, fun i => ?_⟩
  · rw [hlines] at hline
    obtain ⟨url, _, rfl⟩ := List.mem_map.mp hline
    exact not_mem_scopeLine _ url
  · have hline : ∀ f : Text → Text, (urls.map f)[i.val]? = some (f urls[i]) := fun f => by
      rw [List.getElem?_map, List.getElem?_eq_getElem i.isLt]
      rfl
    refine ⟨testLine (.ofText pattern) urls[i], explainLine (.ofText pattern) urls[i],
      scopeLine (Scope.including pattern).rules urls[i], hline _, rfl, ?_, (memberOf?_scopeLine pattern _ rfl).1,
      ⟨_, testSays_iff.mpr rfl⟩, fun verdict => ⟨?_, ?_⟩⟩
    · rw [hlines]
      exact hline _
    · exact testSays_iff.trans explainSays_iff.symm
    · exact explainSays_iff.trans scopeSays_iff.symm

end WebScope
