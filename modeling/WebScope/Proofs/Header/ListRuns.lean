import Mathlib.Algebra.GroupWithZero.Nat
import WebScope.Header.List
import WebScope.Proofs.Text.LetterCase

/-!
# Runs over lists of headers

A list of headers takes steps: headers are added at the end, and all headers of a key are removed. What a key is looked
up to be depends on the headers of that key only, those that are switched off included (`named`).

- A step about another key leaves the headers of a key as they are (`named_run_of_other`).
- Each header comes into the list at some point of a run and sees the steps behind that point (`insertions`). It is left
  if none of them removes its key (`remaining`). Taking one step and then the others leaves the same headers as taking
  all (`remaining_cons`), so **the headers of a key behind a run are those that are left** (`named_runAll`).

Main statement: **a list is a multimap whose keys ignore case**, behind every run (`multimap_after_run`).
-/

namespace WebScope
namespace HeaderList

open Text (SameInAnyCase)

/-! ## Steps -/

/-- **What changes a list.** -/
inductive Step
  | push (header : Header)
  | remove (key : Text)

/-- The key that a step is about. -/
def Step.key : Step → Text
  | .push h => h.key
  | .remove k => k

/-- Whether a step removes the headers of a key. -/
def Step.Removes (key : Text) : Step → Prop
  | .push _ => False
  | .remove k => SameInAnyCase k key

instance (key : Text) : (step : Step) → Decidable (step.Removes key)
  | .push _ => .isFalse id
  | .remove k => inferInstanceAs (Decidable (SameInAnyCase k key))

/-- **Takes a step**: the list behind it, and how many headers it took away. -/
def run (l : HeaderList) : Step → HeaderList × Nat
  | .push h => (l.push h, 0)
  | .remove k => (l.remove k, l.removed k)

/-- Takes several steps: the list behind them, and how many headers each of them took away. -/
def runAll (l : HeaderList) : List Step → HeaderList × List Nat
  | [] => (l, [])
  | step :: steps =>
    let (l, count) := l.run step
    let (l, counts) := l.runAll steps
    (l, count :: counts)

/-! ## The headers of a key -/

/-- **The headers of a key**, in order, whether they are switched on or not. -/
def named (l : HeaderList) (key : Text) : List Header := l.headers.filter (hasKey key)

theorem hasKey_iff {key : Text} {h : Header} : hasKey key h = true ↔ SameInAnyCase h.key key := Text.eqIgnoringCase_iff

/-- The headers of one key are the headers of all keys that are equal to it. -/
theorem hasKey_congr {k key : Text} {h : Header} (hk : SameInAnyCase h.key key) :
    hasKey k h = true ↔ SameInAnyCase k key := by
  rw [hasKey_iff]
  exact ⟨fun hkey => hkey.symm.trans hk, fun hkey => hk.trans hkey.symm⟩

section Answers

variable (l : HeaderList) (key : Text)

theorem getAll_eq : l.getAll key = ((l.named key).filter fun h => !h.isDisabled).map Header.value := by
  rw [getAll, Property.enabled, List.filter_comm]
  rfl

theorem contains_iff : l.contains key = true ↔ l.named key ≠ [] := by
  rw [contains, named, ne_eq, List.filter_eq_nil_iff, List.any_eq_true]
  simp

theorem removed_eq : l.removed key = (l.named key).length := List.countP_eq_length_filter

end Answers

/-- **Two lists give the same answers for a key.** -/
structure SameAnswers (key : Text) (l l' : HeaderList) : Prop where
  getAll : l.getAll key = l'.getAll key
  get? : l.get? key = l'.get? key
  contains : l.contains key = l'.contains key
  removed : l.removed key = l'.removed key

/-- The headers of a key decide what is answered for it. -/
theorem sameAnswers_of_named {key : Text} {l l' : HeaderList} (h : l.named key = l'.named key) :
    SameAnswers key l l' := by
  have hall : l.getAll key = l'.getAll key := by rw [getAll_eq, getAll_eq, h]
  refine ⟨hall, congrArg List.head? hall, ?_, ?_⟩
  · rw [Bool.eq_iff_iff, contains_iff, contains_iff, h]
  · rw [removed_eq, removed_eq, h]

/-- **A step about another key leaves the headers of a key as they are.** -/
theorem named_run_of_other (l : HeaderList) {step : Step} {key : Text} (h : ¬SameInAnyCase step.key key) :
    (l.run step).1.named key = l.named key := by
  cases step with
  | push header =>
    show (l.headers ++ [header]).filter (hasKey key) = l.headers.filter (hasKey key)
    have hother : hasKey key header ≠ true := mt hasKey_iff.mp h
    rw [List.filter_append, List.filter_cons_of_neg hother, List.filter_nil, List.append_nil]
  | remove k =>
    show (l.headers.filter fun header => !hasKey k header).filter (hasKey key) = l.headers.filter (hasKey key)
    rw [List.filter_filter]
    refine List.filter_congr fun header _ => ?_
    cases hkey : hasKey key header with
    | false => rfl
    | true =>
      have hother : hasKey k header ≠ true := mt (hasKey_congr (hasKey_iff.mp hkey)).mp h
      simp [hother]

/-! ## What is left of a run -/

/-- The headers that steps add, each with the steps behind. -/
def added : List Step → List (Header × List Step)
  | [] => []
  | .push h :: steps => (h, steps) :: added steps
  | .remove _ :: steps => added steps

/-- **The headers that come into a list**, each with the steps behind its insertion: those that are in it at the start,
and those that are added. -/
def insertions (l : HeaderList) (steps : List Step) : List (Header × List Step) :=
  l.headers.map (fun h => (h, steps)) ++ added steps

/-- Whether an insertion is one of a header of a key that no step behind it removes. -/
def Remains (key : Text) (insertion : Header × List Step) : Prop :=
  SameInAnyCase insertion.1.key key ∧ ∀ step ∈ insertion.2, ¬step.Removes key

instance (key : Text) (insertion : Header × List Step) : Decidable (Remains key insertion) :=
  inferInstanceAs (Decidable (_ ∧ _))

/-- **The headers of a key that are left**, in the order of their insertion. -/
def remaining (l : HeaderList) (steps : List Step) (key : Text) : List Header :=
  ((l.insertions steps).filter fun insertion => Remains key insertion).map Prod.fst

theorem remaining_eq (l : HeaderList) (steps : List Step) (key : Text) : l.remaining steps key =
    l.headers.filter (fun h => Remains key (h, steps)) ++
      ((added steps).filter fun insertion => Remains key insertion).map Prod.fst := by
  rw [remaining, insertions, List.filter_append, List.map_append, List.filter_map, List.map_map]
  congr 1
  exact List.map_id'' (fun _ => rfl) _

theorem remaining_nil (l : HeaderList) (key : Text) : l.remaining [] key = l.named key := by
  rw [remaining_eq, added, List.filter_nil, List.map_nil, List.append_nil, named]
  refine List.filter_congr fun h _ => ?_
  rw [Bool.eq_iff_iff, decide_eq_true_iff, hasKey_iff]
  simp [Remains]

theorem remains_push_iff (key : Text) (h header : Header) (steps : List Step) :
    Remains key (h, .push header :: steps) ↔ Remains key (h, steps) := by
  simp only [Remains, List.forall_mem_cons, Step.Removes, not_false_iff, true_and]

/-- A removal that is still to come takes what it would take at once. -/
theorem remains_remove_iff (key : Text) (h : Header) (k : Text) (steps : List Step) :
    Remains key (h, .remove k :: steps) ↔ Remains key (h, steps) ∧ hasKey k h = false := by
  simp only [Remains, List.forall_mem_cons, Step.Removes]
  constructor
  · rintro ⟨hkey, hk, hsteps⟩
    exact ⟨⟨hkey, hsteps⟩, by simpa using mt (hasKey_congr hkey).mp hk⟩
  · rintro ⟨⟨hkey, hsteps⟩, hk⟩
    refine ⟨hkey, fun hremoves => ?_, hsteps⟩
    rw [(hasKey_congr hkey).mpr hremoves] at hk
    cases hk

/-- **Taking one step and then the others leaves the same headers as taking all.** -/
theorem remaining_cons (l : HeaderList) (step : Step) (steps : List Step) (key : Text) :
    l.remaining (step :: steps) key = (l.run step).1.remaining steps key := by
  rw [remaining_eq, remaining_eq]
  cases step with
  | push header =>
    show _ = (l.headers ++ [header]).filter _ ++ _
    simp only [remains_push_iff, added]
    rw [List.filter_append, List.append_assoc]
    congr 1
    by_cases hr : Remains key (header, steps)
    · rw [List.filter_cons_of_pos (by simpa using hr), List.filter_cons_of_pos (by simpa using hr)]
      rfl
    · rw [List.filter_cons_of_neg (by simpa using hr), List.filter_cons_of_neg (by simpa using hr)]
      rfl
  | remove k =>
    show _ = (l.headers.filter fun h => !hasKey k h).filter _ ++ _
    rw [List.filter_filter, added]
    congr 1
    refine List.filter_congr fun h _ => ?_
    rw [Bool.eq_iff_iff, decide_eq_true_iff, remains_remove_iff]
    simp

/-- **The headers of a key behind a run are those that are left.** -/
theorem named_runAll : ∀ (steps : List Step) (l : HeaderList) (key : Text),
    (l.runAll steps).1.named key = l.remaining steps key
  | [], l, key => (l.remaining_nil key).symm
  | step :: steps, l, key => by
    rw [remaining_cons, ← named_runAll steps (l.run step).1 key]
    rfl

/-- What was taken away and what is in the list at the end make up all that came into it. -/
theorem size_runAll : ∀ (steps : List Step) (l : HeaderList),
    (l.runAll steps).1.size + (l.runAll steps).2.sum = l.size + (added steps).length
  | [], l => rfl
  | step :: steps, l => by
    have ih := size_runAll steps (l.run step).1
    show ((l.run step).1.runAll steps).1.size + ((l.run step).2 :: ((l.run step).1.runAll steps).2).sum = _
    rw [List.sum_cons]
    cases step with
    | push header =>
      have hsize : (l.run (.push header)).1.size = l.size + 1 := by simp [run, push, size]
      have hcount : (l.run (.push header)).2 = 0 := rfl
      rw [added, List.length_cons]
      omega
    | remove k =>
      have hsize : (l.run (.remove k)).1.size + (l.run (.remove k)).2 = l.size := l.size_remove_add_removed k
      rw [added]
      omega

/-- The values of a key that are left and switched on, in the order of their insertion. -/
def remainingValues (l : HeaderList) (steps : List Step) (key : Text) : List Text :=
  ((l.remaining steps key).filter fun h => !h.isDisabled).map Header.value

/-- **A list is a multimap whose keys ignore case**, behind every run and for every key. The headers of the key that are
left are those that came into the list, and that no removal behind their insertion took: the values of those that are
switched on are found, the first of them is the first that is found, the list contains the key if there are any at all,
and a removal takes all of them. Headers are counted exactly. A step about a key that differs by more than case changes
none of the answers. -/
theorem multimap_after_run (l : HeaderList) (steps : List Step) (key : Text) :
    ((l.runAll steps).1.getAll key = l.remainingValues steps key ∧
      (l.runAll steps).1.get? key = (l.remainingValues steps key).head? ∧
      ((l.runAll steps).1.contains key = true ↔ ∃ h, h ∈ l.remaining steps key) ∧
      ((l.runAll steps).1.run (.remove key)).2 = (l.remaining steps key).length) ∧
    (l.runAll steps).1.size + (l.runAll steps).2.sum = l.size + (added steps).length ∧
    ∀ step : Step, ¬SameInAnyCase step.key key →
      SameAnswers key ((l.runAll steps).1.run step).1 (l.runAll steps).1 := by
  have hall : (l.runAll steps).1.getAll key = l.remainingValues steps key := by
    rw [getAll_eq, named_runAll, remainingValues]
  refine ⟨⟨hall, congrArg List.head? hall, ?_, ?_⟩, size_runAll steps l, fun step h =>
    sameAnswers_of_named (named_run_of_other _ h)⟩
  · rw [contains_iff, named_runAll]
    exact ⟨List.exists_mem_of_ne_nil _, fun ⟨_, h⟩ => List.ne_nil_of_mem h⟩
  · show (l.runAll steps).1.removed key = _
    rw [removed_eq, named_runAll]

/-- A list with one key in both cases, and a header that is switched off. -/
def twoCases : HeaderList :=
  ⟨[{ key := "Via".toList, value := "1".toList }, { key := "Host".toList, value := "2".toList },
    { key := "VIA".toList, value := "3".toList, disabled := some true }]⟩

/-- A run that removes the key, and adds it again in both ways. -/
def renewal : List Step :=
  [.push { key := "via".toList, value := "4".toList }, .remove "viA".toList,
    .push { key := "Via".toList, value := "5".toList, disabled := some true },
    .push { key := "vIa".toList, value := "6".toList }]

/-- Behind it the value that was added last is found, and removing another key changes nothing of this. -/
theorem getAll_after_renewal :
    ¬SameInAnyCase (Step.remove "host".toList).key "VIA".toList ∧
      (twoCases.runAll renewal).1.getAll "VIA".toList = ["6".toList] ∧
      SameAnswers "VIA".toList ((twoCases.runAll renewal).1.run (.remove "host".toList)).1
        (twoCases.runAll renewal).1 := by
  have hother : ¬SameInAnyCase (Step.remove "host".toList).key "VIA".toList := by decide
  obtain ⟨⟨hall, -⟩, -, hsame⟩ := multimap_after_run twoCases renewal "VIA".toList
  have hvalues : twoCases.remainingValues renewal "VIA".toList = ["6".toList] := by decide
  exact ⟨hother, hall.trans hvalues, hsame _ hother⟩

end HeaderList
end WebScope
