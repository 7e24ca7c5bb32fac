import WebScope.Text.Basic

/-!
# Runs of code points

Properties of characters are tables of runs. A table is written as words between spaces and line feeds, one for each run, in
ascending order and without overlap:

- `0041` is one code point, `0300-036F` a range, and `0100-012E/2` every second code point of a range;
- `=` gives all of the run the same data, `+` moves the data along with the code point. Data are numbers with dots
  between them, all in base sixteen.

`Runs.find?` looks a code point up by halving, `Run.data?` is what one run says of it.
-/

namespace WebScope

/-- **A run**: every `step`-th code point from `first` to `last`, with the data of the first of them. -/
structure Run where
  first : Nat
  last : Nat
  step : Nat
  data : List Nat
  /-- Whether the data move along with the code point. -/
  moves : Bool
  deriving Repr

/-- The data that a run holds for a code point. -/
def Run.data? (r : Run) (n : Nat) : Option (List Nat) :=
  if r.first ≤ n ∧ n ≤ r.last ∧ (n - r.first) % r.step = 0 then
    some (if r.moves then r.data.map (· + (n - r.first)) else r.data)
  else none

/-- A table of runs, in ascending order. -/
abbrev Runs := Array Run

namespace Runs

/-! ## Reading a table -/

/-- A number in base sixteen; a malformed one counts as zero. -/
def hex (s : Text) : Nat := (Text.number? 16 s).getD 0

/-- The range and the step that a word starts with, with no data. -/
def extent (s : Text) : Run :=
  let (range, step) := (Text.cut? '/' s).getD (s, ['1'])
  let (first, last) := (Text.cut? '-' range).getD (range, range)
  ⟨hex first, hex last, hex step, [], false⟩

/-- The data of a word. -/
def dataOf (s : Text) : List Nat := (Text.fields (· == '.') s).map hex

/-- One word of a table. -/
def ofWord (s : Text) : Run :=
  match Text.cut? '=' s, Text.cut? '+' s with
  | some (e, d), _ => { extent e with data := dataOf d }
  | none, some (e, d) => { extent e with data := dataOf d, moves := true }
  | none, none => extent s

/-- **Reads a table.** -/
def ofText (s : String) : Runs :=
  (((Text.fields (fun c => c == ' ' || c == '\n') s.toList).filter (· ≠ [])).map ofWord).toArray

/-! ## Looking a code point up -/

/-- The data of the run that covers `n` among the runs from place `lo` to before place `hi`. -/
def findIn? (runs : Runs) (n lo hi : Nat) : Option (List Nat) :=
  if _h : lo < hi then
    let mid := (lo + hi) / 2
    match runs[mid]? with
    | none => none
    | some r =>
      if n < r.first then findIn? runs n lo mid
      else if r.last < n then findIn? runs n (mid + 1) hi
      else r.data? n
  else none
termination_by hi - lo

/-- **The data of a character**, if a run covers it. -/
def find? (runs : Runs) (c : Char) : Option (List Nat) := findIn? runs c.toNat 0 runs.size

/-- Whether a run covers a character. -/
def covers (runs : Runs) (c : Char) : Bool := (runs.find? c).isSome

/-- The only number that the table gives for a character, or zero. -/
def value (runs : Runs) (c : Char) : Nat := ((runs.find? c).bind List.head?).getD 0

end Runs
end WebScope
