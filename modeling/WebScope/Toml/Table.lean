import WebScope.Toml.Value

/-!
# Building tables

Tables grow along paths of keys. `Table.assign` adds an entry at a dotted key, `Table.fill` opens the table or the array
of tables that a header names and fills it. What is there already must allow it: no key is set twice, a table has one
header at most, dotted keys lead only through tables that dotted keys or inner headers made, and nothing leads into
braces.
-/

namespace WebScope
namespace Toml
namespace Table

/-- Replaces the value of the first entry of a key. -/
def replace (key : Text) (v : Value) : Entries → Entries
  | [] => []
  | (k, w) :: es => if key = k then (k, v) :: es else (k, w) :: replace key v es

/-- Changes the last of a list of tables. -/
def changeLast (f : Entries → Option Entries) : List Value → Option (List Value)
  | [] => none
  | [.table origin es] => (f es).map fun es => [.table origin es]
  | [_] => none
  | v :: vs => (changeLast f vs).map (v :: ·)

/-- The origin of a table that is made on the way along a path. -/
def newOrigin (dotted : Bool) : Origin := if dotted then .dotted else .implied

/-- Whether a path can lead through a table. -/
def isPassable (dotted : Bool) : Origin → Bool
  | .header => !dotted
  | .implied | .dotted => true
  | .braces => false

/-- **Changes the table at the end of a path**, which starts at a table with the given origin and entries. Tables that
are missing are made; of an array of tables the last one is meant. -/
def changeAt (dotted : Bool) (f : Origin → Entries → Option Entries) : List Text → Origin → Entries → Option Entries
  | [], origin, es => f origin es
  | key :: path, _, es =>
    match es.lookup key with
    | none =>
      (changeAt dotted f path (newOrigin dotted) []).map fun inner => es ++ [(key, .table (newOrigin dotted) inner)]
    | some (.table origin inner) =>
      if isPassable dotted origin then
        (changeAt dotted f path origin inner).map fun inner => replace key (.table origin inner) es
      else none
    | some (.array true vs) =>
      (changeLast (changeAt dotted f path .header) vs).map fun vs => replace key (.array true vs) es
    | some _ => none

/-- Adds an entry for a key that has none yet. -/
def insert (key : Text) (v : Value) (es : Entries) : Option Entries :=
  match es.lookup key with
  | none => some (es ++ [(key, v)])
  | some _ => none

/-- **Adds an entry at a dotted key** with the parts `path` before the last one. A part before the last must lead to a
table that dotted keys made. -/
def assign (path : List Text) (key : Text) (v : Value) (es : Entries) : Option Entries :=
  changeAt true (fun origin es => if (origin == .dotted) == path.isEmpty then none else insert key v es) path .header es

/-- Opens the table of a header and fills it. A table that inner headers made before keeps what is in it. -/
def openTable (key : Text) (fill : Entries → Option Entries) (es : Entries) : Option Entries :=
  match es.lookup key with
  | none => (fill []).map fun inner => es ++ [(key, .table .header inner)]
  | some (.table .implied inner) => (fill inner).map fun inner => replace key (.table .header inner) es
  | some _ => none

/-- Adds a table to the array of tables of a header and fills it. -/
def openItem (key : Text) (fill : Entries → Option Entries) (es : Entries) : Option Entries :=
  match es.lookup key with
  | none => (fill []).map fun inner => es ++ [(key, .array true [.table .header inner])]
  | some (.array true vs) => (fill []).map fun inner => replace key (.array true (vs ++ [.table .header inner])) es
  | some _ => none

/-- **Fills the table that a header names**, with the parts `path` before the last one. -/
def fill (isItem : Bool) (path : List Text) (key : Text) (entries : Entries → Option Entries) (es : Entries) :
    Option Entries :=
  changeAt false (fun _ es => if isItem then openItem key entries es else openTable key entries es) path .header es

/-- A plain key is assigned by adding its entry. -/
theorem assign_nil (key : Text) (v : Value) (es : Entries) : assign [] key v es = insert key v es := rfl

end Table
end Toml
end WebScope
