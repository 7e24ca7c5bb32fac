import WebScope.Json.Tree

/-!
# Readers of JSON

A reader looks at the tree of a text with an expectation, and gives a value or the first fault that it meets from left
to right. Brackets are followed to a depth of 127 in values that are wanted, and to any depth in values that are stepped
over (`Tree.skip?`). `Reader.value` reads any value; `Reader.record` reads a record with named fields, written as an
object or as an array of its fields in order.
Main statement: a value is read back from its tree if brackets nest no deeper than there is room for and no number in it
is too large (`valueOf_ofJson`).
-/

namespace WebScope
namespace Json

/-- **A reader**: what it makes of a tree in which brackets can still nest to a given depth. -/
abbrev Reader (α : Type) := Nat → Tree → Except Fault α

namespace Reader

/-- How deep brackets can nest. -/
def depth : Nat := 127

/-- **Reads a whole text.** A fault of the value comes before text behind it. -/
def run {α : Type} (r : Reader α) (s : Text) : Except Fault α :=
  let (t, more) := Tree.ofText s
  match r depth t with
  | .error f => .error f
  | .ok a => if more then .error .malformed else .ok a

/-! ## Stepping over a value -/

mutual

/-- The first fault that a reader meets when it steps over a value. -/
def skip? : Tree → Option Fault
  | .array ts hole => (skipItems? ts).or (hole.map (·.skipped))
  | .object ms hole => (skipMembers? ms).or (hole.map (·.skipped))
  | .broken h => some h.skipped
  | _ => none

/-- The first fault among items. -/
def skipItems? : List Tree → Option Fault
  | [] => none
  | t :: ts => (skip? t).or (skipItems? ts)

/-- The first fault among members. -/
def skipMembers? : List (Option Text × Tree) → Option Fault
  | [] => none
  | (_, t) :: ms => (skip? t).or (skipMembers? ms)

end

/-! ## Any value -/

/-- The end of a list that is wanted. -/
def close {α : Type} (hole : Option Hole) (a : α) : Except Fault α :=
  match hole with
  | none => .ok a
  | some h => .error h.read

/-- A number that is wanted must not be too large. -/
def number (n : Number) : Except Fault Number := if n.overflows then .error .malformed else .ok n

/-- A string that is wanted must have a text. -/
def text (s : Option Text) : Except Fault Text :=
  match s with
  | some s => .ok s
  | none => .error .malformed

mutual

/-- The value of a tree, in which brackets can still nest to the depth `room`. -/
def valueOf : Tree → Nat → Except Fault Json
  | .null, _ => .ok .null
  | .bool b, _ => .ok (.bool b)
  | .number n, _ => (number n).map .number
  | .string s, _ => (text s).map .string
  | .array _ _, 0 => .error .malformed
  | .array ts hole, room + 1 => do close hole (.array (← itemsOf ts room))
  | .object _ _, 0 => .error .malformed
  | .object ms hole, room + 1 => do close hole (.object (← membersOf ms room))
  | .broken h, _ => .error h.read

/-- The values of items. -/
def itemsOf : List Tree → Nat → Except Fault (List Json)
  | [], _ => .ok []
  | t :: ts, room => do
    let v ← valueOf t room
    return v :: (← itemsOf ts room)

/-- The names and values of members. -/
def membersOf : List (Option Text × Tree) → Nat → Except Fault (List (Text × Json))
  | [], _ => .ok []
  | (name, t) :: ms, room => do
    let name ← text name
    let v ← valueOf t room
    return (name, v) :: (← membersOf ms room)

end

/-- **Reads any value.** -/
def value : Reader Json := fun room t => valueOf t room

/-! ## Values of one kind -/

/-- The fault of a value of another kind than the one expected. A scalar is read to its end before its kind matters. -/
def unexpected : Tree → Fault
  | .number n => if n.overflows then .malformed else .mismatch
  | .string none => .malformed
  | .broken h => h.read
  | _ => .mismatch

/-- Reads a string. -/
def string : Reader Text
  | _, .string (some s) => .ok s
  | _, t => .error (unexpected t)

/-- Reads a truth value. -/
def flag : Reader Bool
  | _, .bool b => .ok b
  | _, t => .error (unexpected t)

/-- Reads `null` as nothing. -/
def optional {α : Type} (r : Reader α) : Reader (Option α)
  | _, .null => .ok none
  | room, t => (r room t).map some

/-- Reads items, each in the same way. -/
def items {α : Type} (r : Reader α) (room : Nat) : List Tree → Except Fault (List α)
  | [] => .ok []
  | t :: ts => do
    let a ← r room t
    return a :: (← items r room ts)

/-- **Reads an array** whose items are all of one kind. -/
def list {α : Type} (r : Reader α) : Reader (List α)
  | 0, .array _ _ => .error .malformed
  | room + 1, .array ts hole => do close hole (← items r room ts)
  | _, t => .error (unexpected t)

/-! ## Records -/

/-- **A field of a record** that is gathered in a value of type `σ`. -/
structure Field (σ : Type) where
  name : Text
  isRequired : Bool := false
  /-- Reads the field and adds it to what is gathered. -/
  read : σ → Reader σ

/-- The fields in order, from an array; there must not be more items than fields. -/
def fieldItems {σ : Type} (room : Nat) (hole : Option Hole) : List (Field σ) → List Tree → σ → Except Fault σ
  | [], [], a => close hole a
  | [], _ :: _, _ => .error .malformed
  | f :: fs, [], a =>
    match hole with
    | some h => .error h.read
    | none => if f.isRequired then .error .mismatch else fieldItems room hole fs [] a
  | f :: fs, t :: ts, a => do fieldItems room hole fs ts (← f.read a room t)

/-- The fields of an object, of which the names `seen` were met already. A field must not be met twice; members that
are no fields are stepped over. -/
def fieldMembers {σ : Type} (fields : List (Field σ)) (room : Nat) (hole : Option Hole) :
    List (Option Text × Tree) → List Text → σ → Except Fault σ
  | [], seen, a =>
    match hole with
    | some h => .error h.read
    | none => if fields.any fun f => f.isRequired && !seen.contains f.name then .error .mismatch else .ok a
  | (name, t) :: ms, seen, a => do
    let name ← text name
    match fields.find? (·.name == name) with
    | some f =>
      if seen.contains name then .error .mismatch
      else fieldMembers fields room hole ms (name :: seen) (← f.read a room t)
    | none =>
      match skip? t with
      | some e => .error e
      | none => fieldMembers fields room hole ms seen a

/-- **Reads a record**, starting from the value `start`. -/
def record {σ : Type} (fields : List (Field σ)) (start : σ) : Reader σ
  | 0, .array _ _ => .error .malformed
  | 0, .object _ _ => .error .malformed
  | room + 1, .array ts hole => fieldItems room hole fields ts start
  | room + 1, .object ms hole => fieldMembers fields room hole ms [] start
  | _, t => .error (unexpected t)

/-! ## Values that are read in full -/

mutual

/-- Whether a value can be read: brackets nest no deeper than there is room for, and no number is too large. -/
def fits : Json → Nat → Bool
  | .number n, _ => !n.overflows
  | .array _, 0 => false
  | .array vs, room + 1 => fitItems vs room
  | .object _, 0 => false
  | .object ms, room + 1 => fitMembers ms room
  | _, _ => true

/-- Whether all items fit. -/
def fitItems : List Json → Nat → Bool
  | [], _ => true
  | v :: vs, room => fits v room && fitItems vs room

/-- Whether the values of all members fit. -/
def fitMembers : List (Text × Json) → Nat → Bool
  | [], _ => true
  | (_, v) :: ms, room => fits v room && fitMembers ms room

end

mutual

/-- **A value that can be read is read back from its tree.** -/
theorem valueOf_ofJson : ∀ (v : Json) (room : Nat), fits v room = true → valueOf (Tree.ofJson v) room = .ok v
  | .null, _, _ => rfl
  | .bool _, _, _ => rfl
  | .number n, _, h => by
    have hn : n.overflows = false := by simpa [fits] using h
    simp [Tree.ofJson, valueOf, number, hn, Except.map]
  | .string _, _, _ => rfl
  | .array _, 0, h => by simp [fits] at h
  | .array vs, room + 1, h => by
    rw [fits] at h
    rw [Tree.ofJson, valueOf, itemsOf_ofItems vs room h]; rfl
  | .object _, 0, h => by simp [fits] at h
  | .object ms, room + 1, h => by
    rw [fits] at h
    rw [Tree.ofJson, valueOf, membersOf_ofMembers ms room h]; rfl

/-- Items that can be read are read back. -/
theorem itemsOf_ofItems : ∀ (vs : List Json) (room : Nat), fitItems vs room = true →
    itemsOf (Tree.ofItems vs) room = .ok vs
  | [], _, _ => rfl
  | v :: vs, room, h => by
    simp only [fitItems, Bool.and_eq_true] at h
    rw [Tree.ofItems, itemsOf, valueOf_ofJson v room h.1, itemsOf_ofItems vs room h.2]; rfl

/-- Members that can be read are read back. -/
theorem membersOf_ofMembers : ∀ (ms : List (Text × Json)) (room : Nat), fitMembers ms room = true →
    membersOf (Tree.ofMembers ms) room = .ok ms
  | [], _, _ => rfl
  | (name, v) :: ms, room, h => by
    simp only [fitMembers, Bool.and_eq_true] at h
    rw [Tree.ofMembers, membersOf, valueOf_ofJson v room h.1, membersOf_ofMembers ms room h.2]; rfl

end

end Reader
end Json
end WebScope
