import WebScope.Json.Reader

/-!
# Values that are read and values that are stepped over

A reader follows a value that it wants in full, with an eye on depth, numbers and surrogates; over any other value it
steps, and minds only the holes. Members that are no fields of a record are stepped over, so what is read of a record says
less than what is read of the same object as a value.

- A list or an object is read if it is closed and all that is in it is read (`valueOf_array_eq_ok_iff`,
  `valueOf_object_eq_ok_iff`).
- **What can be read can be stepped over** (`skip?_of_valueOf`).
- A text is read if its tree is and nothing stands behind it (`run_eq_ok_iff`).
-/

namespace WebScope
namespace Json
namespace Reader

/-! ## Steps that succeed -/

theorem bind_eq_ok_iff {α β : Type} {x : Except Fault α} {f : α → Except Fault β} {b : β} :
    (x >>= f) = .ok b ↔ ∃ a, x = .ok a ∧ f a = .ok b := by
  cases x with
  | error e => exact iff_of_false nofun (by rintro ⟨a, h, -⟩; cases h)
  | ok a => exact ⟨fun h => ⟨a, rfl, h⟩, by rintro ⟨_, ⟨⟩, h⟩; exact h⟩

theorem map_eq_ok_iff {α β : Type} {x : Except Fault α} {f : α → β} {b : β} :
    x.map f = .ok b ↔ ∃ a, x = .ok a ∧ b = f a := by
  cases x <;> simp [Except.map, eq_comm]

theorem close_eq_ok_iff {α : Type} {hole : Option Hole} {a b : α} : close hole a = .ok b ↔ hole = none ∧ a = b := by
  cases hole <;> simp [close]

theorem text_eq_ok_iff {name : Option Text} {s : Text} : text name = .ok s ↔ name = some s := by
  cases name <;> simp [text]

/-- **A text is read** if its tree is, and nothing stands behind it. -/
theorem run_eq_ok_iff {α : Type} {r : Reader α} {s : Text} {a : α} :
    run r s = .ok a ↔ r depth (Tree.ofText s).1 = .ok a ∧ (Tree.ofText s).2 = false := by
  unfold run
  cases hr : r depth (Tree.ofText s).1 with
  | error f => simp [hr]
  | ok b => cases hmore : (Tree.ofText s).2 <;> simp [hr, hmore]

/-! ## Lists and objects that are read -/

section Read

variable {t : Tree} {ts : List Tree} {ms : List (Option Text × Tree)} {name : Option Text} {hole : Option Hole}
  {room : Nat} {v : Json} {vs : List Json} {l : List (Text × Json)}

theorem valueOf_array_eq_ok_iff :
    valueOf (.array ts hole) (room + 1) = .ok v ↔ ∃ vs, itemsOf ts room = .ok vs ∧ hole = none ∧ v = .array vs := by
  simp only [valueOf, bind_eq_ok_iff, close_eq_ok_iff, eq_comm (b := v)]

theorem valueOf_object_eq_ok_iff :
    valueOf (.object ms hole) (room + 1) = .ok v ↔ ∃ l, membersOf ms room = .ok l ∧ hole = none ∧ v = .object l := by
  simp only [valueOf, bind_eq_ok_iff, close_eq_ok_iff, eq_comm (b := v)]

theorem itemsOf_cons_eq_ok_iff :
    itemsOf (t :: ts) room = .ok vs ↔ ∃ w ws, valueOf t room = .ok w ∧ itemsOf ts room = .ok ws ∧ vs = w :: ws := by
  simp only [itemsOf, bind_eq_ok_iff, pure, Except.pure, Except.ok.injEq, eq_comm (b := vs)]
  grind

theorem membersOf_cons_eq_ok_iff :
    membersOf ((name, t) :: ms) room = .ok l ↔
      ∃ n w ws, name = some n ∧ valueOf t room = .ok w ∧ membersOf ms room = .ok ws ∧ l = (n, w) :: ws := by
  simp only [membersOf, bind_eq_ok_iff, text_eq_ok_iff, pure, Except.pure, Except.ok.injEq, eq_comm (b := l)]
  grind

end Read

/-! ## Stepping over what is read -/

mutual

/-- **What can be read can be stepped over.** -/
theorem skip?_of_valueOf : ∀ {t : Tree} {room : Nat} {v : Json}, valueOf t room = .ok v → skip? t = none
  | .null, _, _, _ => rfl
  | .bool _, _, _, _ => rfl
  | .number _, _, _, _ => rfl
  | .string _, _, _, _ => rfl
  | .array _ _, 0, _, h => by cases h
  | .array ts hole, room + 1, v, h => by
    obtain ⟨vs, hvs, rfl, -⟩ := valueOf_array_eq_ok_iff.mp h
    rw [skip?, skipItems?_of_itemsOf hvs]
    rfl
  | .object _ _, 0, _, h => by cases h
  | .object ms hole, room + 1, v, h => by
    obtain ⟨l, hl, rfl, -⟩ := valueOf_object_eq_ok_iff.mp h
    rw [skip?, skipMembers?_of_membersOf hl]
    rfl
  | .broken _, _, _, h => by cases h

theorem skipItems?_of_itemsOf : ∀ {ts : List Tree} {room : Nat} {vs : List Json}, itemsOf ts room = .ok vs →
    skipItems? ts = none
  | [], _, _, _ => rfl
  | t :: ts, room, vs, h => by
    obtain ⟨w, ws, hw, hws, -⟩ := itemsOf_cons_eq_ok_iff.mp h
    rw [skipItems?, skip?_of_valueOf hw, skipItems?_of_itemsOf hws]
    rfl

theorem skipMembers?_of_membersOf : ∀ {ms : List (Option Text × Tree)} {room : Nat} {l : List (Text × Json)},
    membersOf ms room = .ok l → skipMembers? ms = none
  | [], _, _, _ => rfl
  | (name, t) :: ms, room, l, h => by
    obtain ⟨n, w, ws, -, hw, hws, -⟩ := membersOf_cons_eq_ok_iff.mp h
    rw [skipMembers?, skip?_of_valueOf hw, skipMembers?_of_membersOf hws]
    rfl

end

/-! ## Members of a record -/

section Members

variable {σ : Type} {fields : List (Field σ)} {f : Field σ} {room : Nat} {hole : Option Hole} {name : Text} {t : Tree}
  {ms : List (Option Text × Tree)} {seen : List Text} {a b : σ}

/-- A member that is a field, and was not met before, adds what is read from it. -/
theorem fieldMembers_of_find? (hfind : fields.find? (·.name == name) = some f) (hseen : name ∉ seen)
    (hread : f.read a room t = .ok b) :
    fieldMembers fields room hole ((some name, t) :: ms) seen a = fieldMembers fields room hole ms (name :: seen) b := by
  have hnew : seen.contains name = false := by simpa using hseen
  simp only [fieldMembers, text, bind, Except.bind, hfind, hnew, Bool.false_eq_true, if_false, hread]

/-- A field that was met before is a fault. -/
theorem fieldMembers_of_seen (hfind : fields.find? (·.name == name) = some f) (hseen : name ∈ seen) :
    fieldMembers fields room hole ((some name, t) :: ms) seen a = .error .mismatch := by
  have hold : seen.contains name = true := by simpa using hseen
  simp only [fieldMembers, text, bind, Except.bind, hfind, hold, if_true]

/-- A member that is no field is stepped over. -/
theorem fieldMembers_of_skip? (hfind : fields.find? (·.name == name) = none) (hskip : skip? t = none) :
    fieldMembers fields room hole ((some name, t) :: ms) seen a = fieldMembers fields room hole ms seen a := by
  simp only [fieldMembers, text, bind, Except.bind, hfind, hskip]

end Members

end Reader
end Json
end WebScope
