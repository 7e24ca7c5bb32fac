import WebScope.Json.Reader
import WebScope.Proofs.Json.Tokens

/-!
# Values of JSON are read back from their texts

`Json.toText` writes a value without blanks, and `Tree.ofText` reads a text as a tree. Scalars are read back as tokens;
arrays and objects by induction on the value, with any text behind it (`value_append`), because the value may stand in
another one. One step of fuel for each character is enough: the text of a value is longer than the texts of its parts.

- The text of a value that is well-formed is read as the tree of the value (`ofText_toText`), so a reader finds in the
  text what it finds in that tree (`Reader.run_toText`).
- **Every value that fits is read back** (`Reader.run_value_toText`).
-/

namespace WebScope
namespace Json

/-- **A value all of whose numbers are well-formed.** -/
inductive IsWellFormed : Json → Prop
  | null : IsWellFormed .null
  | bool (b : Bool) : IsWellFormed (.bool b)
  | number {n : Number} : n.IsWellFormed → IsWellFormed (.number n)
  | string (s : Text) : IsWellFormed (.string s)
  | array {vs : List Json} : (∀ v ∈ vs, IsWellFormed v) → IsWellFormed (.array vs)
  | object {ms : List (Text × Json)} : (∀ m ∈ ms, IsWellFormed m.2) → IsWellFormed (.object ms)

theorem isWellFormed_ofOption {α : Type} {f : α → Json} (h : ∀ a, (f a).IsWellFormed) (a : Option α) :
    (ofOption f a).IsWellFormed := by
  cases a with
  | none => exact .null
  | some a => exact h a

theorem isWellFormed_memberIfAny {α : Type} {f : α → Json} (h : ∀ a, (f a).IsWellFormed) (name : String)
    (a : Option α) : ∀ m ∈ memberIfAny name f a, m.2.IsWellFormed := by
  cases a with
  | none => exact fun _ hm => nomatch hm
  | some a => exact List.forall_mem_cons.mpr ⟨h a, fun _ hm => nomatch hm⟩

/-! ## Texts of strings and lists -/

theorem quote_append (s t : Text) : quote s ++ t = '"' :: (s.flatMap escape ++ '"' :: t) := by
  simp [quote]

theorem itemsText_cons (v w : Json) (vs : List Json) :
    itemsText (v :: w :: vs) = v.toText ++ ',' :: itemsText (w :: vs) := rfl

theorem membersText_singleton (name : Text) (v : Json) :
    membersText [(name, v)] = quote name ++ ':' :: (v.toText ++ ['\x7d']) := by
  simp [membersText]

theorem membersText_cons (name : Text) (v : Json) (m : Text × Json) (ms : List (Text × Json)) :
    membersText ((name, v) :: m :: ms) = quote name ++ ':' :: (v.toText ++ ',' :: membersText (m :: ms)) := by
  simp [membersText]

/-! ## Where a text starts -/

theorem dropBlanks_cons {c : Char} (h : isBlank c = false) (s : Text) : dropBlanks (c :: s) = c :: s :=
  List.dropWhile_cons_of_neg (by simp [h])

theorem not_isBlank_of_isDigit {c : Char} (h : c.isDigit = true) : isBlank c = false := by
  simp only [isBlank, Bool.or_eq_false_iff, beq_eq_false_iff_ne]
  refine ⟨⟨⟨?_, ?_⟩, ?_⟩, ?_⟩ <;> (rintro rfl; cases h)

/-- **How the text of a value starts**: not with a blank, and not like the end of an array. -/
def StartsValue (s : Text) : Prop := ∃ c r, s = c :: r ∧ isBlank c = false ∧ c ≠ ']'

theorem StartsValue.append {s : Text} (h : StartsValue s) (t : Text) : StartsValue (s ++ t) := by
  obtain ⟨c, r, rfl, hc⟩ := h
  exact ⟨c, r ++ t, rfl, hc⟩

theorem startsValue_number {n : Number} (h : n.IsWellFormed) : StartsValue n.toText := by
  rw [Number.toText_eq]
  split
  · exact ⟨'-', _, rfl, rfl, by decide⟩
  · obtain ⟨c, s, hs, hc⟩ := h.unsignedText_eq_cons
    refine ⟨c, s, hs, not_isBlank_of_isDigit hc, ?_⟩
    rintro rfl
    cases hc

theorem startsValue_toText {v : Json} (h : v.IsWellFormed) : StartsValue v.toText := by
  cases h with
  | null => exact ⟨'n', _, rfl, rfl, by decide⟩
  | bool b => cases b <;> exact ⟨_, _, rfl, rfl, by decide⟩
  | number h => exact startsValue_number h
  | string s => exact ⟨'"', _, rfl, rfl, by decide⟩
  | array h => exact ⟨'[', _, rfl, rfl, by decide⟩
  | object h => exact ⟨'\x7b', _, rfl, rfl, by decide⟩

theorem startsValue_itemsText {v : Json} {vs : List Json} (h : v.IsWellFormed) : StartsValue (itemsText (v :: vs)) := by
  cases vs <;> exact (startsValue_toText h).append _

namespace Tree

open Token (EndsNumber)

/-! ## Scalars in front of a text -/

section Scalars

variable (fuel : Nat) (t : Text)

theorem value_null : value (fuel + 1) ("null".toList ++ t) = (.null, some t) := by
  show ofWord .null "ull" ("ull".toList ++ t) = _
  rw [ofWord, Token.word_append]

theorem value_bool (b : Bool) : value (fuel + 1) ((Json.bool b).toText ++ t) = (.bool b, some t) := by
  cases b with
  | false =>
    show ofWord (.bool false) "alse" ("alse".toList ++ t) = _
    rw [ofWord, Token.word_append]
  | true =>
    show ofWord (.bool true) "rue" ("rue".toList ++ t) = _
    rw [ofWord, Token.word_append]

theorem value_string (s : Text) : value (fuel + 1) (quote s ++ t) = (.string (some s), some t) := by
  rw [quote_append]
  show ofString (s.flatMap escape ++ '"' :: t) = _
  rw [ofString, Token.string_quoted]

/-- A value that starts with a digit is a number. -/
theorem value_digit {c : Char} (hc : c.isDigit = true) (s : Text) :
    value (fuel + 1) (c :: s) = ofNumber false (c :: s) := by
  rw [value, dropBlanks_cons (not_isBlank_of_isDigit hc)]
  split <;> simp_all

theorem value_number {n : Number} (h : n.IsWellFormed) {t : Text} (ht : EndsNumber t) :
    value (fuel + 1) (n.toText ++ t) = (.number n, some t) := by
  have hnumber : ofNumber n.negative (n.unsignedText ++ t) = (.number n, some t) := by
    rw [ofNumber, Token.number_append h ht]
  rw [Number.toText_eq]
  cases hn : n.negative with
  | true =>
    rw [hn] at hnumber
    exact hnumber
  | false =>
    obtain ⟨c, s, hs, hc⟩ := h.unsignedText_eq_cons
    rw [hn, hs] at hnumber
    rw [if_neg (by decide), List.nil_append, hs]
    exact (value_digit fuel hc (s ++ t)).trans hnumber

end Scalars

/-! ## Values in front of a text -/

theorem endsNumber_cons {c : Char} (h : c ∈ [',', ']', '\x7d']) (s : Text) : EndsNumber (c :: s) := by
  have hc : c = ',' ∨ c = ']' ∨ c = '\x7d' := by simpa using h
  intro d hd
  cases hd
  obtain rfl | rfl | rfl := hc <;> decide

/-- An array with items is read item by item. -/
theorem value_array {fuel : Nat} {s t : Text} {ts : List Tree} (hs : StartsValue s)
    (h : items fuel s = (ts, none, some t)) : value (fuel + 1) ('[' :: s) = (.array ts none, some t) := by
  obtain ⟨c, r, rfl, hblank, hc⟩ := hs
  rw [value, dropBlanks_cons (by rfl)]
  simp only [dropBlanks_cons hblank]
  split
  · rename_i heq
    exact absurd (List.cons.inj heq).1 hc
  · rw [h]

/-- An object with members is read member by member. -/
theorem value_object {fuel : Nat} {s t : Text} {ms : List (Option Text × Tree)}
    (h : members fuel ('"' :: s) = (ms, none, some t)) :
    value (fuel + 1) ('\x7b' :: '"' :: s) = (.object ms none, some t) := by
  rw [value, dropBlanks_cons (by rfl)]
  show (Tree.object (members fuel ('"' :: s)).1 (members fuel ('"' :: s)).2.1, (members fuel ('"' :: s)).2.2) = _
  rw [h]

/-- The last item of an array is read with the closing bracket. -/
theorem items_last {fuel : Nat} {s t : Text} {r : Tree} (h : value fuel s = (r, some (']' :: t))) :
    items (fuel + 1) s = ([r], none, some t) := by
  rw [items, h]
  rfl

/-- An item of an array is read with the comma behind it. -/
theorem items_cons {fuel : Nat} {s t : Text} {r : Tree} (h : value fuel s = (r, some (',' :: t))) :
    items (fuel + 1) s = (r :: (items fuel t).1, (items fuel t).2) := by
  rw [items, h]
  rfl

/-- The last member of an object is read with the closing bracket. -/
theorem members_last {fuel : Nat} {name : Text} {s t : Text} {r : Tree} (h : value fuel s = (r, some ('\x7d' :: t))) :
    members (fuel + 1) (quote name ++ ':' :: s) = ([(some name, r)], none, some t) := by
  rw [quote_append, members, dropBlanks_cons (by rfl)]
  simp only [Token.string_quoted]
  rw [dropBlanks_cons (by rfl)]
  simp only [h]
  rfl

/-- A member of an object is read with the comma behind it. -/
theorem members_cons {fuel : Nat} {name : Text} {s t : Text} {r : Tree} (h : value fuel s = (r, some (',' :: t))) :
    members (fuel + 1) (quote name ++ ':' :: s) = ((some name, r) :: (members fuel t).1, (members fuel t).2) := by
  rw [quote_append, members, dropBlanks_cons (by rfl)]
  simp only [Token.string_quoted]
  rw [dropBlanks_cons (by rfl)]
  simp only [h]
  rfl

mutual

/-- **The text of a value is read as its tree**, and what stands behind it is left alone. -/
theorem value_append : ∀ {v : Json}, v.IsWellFormed → ∀ {fuel : Nat} {t : Text}, v.toText.length < fuel →
    EndsNumber t → value fuel (v.toText ++ t) = (ofJson v, some t)
  | _, _, 0, _, hfuel, _ => by cases hfuel
  | .null, _, fuel + 1, t, _, _ => value_null fuel t
  | .bool b, _, fuel + 1, t, _, _ => value_bool fuel t b
  | .number n, .number h, fuel + 1, t, _, ht => value_number fuel h ht
  | .string s, _, fuel + 1, t, _, _ => value_string fuel t s
  | .array [], _, fuel + 1, t, _, _ => rfl
  | .array (v :: vs), .array h, fuel + 1, t, hfuel, _ => by
    have hlt : (itemsText (v :: vs)).length < fuel := by
      rw [toText, List.length_cons] at hfuel
      omega
    exact value_array ((startsValue_itemsText (h v List.mem_cons_self)).append t) (items_append h hlt)
  | .object [], _, fuel + 1, t, _, _ => rfl
  | .object ((name, v) :: ms), .object h, fuel + 1, t, hfuel, _ => by
    have hlt : (membersText ((name, v) :: ms)).length < fuel := by
      rw [toText, List.length_cons] at hfuel
      omega
    obtain ⟨s, hs⟩ : ∃ s, membersText ((name, v) :: ms) = '"' :: s := by cases ms <;> exact ⟨_, rfl⟩
    have hmembers := members_append h (t := t) hlt
    rw [toText, List.cons_append]
    rw [hs, List.cons_append] at hmembers ⊢
    exact value_object hmembers

/-- The items of an array are read as their trees, up to the closing bracket. -/
theorem items_append : ∀ {v : Json} {vs : List Json}, (∀ w ∈ v :: vs, w.IsWellFormed) → ∀ {fuel : Nat} {t : Text},
    (itemsText (v :: vs)).length < fuel → items fuel (itemsText (v :: vs) ++ t) = (ofItems (v :: vs), none, some t)
  | v, [], h, fuel + 1, t, hfuel => by
    have hlt : v.toText.length < fuel := by
      rw [itemsText, List.length_append] at hfuel
      exact Nat.lt_of_succ_lt_succ hfuel
    have hv := value_append (h v List.mem_cons_self) hlt (endsNumber_cons (c := ']') (by decide) t)
    rw [itemsText, List.append_assoc]
    exact items_last hv
  | v, w :: vs, h, fuel + 1, t, hfuel => by
    obtain ⟨hv, hvs⟩ := List.forall_mem_cons.mp h
    rw [itemsText_cons, List.length_append, List.length_cons] at hfuel
    have hlt : v.toText.length < fuel := by omega
    have hfirst := value_append hv hlt
      (endsNumber_cons (c := ',') (by decide) (itemsText (w :: vs) ++ t))
    rw [itemsText_cons, List.append_assoc, List.cons_append, items_cons hfirst, items_append hvs (by omega)]
    rfl

/-- The members of an object are read as their trees, up to the closing bracket. -/
theorem members_append : ∀ {m : Text × Json} {ms : List (Text × Json)}, (∀ n ∈ m :: ms, n.2.IsWellFormed) →
    ∀ {fuel : Nat} {t : Text}, (membersText (m :: ms)).length < fuel →
    members fuel (membersText (m :: ms) ++ t) = (ofMembers (m :: ms), none, some t)
  | (name, v), [], h, fuel + 1, t, hfuel => by
    have hv : v.IsWellFormed := h (name, v) List.mem_cons_self
    rw [membersText_singleton, List.length_append, List.length_cons, List.length_append] at hfuel
    have hlt : v.toText.length < fuel := by omega
    have hfirst := value_append hv hlt (endsNumber_cons (c := '\x7d') (by decide) t)
    rw [membersText_singleton, List.append_assoc, List.cons_append, List.append_assoc]
    exact members_last hfirst
  | (name, v), m :: ms, h, fuel + 1, t, hfuel => by
    obtain ⟨hv, hms⟩ : v.IsWellFormed ∧ ∀ n ∈ m :: ms, n.2.IsWellFormed := List.forall_mem_cons.mp h
    rw [membersText_cons, List.length_append, List.length_cons, List.length_append, List.length_cons] at hfuel
    have hlt : v.toText.length < fuel := by omega
    have hfirst := value_append hv hlt
      (endsNumber_cons (c := ',') (by decide) (membersText (m :: ms) ++ t))
    rw [membersText_cons, List.append_assoc, List.cons_append, List.append_assoc, List.cons_append,
      members_cons hfirst, members_append hms (by omega)]
    rfl

end

/-- **The text of a value is read as the tree of the value**, and nothing stands behind it. -/
theorem ofText_toText {v : Json} (h : v.IsWellFormed) : ofText v.toText = (ofJson v, false) := by
  have hfuel : v.toText.length < 2 * v.toText.length + 2 := by omega
  have hread := value_append h hfuel Token.endsNumber_nil
  rw [List.append_nil] at hread
  rw [ofText, hread]
  rfl

end Tree

namespace Reader

/-- **A reader finds in the text of a value what it finds in its tree.** -/
theorem run_toText {α : Type} (r : Reader α) {v : Json} (h : v.IsWellFormed) :
    run r v.toText = r depth (Tree.ofJson v) := by
  rw [run, Tree.ofText_toText h]
  cases hr : r depth (Tree.ofJson v) <;> simp [hr]

theorem fits_ofOption {α : Type} {f : α → Json} {room : Nat} (h : ∀ a, fits (f a) room = true) (a : Option α) :
    fits (ofOption f a) room = true := by
  cases a with
  | none => rfl
  | some a => exact h a

/-- **Every value that fits is read back from its text.** -/
theorem run_value_toText {v : Json} (h : v.IsWellFormed) (hfits : fits v depth = true) :
    run value v.toText = .ok v := by
  rw [run_toText value h]
  exact valueOf_ofJson v depth hfits

/-! ## Lists -/

/-- **A list is read back** if each of its items is. -/
theorem list_ofItems {α : Type} {r : Reader α} {f : α → Json} {room : Nat} : ∀ {xs : List α},
    (∀ x ∈ xs, r room (Tree.ofJson (f x)) = .ok x) → list r (room + 1) (Tree.ofJson (.array (xs.map f))) = .ok xs := by
  have hitems : ∀ {xs : List α}, (∀ x ∈ xs, r room (Tree.ofJson (f x)) = .ok x) →
      items r room (Tree.ofItems (xs.map f)) = .ok xs := by
    intro xs h
    induction xs with
    | nil => rfl
    | cons x xs ih =>
      obtain ⟨hx, hxs⟩ := List.forall_mem_cons.mp h
      rw [List.map_cons, Tree.ofItems, items, hx, ih hxs]
      rfl
  intro xs h
  rw [Tree.ofJson, list, hitems h]
  rfl

end Reader
end Json
end WebScope
