import WebScope.Proofs.Json.ReadBack

/-!
# Compact texts of JSON are single lines

The compact text of a value has no blanks between its tokens, and its strings escape the controls below the space. So no
control is in it (`freeOfControls_toText`), no end of a line among them (`not_mem_toText`): texts of values can be told
apart when each of them is written on a line.
-/

namespace WebScope
namespace Json

/-- **A text without controls**, which is one line. -/
def FreeOfControls (s : Text) : Prop := ∀ c ∈ s, 0x20 ≤ c.toNat

instance (s : Text) : Decidable (FreeOfControls s) := List.decidableBAll _ s

theorem freeOfControls_cons {c : Char} {s : Text} : FreeOfControls (c :: s) ↔ 0x20 ≤ c.toNat ∧ FreeOfControls s :=
  List.forall_mem_cons

theorem freeOfControls_append {s t : Text} : FreeOfControls (s ++ t) ↔ FreeOfControls s ∧ FreeOfControls t :=
  List.forall_mem_append

theorem freeOfControls_of_isDigit {s : Text} (h : ∀ c ∈ s, c.isDigit = true) : FreeOfControls s := by
  intro c hc
  have hdigit := h c hc
  simp only [Char.isDigit, Bool.and_eq_true, decide_eq_true_eq] at hdigit
  have hle : '0'.toNat ≤ c.toNat := hdigit.1
  exact Nat.le_trans (by decide) hle

theorem freeOfControls_ofNat (n : Nat) : FreeOfControls (Text.ofNat n) :=
  freeOfControls_of_isDigit fun _ h => Text.isDigit_of_mem_ofNat h

/-- Controls are written in letters and digits. -/
theorem Token.Escaped.freeOfControls {c : Char} {w : Text} (h : Token.Escaped c w) : FreeOfControls w := by
  cases h with
  | letter _ hletter =>
    have hbackslash : 0x20 ≤ '\\'.toNat := by decide
    exact freeOfControls_cons.mpr ⟨hbackslash, freeOfControls_cons.mpr ⟨hletter, fun _ h => nomatch h⟩⟩
  | digits hcontrol =>
    have hhex : ∀ n < 16, 0x20 ≤ (Text.hexDigit 'a' n).toNat := by decide
    have hdigits : FreeOfControls [Text.hexDigit 'a' (c.toNat / 16), Text.hexDigit 'a' (c.toNat % 16)] := by
      simp only [freeOfControls_cons]
      exact ⟨hhex _ (by omega), hhex _ (by omega), fun _ h => nomatch h⟩
    have hmark : FreeOfControls ['\\', 'u', '0', '0'] := by decide
    exact freeOfControls_append.mpr ⟨hmark, hdigits⟩
  | plain _ _ hle => exact freeOfControls_cons.mpr ⟨hle, fun _ h => nomatch h⟩

theorem freeOfControls_quote (s : Text) : FreeOfControls (quote s) := by
  have hinside : FreeOfControls (s.flatMap escape) := by
    intro c hc
    obtain ⟨d, _, hd⟩ := List.mem_flatMap.mp hc
    exact (Token.escaped d).freeOfControls c hd
  have hmark : FreeOfControls ['"'] := by decide
  exact freeOfControls_append.mpr ⟨freeOfControls_append.mpr ⟨hmark, hinside⟩, hmark⟩

theorem freeOfControls_number {n : Number} (h : n.IsWellFormed) : FreeOfControls n.toText := by
  have hint : ∀ e : Int, FreeOfControls (Number.intText e) := by
    intro e
    cases e with
    | ofNat n => exact freeOfControls_ofNat n
    | negSucc n => exact freeOfControls_cons.mpr ⟨by decide, freeOfControls_ofNat (n + 1)⟩
  have hnil : FreeOfControls [] := fun _ h => nomatch h
  rw [Number.toText, freeOfControls_append, freeOfControls_append, freeOfControls_append]
  refine ⟨⟨⟨?_, freeOfControls_of_isDigit h.isDigit_whole⟩, ?_⟩, ?_⟩
  · split
    · exact freeOfControls_cons.mpr ⟨by decide, hnil⟩
    · exact hnil
  · split
    · exact hnil
    · exact freeOfControls_cons.mpr ⟨by decide, freeOfControls_of_isDigit h.isDigit_fraction⟩
  · split
    · exact hnil
    · exact freeOfControls_cons.mpr ⟨by decide, hint _⟩

theorem freeOfControls_itemsText : ∀ {vs : List Json}, (∀ v ∈ vs, FreeOfControls v.toText) →
    FreeOfControls (itemsText vs)
  | [], _ => freeOfControls_cons.mpr ⟨by decide, fun _ h => nomatch h⟩
  | [v], h => by
    have hend : FreeOfControls (itemsText []) := freeOfControls_itemsText fun _ h => nomatch h
    rw [itemsText, freeOfControls_append]
    exact ⟨h v List.mem_cons_self, hend⟩
  | v :: w :: vs, h => by
    obtain ⟨hv, hvs⟩ := List.forall_mem_cons.mp h
    rw [itemsText_cons, freeOfControls_append, freeOfControls_cons]
    exact ⟨hv, by decide, freeOfControls_itemsText hvs⟩

theorem freeOfControls_membersText : ∀ {ms : List (Text × Json)}, (∀ m ∈ ms, FreeOfControls m.2.toText) →
    FreeOfControls (membersText ms)
  | [], _ => freeOfControls_cons.mpr ⟨by decide, fun _ h => nomatch h⟩
  | [(name, v)], h => by
    have hend : FreeOfControls (membersText []) := freeOfControls_membersText fun _ h => nomatch h
    rw [membersText_singleton, freeOfControls_append, freeOfControls_cons, freeOfControls_append]
    exact ⟨freeOfControls_quote name, by decide, h (name, v) List.mem_cons_self, hend⟩
  | (name, v) :: m :: ms, h => by
    obtain ⟨hv, hms⟩ : FreeOfControls v.toText ∧ ∀ n ∈ m :: ms, FreeOfControls n.2.toText := List.forall_mem_cons.mp h
    rw [membersText_cons, freeOfControls_append, freeOfControls_cons, freeOfControls_append, freeOfControls_cons]
    exact ⟨freeOfControls_quote name, by decide, hv, by decide, freeOfControls_membersText hms⟩

/-- **The compact text of a value is one line.** -/
theorem freeOfControls_toText {v : Json} (h : v.IsWellFormed) : FreeOfControls v.toText := by
  have hword : FreeOfControls "null".toList ∧ FreeOfControls "true".toList ∧ FreeOfControls "false".toList := by decide
  induction h with
  | null => exact hword.1
  | bool b =>
    cases b with
    | false => exact hword.2.2
    | true => exact hword.2.1
  | number h => exact freeOfControls_number h
  | string s => exact freeOfControls_quote s
  | array _ ih => exact freeOfControls_cons.mpr ⟨by decide, freeOfControls_itemsText ih⟩
  | object _ ih => exact freeOfControls_cons.mpr ⟨by decide, freeOfControls_membersText ih⟩

/-- There is no end of a line in it. -/
theorem not_mem_toText {v : Json} (h : v.IsWellFormed) : '\n' ∉ v.toText := by
  intro hmem
  exact absurd (freeOfControls_toText h '\n' hmem) (by decide)

end Json
end WebScope
