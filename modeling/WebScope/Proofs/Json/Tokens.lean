import WebScope.Json.Basic
import WebScope.Json.Token
import WebScope.Proofs.Text.Cutting

/-!
# Tokens of JSON are read back

The scalars of JSON are written by `Json.quote`, `Number.toText` and as words, and read from the front of a text. What
stands behind them is left alone.

- A character of a string is written in one of three ways (`escaped`), and each of them is scanned as the point of the
  character (`Escaped.scanString_append`); so **every text is read back from its quotes** (`string_quoted`).
- The digits of a natural number have its value (`Text.number?_ofNat`).
- A number is read back in three stages: its whole part, its fraction (`fraction_append`) and its exponent
  (`exponent_append`). **Every number that is written as the syntax of JSON demands is read back** (`number_append`), if
  what stands behind does not go on with it (`EndsNumber`).
-/

namespace WebScope

/-! ## Digits -/

namespace Text

theorem hexDigit?_digitChar : ∀ d < 10, hexDigit? (Nat.digitChar d) = some d := by decide

/-- **The digits of a natural number have its value.** -/
theorem number?_ofNat (n : Nat) : number? 10 (ofNat n) = some n := by
  induction n using Nat.strongRecOn with
  | _ n ih =>
    rw [ofNat, Nat.toDigits_eq_if (by decide)]
    split
    · rename_i hlt
      have hone := number?_concat (s := []) rfl (hexDigit?_digitChar n hlt) hlt
      simpa using hone
    · rename_i hge
      have hlt : n % 10 < 10 := by omega
      have hmore := number?_concat (ih (n / 10) (by omega)) (hexDigit?_digitChar _ hlt) hlt
      rw [Nat.div_add_mod'] at hmore
      exact hmore

theorem isDigit_of_mem_ofNat {n : Nat} {c : Char} (h : c ∈ ofNat n) : c.isDigit = true :=
  Nat.isDigit_of_mem_toDigits (by decide) (by decide) h

/-- Only the digits of zero start with zero. -/
theorem eq_zero_of_head?_ofNat {n : Nat} (h : (ofNat n).head? = some '0') : n = 0 := by
  induction n using Nat.strongRecOn with
  | _ n ih =>
    rw [ofNat, Nat.toDigits_eq_if (by decide)] at h
    split at h
    · rename_i hlt
      have hdigit : ∀ d < 10, Nat.digitChar d = '0' → d = 0 := by decide
      exact hdigit n hlt (by simpa using h)
    · rename_i hge
      have hhead : (ofNat (n / 10)).head? = some '0' := by
        obtain ⟨c, s, hs⟩ := List.exists_cons_of_ne_nil (Nat.toDigits_ne_nil (n := n / 10) (b := 10))
        rw [hs] at h
        rw [ofNat, hs]
        exact h
      have hzero := ih (n / 10) (by omega) hhead
      omega

end Text

namespace Json
namespace Token

/-! ## Strings -/

/-- A letter behind a backslash is scanned as the character that it stands for. -/
theorem scanString_letter {e : Char} {n : Nat} (h : escaped? e = some n) (s : Text) :
    scanString ('\\' :: e :: s) = (n :: (scanString s).1, (scanString s).2) := by
  have hu : e ≠ 'u' := by
    rintro rfl
    cases h
  rw [scanString, if_neg (by decide), if_pos rfl]
  · simp only [h]
  · exact fun _ _ _ _ _ he _ => hu he
  · exact hu

/-- Four digits behind a backslash and `u` are scanned as the point that they write. -/
theorem scanString_digits {a b c d : Char} {n : Nat} (h : point? a b c d = some n) (s : Text) :
    scanString ('\\' :: 'u' :: a :: b :: c :: d :: s) = (n :: (scanString s).1, (scanString s).2) := by
  rw [scanString, if_neg (by decide), if_pos rfl]
  simp [h]

/-- **What is written for a character** in strings: behind a backslash a letter that stands for it, or four digits that
are its point, or the character as it is. -/
inductive Escaped (c : Char) : Text → Prop
  | letter {e : Char} : escaped? e = some c.toNat → 0x20 ≤ e.toNat → Escaped c ['\\', e]
  | digits : c.toNat < 0x20 →
    Escaped c ['\\', 'u', '0', '0', Text.hexDigit 'a' (c.toNat / 16), Text.hexDigit 'a' (c.toNat % 16)]
  | plain : c ≠ '"' → c ≠ '\\' → 0x20 ≤ c.toNat → Escaped c [c]

theorem escaped (c : Char) : Escaped c (escape c) := by
  unfold escape
  split_ifs with hquote hbackslash _ _ _ _ _ hcontrol
  -- Seven characters have letters of their own.
  iterate 7
    · subst c
      exact .letter rfl (by decide)
  · exact .digits hcontrol
  · exact .plain hquote hbackslash (Nat.not_lt.mp hcontrol)

/-- **Each character is scanned as its own point**, in whatever way it is written. -/
theorem Escaped.scanString_append {c : Char} {w : Text} (h : Escaped c w) (s : Text) :
    scanString (w ++ s) = (c.toNat :: (scanString s).1, (scanString s).2) := by
  cases h with
  | letter he _ => exact scanString_letter he s
  | digits hcontrol => exact scanString_digits (Text.number?_hexDigits (.inl rfl) (by omega)) s
  | plain hquote hbackslash hle =>
    show scanString (c :: s) = _
    rw [scanString.eq_def]
    simp only [if_neg hquote, if_neg hbackslash, if_neg (Nat.not_lt.mpr hle)]

theorem scanString_flatMap_escape : ∀ s rest : Text,
    scanString (s.flatMap escape ++ '"' :: rest) = (points s, .ok rest)
  | [], rest => by
    show scanString ('"' :: rest) = _
    rw [scanString.eq_def]
    rfl
  | c :: s, rest => by
    rw [List.flatMap_cons, List.append_assoc, (escaped c).scanString_append, scanString_flatMap_escape s rest]
    rfl

/-- **Every text is read back from its quotes**, with any text behind it. -/
theorem string_quoted (s rest : Text) : string (s.flatMap escape ++ '"' :: rest) = .ok (some s, rest) := by
  rw [string, scanString_flatMap_escape]
  simp only [textOf?_points]

end Token
end Json

/-! ## Numbers -/

namespace Number

/-- **A number as the syntax of JSON has it**: there are digits before the point, of which zero is the first only if it
is the only one, and nothing but digits behind the point. -/
structure IsWellFormed (n : Number) : Prop where
  whole_ne_nil : n.whole ≠ []
  isDigit_whole : ∀ c ∈ n.whole, c.isDigit = true
  whole_eq_zero : n.whole.head? = some '0' → n.whole = ['0']
  isDigit_fraction : ∀ c ∈ n.fraction, c.isDigit = true

theorem isWellFormed_ofNat (n : Nat) : (ofNat n).IsWellFormed where
  whole_ne_nil := Nat.toDigits_ne_nil
  isDigit_whole _ hc := Text.isDigit_of_mem_ofNat hc
  whole_eq_zero h := by
    rw [Text.eq_zero_of_head?_ofNat h]
    rfl
  isDigit_fraction _ hc := nomatch hc

/-- The text of a number without its minus. -/
def unsignedText (n : Number) : Text :=
  n.whole ++ ((if n.fraction = [] then [] else '.' :: n.fraction) ++
    (if n.exponent = 0 then [] else 'e' :: intText n.exponent))

theorem toText_eq (n : Number) : n.toText = (if n.negative then ['-'] else []) ++ n.unsignedText := by
  simp only [toText, unsignedText, List.append_assoc]

/-- Without its minus, a number starts with a digit. -/
theorem IsWellFormed.unsignedText_eq_cons {n : Number} (h : n.IsWellFormed) :
    ∃ c s, n.unsignedText = c :: s ∧ c.isDigit = true := by
  obtain ⟨c, s, hs⟩ := List.exists_cons_of_ne_nil h.whole_ne_nil
  refine ⟨c, _, by rw [unsignedText, hs]; rfl, h.isDigit_whole c ?_⟩
  rw [hs]
  exact List.mem_cons_self

end Number

namespace Json
namespace Token

/-- **A text that does not go on with a number** in front of it. -/
def EndsNumber (s : Text) : Prop :=
  ∀ c, s.head? = some c → c.isDigit = false ∧ c ≠ '.' ∧ c ≠ 'e' ∧ c ≠ 'E'

theorem endsNumber_nil : EndsNumber [] := fun _ h => nomatch h

section Digits

variable {ds t : Text} (hd : ∀ c ∈ ds, c.isDigit = true) (ht : ∀ c, t.head? = some c → c.isDigit = false)

include hd ht

theorem takeWhile_digits : (ds ++ t).takeWhile Char.isDigit = ds := by
  rw [Text.takeWhile_append_of_head ht, List.takeWhile_eq_self_iff.mpr hd]

theorem dropWhile_digits : (ds ++ t).dropWhile Char.isDigit = t := by
  rw [Text.dropWhile_append_of_head ht, List.dropWhile_eq_nil_iff.mpr hd, List.nil_append]

end Digits

theorem fraction_append {f t : Text} (hf : ∀ c ∈ f, c.isDigit = true)
    (ht : ∀ c, t.head? = some c → c.isDigit = false ∧ c ≠ '.') :
    fraction ((if f = [] then [] else '.' :: f) ++ t) = .ok (f, t) := by
  have hdigit : ∀ c, t.head? = some c → c.isDigit = false := fun c hc => (ht c hc).1
  split
  · rename_i hnil
    rw [hnil, List.nil_append, fraction]
    rintro s rfl
    exact (ht '.' rfl).2 rfl
  · rename_i hne
    rw [List.cons_append, fraction, takeWhile_digits hf hdigit, dropWhile_digits hf hdigit, if_neg hne]

/-- The digits of an exponent are read with their sign. -/
theorem exponent_digits {c : Char} (hc : c = 'e' ∨ c = 'E') {s t : Text} {negative : Bool} {n : Nat}
    (hs : sign s = (negative, Text.ofNat n ++ t)) (ht : EndsNumber t) :
    exponent (c :: s) = .ok (if negative then -(n : Int) else n, t) := by
  have hdigit : ∀ c, t.head? = some c → c.isDigit = false := fun c h => (ht c h).1
  have hne : Text.ofNat n ≠ [] := Nat.toDigits_ne_nil
  have hdigits : ∀ c ∈ Text.ofNat n, c.isDigit = true := fun _ h => Text.isDigit_of_mem_ofNat h
  rw [exponent, if_pos hc, hs]
  simp only [takeWhile_digits hdigits hdigit, dropWhile_digits hdigits hdigit, if_neg hne, Text.number?_ofNat,
    Option.getD_some]

theorem sign_ofNat (n : Nat) (t : Text) : sign (Text.ofNat n ++ t) = (false, Text.ofNat n ++ t) := by
  obtain ⟨c, s, hs⟩ := List.exists_cons_of_ne_nil (Nat.toDigits_ne_nil (n := n) (b := 10))
  have hmem : c ∈ Text.ofNat n := by
    rw [Text.ofNat, hs]
    exact List.mem_cons_self
  have hdigit : c.isDigit = true := Text.isDigit_of_mem_ofNat hmem
  rw [Text.ofNat, hs, List.cons_append, sign]
  · intro _ h
    rw [(List.cons.inj h).1] at hdigit
    cases hdigit
  · intro _ h
    rw [(List.cons.inj h).1] at hdigit
    cases hdigit

theorem exponent_append (e : Int) {t : Text} (ht : EndsNumber t) :
    exponent ((if e = 0 then [] else 'e' :: Number.intText e) ++ t) = .ok (e, t) := by
  split
  · rename_i hzero
    rw [hzero, List.nil_append]
    cases t with
    | nil => rfl
    | cons c t =>
      have hc := ht c rfl
      rw [exponent, if_neg (not_or.mpr hc.2.2)]
  · rw [List.cons_append]
    cases e with
    | ofNat n => exact exponent_digits (Or.inl rfl) (sign_ofNat n t) ht
    | negSucc n =>
      have hsign : sign ('-' :: Text.ofNat (n + 1) ++ t) = (true, Text.ofNat (n + 1) ++ t) := rfl
      exact exponent_digits (Or.inl rfl) hsign ht

/-- Behind the digits before the point there is no digit. -/
theorem not_isDigit_behind_whole (n : Number) {t : Text} (ht : EndsNumber t) :
    (∀ c, ((if n.exponent = 0 then [] else 'e' :: Number.intText n.exponent) ++ t).head? = some c →
      c.isDigit = false ∧ c ≠ '.') ∧
    ∀ c, ((if n.fraction = [] then [] else '.' :: n.fraction) ++
      ((if n.exponent = 0 then [] else 'e' :: Number.intText n.exponent) ++ t)).head? = some c →
      c.isDigit = false := by
  have hexponent : ∀ c, ((if n.exponent = 0 then [] else 'e' :: Number.intText n.exponent) ++ t).head? = some c →
      c.isDigit = false ∧ c ≠ '.' := by
    intro c hc
    split at hc
    · exact ⟨(ht c hc).1, (ht c hc).2.1⟩
    · cases hc
      decide
  refine ⟨hexponent, fun c hc => ?_⟩
  split at hc
  · exact (hexponent c hc).1
  · cases hc
    rfl

/-- **Every number that is well-formed is read back** behind its minus, if what stands behind it does not go on with
it. -/
theorem number_append {n : Number} (h : n.IsWellFormed) {t : Text} (ht : EndsNumber t) :
    number n.negative (n.unsignedText ++ t) = .ok (n, t) := by
  obtain ⟨hexponent, hfraction⟩ := not_isDigit_behind_whole n ht
  rw [number, Number.unsignedText, List.append_assoc, List.append_assoc, takeWhile_digits h.isDigit_whole hfraction,
    dropWhile_digits h.isDigit_whole hfraction, fraction_append h.isDigit_fraction hexponent]
  split
  · rename_i hnil
    exact absurd hnil h.whole_ne_nil
  · rename_i hzero
    have hone := h.whole_eq_zero (by rw [hzero]; rfl)
    rw [hzero] at hone
    cases hone
  · show (exponent _ >>= fun x => Except.ok ((⟨n.negative, n.whole, n.fraction, x.1⟩ : Number), x.2)) = _
    rw [exponent_append n.exponent ht]
    rfl

end Token
end Json

end WebScope
