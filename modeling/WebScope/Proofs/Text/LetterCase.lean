import Mathlib.Data.List.Forall2
import WebScope.Text.Basic

/-!
# Texts that are equal but for the case of letters

`Text.eqIgnoringCase` compares the small forms of two texts. Here it is described character by character: the texts are
as long as each other, and where they differ, both have the same letter of ASCII, one of them large
(`eqIgnoringCase_iff`). It is an equivalence (`SameInAnyCase.symm`, `SameInAnyCase.trans`), so the texts that are equal
to one of two equal texts are those that are equal to the other.
-/

namespace WebScope
namespace Text

/-- **The same character, or the same letter of ASCII** in its large and its small form, which is 32 places behind. -/
def SameLetter (c d : Char) : Prop :=
  c = d ∨ (c.isUpper = true ∧ d.toNat = c.toNat + 32) ∨ (d.isUpper = true ∧ c.toNat = d.toNat + 32)

/-- **Texts that are equal but for the case of letters.** -/
def SameInAnyCase (s t : Text) : Prop := List.Forall₂ SameLetter s t

theorem isUpper_iff (c : Char) : c.isUpper = true ↔ 65 ≤ c.toNat ∧ c.toNat ≤ 90 := by
  have hrange : c.isUpper = true ↔ c.val ≥ 'A'.val ∧ c.val ≤ 'Z'.val := decide_eq_true_iff
  exact hrange

theorem toNat_toLower (c : Char) : c.toLower.toNat = if c.isUpper then c.toNat + 32 else c.toNat := by
  unfold Char.toLower
  split
  · rename_i h
    have hrange : 65 ≤ c.toNat ∧ c.toNat ≤ 90 := h
    rw [if_pos ((isUpper_iff c).mpr hrange)]
    have hval : c.val.toNat = c.toNat := rfl
    have hsum : (c.val + ('a'.val - 'A'.val)).toNat = (c.val.toNat + 32) % 2 ^ 32 := by
      rw [UInt32.toNat_add]
      rfl
    show (c.val + ('a'.val - 'A'.val)).toNat = _
    omega
  · rename_i h
    rw [if_neg (mt (isUpper_iff c).mp h)]

theorem toLower_eq_toLower_iff (c d : Char) : c.toLower = d.toLower ↔ SameLetter c d := by
  rw [← Char.toNat_inj, toNat_toLower, toNat_toLower, SameLetter, ← Char.toNat_inj]
  simp only [isUpper_iff]
  split <;> split <;> omega

/-- **The comparison that ignores case finds exactly the texts that are equal but for case.** -/
theorem eqIgnoringCase_iff {s t : Text} : eqIgnoringCase s t = true ↔ SameInAnyCase s t := by
  rw [eqIgnoringCase, beq_iff_eq, lower, lower, ← List.forall₂_eq_eq_eq, List.forall₂_map_left_iff,
    List.forall₂_map_right_iff]
  simp only [toLower_eq_toLower_iff]
  rfl

theorem sameInAnyCase_iff_lower {s t : Text} : SameInAnyCase s t ↔ lower s = lower t := by
  rw [← eqIgnoringCase_iff, eqIgnoringCase, beq_iff_eq]

theorem SameInAnyCase.symm {s t : Text} (h : SameInAnyCase s t) : SameInAnyCase t s :=
  sameInAnyCase_iff_lower.mpr (sameInAnyCase_iff_lower.mp h).symm

theorem SameInAnyCase.trans {r s t : Text} (h : SameInAnyCase r s) (h' : SameInAnyCase s t) : SameInAnyCase r t :=
  sameInAnyCase_iff_lower.mpr ((sameInAnyCase_iff_lower.mp h).trans (sameInAnyCase_iff_lower.mp h'))

instance (s t : Text) : Decidable (SameInAnyCase s t) := decidable_of_iff _ eqIgnoringCase_iff

end Text
end WebScope
