import WebScope.Proofs.Pattern.Grammar
import WebScope.Proofs.Url.Decomposition

/-!
# The parts that URLs can have

Parts lack the characters that they are cut at. Nothing else is asked of them: a text can be written that is read as a
URL with a host of its own, whatever remote and path the parts are to have. Reading ends the authority at a backslash, the
cut goes on to the `@` behind it.

- The parts of a protocol that patterns can name lack what they are cut at (`Parts.isCut_of_ofText`).
- A host that ends at a backslash is read whatever follows (`Url.exists_parse_of_host_ended`).

Main statement: **these are all the parts there are** (`Parts.exists_ofText_iff`).
-/

namespace WebScope

namespace Url

/-- The protocols that patterns can name are read as schemes. -/
theorem scheme?_of_allowed {p : Text} (h : p ∈ allowedProtocols) (rest : Text) :
    scheme? (p.filter (!isDropped ·) ++ ':' :: rest) = some (p, rest) := by
  simp only [allowedProtocols, List.mem_cons, List.not_mem_nil, or_false] at h
  rcases h with rfl | rfl | rfl | rfl <;> rfl

/-- **A host that ends at a backslash is read whatever follows**, in the schemes that have rules of their own. -/
theorem exists_parse_of_host_ended {input scheme tail : Text} (hk : schemeKind scheme ≠ .other)
    (hs : scheme? (significant input) = some (scheme, "//a\\".toList ++ tail)) : ∃ url, parse input = .ok url := by
  cases hkind : schemeKind scheme with
  | other => exact absurd hkind hk
  | web port =>
    have hplace : (parse input).map place = .ok ⟨some (.domain "a".toList), none⟩ := by
      rw [map_place_parse hs hkind]
      rfl
    cases hu : parse input with
    | ok url => exact ⟨url, rfl⟩
    | error e =>
      rw [hu] at hplace
      cases hplace
  | file =>
    rw [parse, hs]
    simp only [ofScheme, hkind]
    exact ⟨_, rfl⟩

end Url

namespace Parts

variable {p : Parts}

/-- **What parts lack**: the remote all that ends an authority or user information, the path all that starts a query. -/
structure IsCut (p : Parts) : Prop where
  remote_free : '/' ∉ p.remote ∧ '?' ∉ p.remote ∧ '#' ∉ p.remote ∧ '@' ∉ p.remote
  rooted : ∃ r, p.path = '/' :: r
  path_free : '?' ∉ p.path ∧ '#' ∉ p.path

/-- **Parts lack what they are cut at**, and so do the parts of a URL without a mark. -/
theorem isCut_of_ofText {input : Text} (h : ofText input = .ok p) (hp : p.protocol ∈ allowedProtocols) : p.IsCut := by
  have hrooted := path_eq_cons h hp
  obtain ⟨url, hu, rfl⟩ := ofText_eq_ok_iff.mp h
  cases hw : written? (Text.trim Url.isMargin input) with
  | some p =>
    obtain ⟨_, _, _, hapart⟩ := written?_eq_some_iff.mp hw
    obtain ⟨hroot, hfree⟩ := hapart.path_rooted
    exact ⟨hapart.remote_free, hroot, hfree⟩
  | none =>
    rw [hw] at hp hrooted
    have hlacks := (Url.shape_of_parse hu).2.lacks (schemeKind_ne_other hp)
    exact ⟨⟨nofun, nofun, nofun, nofun⟩, hrooted, fun hm => Bool.noConfusion (hlacks _ hm),
      fun hm => Bool.noConfusion (hlacks _ hm)⟩

/-! ## A URL with given parts -/

/-- **A URL with the parts `p`.** Its host is `a`, which reading ends at the backslash; of its parts it is user
information. The query keeps the end of the path from being a margin. -/
def sampleUrl (p : Parts) : Text := p.protocol ++ mark ++ ("a\\@".toList ++ p.remote ++ p.path ++ ['?'])

section Sample

variable (hp : p.protocol ∈ allowedProtocols)

include hp

theorem trim_sampleUrl : Text.trim Url.isMargin p.sampleUrl = p.sampleUrl := by
  refine Text.trim_eq_self ?_ ?_
  · intro c hc
    have hhead : ∀ q ∈ allowedProtocols, ∃ d, q.head? = some d ∧ Url.isMargin d = false := by
      simp only [allowedProtocols, List.forall_mem_cons, List.not_mem_nil, false_implies, implies_true, and_true]
      exact ⟨⟨_, rfl, by decide⟩, ⟨_, rfl, by decide⟩, ⟨_, rfl, by decide⟩, ⟨_, rfl, by decide⟩⟩
    obtain ⟨d, hd, hmargin⟩ := hhead _ hp
    rw [sampleUrl, List.append_assoc, List.head?_append, hd] at hc
    cases hc
    exact hmargin
  · intro c hc
    rw [sampleUrl, ← List.append_assoc, List.getLast?_concat] at hc
    cases hc
    decide

/-- The sample is a URL. -/
theorem exists_parse_sampleUrl : ∃ url, Url.parse p.sampleUrl = .ok url := by
  have hsignificant : Url.significant p.sampleUrl = p.protocol.filter (!Url.isDropped ·) ++
      ':' :: ("//a\\".toList ++ ("@".toList ++ p.remote ++ p.path ++ ['?']).filter (!Url.isDropped ·)) :=
    significant_of_mark (trim_sampleUrl hp)
  have hscheme := Url.scheme?_of_allowed hp
    ("//a\\".toList ++ ("@".toList ++ p.remote ++ p.path ++ ['?']).filter (!Url.isDropped ·))
  rw [← hsignificant] at hscheme
  exact Url.exists_parse_of_host_ended (schemeKind_ne_other hp) hscheme

/-- The sample comes apart into its parts. -/
theorem comesApart_sampleUrl (h : p.IsCut) :
    ComesApart p.sampleUrl p ("a\\@".toList ++ p.remote) p.path ['?'] where
  text := by simp only [sampleUrl, mark, List.append_assoc]
  first := by
    have hcolon : ':' ∉ p.protocol := (Segments.not_mem_of_named (.inl hp)).1
    exact (Text.cutMark?_eq_some_iff.mp (Text.cutMark?_append "//".toList _ hcolon)).2
  authority_free := by simp [h.remote_free]
  path_form := Or.inr h.rooted
  path_free := h.path_free
  query_form := Or.inr ⟨'?', [], rfl, Or.inl rfl⟩
  remote := Or.inr ⟨"a\\".toList, rfl, h.remote_free.2.2.2⟩
  root := by
    obtain ⟨r, hr⟩ := h.rooted
    rw [hr, if_neg (List.cons_ne_nil _ _)]

/-- **The parts of the sample are the given ones.** -/
theorem ofText_sampleUrl (h : p.IsCut) : ofText p.sampleUrl = .ok p := by
  obtain ⟨url, hu⟩ := exists_parse_sampleUrl hp
  refine ofText_eq_ok_iff.mpr ⟨url, hu, ?_⟩
  rw [trim_sampleUrl hp, (comesApart_sampleUrl hp h).written?_eq]
  rfl

/-- **The parts there are**, of a protocol that patterns can name: those that lack what parts are cut at. -/
theorem exists_ofText_iff : (∃ u, ofText u = .ok p) ↔ p.IsCut :=
  ⟨fun ⟨_, h⟩ => isCut_of_ofText h hp, fun h => ⟨_, ofText_sampleUrl hp h⟩⟩

end Sample

end Parts
end WebScope
