import WebScope.Pattern.Segments
import WebScope.Proofs.Url.Place

/-!
# The shape of paths

What patterns can count on in the path of a URL text. A path that was read is in normal form, and what is written in
percent form has no place there: line feeds, for one, are dropped or written so. A path that is cut out of the text is as
it is written, with the tabs and line breaks that reading drops.

- Percent form takes a class of characters away (`Percent.lacks_encode`), and walking the segments brings none back
  (`Path.lacks_resolve`).
- No path that was read holds a control (`Url.not_isControl_of_mem_path`); a path of the schemes that patterns can name
  holds no query and no fragment either (`Url.HasPath.lacks`).
- The paths of the schemes that patterns can name start with a slash, read or written (`Parts.path_eq_cons`).
- **Only a written path holds line feeds** (`Parts.lineFeed_of_mem_path`).
-/

namespace WebScope

/-! ## Paths that were read -/

/-- Text without characters of the class `p`. -/
def Lacks (p : Char → Bool) (s : Text) : Prop := ∀ c ∈ s, p c = false

theorem lacks_nil (p : Char → Bool) : Lacks p [] := fun _ h => absurd h List.not_mem_nil

theorem lacks_cons {p : Char → Bool} {c : Char} {s : Text} : Lacks p (c :: s) ↔ p c = false ∧ Lacks p s :=
  List.forall_mem_cons

theorem lacks_append {p : Char → Bool} {s t : Text} : Lacks p (s ++ t) ↔ Lacks p s ∧ Lacks p t :=
  List.forall_mem_append

/-- Text without the characters of a class has none of a class inside it. -/
theorem Lacks.mono {p q : Char → Bool} {s : Text} (h : Lacks p s) (hq : ∀ c, q c = true → p c = true) : Lacks q s := by
  intro c hc
  rw [← Bool.not_eq_true]
  exact fun hm => Bool.noConfusion ((h c hc).symm.trans (hq c hm))

namespace Percent

/-- Controls are in percent form in a path, too. -/
theorem isPathEncoded_of_isControl (c : Char) (h : isControl c = true) : isPathEncoded c = true := by
  simp [isPathEncoded, h]

/-- No digit is in percent form. -/
theorem isPathEncoded_digit : ∀ n < 16, isPathEncoded (Text.hexDigit 'A' n) = false := by decide

theorem lacks_encodeOctet (b : UInt8) : Lacks isPathEncoded (encodeOctet b) := by
  have hb : b.toNat < 256 := b.toNat_lt
  simp only [encodeOctet, lacks_cons]
  exact ⟨by decide, isPathEncoded_digit _ (by omega), isPathEncoded_digit _ (by omega), lacks_nil _⟩

/-- **Percent form takes the characters of a class away**, as long as it does not write with them. -/
theorem lacks_encode {p : Char → Bool} (hp : ∀ c, p c = true → isPathEncoded c = true) (s : Text) :
    Lacks p (encode p s) := by
  intro c hc
  obtain ⟨x, -, hx⟩ := List.mem_flatMap.mp hc
  split at hx
  · obtain ⟨b, -, hb⟩ := List.mem_flatMap.mp hx
    exact (lacks_encodeOctet b).mono hp c hb
  · rename_i hno
    rw [List.mem_singleton.mp hx, ← Bool.not_eq_true]
    exact hno

end Percent

namespace Path

open Percent (isPathEncoded)

theorem lacks_render {done : List Text} {final : Text} (hd : ∀ s ∈ done, Lacks isPathEncoded s)
    (hf : Lacks isPathEncoded final) : Lacks isPathEncoded (render done final) := by
  refine lacks_cons.mpr ⟨by decide, ?_⟩
  induction done generalizing final with
  | nil => exact hf
  | cons s done ih =>
    obtain ⟨hs, hd⟩ := List.forall_mem_cons.mp hd
    exact ih hd (lacks_append.mpr ⟨hs, lacks_cons.mpr ⟨by decide, hf⟩⟩)

theorem lacks_kept {isFile : Bool} {done : List Text} {s : Text} (hs : Lacks isPathEncoded s) :
    Lacks isPathEncoded (kept isFile done s) := by
  rw [kept]
  split
  · have hhead : isPathEncoded (s.headD 'c') = false := by
      cases s with
      | nil => decide
      | cons c s => exact hs c List.mem_cons_self
    exact lacks_cons.mpr ⟨hhead, lacks_cons.mpr ⟨by decide, lacks_nil _⟩⟩
  · exact hs

theorem mem_of_mem_parent {done : List Text} {s : Text} (h : s ∈ parent done) : s ∈ done := by
  cases done with
  | nil => exact h
  | cons s' done =>
    rw [parent] at h
    split at h
    · exact h
    · exact List.mem_cons_of_mem _ h

/-- A walk brings nothing in that is written in percent form. -/
theorem lacks_walk (isFile : Bool) : ∀ {segments done : List Text}, (∀ s ∈ segments, Lacks isPathEncoded s) →
    (∀ s ∈ done, Lacks isPathEncoded s) → Lacks isPathEncoded (walk isFile done segments)
  | [], _, _, hd => lacks_render hd (lacks_nil _)
  | [s], done, hs, hd => by
    rw [walk]
    split
    · exact lacks_render (fun t ht => hd t (mem_of_mem_parent ht)) (lacks_nil _)
    · split
      · exact lacks_render hd (lacks_nil _)
      · exact lacks_render hd (lacks_kept (hs s List.mem_cons_self))
  | s :: s' :: segments, done, hs, hd => by
    obtain ⟨hhere, hrest⟩ := List.forall_mem_cons.mp hs
    rw [walk]
    · split
      · exact lacks_walk isFile hrest fun t ht => hd t (mem_of_mem_parent ht)
      · split
        · exact lacks_walk isFile hrest hd
        · exact lacks_walk isFile hrest (List.forall_mem_cons.mpr ⟨lacks_kept hhere, hd⟩)
    · simp

/-- **A resolved path holds nothing that is written in percent form.** -/
theorem lacks_resolve (special isFile : Bool) (s : Text) : Lacks isPathEncoded (resolve special isFile s) := by
  refine lacks_walk isFile (fun t ht => ?_) fun _ h => absurd h List.not_mem_nil
  obtain ⟨f, -, rfl⟩ := List.mem_map.mp ht
  exact Percent.lacks_encode (fun _ hc => hc) f

theorem lacks_behindAuthority (special : Bool) (s : Text) : Lacks isPathEncoded (behindAuthority special s) := by
  rw [behindAuthority]
  split
  · exact lacks_nil _
  · exact lacks_resolve _ _ _

theorem lacks_ofFile (s : Text) : Lacks isPathEncoded (ofFile s) :=
  lacks_cons.mpr ⟨by decide, fun c hc => lacks_resolve true true _ c (List.dropWhile_subset _ hc)⟩

end Path

namespace Url

/-- **A path of a scheme with rules of its own** holds nothing that is written in percent form. -/
theorem HasPath.lacks {kind : SchemeKind} {path : Text} (h : HasPath kind path) (hk : kind ≠ .other) :
    Lacks Percent.isPathEncoded path := by
  cases h with
  | file s => exact Path.lacks_ofFile s
  | web port s => exact Path.lacks_behindAuthority true s
  | _ => exact absurd rfl hk

theorem HasPath.lacks_control {kind : SchemeKind} {path : Text} (h : HasPath kind path) :
    Lacks Percent.isControl path := by
  cases h with
  | file s => exact (Path.lacks_ofFile s).mono Percent.isPathEncoded_of_isControl
  | web port s => exact (Path.lacks_behindAuthority true s).mono Percent.isPathEncoded_of_isControl
  | authority s => exact (Path.lacks_behindAuthority false s).mono Percent.isPathEncoded_of_isControl
  | rooted s => exact (Path.lacks_resolve false false s).mono Percent.isPathEncoded_of_isControl
  | plain s => exact Percent.lacks_encode Percent.isPathEncoded_of_isControl _

/-- **No path that was read holds a control.** -/
theorem not_isControl_of_mem_path {input : Text} {url : Url} (h : parse input = .ok url) :
    ∀ c ∈ url.path, Percent.isControl c = false := (shape_of_parse h).2.lacks_control

/-- The kinds of schemes whose paths always start with a slash. -/
theorem HasPath.eq_cons {kind : SchemeKind} {path : Text} (h : HasPath kind path) (hk : kind ≠ .other) :
    ∃ t, path = '/' :: t := by
  cases h with
  | file s => exact ⟨_, rfl⟩
  | web port s => exact Path.resolve_eq_cons true false _
  | _ => exact absurd rfl hk

end Url

/-! ## Parts -/

namespace Parts

/-- The parts of a text are written there, or those of the URL that was read. -/
theorem ofText_eq_ok_iff {input : Text} {p : Parts} : ofText input = .ok p ↔
    ∃ url, Url.parse input = .ok url ∧ p = (written? (Text.trim Url.isMargin input)).getD (ofUrl url) := by
  rw [ofText]
  cases Url.parse input with
  | error e => simp [Except.map]
  | ok url => simp [Except.map, eq_comm]

theorem pathOf_eq_cons {s : Text} (h : ∀ c, s.head? = some c → c = '/') : ∃ t, pathOf s = '/' :: t := by
  cases s with
  | nil => exact ⟨[], rfl⟩
  | cons c s =>
    obtain rfl := h c rfl
    exact ⟨s, rfl⟩

/-- A written path starts with a slash. -/
theorem path_eq_cons_of_written? {s : Text} {p : Parts} (h : written? s = some p) : ∃ t, p.path = '/' :: t := by
  simp only [written?, Option.map_eq_some_iff, Prod.exists] at h
  obtain ⟨protocol, rest, -, rfl⟩ := h
  refine pathOf_eq_cons fun c hc => ?_
  cases htail : rest.dropWhile (!Authority.isEnd false ·) with
  | nil => rw [htail] at hc; cases hc
  | cons d tail =>
    have hd : Authority.isEnd false d = true := by
      have hhead : (rest.dropWhile (!Authority.isEnd false ·)).head? = some d := by rw [htail]; rfl
      simpa using Text.head?_dropWhile hhead
    rw [htail, List.takeWhile_cons] at hc
    split at hc
    · rename_i hq
      cases hc
      simp only [startsQuery, Bool.not_eq_true', Bool.or_eq_false_iff, beq_eq_false_iff_ne] at hq
      simpa [Authority.isEnd, hq.1, hq.2] using hd
    · cases hc

/-- The schemes that patterns can name have rules of their own. -/
theorem schemeKind_ne_other {scheme : Text} (h : scheme ∈ allowedProtocols) : Url.schemeKind scheme ≠ .other := by
  simp only [allowedProtocols, List.mem_cons, List.not_mem_nil, or_false] at h
  rcases h with rfl | rfl | rfl | rfl <;> decide

section Read

variable {input : Text} {p : Parts} (h : ofText input = .ok p)

include h

/-- **The path of a protocol that patterns can name starts with a slash.** -/
theorem path_eq_cons (hp : p.protocol ∈ allowedProtocols) : ∃ t, p.path = '/' :: t := by
  obtain ⟨url, hu, rfl⟩ := ofText_eq_ok_iff.mp h
  cases hw : written? (Text.trim Url.isMargin input) with
  | some p => exact path_eq_cons_of_written? hw
  | none =>
    rw [hw] at hp
    exact (Url.shape_of_parse hu).2.eq_cons (schemeKind_ne_other hp)

/-- **A line feed in a path is written in the text**, and the text has a mark before it. -/
theorem lineFeed_of_mem_path (hn : '\n' ∈ p.path) :
    mark <:+: Text.trim Url.isMargin input ∧ '\n' ∈ Text.trim Url.isMargin input := by
  obtain ⟨url, hu, rfl⟩ := ofText_eq_ok_iff.mp h
  cases hw : written? (Text.trim Url.isMargin input) with
  | none =>
    rw [hw] at hn
    exact absurd (Url.not_isControl_of_mem_path hu _ hn) (by decide)
  | some p =>
    rw [hw] at hn
    obtain ⟨authority, path, query, hs, -, hpath⟩ := eq_of_written? hw
    have hwritten : '\n' ∈ path := by
      have hn' : '\n' ∈ pathOf path := hpath ▸ hn
      rw [pathOf] at hn'
      split at hn'
      · exact absurd hn' (by decide)
      · exact hn'
    rw [hs]
    refine ⟨⟨p.protocol, authority ++ path ++ query, by simp⟩, ?_⟩
    exact List.mem_append_left _ (List.mem_append_right _ hwritten)

end Read

end Parts
end WebScope
