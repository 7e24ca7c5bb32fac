import Mathlib.Data.List.Basic
import Mathlib.Data.List.Induction
import WebScope.Proofs.Pattern.Meaning

/-!
# The canonical text of a pattern

A pattern text can list a protocol more than once, and the record that it compiles to lists it where it stood first. The
protocols of the record, its host and the path make up a text again, the canonical one (`Record.canonicalText?`).

- Reading one protocol more adds it at the end or, if it was seen before, nothing (`eraseDups_concat`); so what is kept
  are the items of the list in the order of their first places (`firstSeen_eraseDups`).
- Each piece of an expression tells the character of the glob that it was written for (`Glob.pieceOf_injective`), so
  **no two globs have the same expression** (`Glob.source_injective`).
- The canonical text compiles to the same record (`Record.compile_canonicalText`), and **two texts have the same record
  exactly if their canonical texts are the same** (`records_are_canonical`).
-/

namespace WebScope

/-! ## Lists without repetitions -/

section Lists

variable {α : Type} [BEq α] [LawfulBEq α]

/-- **One item more is added at the end**, unless it was seen before. -/
theorem eraseDups_concat (xs : List α) (x : α) :
    (xs ++ [x]).eraseDups = if x ∈ xs then xs.eraseDups else xs.eraseDups ++ [x] := by
  rw [List.eraseDups_append]
  by_cases hx : x ∈ xs <;> simp [hx, List.removeAll, List.eraseDups_cons]

/-- **The items of a list, each once, in the order of their first places.** -/
structure FirstSeen (xs ys : List α) : Prop where
  mem_iff : ∀ x, x ∈ ys ↔ x ∈ xs
  nodup : ys.Nodup
  ordered : ys.Pairwise fun x y => xs.idxOf x < xs.idxOf y

theorem firstSeen_eraseDups (xs : List α) : FirstSeen xs xs.eraseDups := by
  have hordered : xs.eraseDups.Pairwise fun x y => xs.idxOf x < xs.idxOf y := by
    induction xs using List.reverseRecOn with
    | nil => simp
    | append_singleton xs x ih =>
      -- The places of the items that were seen before stay as they are.
      have hbefore : ∀ y ∈ xs, (xs ++ [x]).idxOf y = xs.idxOf y := fun y hy => List.idxOf_append_of_mem hy
      have hpast : xs.eraseDups.Pairwise fun y z => (xs ++ [x]).idxOf y < (xs ++ [x]).idxOf z := by
        refine ih.imp_of_mem fun hy hz hlt => ?_
        rw [hbefore _ (List.mem_eraseDups.mp hy), hbefore _ (List.mem_eraseDups.mp hz)]
        exact hlt
      rw [eraseDups_concat]
      split
      · exact hpast
      · rename_i hx
        refine List.pairwise_append.mpr ⟨hpast, List.pairwise_singleton _ _, fun y hy z hz => ?_⟩
        have hy := List.mem_eraseDups.mp hy
        obtain rfl := List.mem_singleton.mp hz
        rw [hbefore y hy, List.idxOf_append_of_notMem hx]
        have := List.idxOf_lt_length_of_mem hy
        omega
  refine ⟨fun x => List.mem_eraseDups, hordered.imp fun hlt he => ?_, hordered⟩
  rw [he] at hlt
  exact Nat.lt_irrefl _ hlt

theorem eraseDups_eq_self {xs : List α} (h : xs.Nodup) : xs.eraseDups = xs := by
  induction xs using List.reverseRecOn with
  | nil => rfl
  | append_singleton xs x ih =>
    obtain ⟨hxs, -, hx⟩ := List.nodup_append.mp h
    have hnew : x ∉ xs := fun hm => hx x hm x (List.mem_singleton_self x) rfl
    rw [eraseDups_concat, if_neg hnew, ih hxs]

end Lists

/-! ## Expressions -/

namespace Glob

/-- A piece tells its character. -/
theorem pieceOf_injective : Function.Injective pieceOf := by
  intro c d h
  unfold pieceOf at h
  grind

/-- **No two globs have the same expression.** -/
theorem source_injective : Function.Injective source := by
  intro g h heq
  have hpieces : some (g.map pieceOf) = some (h.map pieceOf) := by
    rw [← piecesOfSource?_source, heq, piecesOfSource?_source]
  exact List.map_injective_iff.mpr pieceOf_injective (Option.some.inj hpieces)

end Glob

/-! ## Records -/

namespace Record

/-- **The canonical text** of a text that compiles: the protocols of its record, joined, its host and its path. -/
def canonicalText? (raw : Text) : Option Text := do
  let s ← Segments.ofText? raw
  let r ← (compile raw).toOption
  return [protocolDelimiter].intercalate r.protocols ++ hostMark ++ r.host ++ s.path

variable {raw host path : Text} {ps : List Text} {r : Record}

theorem canonicalText?_eq (h : compile raw = .ok r) (hreads : Segments.Reads raw ps host path) :
    canonicalText? raw = some ([protocolDelimiter].intercalate r.protocols ++ hostMark ++ r.host ++ path) := by
  obtain ⟨s, hs, -, -, rfl⟩ := Segments.reads_iff.mp hreads
  simp [canonicalText?, hs, h, Except.toOption]

/-- What a text that compiles reads as, and what its record keeps of that. -/
theorem exists_reads (h : compile raw = .ok r) :
    ∃ ps path, Segments.Reads raw ps r.host path ∧ r.protocols = ps.eraseDups ∧ Glob.compile path = .ok r.path := by
  obtain ⟨ps, host, path, hreads, hps, rfl, hpath⟩ := compile_eq_ok_iff.mp h
  exact ⟨ps, path, hreads, hps, hpath⟩

/-- The canonical text reads as the protocols, the host and the path that it is made up from. -/
theorem reads_canonicalText (hreads : Segments.Reads raw ps host path) :
    Segments.Reads ([protocolDelimiter].intercalate ps.eraseDups ++ hostMark ++ host ++ path) ps.eraseDups host path where
  ne_nil := by
    obtain ⟨p, hp⟩ := List.exists_mem_of_ne_nil ps hreads.ne_nil
    exact List.ne_nil_of_mem (List.mem_eraseDups.mpr hp)
  named p hp := hreads.named p (List.mem_eraseDups.mp hp)
  hostForm := hreads.hostForm
  pathForm := hreads.pathForm
  text := rfl

/-- **The canonical text compiles to the same record.** -/
theorem compile_canonicalText (hreads : Segments.Reads raw ps r.host path) (hps : r.protocols = ps.eraseDups)
    (hpath : Glob.compile path = .ok r.path) :
    compile ([protocolDelimiter].intercalate r.protocols ++ hostMark ++ r.host ++ path) = .ok r := by
  refine compile_eq_ok_iff.mpr ⟨r.protocols, r.host, path, ?_, ?_, rfl, hpath⟩
  · rw [hps]
    exact reads_canonicalText hreads
  · rw [hps, eraseDups_eq_self (firstSeen_eraseDups ps).nodup]

end Record

open Record (compile canonicalText?)

/-- **Records are canonical.** A text that compiles has a record that lists its protocols, each once, in the order of their
first places; and a canonical text, which compiles to the same record and is its own canonical text. No two globs have
the same expression, so two texts that compile have records with the same protocols, host and expression exactly if their
canonical texts are the same. -/
theorem records_are_canonical :
    (∀ {raw : Text} {r : Record}, compile raw = .ok r →
      ∃ ps path, Segments.Reads raw ps r.host path ∧ r.protocols ≠ [] ∧ FirstSeen ps r.protocols ∧
        ∃ canonical, canonicalText? raw = some canonical ∧
          canonical = [protocolDelimiter].intercalate r.protocols ++ "://".toList ++ r.host ++ path ∧
          compile canonical = .ok r ∧ canonicalText? canonical = some canonical) ∧
    Function.Injective Glob.source ∧
    ∀ {raw raw' : Text} {r r' : Record}, compile raw = .ok r → compile raw' = .ok r' →
      (r.protocols = r'.protocols ∧ r.host = r'.host ∧ r.path.source = r'.path.source ↔
        canonicalText? raw = canonicalText? raw') := by
  refine ⟨fun {raw r} h => ?_, Glob.source_injective, fun {raw raw' r r'} h h' => ?_⟩
  · obtain ⟨ps, path, hreads, hps, hpath⟩ := Record.exists_reads h
    have hcanonical := Record.reads_canonicalText hreads
    have hcompile := Record.compile_canonicalText hreads hps hpath
    rw [← hps] at hcanonical
    exact ⟨ps, path, hreads, hcanonical.ne_nil, hps ▸ firstSeen_eraseDups ps, _,
      Record.canonicalText?_eq h hreads, rfl, hcompile, Record.canonicalText?_eq hcompile hcanonical⟩
  · obtain ⟨ps, path, hreads, hps, hpath⟩ := Record.exists_reads h
    obtain ⟨ps', path', hreads', hps', hpath'⟩ := Record.exists_reads h'
    rw [Record.canonicalText?_eq h hreads, Record.canonicalText?_eq h' hreads', Option.some.injEq]
    constructor
    · rintro ⟨hprotocols, hhost, hsource⟩
      rw [Glob.eq_of_compile hpath, Glob.eq_of_compile hpath'] at hsource
      rw [hprotocols, hhost, Glob.source_injective hsource]
    · intro htext
      have hsame := Record.compile_canonicalText hreads hps hpath
      rw [htext, Record.compile_canonicalText hreads' hps' hpath'] at hsame
      cases hsame
      exact ⟨rfl, rfl, rfl⟩

/-- A pattern that lists a protocol twice has the record and the canonical text of the one that lists it once. -/
theorem canonicalText?_of_repeated :
    let raw := "https+http+https://a.com/x.?*".toList
    let once := "https+http://a.com/x.?*".toList
    ∃ r : Record, compile raw = .ok r ∧ compile once = .ok r ∧ r.protocols ≠ [] ∧
      canonicalText? raw = canonicalText? once := by
  intro raw once
  have hcompile : ∃ r, compile raw = .ok r ∧ compile once = .ok r := ⟨_, rfl, rfl⟩
  obtain ⟨r, hraw, honce⟩ := hcompile
  obtain ⟨hcanonical, -, hsame⟩ := records_are_canonical
  obtain ⟨-, -, -, hne, -⟩ := hcanonical hraw
  exact ⟨r, hraw, honce, hne, (hsame hraw honce).mp ⟨rfl, rfl, rfl⟩⟩

end WebScope
