import Mathlib.Logic.Relation
import WebScope.Proofs.Pattern.Meaning

/-!
# More general patterns

A pattern text is made more general by an edit of one of its segments (`Segments.Widens`): a protocol more, a wider host,
or a star in place of a stretch of the path. What is matched is a matter of each segment alone, so each edit is an
inclusion of what that segment covers.

- Globs behind each other match texts behind each other (`Glob.matches_append_iff`), so a star does for any stretch
  without line feeds (`Glob.Matches.star_for`).
- What ends with a suffix behind a dot ends with each shorter suffix behind a dot (`HostToken.Covers.shortened`).
- An edit leads from the grammar to the grammar and loses nothing that is covered (`Segments.Widens.legal`,
  `Segments.Widens.covers`), and so does any run of edits (`Segments.test_of_widened`).
- **Generalising a pattern loses no match**, and a run of stars is one star (`widening_loses_no_match`).
-/

namespace WebScope

/-! ## Globs -/

namespace Glob

theorem Matches.append {g h t u : Text} (hg : Matches g t) (hh : Matches h u) : Matches (g ++ h) (t ++ u) := by
  induction hg with
  | nil => exact hh
  | one hc _ ih => exact .one hc ih
  | run hrun _ ih =>
    rw [List.append_assoc]
    exact .run hrun ih
  | char hq hs _ ih => exact .char hq hs ih

/-- **Globs behind each other match texts behind each other.** -/
theorem matches_append_iff {g h t : Text} :
    Matches (g ++ h) t ↔ ∃ u v, t = u ++ v ∧ Matches g u ∧ Matches h v := by
  refine ⟨fun hm => ?_, fun ⟨u, v, ht, hg, hh⟩ => ht ▸ hg.append hh⟩
  induction g generalizing t with
  | nil => exact ⟨[], t, rfl, .nil, hm⟩
  | cons c g ih =>
    cases hm with
    | one hc hm =>
      obtain ⟨u, v, rfl, hg, hh⟩ := ih hm
      exact ⟨_ :: u, v, rfl, .one hc hg, hh⟩
    | run hrun hm =>
      obtain ⟨u, v, rfl, hg, hh⟩ := ih hm
      exact ⟨_ ++ u, v, by rw [List.append_assoc], .run hrun hg, hh⟩
    | char hq hs hm =>
      obtain ⟨u, v, rfl, hg, hh⟩ := ih hm
      exact ⟨c :: u, v, rfl, .char hq hs hg, hh⟩

/-- A glob without line feeds matches only texts without line feeds. -/
theorem Matches.noLineFeed {g t : Text} (h : Matches g t) : '\n' ∉ g → Regex.NoLineFeed t := by
  induction h with
  | nil => exact fun _ => Regex.noLineFeed_nil
  | one hc _ ih => exact fun hg => Regex.noLineFeed_cons.mpr ⟨hc, ih (List.not_mem_of_not_mem_cons hg)⟩
  | run hrun _ ih =>
    intro hg c hc
    rcases List.mem_append.mp hc with hc | hc
    · exact hrun c hc
    · exact ih (List.not_mem_of_not_mem_cons hg) c hc
  | char _ _ _ ih =>
    intro hg
    exact Regex.noLineFeed_cons.mpr ⟨fun he => hg (he ▸ List.mem_cons_self), ih (List.not_mem_of_not_mem_cons hg)⟩

/-- **A star does for any stretch** without line feeds. -/
theorem Matches.star_for {a b c t : Text} (h : Matches (a ++ b ++ c) t) (hb : '\n' ∉ b) :
    Matches (a ++ '*' :: c) t := by
  obtain ⟨u, v, rfl, hab, hc⟩ := matches_append_iff.mp h
  obtain ⟨x, y, rfl, ha, hy⟩ := matches_append_iff.mp hab
  rw [List.append_assoc]
  exact ha.append (.run (hy.noLineFeed hb) hc)

end Glob

theorem Regex.size_append (ps qs : List Piece) : size (ps ++ qs) = size ps + size qs := by
  induction ps with
  | nil => simp [size]
  | cons p ps ih => simp only [List.cons_append, size, ih]; omega

/-! ## Hosts -/

namespace HostToken

theorem Covers.below {host remote : Text} (h : Covers host remote) (hstar : '*' ∉ host) :
    Covers ('*' :: '.' :: host) remote := by
  rcases h with rfl | rfl | ⟨s, rfl, -⟩
  · exact absurd List.mem_cons_self hstar
  · exact .inr (.inr ⟨_, rfl, .inl rfl⟩)
  · exact absurd List.mem_cons_self hstar

/-- **What ends with a suffix ends with each shorter one** behind a dot. -/
theorem Covers.shortened {x s remote : Text} (h : Covers ('*' :: '.' :: (x ++ '.' :: s)) remote) :
    Covers ('*' :: '.' :: s) remote := by
  have hends : ∃ front, remote = front ++ '.' :: s := by
    rcases h with h | rfl | ⟨s', hs', rfl | ⟨front, rfl⟩⟩
    · cases h
    · exact ⟨'*' :: '.' :: x, by simp⟩
    · cases hs'
      exact ⟨x, rfl⟩
    · cases hs'
      exact ⟨front ++ '.' :: x, by simp⟩
  exact .inr (.inr ⟨s, rfl, .inr hends⟩)

end HostToken

/-! ## Edits -/

namespace Segments

/-- **Segments of the grammar.** -/
structure Legal (s : Segments) : Prop where
  protocols : Lists (alternatives s.protocols) s.protocols
  host : HostForm s.host
  path : PathForm s.path

theorem legal_of_ofText? {raw : Text} {s : Segments} (h : ofText? raw = some s) : Legal s := by
  obtain ⟨hp, hh, hpath⟩ := checked_of_ofText? h
  exact ⟨hp, hh, hpath⟩

theorem Legal.ofText?_toText {s : Segments} (h : Legal s) : ofText? s.toText = some s :=
  Segments.ofText?_toText h.protocols h.host h.path

/-- **An edit that makes a pattern more general.** -/
inductive Widens : Segments → Segments → Prop
  /-- One more alternative, anywhere in the protocol list. -/
  | protocol {protocols host path p : Text} {ps qs : List Text} (h : alternatives protocols = ps ++ qs)
      (hp : p ∈ allowedProtocols ∨ p = matchAll) :
      Widens ⟨protocols, host, path⟩ ⟨[protocolDelimiter].intercalate (ps ++ p :: qs), host, path⟩
  /-- Any host in place of the host. -/
  | anyHost {protocols host path : Text} : Widens ⟨protocols, host, path⟩ ⟨protocols, matchAll, path⟩
  /-- The names below a host name beside itself. -/
  | below {protocols host path : Text} (hne : host ≠ []) (hstar : '*' ∉ host) :
      Widens ⟨protocols, host, path⟩ ⟨protocols, '*' :: '.' :: host, path⟩
  /-- A shorter suffix. -/
  | shorten {protocols x s path : Text} (hne : s ≠ []) :
      Widens ⟨protocols, '*' :: '.' :: (x ++ '.' :: s), path⟩ ⟨protocols, '*' :: '.' :: s, path⟩
  /-- A star in place of a stretch, which may be empty, behind the first slash of the path. -/
  | star {protocols host a b c : Text} :
      Widens ⟨protocols, host, '/' :: a ++ b ++ c⟩ ⟨protocols, host, '/' :: a ++ '*' :: c⟩

/-- What segments cover. -/
def Covers (s : Segments) (parts : Parts) : Prop := Pattern.Covers (alternatives s.protocols) s.host s.path parts

/-- A protocol list with one more alternative. -/
theorem lists_insert {protocols p : Text} {ps qs : List Text} (h : Lists (alternatives protocols) protocols)
    (hsplit : alternatives protocols = ps ++ qs) (hp : p ∈ allowedProtocols ∨ p = matchAll) :
    Lists (ps ++ p :: qs) ([protocolDelimiter].intercalate (ps ++ p :: qs)) where
  ne_nil := by simp
  named := by
    intro q hq
    have hold : ∀ q ∈ ps ++ qs, q ∈ allowedProtocols ∨ q = matchAll := hsplit ▸ h.named
    rcases List.mem_append.mp hq with hq | hq
    · exact hold q (List.mem_append_left _ hq)
    · rcases List.mem_cons.mp hq with rfl | hq
      · exact hp
      · exact hold q (List.mem_append_right _ hq)
  joined := rfl

/-- **An edit of a pattern text gives a pattern text.** -/
theorem Widens.legal {s s' : Segments} (h : Widens s s') (hs : Legal s) : Legal s' := by
  obtain ⟨hprotocols, hhost, hpath⟩ := hs
  cases h with
  | protocol hsplit hp =>
    have hlists := lists_insert hprotocols hsplit hp
    exact ⟨hlists.alternatives_eq.symm ▸ hlists, hhost, hpath⟩
  | anyHost => exact ⟨hprotocols, .any, hpath⟩
  | below hne hstar => exact ⟨hprotocols, .below ⟨hne, hstar, hhost.not_mem⟩, hpath⟩
  | @shorten _ x s _ hne =>
    have hname : '*' ∉ s ∧ '/' ∉ s := by
      cases hhost with
      | below hx => exact ⟨fun hm => hx.2.1 (by simp [hm]), fun hm => hx.2.2 (by simp [hm])⟩
      | name hx => exact absurd List.mem_cons_self hx.2.1
    exact ⟨hprotocols, .below ⟨hne, hname⟩, hpath⟩
  | @star _ _ a b c =>
    obtain ⟨t, ht, hn⟩ := hpath
    cases ht
    refine ⟨hprotocols, hhost, a ++ '*' :: c, rfl, fun hm => hn ?_⟩
    rcases List.mem_append.mp hm with hm | hm
    · exact List.mem_append_left _ (List.mem_append_left _ hm)
    · rcases List.mem_cons.mp hm with hm | hm
      · cases hm
      · exact List.mem_append_right _ hm

/-- **An edit loses nothing that is covered.** -/
theorem Widens.covers {s s' : Segments} (h : Widens s s') (hs : Legal s) {parts : Parts} (hc : s.Covers parts) :
    s'.Covers parts := by
  obtain ⟨hallowed, hlisted, hremote, hin⟩ := hc
  cases h with
  | @protocol protocols host path p ps qs hsplit hp =>
    have hnew : alternatives ([protocolDelimiter].intercalate (ps ++ p :: qs)) = ps ++ p :: qs :=
      (lists_insert hs.protocols hsplit hp).alternatives_eq
    have hmem : ∀ q, q ∈ alternatives protocols → q ∈ ps ++ p :: qs := by
      intro q hq
      rw [hsplit] at hq
      rcases List.mem_append.mp hq with hq | hq
      · exact List.mem_append_left _ hq
      · exact List.mem_append_right _ (List.mem_cons_of_mem _ hq)
    refine ⟨hallowed, ?_, hremote, hin⟩
    show parts.protocol ∈ alternatives _ ∨ ['*'] ∈ alternatives _
    rw [hnew]
    exact hlisted.imp (hmem _) (hmem _)
  | anyHost => exact ⟨hallowed, hlisted, .inl rfl, hin⟩
  | below _ hstar => exact ⟨hallowed, hlisted, hremote.below hstar, hin⟩
  | shorten => exact ⟨hallowed, hlisted, hremote.shortened, hin⟩
  | star =>
    refine ⟨hallowed, hlisted, hremote, hin.star_for fun hm => ?_⟩
    obtain ⟨t, ht, hn⟩ := hs.path
    cases ht
    exact hn (List.mem_append_left _ (List.mem_append_right _ hm))

/-! ## Runs of edits -/

/-- **A run of edits.** -/
abbrev Generalises : Segments → Segments → Prop := Relation.ReflTransGen Widens

theorem Generalises.legal_and_covers {s s' : Segments} (h : Generalises s s') (hs : Legal s) :
    Legal s' ∧ ∀ parts, s.Covers parts → s'.Covers parts := by
  induction h with
  | refl => exact ⟨hs, fun _ hc => hc⟩
  | tail _ hstep ih =>
    obtain ⟨hlegal, hcovers⟩ := ih
    exact ⟨hstep.legal hlegal, fun parts hc => hstep.covers hlegal (hcovers parts hc)⟩

/-- The test of segments of the grammar. -/
theorem Legal.test_toText_iff {s : Segments} (hs : Legal s) (url : Text) :
    (Pattern.ofText s.toText).test url = true ↔
      (∃ r, Glob.compile s.path = .ok r) ∧ ∃ parts, Parts.ofText url = .ok parts ∧ s.Covers parts :=
  Pattern.test_iff_of_reads (reads_iff.mpr ⟨s, hs.ofText?_toText, rfl, rfl, rfl⟩) url

/-- **A run of edits loses no match**, if the path that it ends with is not too large. -/
theorem test_of_widened {s s' : Segments} (h : Generalises s s') (hs : Legal s) (hfits : Glob.Fits s'.path) {url : Text}
    (ht : (Pattern.ofText s.toText).test url = true) : (Pattern.ofText s'.toText).test url = true := by
  obtain ⟨hlegal, hcovers⟩ := h.legal_and_covers hs
  obtain ⟨-, parts, hparts, hc⟩ := (hs.test_toText_iff url).mp ht
  exact (hlegal.test_toText_iff url).mpr ⟨Glob.exists_compile hfits, parts, hparts, hcovers parts hc⟩

/-- Stars are put in one by one. -/
theorem generalises_stars (protocols host a c : Text) : ∀ n : Nat,
    Generalises ⟨protocols, host, '/' :: a ++ '*' :: c⟩ ⟨protocols, host, '/' :: a ++ List.replicate (n + 1) '*' ++ c⟩
  | 0 => by simpa using Relation.ReflTransGen.refl
  | n + 1 => by
    have hstep : Widens ⟨protocols, host, '/' :: a ++ [] ++ (List.replicate (n + 1) '*' ++ c)⟩
        ⟨protocols, host, '/' :: a ++ '*' :: (List.replicate (n + 1) '*' ++ c)⟩ := .star
    have hmore : '/' :: a ++ '*' :: (List.replicate (n + 1) '*' ++ c) = '/' :: a ++ List.replicate (n + 2) '*' ++ c := by
      rw [List.append_assoc]
      rfl
    rw [List.append_nil, ← List.append_assoc, hmore] at hstep
    exact (generalises_stars protocols host a c n).tail hstep

end Segments

open Segments (Widens)

/-- **Generalising a pattern loses no match.** Each edit of a text of the grammar gives a text of the grammar that matches
all that the first one matches, if its path is not too large to be compiled; and a run of stars in the path matches what
one star matches. -/
theorem widening_loses_no_match {raw : Text} {s : Segments} (hs : Segments.ofText? raw = some s) :
    (∀ s', Widens s s' → Segments.ofText? s'.toText = some s' ∧
      (Glob.Fits s'.path → ∀ url, (Pattern.ofText raw).test url = true →
        (Pattern.ofText s'.toText).test url = true)) ∧
    ∀ (a c : Text) (n : Nat), s.path = '/' :: a ++ List.replicate (n + 1) '*' ++ c → Glob.Fits s.path →
      ∀ url, (Pattern.ofText raw).test url =
        (Pattern.ofText (Segments.toText { s with path := '/' :: a ++ '*' :: c })).test url := by
  obtain rfl := Segments.eq_of_ofText? hs
  have hlegal := Segments.legal_of_ofText? hs
  refine ⟨fun s' h => ⟨(h.legal hlegal).ofText?_toText, fun hfits url => ?_⟩, fun a c n hpath hfits url => ?_⟩
  · exact Segments.test_of_widened (Relation.ReflTransGen.single h) hlegal hfits
  · obtain ⟨protocols, host, path⟩ := s
    obtain rfl : path = _ := hpath
    have hone : Widens ⟨protocols, host, '/' :: a ++ List.replicate (n + 1) '*' ++ c⟩
        ⟨protocols, host, '/' :: a ++ '*' :: c⟩ := .star
    have hless : Glob.Fits ('/' :: a ++ '*' :: c) := by
      rw [Glob.fits_iff] at hfits ⊢
      simp only [List.replicate_succ, List.map_append, List.map_cons, Regex.size_append, Regex.size] at hfits ⊢
      omega
    rw [Bool.eq_iff_iff]
    exact ⟨Segments.test_of_widened (Relation.ReflTransGen.single hone) hlegal hless,
      Segments.test_of_widened (Segments.generalises_stars protocols host a c n) (hone.legal hlegal) hfits⟩

/-- A pattern with the suffix `mail.example.com` and two stars loses no match with the suffix `example.com`, and none with
one star. -/
theorem widening_of_mail_suffix :
    let s : Segments := ⟨"https".toList, "*.mail.example.com".toList, "/in**box".toList⟩
    let s' : Segments := ⟨"https".toList, "*.example.com".toList, "/in**box".toList⟩
    let url := "https://eu.mail.example.com/in/1/box".toList
    Segments.ofText? s.toText = some s ∧ Widens s s' ∧ Segments.ofText? s'.toText = some s' ∧ Glob.Fits s'.path ∧
      (Pattern.ofText s.toText).test url = true ∧ (Pattern.ofText s'.toText).test url = true ∧
      (Pattern.ofText s.toText).test url =
        (Pattern.ofText (Segments.toText ⟨s.protocols, s.host, "/in*box".toList⟩)).test url := by
  intro s s' url
  have hs : Segments.ofText? s.toText = some s := by decide +kernel
  have hwidens : Widens s s' := .shorten (x := "mail".toList) (s := "example.com".toList) (by decide)
  have hfits : Glob.Fits s.path := Glob.fits_iff.mpr (by decide +kernel)
  have htest : (Pattern.ofText s.toText).test url = true := by decide +kernel
  obtain ⟨hedits, hstars⟩ := widening_loses_no_match hs
  obtain ⟨hlegal, hkeeps⟩ := hedits s' hwidens
  exact ⟨hs, hwidens, hlegal, hfits, htest, hkeeps hfits url htest,
    hstars "in".toList "box".toList 1 (by decide) hfits url⟩

end WebScope
