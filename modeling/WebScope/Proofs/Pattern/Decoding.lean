import WebScope.Proofs.Json.ReadBack
import WebScope.Proofs.Json.Stepping
import WebScope.Proofs.Pattern.History

/-!
# Patterns are read from any value

A pattern is read from every value of JSON, and a definition from records only. The first reader never fails, so nobody
is told that a value was not understood: it has to be clear from the shape of the value which text it supplies
(`Supplies`), and where the strict reader succeeds (`IsDefinition`) both have to mean the same.

- What a value supplies is a matter of how often the member `pattern` stands in it (`valuesOf_eq_singleton_iff`,
  `length_valuesOf`).
- The strict reader goes through the members of an object one by one, and steps over those that it does not know. Behind
  the member it looks for it only minds whether that comes again (`fieldMembers_met`, `fieldMembers_unmet`). Of an array
  it takes the first item and wants no other (`fieldItems_eq_ok_iff`). So it finds in a text the definition that the value
  of the text is (`Definition.reader_eq_ok_iff`).
- **Reading a pattern is lenient and agrees with reading a definition** (`decoding_is_lenient`).
-/

namespace WebScope

namespace Json

theorem text?_eq_some_iff {v : Json} {s : Text} : v.text? = some s ↔ v = .string s := by
  cases v <;> simp [text?]

variable {name : Text} {members : List (Text × Json)}

theorem valuesOf_cons (name n : Text) (v : Json) (members : List (Text × Json)) :
    valuesOf name ((n, v) :: members) = if n = name then v :: valuesOf name members else valuesOf name members := by
  by_cases hn : n = name <;> simp [valuesOf, hn]

/-- There are as many values under a name as members with that name. -/
theorem length_valuesOf (name : Text) (members : List (Text × Json)) :
    (valuesOf name members).length = (members.map Prod.fst).count name := by
  rw [valuesOf, List.length_map, ← List.countP_eq_length_filter, List.count, List.countP_map]
  rfl

theorem not_mem_names_iff : name ∉ members.map Prod.fst ↔ ∀ m ∈ members, ¬(m.1 == name) = true := by
  simp only [List.mem_map, not_exists, not_and, beq_iff_eq]

theorem valuesOf_eq_nil_iff : valuesOf name members = [] ↔ name ∉ members.map Prod.fst := by
  rw [valuesOf, List.map_eq_nil_iff, List.filter_eq_nil_iff, not_mem_names_iff]

/-- One value stands under a name that is met once. -/
theorem valuesOf_eq_singleton_iff {v : Json} :
    valuesOf name members = [v] ↔ ∃ before after, members = before ++ (name, v) :: after ∧
      name ∉ before.map Prod.fst ∧ name ∉ after.map Prod.fst := by
  rw [valuesOf, List.map_eq_singleton_iff]
  constructor
  · rintro ⟨⟨n, w⟩, hfilter, rfl⟩
    obtain ⟨before, after, rfl, hbefore, hname, hafter⟩ := List.filter_eq_cons_iff.mp hfilter
    obtain rfl := eq_of_beq hname
    exact ⟨before, after, rfl, not_mem_names_iff.mpr hbefore,
      not_mem_names_iff.mpr (List.filter_eq_nil_iff.mp hafter)⟩
  · rintro ⟨before, after, rfl, hbefore, hafter⟩
    refine ⟨(name, v), List.filter_eq_cons_iff.mpr ⟨before, after, rfl, not_mem_names_iff.mp hbefore, ?_, ?_⟩, rfl⟩
    · exact beq_self_eq_true name
    · exact List.filter_eq_nil_iff.mpr (not_mem_names_iff.mp hafter)

end Json

namespace Pattern

/-! ## Values -/

/-- **The text that a value supplies**: itself, that of its only member `pattern`, or its only item. -/
inductive Supplies : Json → Text → Prop
  | text (s : Text) : Supplies (.string s) s
  | member {before after : List (Text × Json)} {s : Text} (hbefore : memberName ∉ before.map Prod.fst)
      (hafter : memberName ∉ after.map Prod.fst) : Supplies (.object (before ++ (memberName, .string s) :: after)) s
  | item (s : Text) : Supplies (.array [.string s]) s

/-- **The values that are definitions**: objects in which the member `pattern` is met once at most, and arrays of one item
at most. -/
inductive IsDefinition : Json → Prop
  | object {members : List (Text × Json)} (h : (members.map Prod.fst).count memberName ≤ 1) :
      IsDefinition (.object members)
  | array {items : List Json} (h : items.length ≤ 1) : IsDefinition (.array items)

theorem suppliedByJson?_eq_some_iff {v : Json} {s : Text} : suppliedByJson? v = some s ↔ Supplies v s := by
  constructor
  · intro h
    unfold suppliedByJson? at h
    split at h
    · cases h
      exact .text s
    · split at h
      · rename_i members w hw
        obtain rfl := Json.text?_eq_some_iff.mp h
        obtain ⟨before, after, rfl, hbefore, hafter⟩ := Json.valuesOf_eq_singleton_iff.mp hw
        exact .member hbefore hafter
      · cases h
    · obtain rfl := Json.text?_eq_some_iff.mp h
      exact .item s
    · cases h
  · intro h
    cases h with
    | text => rfl
    | @member before after s hbefore hafter =>
      have hvalue : Json.valuesOf memberName (before ++ (memberName, .string s) :: after) = [.string s] :=
        Json.valuesOf_eq_singleton_iff.mpr ⟨before, after, rfl, hbefore, hafter⟩
      simp only [suppliedByJson?, hvalue]
      rfl
    | item => rfl

theorem exists_ofJson?_iff {v : Json} : (∃ d, Definition.ofJson? v = some d) ↔ IsDefinition v := by
  constructor
  · rintro ⟨d, h⟩
    unfold Definition.ofJson? at h
    split at h
    · rename_i members
      refine .object ?_
      rw [← Json.length_valuesOf]
      split at h
      · rename_i hv; simp [hv]
      · rename_i hv; simp [hv]
      · cases h
    · exact .array (by simp)
    · exact .array (by simp)
    · cases h
  · intro h
    cases h with
    | @object members h =>
      rw [← Json.length_valuesOf] at h
      unfold Definition.ofJson?
      match hv : Json.valuesOf memberName members with
      | [] => simp [hv]
      | [w] => simp [hv]
      | _ :: _ :: _ => simp [hv] at h
    | @array items h =>
      match items with
      | [] => exact ⟨_, rfl⟩
      | [w] => exact ⟨_, rfl⟩
      | _ :: _ :: _ => simp at h

/-- A definition is read as the pattern that it describes. -/
theorem ofJson_of_ofJson? {v : Json} {d : Definition} (h : Definition.ofJson? v = some d) : ofJson v = ofDefinition d := by
  have hlenient : ofJson v = ofDefinition ((Definition.ofJson? v).getD {}) := by
    cases v with
    | string s => cases h
    | _ => rfl
  rw [hlenient, h, Option.getD_some]

/-! ## Texts -/

namespace Definition

open Json.Reader (valueOf itemsOf membersOf fieldItems fieldMembers fieldMembers_of_find? fieldMembers_of_seen
  fieldMembers_of_skip? skip?_of_valueOf map_eq_ok_iff membersOf_cons_eq_ok_iff itemsOf_cons_eq_ok_iff valueOf_array_eq_ok_iff
  valueOf_object_eq_ok_iff)

/-- The only field of a definition. -/
def textField : Json.Reader.Field Definition :=
  ⟨memberName, false, fun _ room t => (Json.Reader.value room t).map fun v => ⟨v.text?⟩⟩

section Members

variable {room : Nat} {ms : List (Option Text × Json.Tree)} {members : List (Text × Json)}

theorem find?_textField (name : Text) :
    [textField].find? (·.name == name) = if name = memberName then some textField else none := by
  by_cases h : name = memberName
  · simp [h, textField]
  · simp [h, textField, Ne.symm h]

/-- Behind the member that supplies the text the member must not come again. -/
theorem fieldMembers_met (d : Definition) (h : membersOf ms room = .ok members) :
    fieldMembers [textField] room none ms [memberName] d =
      if memberName ∈ members.map Prod.fst then .error .mismatch else .ok d := by
  induction ms generalizing members with
  | nil => cases h; rfl
  | cons m ms ih =>
    obtain ⟨name, t⟩ := m
    obtain ⟨n, w, ws, rfl, hw, hws, rfl⟩ := membersOf_cons_eq_ok_iff.mp h
    have hfind := find?_textField n
    by_cases hn : n = memberName
    · rw [if_pos hn] at hfind
      have hseen : n ∈ [memberName] := by simp [hn]
      rw [fieldMembers_of_seen hfind hseen]
      simp [hn]
    · rw [if_neg hn] at hfind
      have hmem : memberName ∈ ((n, w) :: ws).map Prod.fst ↔ memberName ∈ ws.map Prod.fst := by
        rw [List.map_cons, List.mem_cons]
        exact or_iff_right (Ne.symm hn)
      rw [fieldMembers_of_skip? hfind (skip?_of_valueOf hw), ih hws]
      simp only [hmem]

/-- **The members of an object are read as the definition** that the object is. -/
theorem fieldMembers_unmet (h : membersOf ms room = .ok members) {d : Definition} :
    fieldMembers [textField] room none ms [] {} = .ok d ↔ ofJson? (.object members) = some d := by
  induction ms generalizing members with
  | nil =>
    cases h
    show Except.ok {} = Except.ok d ↔ some {} = some d
    simp
  | cons m ms ih =>
    obtain ⟨name, t⟩ := m
    obtain ⟨n, w, ws, rfl, hw, hws, rfl⟩ := membersOf_cons_eq_ok_iff.mp h
    have hfind := find?_textField n
    by_cases hn : n = memberName
    · subst hn
      rw [if_pos rfl] at hfind
      have hread : textField.read {} room t = .ok ⟨w.text?⟩ := by
        show (valueOf t room).map _ = _
        rw [hw]
        rfl
      rw [fieldMembers_of_find? hfind (by simp) hread, fieldMembers_met _ hws, ofJson?, Json.valuesOf_cons, if_pos rfl]
      by_cases hmore : memberName ∈ ws.map Prod.fst
      · have hne : Json.valuesOf memberName ws ≠ [] := fun hv => Json.valuesOf_eq_nil_iff.mp hv hmore
        obtain ⟨w', ws', hv⟩ := List.exists_cons_of_ne_nil hne
        simp [hmore, hv]
      · simp [hmore, Json.valuesOf_eq_nil_iff.mpr hmore]
    · rw [if_neg hn] at hfind
      rw [fieldMembers_of_skip? hfind (skip?_of_valueOf hw), ih hws, ofJson?, ofJson?, Json.valuesOf_cons, if_neg hn]

end Members

/-- **The items of an array are read as the definition** that the array is. -/
theorem fieldItems_eq_ok_iff {room : Nat} {ts : List Json.Tree} {items : List Json} (h : itemsOf ts room = .ok items)
    {d : Definition} : fieldItems room none [textField] ts {} = .ok d ↔ ofJson? (.array items) = some d := by
  cases ts with
  | nil =>
    cases h
    show Except.ok {} = Except.ok d ↔ some {} = some d
    simp
  | cons t ts =>
    obtain ⟨w, ws, hw, hws, rfl⟩ := itemsOf_cons_eq_ok_iff.mp h
    have hfirst : fieldItems room none [textField] (t :: ts) {} = fieldItems room none [] ts ⟨w.text?⟩ := by
      show (valueOf t room).map _ >>= fieldItems room none [] ts = _
      rw [hw]
      rfl
    rw [hfirst]
    cases ts with
    | nil =>
      cases hws
      show Except.ok _ = Except.ok d ↔ some _ = some d
      simp
    | cons t' ts =>
      obtain ⟨w', ws', -, -, rfl⟩ := itemsOf_cons_eq_ok_iff.mp hws
      exact iff_of_false nofun nofun

/-- A definition is not read from a scalar. -/
theorem reader_scalar_ne {t : Json.Tree} (harray : ∀ ts hole, t ≠ .array ts hole)
    (hobject : ∀ ms hole, t ≠ .object ms hole) {room : Nat} {d : Definition} : reader room t ≠ .ok d := by
  unfold reader Json.Reader.record
  split
  · nofun
  · nofun
  · exact absurd rfl (harray _ _)
  · exact absurd rfl (hobject _ _)
  · nofun

/-- **The strict reader finds the definition that a value is**, and fails on other values. -/
theorem reader_eq_ok_iff {t : Json.Tree} {room : Nat} {v : Json} (h : valueOf t room = .ok v) {d : Definition} :
    reader room t = .ok d ↔ ofJson? v = some d := by
  cases t with
  | array ts hole =>
    cases room with
    | zero => cases h
    | succ room =>
      obtain ⟨items, hitems, rfl, rfl⟩ := valueOf_array_eq_ok_iff.mp h
      exact fieldItems_eq_ok_iff hitems
  | object ms hole =>
    cases room with
    | zero => cases h
    | succ room =>
      obtain ⟨members, hmembers, rfl, rfl⟩ := valueOf_object_eq_ok_iff.mp h
      exact fieldMembers_unmet hmembers
  | broken hole => cases h
  | null => cases h; exact iff_of_false (reader_scalar_ne (by simp) (by simp)) nofun
  | bool b => cases h; exact iff_of_false (reader_scalar_ne (by simp) (by simp)) nofun
  | number n =>
    obtain ⟨m, -, rfl⟩ := map_eq_ok_iff.mp h
    exact iff_of_false (reader_scalar_ne (by simp) (by simp)) nofun
  | string s =>
    obtain ⟨s, -, rfl⟩ := map_eq_ok_iff.mp h
    exact iff_of_false (reader_scalar_ne (by simp) (by simp)) nofun

end Definition

/-- A pattern is read from each text that is a value, and from no other. -/
theorem run_reader (s : Text) : reader.run s = (Json.Reader.run Json.Reader.value s).map ofJson := by
  unfold Json.Reader.run reader
  obtain ⟨t, more⟩ := Json.Tree.ofText s
  dsimp only
  cases Json.Reader.value Json.Reader.depth t with
  | error f => rfl
  | ok v => cases more <;> rfl

/-- **Reading a pattern is lenient and agrees with reading a definition.** Each value is read as the pattern of the text
that it supplies, and as the pattern of the empty text, which matches everything, if it supplies none. A definition is
read from the values that are definitions, and describes the pattern that is read from the same value. The readers of
texts do the same with the value that a text is. -/
theorem decoding_is_lenient :
    (∀ v, (∀ s, Supplies v s → ofJson v = ofText s) ∧
      ((¬∃ s, Supplies v s) → ofJson v = ofText [] ∧ (ofJson v).raw = matchAllUrls) ∧
      ((∃ d, Definition.ofJson? v = some d) ↔ IsDefinition v) ∧
      ∀ d, Definition.ofJson? v = some d → ofJson v = ofDefinition d) ∧
    (∀ s : Text, reader.run s = (Json.Reader.run Json.Reader.value s).map ofJson) ∧
    ∀ s v, Json.Reader.run Json.Reader.value s = .ok v →
      ∀ d, Definition.reader.run s = .ok d ↔ Definition.ofJson? v = some d := by
  refine ⟨fun v => ⟨fun s hs => ?_, fun hnone => ?_, exists_ofJson?_iff, fun d => ofJson_of_ofJson?⟩, run_reader,
    fun s v hv d => ?_⟩
  · rw [ofJson_eq_ofDefinition, suppliedByJson?_eq_some_iff.mpr hs, ofText]
  · have hv : suppliedByJson? v = none :=
      Option.eq_none_iff_forall_not_mem.mpr fun s hs => hnone ⟨s, suppliedByJson?_eq_some_iff.mp hs⟩
    have hempty : ofJson v = ofText [] := by
      rw [ofJson_eq_ofDefinition, hv]
      rfl
    exact ⟨hempty, hempty ▸ raw_ofText_nil⟩
  · obtain ⟨hread, hend⟩ := Json.Reader.run_eq_ok_iff.mp hv
    rw [Json.Reader.run_eq_ok_iff, and_iff_left hend]
    exact Definition.reader_eq_ok_iff hread

/-- The member `pattern` counts beside one that is unknown; if it comes twice, no definition is read, and the pattern is
the one that matches everything. -/
theorem decoding_of_objects :
    let once : Json := .object [("a".toList, .array [.null]), (memberName, .string "*://a.com/".toList)]
    let twice : Json := .object [(memberName, .string "*://a.com/".toList), (memberName, .string "*://b.com/".toList)]
    Supplies once "*://a.com/".toList ∧ ofJson once = ofText "*://a.com/".toList ∧
      (¬∃ s, Supplies twice s) ∧ (ofJson twice).raw = matchAllUrls ∧ ¬IsDefinition twice ∧
      Definition.ofJson? once = some ⟨some "*://a.com/".toList⟩ ∧
      ofJson once = ofDefinition ⟨some "*://a.com/".toList⟩ ∧
      Json.Reader.run Json.Reader.value once.toText = .ok once ∧
      Definition.reader.run once.toText = .ok ⟨some "*://a.com/".toList⟩ := by
  intro once twice
  obtain ⟨hvalues, -, htexts⟩ := decoding_is_lenient
  obtain ⟨hsupplied, -, -, hread⟩ := hvalues once
  obtain ⟨-, hnothing, hdefinition, -⟩ := hvalues twice
  have honce : Supplies (.object ([("a".toList, .array [.null])] ++ [(memberName, .string "*://a.com/".toList)])) _ :=
    .member (by decide) (by decide)
  have htwice : ¬∃ s, Supplies twice s := fun ⟨s, hs⟩ => nomatch suppliedByJson?_eq_some_iff.mpr hs
  have hnone : ¬IsDefinition twice := fun h => by
    obtain ⟨d, hd⟩ := hdefinition.mpr h
    cases hd
  have hrecord : Definition.ofJson? once = some ⟨some "*://a.com/".toList⟩ := rfl
  have hitems : ∀ v ∈ [Json.null], v.IsWellFormed := List.forall_mem_cons.mpr ⟨.null, fun _ h => nomatch h⟩
  have honceFormed : once.IsWellFormed := .object
    (List.forall_mem_cons.mpr ⟨.array hitems, List.forall_mem_cons.mpr ⟨.string _, fun _ h => nomatch h⟩⟩)
  have hvalue : Json.Reader.run Json.Reader.value once.toText = .ok once :=
    Json.Reader.run_value_toText honceFormed rfl
  exact ⟨honce, hsupplied _ honce, htwice, (hnothing htwice).2, hnone, hrecord,
    hread _ hrecord, hvalue, (htexts _ once hvalue _).mpr hrecord⟩

end Pattern
end WebScope
