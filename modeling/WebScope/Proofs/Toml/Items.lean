import WebScope.Proofs.Toml.Lines

/-!
# Documents of items

A document can be one array of tables: a header for each table, and the entries of the table as assignments behind it.

- Assignments to different keys add the entries in order (`assignAll_assignments`), up to the next header.
- Each header adds one table to the array (`fillAll_items`), so **the table of such a document has the array as its only
  entry** (`ofStatements?_items`).
- Texts of items can be put together with blank lines between them (`reads_intercalate`).
-/

namespace WebScope
namespace Toml

/-- The keys of entries are different. -/
def DistinctKeys (es : Entries) : Prop := (es.map Prod.fst).Nodup

namespace Table

/-- A key that is not there yet is added at the end. -/
theorem insert_of_distinct {key : Text} {v : Value} {es rest : Entries} (h : DistinctKeys (es ++ (key, v) :: rest)) :
    insert key v es = some (es ++ [(key, v)]) := by
  have hnone : es.lookup key = none := by
    rw [List.lookup_eq_none_iff]
    intro e he
    rw [DistinctKeys, List.map_append, List.nodup_append] at h
    have hne := h.2.2 e.1 (List.mem_map_of_mem he) key (by simp)
    simpa using hne.symm
  rw [insert, hnone]

/-- The first header of an array makes the array, with one table. -/
theorem fill_item_nil {key : Text} {f : Entries → Option Entries} {es : Entries} (h : f [] = some es) :
    fill true [] key f [] = some [(key, .array true [.table .header es])] := by
  show openItem key f [] = _
  rw [openItem, List.lookup_nil, h]
  rfl

/-- Every other header of an array adds one table to it. -/
theorem fill_item_cons {key : Text} {f : Entries → Option Entries} {es : Entries} (h : f [] = some es)
    (vs : List Value) :
    fill true [] key f [(key, .array true vs)] = some [(key, .array true (vs ++ [.table .header es]))] := by
  show openItem key f [(key, .array true vs)] = _
  rw [openItem, List.lookup_cons_self, h]
  simp [replace]

end Table

namespace Document

/-! ## The table of the statements -/

/-- The statement that makes an entry. -/
def assignmentOf : Text × Value → Statement
  | (key, v) => .assignment ([], key) v

/-- The statements of a table in the array `key`: a header, and one assignment for each entry. -/
def itemStatements (key : Text) (es : Entries) : List Statement := .header true ([], key) :: es.map assignmentOf

/-- **What is not assigned here**: nothing is left, or a header comes next. -/
inductive EndsTable : List Statement → Prop
  | nil : EndsTable []
  | header (isItem : Bool) (key : Key) (sts : List Statement) : EndsTable (.header isItem key :: sts)

theorem endsTable_flatMap (key : Text) : ∀ tables : List Entries, EndsTable (tables.flatMap (itemStatements key))
  | [] => .nil
  | _ :: _ => .header true ([], key) _

/-- **Assignments to different keys add the entries in order.** -/
theorem assignAll_assignments {rest : List Statement} (hrest : EndsTable rest) :
    ∀ {es acc : Entries}, DistinctKeys (acc ++ es) → assignAll acc (es.map assignmentOf ++ rest) = some (acc ++ es)
  | [], acc, _ => by
    rw [List.append_nil]
    cases hrest <;> rfl
  | (key, v) :: es, acc, h => by
    have hinsert : Table.assign [] key v acc = some (acc ++ [(key, v)]) := by
      rw [Table.assign_nil, Table.insert_of_distinct h]
    have htext : acc ++ (key, v) :: es = acc ++ [(key, v)] ++ es := by simp
    rw [htext] at h ⊢
    rw [List.map_cons, List.cons_append, assignmentOf, assignAll, hinsert]
    exact assignAll_assignments hrest h

/-- The entries of a table are the ones that are assigned behind its header. -/
theorem assignAll_item (key : Text) {es : Entries} (h : DistinctKeys es) (tables : List Entries) :
    assignAll [] (es.map assignmentOf ++ tables.flatMap (itemStatements key)) = some es :=
  assignAll_assignments (endsTable_flatMap key tables) h

/-- Assignments are passed over when the tables of headers are filled. -/
theorem fillAll_assignments (tops : Entries) (rest : List Statement) : ∀ es : Entries,
    fillAll tops (es.map assignmentOf ++ rest) = fillAll tops rest
  | [] => rfl
  | (key, v) :: es => by
    rw [List.map_cons, List.cons_append, assignmentOf, fillAll]
    exact fillAll_assignments tops rest es

/-- **Each item adds one table to the array.** -/
theorem fillAll_items (key : Text) : ∀ {tables : List Entries} (vs : List Value), (∀ es ∈ tables, DistinctKeys es) →
    fillAll [(key, .array true vs)] (tables.flatMap (itemStatements key)) =
      some [(key, .array true (vs ++ tables.map (Value.table .header)))]
  | [], vs, _ => by simp [fillAll]
  | es :: tables, vs, h => by
    obtain ⟨hes, htables⟩ := List.forall_mem_cons.mp h
    rw [List.flatMap_cons, itemStatements, List.cons_append, fillAll,
      Table.fill_item_cons (assignAll_item key hes tables)]
    show fillAll _ _ = _
    rw [fillAll_assignments, fillAll_items key _ htables]
    simp

/-- **The table of a document of items**: its only entry is the array of their tables. -/
theorem ofStatements?_items (key : Text) {tables : List Entries} (hne : tables ≠ [])
    (h : ∀ es ∈ tables, DistinctKeys es) :
    ofStatements? (tables.flatMap (itemStatements key)) =
      some [(key, .array true (tables.map (Value.table .header)))] := by
  obtain ⟨es, tables, rfl⟩ := List.exists_cons_of_ne_nil hne
  obtain ⟨hes, htables⟩ := List.forall_mem_cons.mp h
  rw [List.flatMap_cons, itemStatements, List.cons_append, ofStatements?]
  show fillAll [] _ = _
  rw [fillAll, Table.fill_item_nil (assignAll_item key hes tables)]
  show fillAll _ _ = _
  rw [fillAll_assignments, fillAll_items key _ htables]
  rfl

/-! ## The text of the statements -/

/-- **Texts are read one after the other**, with a text between them that says nothing. -/
theorem reads_intercalate {α : Type} {sep : Text} (hsep : Reads sep []) {text : α → Text} {sts : α → List Statement}
    (h : ∀ x, Reads (text x) (sts x)) : ∀ xs : List α, Reads (sep.intercalate (xs.map text)) (xs.flatMap sts)
  | [] => reads_nil
  | [x] => by simpa using h x
  | x :: y :: xs => by
    have hrest := reads_intercalate hsep h (y :: xs)
    have hall := ((h x).append hsep).append hrest
    rw [List.append_nil] at hall
    rw [List.map_cons, List.map_cons, List.intercalate_cons_cons, List.flatMap_cons]
    exact hall

end Document
end Toml
end WebScope
