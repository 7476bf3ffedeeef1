import SalarySurvey.Proofs.Associations
import SalarySurvey.Proofs.Toml.Lines

/-!
# Documents of tables

A document that gives every table a header of one name, and every entry of a table a key of one
name, has these tables with these entries and nothing else, if no two tables share a name and no
two entries of a table a key. Each header opens its table at the end of the document, and each entry
goes to the end of the last table. However such tables are written, their text is read as them.
-/
namespace SalarySurvey.Toml

/-- The statements of a table: its header and its entries. -/
def tableStatements (table : String × Entries) : List Statement :=
  .header [] table.1 :: table.2.map fun (key, value) => .entry [] key value

/-- A text is a document of some tables. -/
def WritesTables (tables : List (String × Entries)) (text : String) : Prop :=
  WritesLines (tables.flatMap tableStatements) text.toList

/-- The entries of a document of tables. -/
def ofTables (tables : List (String × Entries)) : Entries :=
  tables.map fun (name, entries) => (name, .table .header entries)

/-- Tables that can stand in one document. -/
structure Distinct (tables : List (String × Entries)) : Prop where
  /-- No two tables share a name. -/
  names : (tables.map Prod.fst).Nodup
  /-- No two entries of a table share a key. -/
  keys : ∀ table ∈ tables, (table.2.map Prod.fst).Nodup

variable {name key : String} {value : Toml} {before entries inner : Entries} {draft : Draft}
  {tables : List (String × Entries)}

/-- A document of tables gives a table for its name. -/
theorem lookup_ofTables (tables : List (String × Entries)) (name : String) :
    (ofTables tables).lookup name = (tables.lookup name).map (.table .header) := by
  induction tables with
  | nil => rfl
  | cons table tables ih =>
    obtain ⟨first, entries⟩ := table
    have step : ofTables ((first, entries) :: tables) =
        (first, .table .header entries) :: ofTables tables := rfl
    rw [step, lookup_cons_eq_ite, lookup_cons_eq_ite, ih]
    split <;> rfl

/-- The value of the last key is replaced. -/
theorem Entries.replace_append_singleton (new : name ∉ before.map Prod.fst) (old value : Toml) :
    Entries.replace (before ++ [(name, old)]) name value = before ++ [(name, value)] := by
  have kept : Entries.replace before name value = before := by
    conv_rhs => rw [← List.map_id before]
    apply List.map_congr_left
    rintro ⟨key, found⟩ listed
    have different : key ≠ name := by
      rintro rfl
      exact new (List.mem_map.mpr ⟨_, listed, rfl⟩)
    exact if_neg different
  rw [Entries.replace, List.map_append, ← Entries.replace, kept]
  simp

/-- A new header opens a table at the end. -/
theorem Draft.add_header (new : name ∉ draft.entries.map Prod.fst) :
    draft.add (.header [] name) = some ⟨[name], draft.entries ++ [(name, .table .header [])]⟩ := by
  simp [Draft.add, under, changeAt, openTable, lookup_eq_none new]

/-- A new entry goes to the end of the last table. -/
theorem Draft.add_entry (new : name ∉ before.map Prod.fst) (newKey : key ∉ inner.map Prod.fst) :
    Draft.add ⟨[name], before ++ [(name, .table .header inner)]⟩ (.entry [] key value) =
      some ⟨[name], before ++ [(name, .table .header (inner ++ [(key, value)]))]⟩ := by
  have found : (before ++ [(name, Toml.table .header inner)]).lookup name =
      some (.table .header inner) := by
    rw [lookup_append_singleton new, if_pos rfl]
  have replaced := Entries.replace_append_singleton new (.table .header inner)
    (.table .header (inner ++ [(key, value)]))
  simp [Draft.add, under, changeAt, found, assign, Entries.insert?, lookup_eq_none newKey, replaced]

/-- New entries go to the end of the last table. -/
theorem foldlM_entries (new : name ∉ before.map Prod.fst)
    (distinct : ((inner ++ entries).map Prod.fst).Nodup) :
    (entries.map fun (key, value) => Statement.entry [] key value).foldlM Draft.add
        ⟨[name], before ++ [(name, .table .header inner)]⟩ =
      some ⟨[name], before ++ [(name, .table .header (inner ++ entries))]⟩ := by
  induction entries generalizing inner with
  | nil =>
    rw [List.append_nil]
    rfl
  | cons entry entries ih =>
    obtain ⟨key, value⟩ := entry
    have newKey : key ∉ inner.map Prod.fst := by
      rw [List.map_append, List.nodup_append] at distinct
      intro listed
      exact distinct.2.2 key listed key List.mem_cons_self rfl
    have later : inner ++ (key, value) :: entries = inner ++ [(key, value)] ++ entries := by simp
    rw [later] at distinct ⊢
    rw [List.map_cons, List.foldlM_cons, Draft.add_entry new newKey]
    exact ih distinct

/-- The statements of a new table add it at the end. -/
theorem foldlM_tableStatements {table : String × Entries}
    (new : table.1 ∉ draft.entries.map Prod.fst) (distinct : (table.2.map Prod.fst).Nodup) :
    (tableStatements table).foldlM Draft.add draft =
      some ⟨[table.1], draft.entries ++ ofTables [table]⟩ := by
  rw [tableStatements, List.foldlM_cons, Draft.add_header new]
  exact foldlM_entries new distinct

/-- The statements of new tables add them at the end. -/
theorem foldlM_tables (distinct : Distinct tables)
    (new : ∀ table ∈ tables, table.1 ∉ draft.entries.map Prod.fst) :
    ((tables.flatMap tableStatements).foldlM Draft.add draft).map Draft.entries =
      some (draft.entries ++ ofTables tables) := by
  induction tables generalizing draft with
  | nil =>
    rw [ofTables, List.map_nil, List.append_nil]
    rfl
  | cons table tables ih =>
    obtain ⟨names, keys⟩ := distinct
    rw [List.map_cons, List.nodup_cons] at names
    rw [List.forall_mem_cons] at keys new
    have others : ∀ later ∈ tables,
        later.1 ∉ (draft.entries ++ ofTables [table]).map Prod.fst := by
      intro later listed
      rw [List.map_append, List.mem_append, not_or]
      refine ⟨new.2 later listed, ?_⟩
      have different : later.1 ≠ table.1 := fun same =>
        names.1 (List.mem_map.mpr ⟨later, listed, same⟩)
      simpa [ofTables] using different
    rw [List.flatMap_cons, List.foldlM_append, foldlM_tableStatements new.1 keys.1]
    have rest : ((tables.flatMap tableStatements).foldlM Draft.add
        ⟨[table.1], draft.entries ++ ofTables [table]⟩).map Draft.entries =
        some (draft.entries ++ ofTables [table] ++ ofTables tables) :=
      ih ⟨names.2, keys.2⟩ others
    have whole : draft.entries ++ ofTables (table :: tables) =
        draft.entries ++ ofTables [table] ++ ofTables tables := by simp [ofTables]
    rw [whole]
    exact rest

/-- A document of tables has these tables. -/
theorem ofStatements?_tables (distinct : Distinct tables) :
    ofStatements? (tables.flatMap tableStatements) = some (ofTables tables) := by
  have read : ((tables.flatMap tableStatements).foldlM Draft.add {}).map Draft.entries =
      some ([] ++ ofTables tables) :=
    foldlM_tables distinct fun _ _ => List.not_mem_nil
  rwa [List.nil_append] at read

/-- What holds of the headers and the entries of tables holds of their statements. -/
theorem forall_tableStatements {property : Statement → Prop}
    (header : ∀ table ∈ tables, property (.header [] table.1))
    (entry : ∀ table ∈ tables, ∀ pair ∈ table.2, property (.entry [] pair.1 pair.2)) :
    ∀ statement ∈ tables.flatMap tableStatements, property statement := by
  intro statement inside
  obtain ⟨table, listed, line⟩ := List.mem_flatMap.mp inside
  rcases List.mem_cons.mp line with rfl | line
  · exact header table listed
  · obtain ⟨pair, stands, rfl⟩ := List.mem_map.mp line
    exact entry table listed pair stands

/-- Tables can be written if their names are bare and their values can be written. -/
theorem exists_writesTables (names : ∀ table ∈ tables, IsBare table.1)
    (pairs : ∀ table ∈ tables, ∀ pair ∈ table.2,
      IsBare pair.1 ∧ ∃ text, WritesValue pair.2 text) :
    ∃ text, WritesTables tables text := by
  have noGap : IsGap [] := fun _ listed => nomatch listed
  have lines : ∃ text, WritesLines (tables.flatMap tableStatements) text := by
    refine exists_writesLines (forall_tableStatements ?_ ?_)
    · exact fun table listed => ⟨_, .header (names table listed) noGap noGap⟩
    · intro table listed pair stands
      obtain ⟨bare, text, writes⟩ := pairs table listed pair stands
      exact ⟨_, .entry bare noGap noGap writes⟩
  obtain ⟨text, writes⟩ := lines
  exact ⟨String.ofList text, by rwa [WritesTables, String.toList_ofList]⟩

/-- A written document of tables has these tables if all its values fit, and else cannot be read. -/
theorem WritesTables.document?_eq {text : String} (writes : WritesTables tables text)
    (distinct : Distinct tables) :
    document? text =
      if ∀ table ∈ tables, ∀ pair ∈ table.2, pair.2.fits then some (ofTables tables) else none := by
  have fitting : (tables.flatMap tableStatements).all Statement.fits = true ↔
      ∀ table ∈ tables, ∀ pair ∈ table.2, pair.2.fits := by
    rw [List.all_eq_true]
    constructor
    · intro each table listed pair stands
      refine each (.entry [] pair.1 pair.2) (List.mem_flatMap.mpr ⟨table, listed, ?_⟩)
      exact List.mem_cons_of_mem _ (List.mem_map.mpr ⟨pair, stands, rfl⟩)
    · exact fun each => forall_tableStatements (fun _ _ => rfl) each
  rw [WritesLines.document?_eq writes, ofStatements?_tables distinct]
  exact if_congr fitting rfl rfl

end SalarySurvey.Toml
