import TableQuery.Proofs.Column.Cells
import TableQuery.Proofs.View.Schema

/-!
# Tables of rows of data
A table of some columns of a configuration, to which the other data columns may be added, has the names of the columns
at its head and shows each row of data by its texts (`RenderedTable.exists_build`). -/

set_option autoImplicit false

namespace TableQuery

def ColumnDef.inTable (c : ColumnDef) (shown : Bool) : TableColumn × Fields :=
  ({ name := .str c.name, shown }, c.schemaFields)

/-- The texts of a row of data in some columns. -/
def TableStyle.ShowsTexts (style : TableStyle) (columns : List ColumnDef) (row : Fields) (texts : List String) : Prop :=
  List.Forall₂ (fun c text => style.cell row c.schemaFields none (row.value c.name) = .ok text) columns texts

namespace EntityConfig

/-- What a client that has the schema knows of the columns. -/
def columnSchemas (c : EntityConfig) : ColumnSchemas :=
  ⟨c.columns.map fun col => (.str col.name, col.schemaFields)⟩

/-- The data columns but those with the given names. -/
def dataBut (c : EntityConfig) (names : List String) : List ColumnDef :=
  c.columns.filter fun col => col.isData && !names.contains col.name

end EntityConfig

namespace RenderedTable

variable {config : EntityConfig} {columns : List ColumnDef} {style : TableStyle}

theorem chosen_eq_ok (hnames : (config.columns.map (·.name)).Nodup) (hcolumns : ∀ c ∈ columns, c ∈ config.columns) :
    chosen config.columnSchemas (columns.map fun c => { name := .str c.name }) =
      .ok (columns.map (·.inTable true)) := by
  refine mapM_map_of_ok fun c hc => ?_
  have hfind : config.columnSchemas.find? (.str c.name) = some c.schemaFields :=
    EntityConfig.find?_clientColumns config.clientColumns_eq hnames (EntityConfig.column?_of_mem hnames (hcolumns c hc))
  dsimp only
  rw [hfind]
  rfl

theorem distinct_columnSchemas (hnames : (config.columns.map (·.name)).Nodup) :
    config.columnSchemas.distinct = config.columns.map fun c => (.str c.name, c.schemaFields) := by
  unfold EntityConfig.columnSchemas ColumnSchemas.distinct
  generalize config.columns = cs at hnames
  -- No name is among those that were found before it.
  have hfold : ∀ before : List ColumnDef, ((before ++ cs).map (·.name)).Nodup →
      (cs.map fun c => (Json.str c.name, c.schemaFields)).foldl (fun found column =>
        if found.any (·.1.same column.1) then found.map fun p => if p.1.same column.1 then (p.1, column.2) else p
        else found ++ [column]) (before.map fun c => (Json.str c.name, c.schemaFields)) =
      (before ++ cs).map fun c => (Json.str c.name, c.schemaFields) := by
    clear hnames
    induction cs with
    | nil =>
      intro before _
      rw [List.append_nil]
      rfl
    | cons c cs ih =>
      intro before hnodup
      have hfresh : (before.map fun c => (Json.str c.name, c.schemaFields)).any (·.1.same (.str c.name)) = false := by
        rw [List.any_map, List.any_eq_false]
        intro b hb hsame
        rw [List.map_append, List.nodup_append] at hnodup
        exact hnodup.2.2 b.name (List.mem_map_of_mem hb) c.name (by simp) (beq_iff_eq.1 hsame)
      have hsplit : before ++ c :: cs = before ++ [c] ++ cs := by simp
      rw [List.map_cons, List.foldl_cons, hsplit, ← ih (before ++ [c]) (hsplit ▸ hnodup)]
      dsimp only
      rw [hfresh, if_neg Bool.false_ne_true, List.map_append]
      rfl
  exact hfold [] hnames

theorem others_eq (hnames : (config.columns.map (·.name)).Nodup) :
    others config.columnSchemas (columns.map fun c => { name := .str c.name }) =
      (config.dataBut (columns.map (·.name))).map (·.inTable false) := by
  have hchosen : ∀ c : ColumnDef, (columns.map fun c => ({ name := .str c.name } : TableColumn)).any
      (fun k => (Json.str c.name).same k.name) = (columns.map (·.name)).contains c.name := by
    intro c
    rw [List.any_map, ← List.any_beq, List.any_map]
    rfl
  rw [others, distinct_columnSchemas hnames, EntityConfig.dataBut]
  induction config.columns with
  | nil => rfl
  | cons c cs ih =>
    rw [List.map_cons, List.filterMap_cons, List.filter_cons, ih]
    dsimp only
    rw [hchosen, ColumnDef.isText_type_schemaFields]
    cases c.isData <;> cases (columns.map (·.name)).contains c.name <;> rfl

/-- The texts of a row are those of its cells. -/
theorem row_eq_ok {cs : List (ColumnDef × Bool)} {fields : Fields} {texts : List String}
    (h : style.ShowsTexts (cs.map (·.1)) fields texts) :
    row style (cs.map fun p => p.1.inTable p.2) (.obj fields) = .ok texts :=
  mapM_of_forall₂ (List.forall₂_map_left_iff.2 (List.forall₂_map_left_iff.1 h))

/-- **A table shows rows of data by their texts**, under the names of the columns. -/
theorem exists_build (hnames : (config.columns.map (·.name)).Nodup) (hcolumns : ∀ c ∈ columns, c ∈ config.columns)
    (all : Bool) {hidden : List ColumnDef}
    (hhidden : hidden = if all then config.dataBut (columns.map (·.name)) else [])
    {data : List Fields} {rows : List (List String)}
    (hrows : List.Forall₂ (style.ShowsTexts (columns ++ hidden)) data rows) :
    ∃ table, build config.schemaFields (data.map .obj) (columns.map fun c => { name := .str c.name }) all style =
        .ok table ∧ table.headers = (columns ++ hidden).map (fun c => .str c.name) ∧
      table.columns = (columns ++ hidden).map (fun c => .str c.name) ∧ table.rows = rows := by
  have hschemas : ColumnSchemas.ofFields config.schemaFields = .ok config.columnSchemas := config.clientColumns_eq
  have hconfigs : (columns.map (·.inTable true) ++ if all then others config.columnSchemas
      (columns.map fun c => { name := .str c.name }) else []) =
      (columns.map (·, true) ++ hidden.map (·, false)).map fun p => p.1.inTable p.2 := by
    rw [others_eq hnames, hhidden, List.map_append, List.map_map, List.map_map]
    cases all <;> rfl
  have hcolumn : ((columns.map (·, true) ++ hidden.map (·, false)).map fun p => p.1) = columns ++ hidden := by
    rw [List.map_append, List.map_map, List.map_map]
    exact congr (congrArg _ (List.map_id columns)) (List.map_id hidden)
  generalize columns.map (·, true) ++ hidden.map (·, false) = cs at hconfigs hcolumn
  rw [← hcolumn] at hrows ⊢
  have hdata : (data.map Json.obj).mapM (row style (cs.map fun p => p.1.inTable p.2)) = .ok rows :=
    mapM_of_forall₂ (List.forall₂_map_left_iff.2 (hrows.imp fun _ _ h => row_eq_ok h))
  unfold build
  rw [hschemas]
  dsimp only [Except.mapError, bind, Except.bind]
  rw [chosen_eq_ok hnames hcolumns]
  dsimp only
  rw [hconfigs, hdata]
  refine ⟨_, rfl, ?_, ?_, rfl⟩
  all_goals
    dsimp only
    rw [List.map_map, List.map_map]
    rfl

/-! ## Sheets -/

/-- Whether a sheet holds a text: what a cell keeps of it has no control character that cannot be written. -/
def sheetHolds (s : String) : Bool := !(s.toList.take cellLimit).any isForbidden

def sheetText (s : String) : Json :=
  let kept := s.toList.take cellLimit
  if kept.isEmpty then .null else .str (String.ofList (unixLines kept))

theorem sheetCell_str (s : String) :
    sheetCell (.str s) = if sheetHolds s then .ok (sheetText s) else .error .badCharacter := by
  unfold sheetCell sheetText sheetHolds
  dsimp only
  cases (s.toList.take cellLimit).any isForbidden <;> cases (s.toList.take cellLimit).isEmpty <;> rfl

theorem mapM_sheetCell (texts : List String) : (texts.map Json.str).mapM sheetCell =
    if texts.all sheetHolds then .ok (texts.map sheetText) else .error .badCharacter := by
  split
  next hall =>
    refine mapM_map_of_ok fun s hs => ?_
    rw [sheetCell_str, if_pos (List.all_eq_true.1 hall s hs)]
  next hsome =>
    obtain ⟨s, hs, hnot⟩ := List.all_eq_false.1 (Bool.not_eq_true _ ▸ hsome)
    refine mapM_eq_error (fun j hj => ?_) ⟨.str s, List.mem_map_of_mem hs, ?_⟩
    · obtain ⟨t, -, rfl⟩ := List.mem_map.1 hj
      rw [sheetCell_str]
      cases sheetHolds t
      · exact Or.inr rfl
      · exact Or.inl ⟨_, rfl⟩
    · rw [sheetCell_str, if_neg hnot]

/-- **A sheet holds a table iff it holds its texts.** -/
theorem toCells_eq {t : RenderedTable} {names : List String} (hne : names ≠ []) (hnames : t.headers = names.map .str) :
    t.toCells = if (names :: t.rows).all (·.all sheetHolds) then .ok ((names :: t.rows).map (·.map sheetText))
      else .error .badCharacter := by
  have hsome : t.headers.isEmpty = false := by
    rw [hnames, List.isEmpty_map, List.isEmpty_eq_false_iff]
    exact hne
  have hlines : t.headers :: t.rows.map (·.map .str) = (names :: t.rows).map (·.map .str) := by
    rw [hnames, List.map_cons]
  rw [toCells, hsome, if_neg Bool.false_ne_true, hlines]
  split
  next hall =>
    refine mapM_map_of_ok fun texts htexts => ?_
    rw [mapM_sheetCell, if_pos (List.all_eq_true.1 hall texts htexts)]
  next hnot =>
    obtain ⟨texts, htexts, hbad⟩ := List.all_eq_false.1 (Bool.not_eq_true _ ▸ hnot)
    refine mapM_eq_error (fun js hjs => ?_) ⟨_, List.mem_map_of_mem htexts, ?_⟩
    · obtain ⟨line, -, rfl⟩ := List.mem_map.1 hjs
      rw [mapM_sheetCell]
      cases line.all sheetHolds
      · exact Or.inr rfl
      · exact Or.inl ⟨_, rfl⟩
    · rw [mapM_sheetCell, if_neg hbad]

end RenderedTable

end TableQuery
