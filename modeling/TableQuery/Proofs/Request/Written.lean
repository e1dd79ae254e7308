import TableQuery.Proofs.Entity.Schema
import TableQuery.Proofs.Filter.Opposite
import TableQuery.Proofs.Request.Parts

/-!
# Requests as they are written

A view writes a request with the names of the data columns that it shows, a filter, an order and the number of a page
(`writtenRequest`). It has the shape of a request (`DataRequest.read_writtenRequest`). If the filter is accepted and
the page is allowed, only the order is left to be checked (`Request.ofJson_writtenRequest`), which is accepted iff rows
can be sorted by all its columns (`Request.exists_checkSort`).
-/

set_option autoImplicit false

namespace TableQuery

/-- A request for a page of some columns as it is written. -/
def writtenRequest (columns : List String) (filter : Json) (sort : List SortItem) (size number : Int) : Json :=
  .obj [("columns", .arr (columns.map fun name => columnEntry (.str name))), ("filter", filter),
    ("sort", .arr (sort.map fun s => sortEntry (.str s.column) s.desc)),
    ("paging", .obj [("size", .int size), ("number", .int number)])]

/-- Rows can be sorted by the data column with a name. -/
def EntityConfig.Sorts (config : EntityConfig) (name : String) : Prop :=
  ∃ c ∈ config.columns, c.isData = true ∧ c.type.kind.isSortable = true ∧ c.name = name

instance (config : EntityConfig) (name : String) : Decidable (config.Sorts name) :=
  inferInstanceAs (Decidable (∃ c ∈ config.columns, c.isData = true ∧ c.type.kind.isSortable = true ∧ c.name = name))

/-! ## The shape -/

namespace Reader

variable {α : Type} {read : Reader α} {known : List String} {fields : Fields}

theorem list_eq_ok {needsItem : Bool} {items : List Json} {values : List α} (hne : items ≠ [])
    (h : items.map read = values.map .ok) : list read needsItem (.arr items) = .ok values := by
  rw [list, if_neg (by simp [hne]), Checked.numbered_eq_ok]
  exact h

theorem closed_eq_ok {c : Checked α} {a : α} :
    closed known fields c = .ok a ↔ (∀ k ∈ fields.keys, k ∈ known) ∧ c = .ok a := by
  rw [← FilterNode.strangers_eq_nil (c := .extra), closed]
  split
  next h => simp [h]
  next h => exact ⟨nofun, fun hfine => (h hfine.1).elim⟩

theorem required_eq_ok {name : String} {a : α} :
    required fields name read = .ok a ↔ ∃ j, fields.lookup name = some j ∧ read j = .ok a := by
  unfold required
  cases fields.lookup name <;> simp [Checked.under_eq_ok]

theorem optional_eq_ok {name : String} {default a : α} : optional fields name default read = .ok a ↔
    fields.lookup name = none ∧ a = default ∨ ∃ j, fields.lookup name = some j ∧ read j = .ok a := by
  unfold optional
  cases fields.lookup name with
  | none => simp [eq_comm]
  | some j => simp [Checked.under_eq_ok]

end Reader

/-- The entry for a column is read with what more there is to it. -/
theorem readEntry_eq_ok {α : Type} {inBody : Bool} {model : String} {known : List String} {more : Fields → Checked α}
    {fields : Fields} {name : String} {a : α} (hkeys : ∀ k ∈ fields.keys, k ∈ ["type", "column"] ++ known)
    (htype : fields.lookup "type" = some (.str "column")) (hcolumn : fields.lookup "column" = some (.str name))
    (hmore : more fields = .ok a) : readEntry inBody model known more (.obj fields) = .ok (name, a) := by
  rw [readEntry, Reader.record, Reader.closed_eq_ok]
  refine ⟨hkeys, map_eq_ok.2 ⟨("column", name, a), ?_, rfl⟩⟩
  rw [Checked.both_eq_ok, Checked.both_eq_ok, Reader.optional, htype, Reader.required, hcolumn]
  exact ⟨rfl, rfl, hmore⟩

theorem readColumn_columnEntry (inBody : Bool) (name : String) :
    readColumn inBody (columnEntry (.str name)) = .ok name :=
  map_eq_ok.2 ⟨(name, ()), readEntry_eq_ok (by simp [Fields.keys]) rfl rfl rfl, rfl⟩

theorem SortItem.read_sortEntry (inBody : Bool) (s : SortItem) :
    SortItem.read inBody (sortEntry (.str s.column) s.desc) = .ok s := by
  refine map_eq_ok.2 ⟨(s.column, s.desc), readEntry_eq_ok (by simp [Fields.keys]) rfl rfl ?_, rfl⟩
  cases s.desc <;> rfl

/-- **A paging is read from its fields**, which do not give two positions. -/
theorem Paging.read_eq_ok {inBody : Bool} {fields : Fields} {p : Paging} : Paging.read inBody (.obj fields) = .ok p ↔
    (∀ k ∈ fields.keys, k ∈ ["size", "number", "offset"]) ∧ Reader.required fields "size" .integer = .ok p.size ∧
      Reader.optional fields "number" none (.nullable .integer) = .ok p.number ∧
      Reader.optional fields "offset" none (.nullable .integer) = .ok p.offset ∧
      (p.number.isSome && p.offset.isSome) = false := by
  unfold read Reader.record
  dsimp only
  constructor
  · intro h
    split at h
    next p' hread =>
      split at h
      · cases h
      next hone =>
        cases h
        obtain ⟨hkeys, hmap⟩ := Reader.closed_eq_ok.1 hread
        obtain ⟨parts, hparts, rfl⟩ := map_eq_ok.1 hmap
        rw [Checked.both_eq_ok, Checked.both_eq_ok] at hparts
        exact ⟨hkeys, hparts.1, hparts.2.1, hparts.2.2, Bool.eq_false_iff.2 hone⟩
    next hfail => exact absurd h (hfail p)
  · rintro ⟨hkeys, hsize, hnumber, hoffset, hone⟩
    have hparts : (Reader.required fields "size" Reader.integer).both
        ((Reader.optional fields "number" none (Reader.nullable Reader.integer)).both
          (Reader.optional fields "offset" none (Reader.nullable Reader.integer))) =
        .ok (p.size, p.number, p.offset) := Checked.both_eq_ok.2 ⟨hsize, Checked.both_eq_ok.2 ⟨hnumber, hoffset⟩⟩
    rw [hparts, Except.map, Reader.closed_eq_ok.2 ⟨hkeys, rfl⟩]
    exact if_neg (Bool.eq_false_iff.1 hone)

theorem Paging.read_written (inBody : Bool) (size number : Int) :
    Paging.read inBody (.obj [("size", .int size), ("number", .int number)]) =
      .ok { size, number := some number } :=
  Paging.read_eq_ok.2 ⟨by simp [Fields.keys], rfl, rfl, rfl, rfl⟩

namespace DataRequest

variable {fields : Fields} {d : DataRequest} {inBody : Bool}

def knownFields : List String := ["columns", "filter", "sort", "paging", "distinct"]

/-- **A request is read from its fields**, one by one. -/
theorem read_eq_ok : read inBody (.obj fields) = .ok d ↔
    (∀ k ∈ fields.keys, k ∈ knownFields) ∧
      Reader.required fields "columns" (.list (readColumn inBody) true) = .ok d.columns ∧
      Reader.optional fields "filter" (.str "always") readFilterShape = .ok d.filter ∧
      Reader.optional fields "sort" [] (.list (SortItem.read inBody)) = .ok d.sort ∧
      Reader.required fields "paging" (Paging.read inBody) = .ok d.paging ∧
      Reader.optional fields "distinct" false .boolean = .ok d.distinct := by
  rw [read, Reader.record, Reader.closed_eq_ok]
  refine and_congr_right fun _ => ?_
  rw [map_eq_ok]
  constructor
  · rintro ⟨⟨columns, filter, sort, paging, distinct⟩, hread, rfl⟩
    simpa only [Checked.both_eq_ok] using hread
  · intro hread
    exact ⟨(d.columns, d.filter, d.sort, d.paging, d.distinct), by simpa only [Checked.both_eq_ok] using hread, rfl⟩

/-- The entries of columns are read as their names. -/
theorem list_columnEntries {items : List Json} {before : List String} (names : List String)
    (hitems : items.map (readColumn inBody) = before.map .ok) (hne : before ++ names ≠ []) :
    Reader.list (readColumn inBody) true (.arr (items ++ names.map fun name => columnEntry (.str name))) =
      .ok (before ++ names) := by
  have hread : (items ++ names.map fun name => columnEntry (.str name)).map (readColumn inBody) =
      (before ++ names).map .ok := by
    rw [List.map_append, List.map_append, hitems, List.map_map]
    exact congrArg (_ ++ ·) (List.map_congr_left fun name _ => readColumn_columnEntry inBody name)
  refine Reader.list_eq_ok (fun hnil => hne ?_) hread
  rw [hnil] at hread
  exact List.map_eq_nil_iff.1 hread.symm

theorem list_sortEntries (sort : List SortItem) : Reader.list (SortItem.read inBody) false
    (.arr (sort.map fun s => sortEntry (.str s.column) s.desc)) = .ok sort := by
  rw [Reader.list, Bool.false_and, if_neg Bool.false_ne_true, Checked.numbered_eq_ok, List.map_map]
  exact List.map_congr_left fun s _ => SortItem.read_sortEntry inBody s

/-- **What is written has the shape of a request.** -/
theorem read_writtenRequest {columns : List String} {filter : Json} {sort : List SortItem}
    {size number : Int} (hne : columns ≠ []) (hfilter : readFilterShape filter = .ok filter) :
    read false (writtenRequest columns filter sort size number) =
      .ok { columns, filter, sort, paging := { size, number := some number } } :=
  read_eq_ok.2 ⟨by simp [Fields.keys, knownFields],
    Reader.required_eq_ok.2 ⟨_, rfl, @list_columnEntries false [] [] columns rfl hne⟩,
    Checked.under_eq_ok.2 hfilter, Checked.under_eq_ok.2 (list_sortEntries sort),
    Reader.required_eq_ok.2 ⟨_, rfl, Paging.read_written false size number⟩, rfl⟩

end DataRequest

/-! ## The check -/

namespace Request

variable {config : EntityConfig} {distinct : Bool} {maxPageSize : Json}

/-- Columns that may be selected and have different names are selected without complaint. -/
theorem selects_of_selectable (hnames : (config.columns.map (·.name)).Nodup) : ∀ before columns : List ColumnDef,
    (∀ c ∈ columns, c ∈ config.columns ∧ Selectable distinct c) → ((before ++ columns).map (·.name)).Nodup →
      Selects config distinct before (columns.map (·.name)) (before ++ columns)
  | before, [] => fun _ _ => by
    rw [List.append_nil]
    exact .nil before
  | before, c :: columns => fun hcolumns hnodup => by
    obtain ⟨⟨hmem, hselectable⟩, hcolumns⟩ := List.forall_mem_cons.1 hcolumns
    have hfresh : ∀ k ∈ before, k.name ≠ c.name := by
      intro k hk
      rw [List.map_append, List.nodup_append] at hnodup
      exact hnodup.2.2 k.name (List.mem_map_of_mem hk) c.name (by simp)
    have hsplit : before ++ c :: columns = before ++ [c] ++ columns := by simp
    rw [hsplit] at hnodup ⊢
    exact .cons (EntityConfig.column?_of_mem hnames hmem) (columnComplaint?_eq_none.2 ⟨hfresh, hselectable⟩)
      (selects_of_selectable hnames (before ++ [c]) columns hcolumns hnodup)

/-- An order is accepted iff rows may be sorted by all its columns. -/
theorem exists_checkSort_iff (hnames : (config.columns.map (·.name)).Nodup) {selected : List ColumnDef}
    {sort : List SortItem} : (∃ sorted, checkSort config distinct selected sort = .ok sorted) ↔
      ∀ s ∈ sort, ∃ c ∈ config.columns, c.name = s.column ∧ Sortable distinct selected c := by
  have hitem : ∀ s : SortItem, (∃ p, checkSortItem config distinct selected s = .ok p) ↔
      ∃ c ∈ config.columns, c.name = s.column ∧ Sortable distinct selected c := by
    intro s
    constructor
    · rintro ⟨p, hp⟩
      obtain ⟨hcolumn, hsortable, -⟩ := checkSortItem_eq_ok.1 hp
      exact ⟨p.1, FilterNode.column?_mem hcolumn, by simpa using List.find?_some hcolumn, hsortable⟩
    · rintro ⟨c, hc, hname, hsortable⟩
      exact ⟨(c, s.desc), checkSortItem_eq_ok.2 ⟨hname ▸ EntityConfig.column?_of_mem hnames hc, hsortable, rfl⟩⟩
  simp only [checkSort, Checked.under_eq_ok, Checked.numbered_eq_ok, exists_map_ok, hitem]

/-- Without `distinct` an order is accepted iff rows can be sorted by all its columns. -/
theorem exists_checkSort (hnames : (config.columns.map (·.name)).Nodup) (selected : List ColumnDef)
    {sort : List SortItem} :
    (∃ sorted, checkSort config false selected sort = .ok sorted) ↔ ∀ s ∈ sort, config.Sorts s.column := by
  rw [exists_checkSort_iff hnames]
  refine forall₂_congr fun s _ => exists_congr fun c => and_congr_right fun _ => ?_
  constructor
  · rintro ⟨hname, hsortable⟩
    have hdata : c.isData = true := by
      rw [← Bool.not_eq_false]
      exact fun hcount => Bool.false_ne_true (hsortable.count hcount)
    exact ⟨hdata, hsortable.kind hdata, hname⟩
  · rintro ⟨hdata, hkind, hname⟩
    exact ⟨hname, fun hcount => absurd (hcount.symm.trans hdata) Bool.false_ne_true, fun _ => hkind, nofun⟩

/-- **What becomes of a written request.** With data columns of which there is at least one, a filter that is accepted
and a page that is allowed nothing but the order is left to be checked, and the request selects the columns. -/
theorem ofJson_writtenRequest (hnames : (config.columns.map (·.name)).Nodup) {columns : List ColumnDef}
    (hcolumns : columns.Sublist (config.columns.filter (·.isData))) (hne : columns ≠ []) {filter : Json}
    {f : FilterNode} (hfilter : FilterNode.ofJson config filter = .ok (.ok f)) {size number : Int}
    (hsize : isPageSize maxPageSize size = .ok true) (hnumber : 1 ≤ number) (sort : List SortItem) :
    ofJson config maxPageSize (writtenRequest (columns.map (·.name)) filter sort size number) =
      .ok ((checkSort config false columns sort).map fun sort =>
        { select := columns, filter := f, sort, size, offset := (number - 1) * size }) := by
  have hshape : readFilterShape filter = .ok filter := by
    cases filter with
    | str s => rfl
    | obj fields => rfl
    | _ => simp [FilterNode.ofJson, Checked.fail] at hfilter
  have hread : DataRequest.read false (writtenRequest (columns.map (·.name)) filter sort size number) =
      .ok { columns := columns.map (·.name), filter, sort, paging := { size, number := some number } } :=
    DataRequest.read_writtenRequest (by simpa using hne) hshape
  have hselection : Selection.ofNames config false (columns.map (·.name)) = { columns } := by
    refine ofNames_of_selects (selects_of_selectable hnames [] columns (fun c hc => ?_) ?_)
    · obtain ⟨hmem, hdata⟩ := List.mem_filter.1 (hcolumns.subset hc)
      exact ⟨hmem, fun hcount => absurd (hcount.symm.trans hdata) Bool.false_ne_true, Bool.noConfusion⟩
    · exact ((hcolumns.trans List.filter_sublist).map _).nodup hnames
  have hpaging : pagingErrors maxPageSize { size, number := some number } = .ok [] :=
    pagingErrors_eq_nil.2 ⟨hsize, fun n hn => Option.mem_some_iff.1 hn ▸ hnumber, fun n hn => by cases hn⟩
  rw [ofJson, hread]
  dsimp only
  rw [check_eq, hpaging, hfilter]
  dsimp only
  rw [hselection]
  cases checkSort config false columns sort with
  | ok sorted => rfl
  | error es =>
    simp [bind, Except.bind, pure, Except.pure, Checked.both, Checked.after, Checked.placed, Checked.errors,
      Except.mapError, Except.map]

end Request

end TableQuery
