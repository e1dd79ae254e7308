import TableQuery.Entity.Registry
import TableQuery.Proofs.Filter.Grammar

/-!
# The grammar of requests

Which requests of the right shape can be asked of a configuration (`DataRequest.Grammatical`), and what each of them
asks for (`Request.Mirrors`). The check accepts exactly these, and the request that it makes of one asks for what was
written (`Request.ofJson_grammar`).
-/

set_option autoImplicit false

namespace TableQuery

/-- **The grammar of requests**: known columns, each selected once, sorted by known columns that can be sorted by, a
page within bounds, and a filter of the grammar. -/
structure DataRequest.Grammatical (config : EntityConfig) (maxPageSize : Int) (d : DataRequest) : Prop where
  /-- Every selected column is known. The count needs `distinct`, and lists must not have it. -/
  selected : ∀ name ∈ d.columns, ∃ c ∈ config.columns, c.name = name ∧ (c.isData = false → d.distinct = true) ∧
    (d.distinct = true → c.type.isList = false)
  once : d.columns.Nodup
  /-- Every column of the order is known. The count needs `distinct`, data a type that can be sorted by, and with
  `distinct` the column must be selected. -/
  sorted : ∀ s ∈ d.sort, ∃ c ∈ config.columns, c.name = s.column ∧ (c.isData = false → d.distinct = true) ∧
    (c.isData = true → c.type.kind.isSortable = true) ∧ (d.distinct = true → s.column ∈ d.columns)
  size : 1 ≤ d.paging.size ∧ d.paging.size ≤ maxPageSize
  number : ∀ n ∈ d.paging.number, 1 ≤ n
  offset : ∀ n ∈ d.paging.offset, 0 ≤ n
  filter : ∃ f, config.Derives d.filter f

namespace Request

/-- A request asks for what is written: the columns in the order in which they are named, the same order of the rows,
the same page, and the tree that the filter stands for. -/
structure Mirrors (config : EntityConfig) (d : DataRequest) (r : Request) : Prop where
  select : r.select.map (·.name) = d.columns ∧ ∀ c ∈ r.select, c ∈ config.columns
  sort : r.sort.map (fun s => (s.1.name, s.2)) = d.sort.map (fun s => (s.column, s.desc)) ∧
    ∀ s ∈ r.sort, s.1 ∈ config.columns
  size : r.size = d.paging.size
  number : ∀ n ∈ d.paging.number, r.offset = (n - 1) * d.paging.size
  offset : d.paging.number = none → r.offset = d.paging.offset.getD 0
  distinct : r.distinct = d.distinct
  filter : config.Derives d.filter r.filter

variable {config : EntityConfig} {distinct : Bool} {maxPageSize : Int} {d : DataRequest}

/-! ## Columns and orders -/

/-- What is selected without complaint are known columns with the given names, none of them twice. -/
theorem Selects.columns {before after : List ColumnDef} {names : List String}
    (h : Selects config distinct before names after) (hbefore : (before.map (·.name)).Nodup) :
    ∃ columns, after = before ++ columns ∧ columns.map (·.name) = names ∧
      (∀ c ∈ columns, c ∈ config.columns ∧ Selectable distinct c) ∧ (after.map (·.name)).Nodup := by
  induction h with
  | nil before => exact ⟨[], (List.append_nil before).symm, rfl, by simp, hbefore⟩
  | @cons before after name names c hc hfine _ ih =>
    obtain ⟨hfresh, hselectable⟩ := columnComplaint?_eq_none.1 hfine
    have hmore : ((before ++ [c]).map (·.name)).Nodup := by
      rw [List.map_append, List.nodup_append]
      refine ⟨hbefore, List.nodup_singleton _, fun a ha b hb => ?_⟩
      obtain ⟨k, hk, rfl⟩ := List.mem_map.1 ha
      rw [List.map_singleton, List.mem_singleton] at hb
      rw [hb]
      exact hfresh k hk
    obtain ⟨columns, rfl, rfl, hcolumns, hnodup⟩ := ih hmore
    refine ⟨c :: columns, (List.append_cons ..).symm, ?_, List.forall_mem_cons.2 ⟨?_, hcolumns⟩, hnodup⟩
    · rw [List.map_cons, show c.name = name by simpa using List.find?_some hc]
    · exact ⟨FilterNode.column?_mem hc, hselectable⟩

/-- What is selected of known names without complaint. -/
theorem columns_of_ofNames {names : List String} (h : (Selection.ofNames config distinct names).errors = []) :
    (Selection.ofNames config distinct names).columns.map (·.name) = names ∧ names.Nodup ∧
      ∀ c ∈ (Selection.ofNames config distinct names).columns, c ∈ config.columns ∧ Selectable distinct c := by
  obtain ⟨columns, hcolumns, hnames, hall, hnodup⟩ := (selects_ofNames h).columns List.nodup_nil
  rw [List.nil_append] at hcolumns
  rw [hcolumns] at hnodup ⊢
  exact ⟨hnames, hnames ▸ hnodup, hall⟩

theorem names_of_check {bound : Json} {r : Request} (h : check config bound d = .ok (.ok r)) :
    r.select.map (·.name) = d.columns := by
  obtain ⟨herrors, -, sort, f, -, -, rfl⟩ := check_eq_ok.1 h
  exact (columns_of_ofNames herrors).1

/-- Nothing is wrong with a selection iff all columns are known, may be selected and are named once. -/
theorem ofNames_errors_eq_nil (hnames : (config.columns.map (·.name)).Nodup) {names : List String} :
    (Selection.ofNames config distinct names).errors = [] ↔
      names.Nodup ∧ ∀ name ∈ names, ∃ c ∈ config.columns, c.name = name ∧ Selectable distinct c := by
  constructor
  · intro h
    obtain ⟨hmap, hnodup, hall⟩ := columns_of_ofNames h
    refine ⟨hnodup, fun name hname => ?_⟩
    rw [← hmap] at hname
    obtain ⟨c, hc, hname⟩ := List.mem_map.1 hname
    exact ⟨c, (hall c hc).1, hname, (hall c hc).2⟩
  · rintro ⟨hnodup, hall⟩
    choose column hcolumn hname hselectable using hall
    let columns := names.attach.map fun name => column name.1 name.2
    have hmap : columns.map (·.name) = names := by
      rw [List.map_map]
      exact (List.map_congr_left fun name _ => hname name.1 name.2).trans names.attach_map_subtype_val
    have hcolumns : ∀ c ∈ columns, c ∈ config.columns ∧ Selectable distinct c := by
      intro c hc
      obtain ⟨name, -, rfl⟩ := List.mem_map.1 hc
      exact ⟨hcolumn name.1 name.2, hselectable name.1 name.2⟩
    have hselects := selects_of_selectable hnames [] columns hcolumns (by rwa [List.nil_append, hmap])
    rw [hmap] at hselects
    rw [ofNames_of_selects hselects]

/-- The columns of an order have the names that it was written with, and the directions. -/
theorem sort_of_checkSort {selected : List ColumnDef} {items : List SortItem} {sort : List (ColumnDef × Bool)}
    (h : checkSort config distinct selected items = .ok sort) :
    sort.map (fun s => (s.1.name, s.2)) = items.map (fun s => (s.column, s.desc)) := by
  have hitems := checkSort_eq_ok.1 h
  clear h
  induction hitems with
  | nil => rfl
  | @cons item s items sort hitem _ ih =>
    obtain ⟨hcolumn, -, hdesc⟩ := hitem
    rw [List.map_cons, List.map_cons, ih, hdesc, show s.1.name = item.column by simpa using List.find?_some hcolumn]

/-! ## The check -/

/-- With `distinct` rows may be sorted by the columns whose names are selected. -/
theorem exists_selected_iff {names : List String} (h : (Selection.ofNames config distinct names).errors = [])
    (c : ColumnDef) :
    (∃ k ∈ (Selection.ofNames config distinct names).columns, k.name = c.name) ↔ c.name ∈ names := by
  conv_rhs => rw [← (columns_of_ofNames h).1]
  rw [List.mem_map]

variable {r : Request}

theorem grammatical_of_check (hnames : (config.columns.map (·.name)).Nodup)
    (hr : check config (.int maxPageSize) d = .ok (.ok r)) : d.Grammatical config maxPageSize := by
  obtain ⟨herrors, hpaging, sort, f, hsort, hfilter, -⟩ := check_eq_ok.1 hr
  obtain ⟨hsize, hnumber, hoffset⟩ := pagingErrors_eq_nil.1 hpaging
  rw [isPageSize_int, Except.ok.injEq, decide_eq_true_eq] at hsize
  obtain ⟨hnodup, hcolumns⟩ := (ofNames_errors_eq_nil hnames).1 herrors
  refine ⟨fun name hname => ?_, hnodup, fun s hs => ?_, hsize, hnumber, hoffset, f, ?_⟩
  · obtain ⟨c, hc, hname, hselectable⟩ := hcolumns name hname
    exact ⟨c, hc, hname, hselectable.count, hselectable.noList⟩
  · obtain ⟨c, hc, hname, hsortable⟩ := (exists_checkSort_iff hnames).1 ⟨sort, hsort⟩ s hs
    refine ⟨c, hc, hname, hsortable.count, hsortable.kind, fun hdistinct => ?_⟩
    exact hname ▸ (exists_selected_iff herrors c).1 (hsortable.selected hdistinct)
  · exact (FilterNode.ofJson_eq_ok_iff hnames).1 hfilter

theorem exists_check_of_grammatical (hnames : (config.columns.map (·.name)).Nodup)
    (h : d.Grammatical config maxPageSize) : ∃ r, check config (.int maxPageSize) d = .ok (.ok r) := by
  have herrors : (Selection.ofNames config d.distinct d.columns).errors = [] := by
    refine (ofNames_errors_eq_nil hnames).2 ⟨h.once, fun name hname => ?_⟩
    obtain ⟨c, hc, hname, hcount, hlist⟩ := h.selected name hname
    exact ⟨c, hc, hname, hcount, hlist⟩
  have hpaging : pagingErrors (.int maxPageSize) d.paging = .ok [] := by
    refine pagingErrors_eq_nil.2 ⟨?_, h.number, h.offset⟩
    rw [isPageSize_int, Except.ok.injEq, decide_eq_true_eq]
    exact h.size
  have hsorts : ∀ s ∈ d.sort, ∃ c ∈ config.columns, c.name = s.column ∧
      Sortable d.distinct (Selection.ofNames config d.distinct d.columns).columns c := by
    intro s hs
    obtain ⟨c, hc, hname, hcount, hkind, hsorted⟩ := h.sorted s hs
    refine ⟨c, hc, hname, hcount, hkind, fun hdistinct => ?_⟩
    exact (exists_selected_iff herrors c).2 (hname ▸ hsorted hdistinct)
  obtain ⟨sort, hsort⟩ := (exists_checkSort_iff hnames).2 hsorts
  obtain ⟨f, hf⟩ := h.filter
  have hfilter := (FilterNode.ofJson_eq_ok_iff hnames).2 hf
  exact ⟨_, check_eq_ok.2 ⟨herrors, hpaging, sort, f, hsort, hfilter, rfl⟩⟩

theorem mirrors_of_check (hnames : (config.columns.map (·.name)).Nodup)
    (hr : check config (.int maxPageSize) d = .ok (.ok r)) : r.Mirrors config d := by
  obtain ⟨herrors, -, sort, f, hsort, hfilter, rfl⟩ := check_eq_ok.1 hr
  obtain ⟨hmap, -, hall⟩ := columns_of_ofNames herrors
  exact {
    select := ⟨hmap, fun c hc => (hall c hc).1⟩
    sort := ⟨sort_of_checkSort hsort, mem_columns_of_sort hsort⟩
    size := rfl
    number := fun n hn => by rw [Paging.start, Option.mem_def.1 hn]
    offset := fun hnone => by rw [Paging.start, hnone]
    distinct := rfl
    filter := (FilterNode.ofJson_eq_ok_iff hnames).1 hfilter }

/-- **The check accepts exactly the grammar, and keeps to what is written.** For a configuration whose columns have
different names and a payload of the right shape there is a request iff the payload is of the grammar, and it asks for
what the payload says. The parameters of a filter that is a search for members are of the grammar of searches. -/
theorem ofJson_grammar (hnames : (config.columns.map (·.name)).Nodup) {payload : Json}
    (hshape : DataRequest.read false payload = .ok d) :
    ((∃ r, ofJson config (.int maxPageSize) payload = .ok (.ok r)) ↔ d.Grammatical config maxPageSize) ∧
      (∀ r, ofJson config (.int maxPageSize) payload = .ok (.ok r) → r.Mirrors config d) ∧
      ∀ f ∈ config.customFilters, f.isSearch = true → ∀ params p, f.readParams (params.getD (.obj [])) = .ok p ↔
        ∃ fields, params = some (.obj fields) ∧ f.toMemberSearch.Derives fields p := by
  have hcheck : ∀ r, ofJson config (.int maxPageSize) payload = .ok (.ok r) ↔
      check config (.int maxPageSize) d = .ok (.ok r) := fun r => by rw [ofJson, hshape]
  simp only [hcheck]
  refine ⟨⟨?_, exists_check_of_grammatical hnames⟩, fun r => mirrors_of_check hnames, fun f _ hsearch params p => ?_⟩
  · rintro ⟨r, hr⟩
    exact grammatical_of_check hnames hr
  · rw [CustomFilterDef.readParams_of_isSearch hsearch, MemberSearch.readParams_eq_ok]

/-- The third page of the states of meetings, those of most meetings first, for long meetings that a text is found in
and that a user does not attend. -/
def countedMeetings : Json :=
  .obj [("columns", .arr [columnEntry (.str "statusDictId"), columnEntry (.str "count")]),
    ("filter", .obj [("type", .str "op"), ("op", .str "&"), ("val", .arr [
      .obj [("type", .str "column"), ("column", .str "durationMinutes"), ("op", .str ">="), ("val", .int 30)],
      .obj [("type", .str "op"), ("op", .str "|"), ("inv", .bool true), ("val", .arr [
        .obj [("type", .str "custom"), ("customFilter", .str "isAttendant"),
          ("params", .obj [("userIds", .arr [.str "5a3b1e00-0000-4000-8000-d00000000001"])])],
        .obj [("type", .str "column"), ("column", .str "notes"), ("op", .str "null")]])],
      .obj [("type", .str "global"), ("op", .str "%v%"), ("val", .str " first visit ")]])]),
    ("sort", .arr [sortEntry (.str "count") true]),
    ("paging", .obj [("size", .int 20), ("number", .int 3)]), ("distinct", .bool true)]

/-- That request is of the grammar, and what is made of it asks for the rows after the first forty. -/
theorem ofJson_grammar_countedMeetings : ∃ d r, DataRequest.read false countedMeetings = .ok d ∧
    d.Grammatical Entity.meetings.config 1000 ∧
    ofJson Entity.meetings.config (.int 1000) countedMeetings = .ok (.ok r) ∧ r.Mirrors Entity.meetings.config d ∧
    r.offset = 40 := by
  have hnames : (Entity.meetings.config.columns.map (·.name)).Nodup := by decide +kernel
  obtain ⟨r, hr, hoffset⟩ : ∃ r, ofJson Entity.meetings.config (.int 1000) countedMeetings = .ok (.ok r) ∧
      r.offset = 40 :=
    exists_ofJson (by decide +kernel)
  obtain ⟨d, hshape, -⟩ := ofJson_eq_ok.1 hr
  obtain ⟨hgrammar, hmirrors, -⟩ := @ofJson_grammar _ 1000 d hnames _ hshape
  exact ⟨d, r, hshape, hgrammar.1 ⟨r, hr⟩, hr, hmirrors r hr, hoffset⟩

end Request

end TableQuery
