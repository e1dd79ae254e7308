import TableQuery.Proofs.Filter.Complaints

/-!
# All that is wrong with a request

A request of the right shape is made, or all that is wrong with it is told: with its columns, its sort, its paging and
its filter, in this order. What is told of one of these does not depend on the others, but for a distinct request,
which is sorted by selected columns only (`Request.checkSortItem_congr`). The main statement is
`Request.complaints_add_up`.
-/

set_option autoImplicit false

namespace TableQuery.Request

variable {config : EntityConfig}

/-- What is wrong with an entry of a sort depends on the names of the selected columns, and on these only if the
request is distinct. -/
theorem checkSortItem_congr {distinct : Bool} {selected others : List ColumnDef}
    (h : distinct = true → ∀ name, name ∈ others.map (·.name) ↔ name ∈ selected.map (·.name)) (item : SortItem) :
    checkSortItem config distinct others item = checkSortItem config distinct selected item := by
  have hcomplaint : sortComplaint? distinct others = sortComplaint? distinct selected := by
    funext c
    cases distinct with
    | false => rfl
    | true =>
      have hselected : others.any (·.name == c.name) = selected.any (·.name == c.name) := by
        rw [Bool.eq_iff_iff, List.any_eq_true, List.any_eq_true]
        simpa only [beq_iff_eq, List.mem_map] using h rfl c.name
      rw [sortComplaint?, sortComplaint?, hselected]
  rw [checkSortItem, checkSortItem, hcomplaint]

/-- What is told of a sort, entry by entry. -/
def sortComplaints (config : EntityConfig) (distinct : Bool) (selected : List ColumnDef) (sort : List SortItem) :
    List (String × Complaint) :=
  sort.zipIdx.flatMap fun p =>
    (checkSortItem config distinct selected p.1).errors.map (·.told (dotted ["sort", toString p.2]))

theorem told_checkSort (distinct : Bool) (selected : List ColumnDef) (sort : List SortItem) :
    (checkSort config distinct selected sort).errors.map (·.told "") =
      sortComplaints config distinct selected sort := by
  rw [← told_errors_placed, checkSort, Checked.errors_numbered, List.map_flatMap, List.zipIdx_map, List.flatMap_map]
  exact congrArg (List.flatMap · sort.zipIdx) (funext fun p => told_errors_placed _ _)

/-- **No complaint hides another.** The reader of filters goes on from what has been told before and adds the same,
whatever it is. What it tells of a filter it tells with the path of the filter in front, and it tells nothing iff the
filter is read; then it gives the filter that is read. Of an operation on filters its own complaints are told, about
its fields, its inversion and its symbol, and after them those of every part at the path of the part, as they are told
of the part alone. Of a request what is wrong with its columns is told, with its sort, its paging and its filter, in
this order and each as if there were nothing else to tell; only the sort of a distinct request is looked at beside the
selected columns. The request is made iff nothing is told. -/
theorem complaints_add_up (config : EntityConfig) {j : Json} (hj : ¬ j.Misnames) (maxPageSize : Int) {d : DataRequest}
    (hd : ¬ d.filter.Misnames) :
    (∀ path,
      (∃ found errors,
        (∀ told, (FilterNode.readAt config path j).run told = .ok (found, told ++ errors)) ∧
          FilterNode.complaints config path j = errors.map (·.told "") ∧
          ∀ f, found = some f ∧ errors = [] ↔ FilterNode.ofJson config j = .ok (.ok f)) ∧
        FilterNode.complaints config path j =
          (FilterNode.complaints config "" j).map (fun t => (dotted [path, t.1], t.2)) ∧
        (FilterNode.complaints config path j = [] ↔ ∃ f, FilterNode.ofJson config j = .ok (.ok f)) ∧
        ∀ fields items, j = .obj fields → Fields.value fields "type" = .str "op" →
          fields.lookup "val" = some (.arr items) → items ≠ [] →
          FilterNode.complaints config path j = (FilterNode.ownErrors fields).map (·.told path) ++
            items.zipIdx.flatMap fun p => FilterNode.complaints config (dotted [path, "val", toString p.2]) p.1) ∧
      ∃ c paging, check config (.int maxPageSize) d = .ok c ∧
        (∀ payload, DataRequest.read false payload = .ok d → ofJson config (.int maxPageSize) payload = .ok c) ∧
        pagingErrors (.int maxPageSize) d.paging = .ok paging ∧
        c.errors.map (·.told "") = (Selection.ofNames config d.distinct d.columns).errors.map (·.told "") ++
          sortComplaints config d.distinct (Selection.ofNames config d.distinct d.columns).columns d.sort ++
          paging.map (·.told "") ++ FilterNode.complaints config "filter" d.filter ∧
        (∀ selected, (d.distinct = true → ∀ name, name ∈ selected.map ColumnDef.name ↔
            name ∈ (Selection.ofNames config d.distinct d.columns).columns.map ColumnDef.name) →
          sortComplaints config d.distinct selected d.sort =
            sortComplaints config d.distinct (Selection.ofNames config d.distinct d.columns).columns d.sort) ∧
        ((∃ r, c = .ok r) ↔ c.errors.map (·.told "") = []) := by
  refine ⟨fun path => ⟨FilterNode.run_readAt hj path, FilterNode.complaints_at hj path,
    FilterNode.complaints_eq_nil hj path, ?_⟩, ?_⟩
  · rintro fields items rfl htype hval hne
    exact FilterNode.complaints_operation htype hval hne (fun part hpart h => hj (.part htype hval hpart h)) path
  obtain ⟨paging, hpaging⟩ := @exists_pagingErrors maxPageSize d.paging
  obtain ⟨filter, hfilter⟩ := FilterNode.exists_ofJson_of_not_misnames config hd
  have hcheck : ∃ c, check config (.int maxPageSize) d = .ok c ∧ c.errors =
      (Selection.ofNames config d.distinct d.columns).errors ++
        ((checkSort config d.distinct (Selection.ofNames config d.distinct d.columns).columns d.sort).errors ++
          (paging ++ (filter.placed "filter").errors)) := by
    rw [check_eq, hpaging, hfilter]
    exact ⟨_, rfl, by simp only [Checked.errors_map, Checked.errors_after, Checked.errors_both]⟩
  obtain ⟨c, hc, herrors⟩ := hcheck
  refine ⟨c, paging, hc, fun payload hread => ?_, hpaging, ?_, fun selected hselected => ?_, ?_⟩
  · rw [ofJson, hread]
    exact hc
  · have hplaced :
        (filter.placed "filter").errors.map (·.told "") = FilterNode.complaints config "filter" d.filter := by
      rw [FilterNode.complaints_of_ofJson hfilter, Checked.errors_placed, told_errors_placed]
    rw [herrors, List.map_append, List.map_append, List.map_append, told_checkSort, hplaced]
    simp only [List.append_assoc]
  · simp only [sortComplaints, checkSortItem_congr hselected]
  · rw [List.map_eq_nil_iff, (explained_check hc).errors_eq_nil]

/-- A filter on meetings with a field that does not belong, no symbol and three parts, of which the second is read. -/
def faultyFilter : Json :=
  .obj [("type", .str "op"), ("note", .null), ("inv", .int 1), ("val", .arr [
    .obj [("type", .str "column"), ("column", .str "date"), ("op", .str "%v%"), ("val", .str "May")],
    .str "always",
    .obj [("type", .str "op"), ("op", .str "&"), ("val", .arr [.str "sometimes"])]])]

/-- A request for meetings with this filter and with other errors. -/
def faultyRequest : DataRequest :=
  { columns := ["date", "date", "place"], filter := faultyFilter, sort := [⟨"attendants", false⟩, ⟨"date", true⟩],
    paging := { size := 0, number := some 0 } }

/-- All that is wrong with this request, field by field. -/
theorem complaints_add_up_faultyRequest : ¬ faultyFilter.Misnames ∧
    (∃ c, check Entity.meetings.config (.int 1000) faultyRequest = .ok c ∧
      (c.errors.map (·.told "")).map (·.1) =
        ["columns.1.column", "columns.2.column", "sort.0.column", "paging.size", "paging.number", "filter.note",
          "filter.inv", "filter.op", "filter.val.0.op", "filter.val.2.val.0"]) := by
  have hread : (FilterNode.ofJson Entity.meetings.config faultyFilter).toOption.isSome = true := by decide +kernel
  have hj : ¬ faultyFilter.Misnames := by
    intro h
    rw [FilterNode.ofJson_eq_error.2 ⟨rfl, h⟩] at hread
    cases hread
  obtain ⟨-, c, paging, hc, -, hpaging, htold, -⟩ :=
    complaints_add_up Entity.meetings.config hj 1000 (d := faultyRequest) hj
  refine ⟨hj, c, hc, ?_⟩
  have hpaging' : pagingErrors (.int 1000) faultyRequest.paging =
      .ok [⟨["paging", "size"], .pageSize (.int 1000)⟩, ⟨["paging", "number"], .pageNumber⟩] := rfl
  rw [htold, Except.ok.inj (hpaging.symm.trans hpaging')]
  decide +kernel

end TableQuery.Request
