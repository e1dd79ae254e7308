import TableQuery.Proofs.Filter.Together
import TableQuery.Proofs.Request.Written
import TableQuery.Proofs.View.Schema

/-!
# Views that fit the server

A view that has the schema of a configuration fits the server (`TableView.Fits`): its filters are accepted there, it
shows some data column and asks for a page that is allowed. Its request is accepted then iff rows can be sorted by its
order (`TableView.Fits.exists_request`). Every view that was prepared for it fits a configuration with a data column
once it gets the schema (`TableView.Prepared.setSchema`).
-/

set_option autoImplicit false

namespace TableQuery

/-- An entry of an order as it is written in requests. -/
def SortState.item (s : SortState) : SortItem := ⟨s.column.str?.getD "", s.desc.truthy⟩

namespace EntityConfig

def Grants (config : EntityConfig) (filter : Json) : Prop :=
  ∃ f, FilterNode.ofJson config filter = .ok (.ok f)

/-- Whether a filter is accepted can be found out by reading it. -/
instance (config : EntityConfig) (filter : Json) : Decidable (config.Grants filter) :=
  match h : FilterNode.ofJson config filter with
  | .ok (.ok f) => isTrue ⟨f, h⟩
  | .ok (.error es) => isFalse fun ⟨f, hf⟩ => by rw [h] at hf; cases hf
  | .error e => isFalse fun ⟨f, hf⟩ => by rw [h] at hf; cases hf

/-- Rows can be sorted by an entry of an order. -/
def SortsBy (config : EntityConfig) (s : SortState) : Prop :=
  ∃ name, s.column = .str name ∧ config.Sorts name

/-- The data columns that a view shows, in the order of the configuration. -/
def shownIn (config : EntityConfig) (v : TableView) : List ColumnDef :=
  (config.columns.filter (·.isData)).filter fun c => v.isShown (.str c.name)

theorem shownIn_sublist (config : EntityConfig) (v : TableView) :
    (config.shownIn v).Sublist (config.columns.filter (·.isData)) :=
  List.filter_sublist

end EntityConfig

namespace TableView

variable {config : EntityConfig} {maxPageSize : Int} {v : TableView}

/-! ## Views that fit the server -/

/-- A view that may get the schema of a configuration. -/
structure Prepared (config : EntityConfig) (maxPageSize : Int) (v : TableView) : Prop where
  intrinsicFilter : ∀ f ∈ v.intrinsicFilter, config.Grants f
  typed : ∃ text, v.typed = .str text
  searched : ∃ text, v.searched = .str text
  pageSize : ∃ size : Int, v.pageSize = .int size ∧ 1 ≤ size ∧ size ≤ maxPageSize

/-- A view that fits a configuration, its order left aside. -/
structure Fits (config : EntityConfig) (maxPageSize : Int) (v : TableView) : Prop extends
    Prepared config maxPageSize v where
  schema : v.schema = config.schema
  columnSchemas : config.clientColumns = .ok v.columnSchemas
  initialised : v.initialised = true
  visibility : v.visibility.Over config.dataNames
  shows : showsSome v.visibility = true
  columnFilters : ∀ p ∈ v.columnFilters, p.2.truthy = true → config.Grants p.2
  pageIndex : ∃ index : Int, v.pageIndex = .int index ∧ 0 ≤ index

/-- A view that fits a configuration. -/
structure Usable (config : EntityConfig) (maxPageSize : Int) (v : TableView) : Prop extends
    Fits config maxPageSize v where
  sorting : ∀ s ∈ v.sorting, config.SortsBy s

/-- **A view that gets the schema of a configuration fits it**, and has the suggested order. -/
theorem Prepared.setSchema (h : v.Prepared config maxPageSize) (hdata : config.dataNames ≠ []) :
    (v.setSchema config.schema).state.Fits config maxPageSize ∧
      (v.setSchema config.schema).state.sorting = config.suggestedSort.map SortHint.state := by
  obtain ⟨columnSchemas, visibility, hschemas, hover, hshows, hset⟩ := setSchema_schema v hdata
  rw [hset]
  refine ⟨?_, rfl⟩
  exact { h with
    schema := rfl
    columnSchemas := hschemas
    initialised := rfl
    visibility := hover
    shows := hshows
    columnFilters := fun p hp htruthy => by
      rw [NameMap.eq_of_mem_constant hp] at htruthy
      cases htruthy
    pageIndex := ⟨0, rfl, Int.le_refl 0⟩ }

/-! ## Orders -/

section Orders

variable {sorting : List SortState} (htexts : ∀ s ∈ sorting, ∃ name, s.column = .str name)

include htexts

theorem column_item : ∀ s ∈ sorting, s.column = .str s.item.column := by
  intro s hs
  obtain ⟨name, hname⟩ := htexts s hs
  rw [SortState.item, hname]
  rfl

theorem sortEntries_eq : (sorting.map fun s => sortEntry s.column s.desc.truthy) =
    (sorting.map SortState.item).map fun s => sortEntry (.str s.column) s.desc := by
  rw [List.map_map]
  exact List.map_congr_left fun s hs => congrArg (sortEntry · s.desc.truthy) (column_item htexts s hs)

theorem sorts_item : (∀ s ∈ sorting.map SortState.item, config.Sorts s.column) ↔ ∀ s ∈ sorting, config.SortsBy s := by
  rw [List.forall_mem_map]
  refine forall₂_congr fun s hs => ?_
  rw [EntityConfig.SortsBy, column_item htexts s hs]
  simp

end Orders

/-! ## The request -/

namespace Fits

variable (h : v.Fits config maxPageSize)

include h

theorem shownIn_ne_nil : config.shownIn v ≠ [] := by
  obtain ⟨p, hp, htruthy⟩ := List.any_eq_true.1 h.shows
  obtain ⟨name, hname, hp1⟩ := h.visibility.known p.1 (List.mem_map_of_mem hp)
  obtain ⟨c, hc, rfl⟩ := List.mem_map.1 hname
  have hshown : v.isShown (.str c.name) = true := by
    rw [isShown, ← hp1, h.visibility.get?_of_mem hp]
    exact htruthy
  exact List.ne_nil_of_mem (List.mem_filter.2 ⟨hc, hshown⟩)

theorem composes_filters : ∀ f ∈ v.filters, config.Composes f := by
  have hgranted : ∀ {f : Json}, config.Grants f → config.Composes f :=
    fun ⟨_, hf⟩ => EntityConfig.composes_of_ofJson hf
  intro f hf
  rw [filters, List.mem_append, List.mem_append] at hf
  rcases hf with (hf | hf) | hf
  · exact hgranted (h.intrinsicFilter f (Option.mem_toList.1 hf))
  · obtain ⟨text, htext⟩ := h.searched
    split at hf
    · rw [List.mem_singleton.1 hf, htext]
      exact EntityConfig.composes_searchFilter config text
    · cases hf
  · obtain ⟨hmem, htruthy⟩ := List.mem_filter.1 hf
    obtain ⟨p, hp, rfl⟩ := List.mem_map.1 hmem
    exact hgranted (h.columnFilters p hp htruthy)

/-- **What a view asks for**: the data columns that it shows, with a filter that is accepted and a page that is
allowed. -/
theorem request_eq (hnames : (config.columns.map (·.name)).Nodup)
    (htexts : ∀ s ∈ v.sorting, ∃ name, s.column = .str name) : ∃ filter f size number,
      v.request = .ok (some (writtenRequest ((config.shownIn v).map (·.name)) filter (v.sorting.map SortState.item)
        size number)) ∧
      FilterNode.ofJson config filter = .ok (.ok f) ∧
      Request.isPageSize (.int maxPageSize) size = .ok true ∧ 1 ≤ number := by
  obtain ⟨filter, f, hreduced, hfilter⟩ :=
    EntityConfig.exists_reduced_conjunction hnames h.columnSchemas h.composes_filters
  obtain ⟨size, hsize, hone, hmax⟩ := h.pageSize
  obtain ⟨index, hindex, hzero⟩ := h.pageIndex
  have hset : ¬ (v.schema.same .null || !v.initialised) = true := by
    rw [h.schema, h.initialised, EntityConfig.schema_eq_obj]
    simp [Json.same, Json.number?]
  have hcolumns : ((config.dataNames.map Json.str).filter v.isShown).map columnEntry =
      ((config.shownIn v).map (·.name)).map fun name => columnEntry (.str name) := by
    rw [EntityConfig.dataNames, EntityConfig.shownIn, List.map_map, List.filter_map, List.map_map, List.map_map]
    rfl
  refine ⟨filter, f, size, index + 1, ?_, hfilter, ?_, by omega⟩
  · rw [request, if_neg hset, columnNames_of_schema h.schema, pageNumber, hindex]
    simp only [bind, Except.bind, pure, Except.pure, Except.mapError, Json.number?, Fault.orElse, Number.Numeric.add]
    rw [show Json.obj [("type", .str "op"), ("op", .str "&"), ("val", .arr v.filters)] = conjunction v.filters from rfl,
      hreduced]
    simp only
    rw [hcolumns, hsize, writtenRequest, ← sortEntries_eq htexts]
    rfl
  · rw [Request.isPageSize_int]
    simp [hone, hmax]

/-- **The request of a view is checked without failing**, and accepted iff rows can be sorted by its order. It selects
the columns that are shown. -/
theorem exists_request (hnames : (config.columns.map (·.name)).Nodup)
    (htexts : ∀ s ∈ v.sorting, ∃ name, s.column = .str name) :
    ∃ payload checked, v.request = .ok (some payload) ∧ Request.ofJson config (.int maxPageSize) payload = .ok checked ∧
      ((∃ r, checked = .ok r) ↔ ∀ s ∈ v.sorting, config.SortsBy s) ∧
        ∀ r, checked = .ok r → r.select = config.shownIn v := by
  obtain ⟨filter, f, size, number, hrequest, hfilter, hsize, hnumber⟩ := h.request_eq hnames htexts
  refine ⟨_, _, hrequest, Request.ofJson_writtenRequest hnames (config.shownIn_sublist v) h.shownIn_ne_nil hfilter hsize
    hnumber _, ?_, fun r hr => ?_⟩
  · rw [← sorts_item htexts, ← Request.exists_checkSort hnames (config.shownIn v)]
    constructor
    · rintro ⟨r, hr⟩
      obtain ⟨sorted, hsorted, -⟩ := map_eq_ok.1 hr
      exact ⟨sorted, hsorted⟩
    · rintro ⟨sorted, hsorted⟩
      exact ⟨_, map_eq_ok.2 ⟨sorted, hsorted, rfl⟩⟩
  · obtain ⟨sorted, -, rfl⟩ := map_eq_ok.1 hr
    rfl

end Fits

end TableView

end TableQuery
