import TableQuery.Entity.Registry
import TableQuery.Proofs.View.Fits

/-!
# The requests of a view

A view that fits the server and has an order that rows can be sorted by (`TableView.Usable`) is kept usable by every
action with values that the server accepts (`Action.Admissible`, `TableView.Usable.step`), and so by every run of such
actions. It never makes a request that is refused therefore (`TableView.request_accepted`), unless the order that its
configuration suggests cannot be used (`TableView.first_request_accepted_iff`).
-/

set_option autoImplicit false

namespace TableQuery

/-! ## Actions -/

/-- An action with values that the server accepts. -/
def Action.Admissible (config : EntityConfig) (maxPageSize : Int) : Action → Prop
  | .setSchema schema => schema = config.schema
  | .setVisibility shown => ∃ fields, shown = .obj fields ∧ ∀ p ∈ fields, p.1 ∈ config.dataNames
  | .search text => ∃ s, text = .str s
  | .setColumnFilter _ filter => filter = .null ∨ config.Grants filter
  | .setSorting entries =>
    ∃ items, entries = .arr items ∧ ∀ j ∈ items, ∃ name desc, j = .arr [.str name, desc] ∧ config.Sorts name
  | .setPage index size =>
    (index = .null ∨ ∃ n : Int, index = .int n ∧ 0 ≤ n) ∧
      (size = .null ∨ ∃ n : Int, size = .int n ∧ 1 ≤ n ∧ n ≤ maxPageSize)
  | _ => True

namespace TableView

variable {config : EntityConfig} {maxPageSize : Int} {v : TableView}

/-- An order with admissible entries is one that rows can be sorted by. -/
theorem sortsBy_of_mapM {items : List Json} {sorting : List SortState}
    (hitems : ∀ j ∈ items, ∃ name desc, j = .arr [.str name, desc] ∧ config.Sorts name)
    (h : items.mapM readSortEntry = .ok sorting) : ∀ s ∈ sorting, config.SortsBy s := by
  intro s hs
  obtain ⟨j, hj, hread⟩ := exists_of_mem_mapM h hs
  obtain ⟨name, desc, rfl, hsorts⟩ := hitems j hj
  cases hread
  exact ⟨name, rfl, hsorts⟩

namespace Usable

variable (h : v.Usable config maxPageSize)

include h

theorem pageIndex_of {pageIndex : Json} (hpage : pageIndex = v.pageIndex ∨ pageIndex = .int 0) :
    ∃ index : Int, pageIndex = .int index ∧ 0 ≤ index := by
  rcases hpage with rfl | rfl
  · exact h.pageIndex
  · exact ⟨0, rfl, Int.le_refl 0⟩

theorem flush : v.flush.state.Usable config maxPageSize := by
  rcases state_flush v with hflush | hflush | hflush <;> rw [hflush]
  · exact h
  · exact { h with }
  · exact { h with
      searched := h.typed
      pageIndex := ⟨0, rfl, Int.le_refl 0⟩ }

/-- **Every admissible action keeps a view usable**, if the suggested order can be used. -/
theorem step (hdata : config.dataNames ≠ []) (hsuggested : ∀ s ∈ config.suggestedSort, config.SortsBy s.state)
    (a : Action)
    (ha : a.Admissible config maxPageSize) : (v.step a).state.Usable config maxPageSize := by
  by_cases hquiet : a.IsQuiet
  · obtain ⟨_, _, _, _, _, _, _, hstate⟩ := state_quiet v hquiet
    rw [hstate]
    exact { h with }
  cases a with
  | setSchema schema =>
    obtain rfl : schema = config.schema := ha
    obtain ⟨hfits, hsorting⟩ := h.toPrepared.setSchema hdata
    exact { hfits with sorting := by rw [TableView.step, hsorting]; exact List.forall_mem_map.2 hsuggested }
  | setVisibility shown =>
    obtain ⟨fields, rfl, hfields⟩ := ha
    obtain ⟨visibility, hover, hshows, hensured⟩ := exists_ensureVisible
      (v := { v with visibility := fields.foldl (fun m p => m.set (.str p.1) p.2) v.visibility }) hdata h.schema
      (h.visibility.setAll hfields) h.visibility
    rw [TableView.step, setVisibility]
    dsimp only
    rw [hensured]
    exact { h with
      visibility := hover
      shows := hshows }
  | search text => exact { h with typed := ha }
  | poll =>
    rcases state_poll v with hstate | hstate
    · rw [TableView.step, hstate]
      exact h
    · rw [TableView.step, hstate]
      exact h.flush
  | flush => exact h.flush
  | setColumnFilter column filter =>
    rcases state_setColumnFilter v column filter with hstate | ⟨pageIndex, hpage, hstate⟩
    · rw [TableView.step, hstate]
      exact h
    · rw [TableView.step, hstate]
      refine { h with columnFilters := fun p hp htruthy => ?_, pageIndex := h.pageIndex_of hpage }
      rcases NameMap.mem_or_eq_of_mem_set hp with hp | hp
      · exact h.columnFilters p hp htruthy
      · rw [hp] at htruthy ⊢
        rcases ha with rfl | hgranted
        · cases htruthy
        · exact hgranted
  | setSorting entries =>
    rcases state_setSorting v entries with hstate | ⟨sorting, pageIndex, hread, hpage, hstate⟩
    · rw [TableView.step, hstate]
      exact h
    · obtain ⟨items, rfl, hitems⟩ := ha
      rw [TableView.step, hstate]
      exact { h with
        sorting := sortsBy_of_mapM hitems hread
        pageIndex := h.pageIndex_of hpage }
  | setPage index size =>
    have hindex : ∃ n : Int, (if index.same .null then v.pageIndex else index) = .int n ∧ 0 ≤ n := by
      rcases ha.1 with rfl | ⟨n, rfl, hn⟩
      · exact h.pageIndex
      · exact ⟨n, rfl, hn⟩
    have hsize : ∃ n : Int, (if size.same .null then v.pageSize else size) = .int n ∧ 1 ≤ n ∧ n ≤ maxPageSize := by
      rcases ha.2 with rfl | ⟨n, rfl, hn⟩
      · exact h.pageSize
      · exact ⟨n, rfl, hn⟩
    exact { h with
      pageIndex := hindex
      pageSize := hsize }
  | _ => exact absurd trivial hquiet

/-- A run of admissible actions keeps a view usable. -/
theorem run (hdata : config.dataNames ≠ []) (hsuggested : ∀ s ∈ config.suggestedSort, config.SortsBy s.state)
    {actions : List Action} (hactions : ∀ a ∈ actions, a.Admissible config maxPageSize) :
    (v.run actions).Usable config maxPageSize :=
  run_induct (fun _ a ha hv => hv.step hdata hsuggested a ha) h hactions

end Usable

/-! ## Requests that the server accepts -/

theorem dataNames_ne_nil (hdata : ∃ c ∈ config.columns, c.isData = true) : config.dataNames ≠ [] := by
  obtain ⟨c, hc, hdata⟩ := hdata
  exact List.ne_nil_of_mem (List.mem_map_of_mem (List.mem_filter.2 ⟨hc, hdata⟩))

/-- **A view makes only requests that the server accepts.** In an extended configuration with a data column and a
suggested order that rows can be sorted by, a view gets the schema of the configuration: a fresh one, or one that was
used before. After any admissible actions there is a request, the server accepts it, and it selects the data columns
that are shown, of which there is at least one. -/
theorem request_accepted {base : EntityConfig} {extensions : List Extension}
    (hconfig : base.extend extensions = .ok config) (hdata : ∃ c ∈ config.columns, c.isData = true)
    (hsuggested : ∀ s ∈ config.suggestedSort, config.SortsBy s.state) (hv : v.Prepared config maxPageSize)
    {actions : List Action} (hactions : ∀ a ∈ actions, a.Admissible config maxPageSize) :
    ∃ payload r, ((v.setSchema config.schema).state.run actions).request = .ok (some payload) ∧
      Request.ofJson config (.int maxPageSize) payload = .ok (.ok r) ∧
      r.select = config.shownIn ((v.setSchema config.schema).state.run actions) ∧ r.select ≠ [] := by
  obtain ⟨hfits, hsorting⟩ := hv.setSchema (dataNames_ne_nil hdata)
  have hset : (v.setSchema config.schema).state.Usable config maxPageSize :=
    { hfits with sorting := by rw [hsorting]; exact List.forall_mem_map.2 hsuggested }
  have hrun := hset.run (dataNames_ne_nil hdata) hsuggested hactions
  have htexts : ∀ s ∈ ((v.setSchema config.schema).state.run actions).sorting, ∃ name, s.column = .str name :=
    fun s hs => (hrun.sorting s hs).imp fun _ h => h.1
  obtain ⟨payload, checked, hrequest, hchecked, haccepted, hselect⟩ :=
    hrun.exists_request (EntityConfig.columnNames_nodup_of_extend hconfig) htexts
  obtain ⟨r, rfl⟩ := haccepted.2 hrun.sorting
  have hshown := hselect r rfl
  exact ⟨payload, r, hrequest, hchecked, hshown, hshown ▸ hrun.shownIn_ne_nil⟩

/-- Extensions that make a small configuration of meetings with suggestions for a first view. -/
def suggestedMeetings : List Extension :=
  [Entity.column "id" (.plain .uuid) (Entity.meeting "id"),
    Entity.column "title" .stringNullable (Entity.meeting "notes") true,
    Entity.column "statusDictId" (.plain .dict) (Entity.meeting "status_dict_id") false
      (.str Dictionary.meetingStatus),
    Entity.column "isRemote" (.plain .bool) (Entity.meeting "is_remote"),
    Entity.listColumn "attendants" (Entity.attendants []),
    Entity.suggestColumns ["title", "attendants"],
    .suggestSort [{ column := .str "title", desc := true }]]

theorem extend_suggestedMeetings :
    EntityConfig.extend {} suggestedMeetings = .ok (EntityConfig.extended {} suggestedMeetings) := rfl

theorem sorts_suggestedMeetings :
    ∀ name ∈ ["title", "isRemote"], (EntityConfig.extended {} suggestedMeetings).Sorts name := by
  decide +kernel

theorem sortsBy_suggestedMeetings : ∀ s ∈ (EntityConfig.extended {} suggestedMeetings).suggestedSort,
    (EntityConfig.extended {} suggestedMeetings).SortsBy s.state := by
  intro s hs
  obtain rfl := List.mem_singleton.1 hs
  exact ⟨"title", rfl, sorts_suggestedMeetings _ (by simp)⟩

/-- The filter for meetings that have a title or are remote. -/
def titledOrRemote : Json :=
  .obj [("type", .str "op"), ("op", .str "|"), ("val", .arr [
    .obj [("type", .str "column"), ("column", .str "title"), ("op", .str "null"), ("inv", .bool true)],
    .obj [("type", .str "column"), ("column", .str "isRemote"), ("op", .str "="), ("val", .bool true)]])]

def plannedOnly : Json :=
  .obj [("type", .str "column"), ("column", .str "statusDictId"), ("op", .str "in"),
    ("val", .arr [.str Dictionary.meetingPlanned])]

/-- Searching among planned meetings, with other columns and another order, on the third page. -/
def browseMeetings : List Action :=
  [.search (.str " garden "), .flush, .setVisibility (.obj [("title", .bool false), ("isRemote", .bool true)]),
    .setColumnFilter (.str "statusDictId") plannedOnly,
    .setSorting (.arr [.arr [.str "isRemote", .bool true], .arr [.str "title", .bool false]]), .setPage (.int 2) .null]

/-- The view of meetings makes a request for the columns that are shown then, and it is accepted. -/
theorem request_accepted_browseMeetings : ∃ config payload r,
    EntityConfig.extend {} suggestedMeetings = .ok config ∧
    ((setSchema { intrinsicFilter := some titledOrRemote, pageSize := .int 25 } config.schema).state.run
      browseMeetings).request = .ok (some payload) ∧
    Request.ofJson config (.int 1000) payload = .ok (.ok r) ∧ r.select.map (·.name) = ["isRemote", "attendants"] := by
  have hgrants : ∀ f ∈ [titledOrRemote, plannedOnly], (EntityConfig.extended {} suggestedMeetings).Grants f := by
    decide +kernel
  have hprepared : Prepared (EntityConfig.extended {} suggestedMeetings) 1000
      { intrinsicFilter := some titledOrRemote, pageSize := .int 25 } := by
    refine ⟨fun f hf => ?_, ⟨_, rfl⟩, ⟨_, rfl⟩, 25, rfl, by decide, by decide⟩
    cases hf
    exact hgrants _ (by simp)
  have hactions : ∀ a ∈ browseMeetings, a.Admissible (EntityConfig.extended {} suggestedMeetings) 1000 := by
    intro a ha
    simp only [browseMeetings, List.mem_cons, List.not_mem_nil, or_false] at ha
    rcases ha with rfl | rfl | rfl | rfl | rfl | rfl
    · exact ⟨_, rfl⟩
    · trivial
    · exact ⟨_, rfl, by decide +kernel⟩
    · exact Or.inr (hgrants _ (by simp))
    · refine ⟨_, rfl, fun j hj => ?_⟩
      simp only [List.mem_cons, List.not_mem_nil, or_false] at hj
      rcases hj with rfl | rfl
      · exact ⟨_, _, rfl, sorts_suggestedMeetings _ (by simp)⟩
      · exact ⟨_, _, rfl, sorts_suggestedMeetings _ (by simp)⟩
    · exact ⟨Or.inr ⟨2, rfl, by decide⟩, Or.inl rfl⟩
  obtain ⟨payload, r, hrequest, hr, hselect, -⟩ :=
    request_accepted extend_suggestedMeetings (by decide +kernel) sortsBy_suggestedMeetings hprepared hactions
  refine ⟨_, payload, r, extend_suggestedMeetings, hrequest, hr, ?_⟩
  rw [hselect]
  decide +kernel

/-- The columns of a suggested order are texts. -/
theorem texts_of_suggested {base : EntityConfig} {extensions : List Extension}
    (hconfig : base.extend extensions = .ok config) (hsorting : v.sorting = config.suggestedSort.map SortHint.state) :
    ∀ s ∈ v.sorting, ∃ name, s.column = .str name := by
  rw [hsorting, List.forall_mem_map]
  intro s hs
  obtain ⟨name, -, hname⟩ := (EntityConfig.consistent_of_extend hconfig).suggestedSort s hs
  exact ⟨name, hname⟩

theorem prepared_fresh {pageSize : Int} (hsize : 1 ≤ pageSize ∧ pageSize ≤ maxPageSize) (quiet : Json) :
    Prepared config maxPageSize { quiet, pageSize := .int pageSize } :=
  ⟨nofun, ⟨"", rfl⟩, ⟨"", rfl⟩, pageSize, rfl, hsize⟩

/-- **When the first request is accepted.** A fresh view with an allowed page size that gets the schema of an extended
configuration with a data column has a request. The server accepts it iff rows can be sorted by all columns of the
suggested order, and refuses it else. It selects the columns that are shown. -/
theorem first_request_accepted_iff {base : EntityConfig} {extensions : List Extension}
    (hconfig : base.extend extensions = .ok config) (hdata : ∃ c ∈ config.columns, c.isData = true) {pageSize : Int}
    (hsize : 1 ≤ pageSize ∧ pageSize ≤ maxPageSize) (quiet : Json) :
    ∃ w payload checked, w = (setSchema { quiet, pageSize := .int pageSize } config.schema).state ∧
      w.request = .ok (some payload) ∧ Request.ofJson config (.int maxPageSize) payload = .ok checked ∧
      ((∃ r, checked = .ok r) ↔ ∀ s ∈ config.suggestedSort, config.SortsBy s.state) ∧
      ∀ r, checked = .ok r → r.select = config.shownIn w := by
  have hfresh : Prepared config maxPageSize { quiet, pageSize := .int pageSize } := prepared_fresh hsize quiet
  obtain ⟨hfits, hsorting⟩ := hfresh.setSchema (dataNames_ne_nil hdata)
  have htexts := texts_of_suggested hconfig hsorting
  obtain ⟨payload, checked, hrequest, hchecked, haccepted, hselect⟩ :=
    hfits.exists_request (EntityConfig.columnNames_nodup_of_extend hconfig) htexts
  rw [hsorting, List.forall_mem_map] at haccepted
  exact ⟨_, payload, checked, rfl, hrequest, hchecked, haccepted, hselect⟩

/-- The first request for meetings is accepted, and selects the suggested columns. -/
theorem first_request_accepted_iff_suggestedMeetings : ∃ config payload r,
    EntityConfig.extend {} suggestedMeetings = .ok config ∧
    (setSchema { pageSize := .int 25 } config.schema).state.request = .ok (some payload) ∧
    Request.ofJson config (.int 1000) payload = .ok (.ok r) ∧ r.select.map (·.name) = ["title", "attendants"] := by
  have hsize : (1 : Int) ≤ 25 ∧ (25 : Int) ≤ 1000 := by decide
  obtain ⟨w, payload, checked, hw, hrequest, hchecked, haccepted, hselect⟩ :=
    first_request_accepted_iff extend_suggestedMeetings (by decide +kernel) hsize (.double (.ofRatio false 1 2))
  obtain ⟨r, rfl⟩ := haccepted.2 sortsBy_suggestedMeetings
  refine ⟨_, payload, r, extend_suggestedMeetings, hw ▸ hrequest, hchecked, ?_⟩
  rw [hselect r rfl, hw]
  decide +kernel

/-- A column of identifiers that is suggested as an order. -/
def suggestedId : List Extension :=
  [Entity.column "id" (.plain .uuid) (Entity.user "id"), .suggestSort [{ column := .str "id" }]]

/-- **A suggested order need not be one that rows can be sorted by.** A configuration may be extended by it, and the
first request that a view makes with its schema is refused. -/
theorem first_request_refused_suggestedId : ∃ config payload, EntityConfig.extend {} suggestedId = .ok config ∧
    (∃ c ∈ config.columns, c.isData = true) ∧
    (setSchema { pageSize := .int 25 } config.schema).state.request = .ok (some payload) ∧
    Request.ofJson config (.int 1000) payload = .ok (.error [⟨["sort", "0", "column"], .notSortable "id"⟩]) := by
  have hconfig : EntityConfig.extend {} suggestedId = .ok (EntityConfig.extended {} suggestedId) := rfl
  have hdata : ∃ c ∈ (EntityConfig.extended {} suggestedId).columns, c.isData = true := by decide +kernel
  have hnames := EntityConfig.columnNames_nodup_of_extend hconfig
  have hfresh : Prepared (EntityConfig.extended {} suggestedId) 1000 { pageSize := .int 25 } :=
    prepared_fresh (by decide) _
  obtain ⟨hfits, hsorting⟩ := hfresh.setSchema (dataNames_ne_nil hdata)
  obtain ⟨filter, f, size, number, hrequest, hfilter, hsize, hnumber⟩ :=
    hfits.request_eq hnames (texts_of_suggested hconfig hsorting)
  refine ⟨_, _, hconfig, hdata, hrequest, ?_⟩
  rw [Request.ofJson_writtenRequest hnames (EntityConfig.shownIn_sublist _ _) hfits.shownIn_ne_nil hfilter hsize
      hnumber,
    hsorting]
  rfl

end TableView

end TableQuery
