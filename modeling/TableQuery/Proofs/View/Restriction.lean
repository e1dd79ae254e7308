import TableQuery.Proofs.Filter.Agreement
import TableQuery.Proofs.Filter.Together
import TableQuery.Proofs.View.Payloads
import TableQuery.Proofs.View.Schema

/-!
# The filter that a view was made with

A view keeps the filter that it was made with (`TableView.intrinsicFilter_run`), and the filter of every request is true
only where that one is. It is true iff in addition to that filter the search and all filters of columns are
(`TableView.request_within`), whatever was done with the view before.
-/

set_option autoImplicit false

namespace TableQuery

def searchFor (text : Json) : Json :=
  .obj [("type", .str "global"), ("op", .str "%v%"), ("val", text)]

theorem ofJson_searchFor (text : Json) : Draft.ofJson (searchFor text) =
    .leaf .global [("type", .str "global"), ("op", .str "%v%"), ("val", text)] :=
  Draft.ofJson_leaf rfl

theorem flat_searchFor (text : Json) : (Draft.ofJson (searchFor text)).LeavesIn Draft.Flat := by
  rw [ofJson_searchFor]
  intro l hl
  rw [Draft.leaves, List.mem_singleton] at hl
  rw [hl]
  exact fun hcolumn => by cases hcolumn

theorem exists_reduced_searchFor (s : ColumnSchemas) (text : String) :
    ∃ g, reduceFilter s (searchFor (.str text)) = .ok g := by
  rw [reduceFilter, ofJson_searchFor, Draft.reduce_leaf]
  exact ⟨_, rfl⟩

namespace TableView

variable {v : TableView}

/-! ## The filters of a view -/

theorem intrinsicFilter_run (v : TableView) (actions : List Action) :
    (v.run actions).intrinsicFilter = v.intrinsicFilter :=
  (made_run v actions).1

theorem schema_of_columnNames (h : ∃ names, v.columnNames = .ok names) : v.schema.same .null = false := by
  obtain ⟨names, h⟩ := h
  unfold columnNames at h
  split at h
  next schema hschema =>
    rw [hschema]
    rfl
  next => cases h

theorem mem_filters {f : Json} : f ∈ v.filters ↔
    f ∈ v.intrinsicFilter ∨ (v.searched.truthy = true ∧ f = searchFor v.searched) ∨ f ∈ v.activeFilters := by
  have hsearch : f ∈ (if v.searched.truthy then [searchFor v.searched] else []) ↔
      v.searched.truthy = true ∧ f = searchFor v.searched := by
    split <;> simp_all
  rw [filters, List.mem_append, List.mem_append, Option.mem_toList, or_assoc]
  exact or_congr_right (or_congr_left hsearch)

/-- **The filter of a request is true iff all filters of the view are.** Whatever was done with a view, let every leaf
that reduction meets have the value of its own reduction. The filter of the request is true iff the filter that the
view was made with is, and the search if there is a text to search for, and every filter of a column that is set.
There is a request if the view has a schema with columns, a text is searched for, the page has a number, and each of
the filters can be reduced, where no list of values contains a list. -/
theorem request_within {intrinsicFilter : Option Json} (quiet pageSize : Json) (actions : List Action)
    (hv : v = run { intrinsicFilter, quiet, pageSize } actions) :
    (∀ {reading : Draft.Reading} {payload : Json}, v.request = .ok (some payload) →
      reading.Respects v.columnSchemas (Draft.Meets v.columnSchemas (Draft.ofJson (conjunction v.filters))) →
        (filterTruth reading (requestedFilter payload) = true ↔
          (∀ f ∈ intrinsicFilter, filterTruth reading f = true) ∧
          (v.searched.truthy = true → filterTruth reading (searchFor v.searched) = true) ∧
          ∀ f ∈ v.activeFilters, filterTruth reading f = true)) ∧
    (v.initialised = true → (∃ names, v.columnNames = .ok names) → (∃ text, v.searched = .str text) →
      (∃ number, v.pageNumber = .ok number) →
        (∀ f, f ∈ intrinsicFilter ∨ f ∈ v.activeFilters →
          (Draft.ofJson f).LeavesIn Draft.Flat ∧ ∃ g, reduceFilter v.columnSchemas f = .ok g) →
            ∃ payload, v.request = .ok (some payload)) := by
  have hkept : v.intrinsicFilter = intrinsicFilter := by rw [hv, intrinsicFilter_run]
  constructor
  · intro reading payload hrequest hreading
    obtain ⟨-, -, -, hfilter, -, -⟩ := parts_of_request hrequest
    rw [filterTruth_of_reduced hfilter hreading, ← hkept]
    simp only [mem_filters, or_imp, forall_and, and_imp, forall_eq_apply_imp_iff]
  · intro hinitialised hnames htext hnumber hfilters
    obtain ⟨text, htext⟩ := htext
    have hall : ∀ f ∈ v.filters,
        (Draft.ofJson f).LeavesIn Draft.Flat ∧ ∃ g, reduceFilter v.columnSchemas f = .ok g := by
      intro f hf
      rcases mem_filters.1 hf with hf | ⟨-, rfl⟩ | hf
      · exact hfilters f (Or.inl (hkept ▸ hf))
      · rw [htext]
        exact ⟨flat_searchFor _, exists_reduced_searchFor _ text⟩
      · exact hfilters f (Or.inr hf)
    exact exists_request_iff.2 ⟨schema_of_columnNames hnames, hinitialised, hnames,
      exists_reduced_together (fun f hf => (hall f hf).1) fun f hf => (hall f hf).2, hnumber⟩

/-- The filter for users who have an e-mail address or are administrators. -/
def reachable : Json :=
  .obj [("type", .str "op"), ("op", .str "|"), ("val", .arr [
    .obj [("type", .str "column"), ("column", .str "hasEmail"), ("op", .str "="), ("val", .bool true)],
    .obj [("type", .str "column"), ("column", .str "isGlobalAdmin"), ("op", .str "="), ("val", .bool true)]])]

/-- The filter for users with none of the given addresses, written at length. -/
def otherEmail : Json :=
  .obj [("type", .str "op"), ("op", .str "|"), ("inv", .bool true), ("val", .arr [
    .str "never",
    .obj [("type", .str "column"), ("column", .str "email"), ("op", .str "in"),
      ("val", .arr [.str "ewa@example.org", .str "ewa@example.org"])]])]

/-- Searching among the users, with a filter for their addresses. -/
def searchUsers : List Action :=
  [.setSchema Entity.users.config.schema, .search (.str " an "), .flush, .setColumnFilter (.str "email") otherEmail]

/-- The request lets a user of the sample data pass iff the user can be reached, is found and has another address. -/
theorem request_within_searchUsers :
    ∃ payload,
      (run { intrinsicFilter := some reachable, pageSize := .int 25 } searchUsers).request = .ok (some payload) ∧
      ∀ row ∈ Entity.sampleStore.rows "users", ∀ reading : Draft.Reading,
        reading = rowReading Entity.users.config Entity.sampleStore [("users", row)] →
          (filterTruth reading (requestedFilter payload) = true ↔ filterTruth reading reachable = true ∧
            filterTruth reading (searchFor (.str " an ")) = true ∧ filterTruth reading otherEmail = true) := by
  obtain ⟨v, hv⟩ : ∃ v, v = run { intrinsicFilter := some reachable, pageSize := .int 25 } searchUsers := ⟨_, rfl⟩
  have hs : Entity.users.config.clientColumns = .ok v.columnSchemas := by rw [hv]; rfl
  have hsearched : v.searched = .str " an " := by rw [hv]; rfl
  have hactive : v.activeFilters = [otherEmail] := by rw [hv]; rfl
  have hfilters : v.filters = [reachable, searchFor (.str " an "), otherEmail] := by rw [hv]; rfl
  have hwf := Entity.wellFormed_of_mem Entity.users (by simp [Entity.all])
  obtain ⟨htruth, hexists⟩ := request_within _ _ searchUsers hv
  have hplain : ∀ f, f ∈ some reachable ∨ f ∈ v.activeFilters →
      (Draft.ofJson f).LeavesIn Draft.Flat ∧ ∃ g, reduceFilter v.columnSchemas f = .ok g := by
    have hall : ∀ f ∈ [reachable, otherEmail], (∀ l ∈ (Draft.ofJson f).leaves, Draft.Flat l.1 l.2) ∧
        (reduceFilter v.columnSchemas f).toOption.isSome = true := by
      rw [hv]
      decide +kernel
    intro f hf
    have hmem : f ∈ [reachable, otherEmail] := by
      rw [hactive] at hf
      rcases hf with hf | hf
      · rw [Option.some.inj hf]
        exact List.mem_cons_self
      · exact List.mem_cons_of_mem _ hf
    obtain ⟨hflat, hreduced⟩ := hall f hmem
    refine ⟨hflat, ?_⟩
    cases hg : reduceFilter v.columnSchemas f with
    | ok g => exact ⟨g, rfl⟩
    | error e =>
      rw [hg] at hreduced
      cases hreduced
  obtain ⟨payload, hrequest⟩ := hexists (by rw [hv]; rfl) (by rw [hv]; exact ⟨_, rfl⟩) ⟨_, hsearched⟩
    (by rw [hv]; exact ⟨_, rfl⟩) hplain
  refine ⟨payload, hv ▸ hrequest, fun row hrow reading hreading => ?_⟩
  obtain ⟨f, hf, hall⟩ := (Option.any_eq_true _ _).1
    (show (FilterNode.read? Entity.users.config (conjunction [reachable, searchFor (.str " an "), otherEmail])).any
      (fun f => decide ((∀ t ∈ f.tests, t.Plain) ∧ ∀ row ∈ Entity.sampleStore.rows "users",
        f.Suited Entity.sampleStore [("users", row)])) = true by decide +kernel)
  obtain ⟨hplain, hsuited⟩ := of_decide_eq_true hall
  have hread := FilterNode.read?_eq_some.1 hf
  have hgood := FilterNode.good_suited hplain
  have hclosed : Draft.Closed v.columnSchemas (Draft.Readable Entity.users.config f.Suited) :=
    Draft.closed_readable hs hwf.columnNames hwf.toRegular
  have hrespects : reading.Respects v.columnSchemas
      (Draft.Meets v.columnSchemas (Draft.ofJson (conjunction v.filters))) := by
    intro kind fields r hmeets hr
    rw [hfilters] at hmeets
    rw [hreading]
    exact respects_rowReading hwf.toRegular (hsuited row hrow) hs hwf.columnNames
      (hmeets.of_closed hclosed (FilterNode.built_ofJson hread hgood).leavesIn) hr
  have hiff := htruth hrequest hrespects
  rw [hsearched, hactive] at hiff
  simpa [Json.truthy] using hiff

end TableView

end TableQuery
