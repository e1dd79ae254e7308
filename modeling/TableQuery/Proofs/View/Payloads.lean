import TableQuery.Proofs.Filter.Together
import TableQuery.Proofs.View.Runs

/-!
# What a request asks for

The parts of a request that a view makes, and where they come from (`TableView.parts_of_request`): the shown columns of
the schema, the reduced conjunction of the filters, the order and the page. A view has a request iff all of these can
be made out (`TableView.exists_request_iff`).
-/

set_option autoImplicit false

namespace TableQuery

/-! ## The parts of a request -/

def requestedColumns (payload : Json) : List Json :=
  ((payload.get? "columns").bind Json.items?).getD []

def requestedFilter (payload : Json) : Json :=
  (payload.get? "filter").getD .null

def requestedOrder (payload : Json) : List Json :=
  ((payload.get? "sort").bind Json.items?).getD []

def requestedPage (payload : Json) : Json :=
  ((payload.get? "paging").bind (Json.get? "number")).getD .null

namespace TableView

variable {v : TableView} {payload : Json}

/-- **Where the parts of a request come from.** -/
theorem parts_of_request (h : v.request = .ok (some payload)) : ∃ names, v.columnNames = .ok names ∧
    requestedColumns payload = (names.filter v.isShown).map columnEntry ∧
    reduceFilter v.columnSchemas (conjunction v.filters) = .ok (requestedFilter payload) ∧
    requestedOrder payload = v.sorting.map (fun s => sortEntry s.column s.desc.truthy) ∧
    v.pageNumber = .ok (requestedPage payload) := by
  unfold request at h
  split at h
  · cases h
  · obtain ⟨names, hnames, h⟩ := bind_eq_ok.1 h
    obtain ⟨filter, hfilter, h⟩ := bind_eq_ok.1 h
    obtain ⟨number, hnumber, h⟩ := bind_eq_ok.1 h
    cases h
    exact ⟨names, mapError_eq_ok.1 hnames, rfl, mapError_eq_ok.1 hfilter, rfl, mapError_eq_ok.1 hnumber⟩

/-- A view has a request iff it has a schema with columns, a filter that can be reduced, and a page that is a number. -/
theorem exists_request_iff : (∃ payload, v.request = .ok (some payload)) ↔
    v.schema.same .null = false ∧ v.initialised = true ∧ (∃ names, v.columnNames = .ok names) ∧
      (∃ filter, reduceFilter v.columnSchemas (conjunction v.filters) = .ok filter) ∧
      ∃ number, v.pageNumber = .ok number := by
  constructor
  · rintro ⟨payload, h⟩
    obtain ⟨names, hnames, -, hfilter, -, hnumber⟩ := parts_of_request h
    unfold request at h
    split at h
    · cases h
    next hset =>
      rw [Bool.or_eq_true, not_or, Bool.not_eq_true, Bool.not_eq_true, Bool.not_eq_false'] at hset
      exact ⟨hset.1, hset.2, ⟨names, hnames⟩, ⟨_, hfilter⟩, _, hnumber⟩
  · rintro ⟨hschema, hinitialised, ⟨names, hnames⟩, ⟨filter, hfilter⟩, number, hnumber⟩
    unfold conjunction at hfilter
    simp [request, hschema, hinitialised, hnames, hfilter, hnumber, Except.mapError, bind, Except.bind, pure,
      Except.pure]

/-- A view has a request of which something can be decided. -/
theorem exists_request {P : Json → Prop} [DecidablePred P]
    (h : (match v.request with
      | .ok (some payload) => decide (P payload)
      | _ => false) = true) : ∃ payload, v.request = .ok (some payload) ∧ P payload := by
  split at h
  next payload hpayload => exact ⟨payload, hpayload, of_decide_eq_true h⟩
  next => cases h

end TableView

end TableQuery
