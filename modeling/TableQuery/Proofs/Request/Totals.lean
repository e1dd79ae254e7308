import TableQuery.Proofs.Filter.Opposite
import TableQuery.Proofs.Request.Plan
import TableQuery.Service.Engine

/-!
# Totals of a filter and of its opposite

The total of a request without `distinct` is the number of rows in the scope of the facility that satisfy its
filter (`Request.total_planned`). The request with the opposite filter makes the same joins, and each row in
scope satisfies exactly one of the two filters, so that the two totals add up to the number of all rows in
scope.
-/

set_option autoImplicit false

namespace TableQuery

open Sql (Query Store Env)

/-- The joined rows of a query that are in the scope of a facility. -/
def Entity.inScope (e : Entity) (facility : Option String) (store : Store) (q : Query) : List Env :=
  (q.joinedRows store).filter fun env => (e.scopeClauses facility).all (·.holds store env)

namespace Request

variable {e : Entity} {r : Request} {facility : Option String} {store : Store}

/-! ## The total of a request -/

theorem all_clausesIn (env : Env) : (r.clausesIn e facility).all (·.holds store env) =
    ((e.scopeClauses facility).all (·.holds store env) && (r.filter.clause false).holds store env) := by
  rw [clausesIn, List.all_append]
  congr 1
  split
  next halways =>
    cases hf : r.filter with
    | const value =>
      rw [hf] at halways
      cases halways
      rfl
    | _ => rw [hf] at halways; cases halways
  next => simp

/-- The rows in the scope of a facility that satisfy the filter of a request. -/
def rowsIn (e : Entity) (facility : Option String) (store : Store) (r : Request) : List Env :=
  (e.inScope facility store (r.planned e facility)).filter ((r.filter.clause false).holds store)

/-- The rows of a request for which nothing is joined. -/
def plainRowsIn (e : Entity) (facility : Option String) (store : Store) (r : Request) : List Env :=
  (e.inScope facility store ((r.unjoined e facility).withJoined e.config.joins [])).filter
    ((r.filter.clause false).holds store)

theorem rowsIn_eq_plain (h : r.neededJoins e.config = []) :
    r.rowsIn e facility store = r.plainRowsIn e facility store := by
  rw [rowsIn, planned, joinNames_eq_nil h, plainRowsIn]

theorem matching_eq_rowsIn : (r.planned e facility).matching store = r.rowsIn e facility store := by
  rw [rowsIn, Entity.inScope, List.filter_filter]
  refine List.filter_congr fun env _ => ?_
  rw [Query.keeps_eq_all]
  exact (all_clausesIn env).trans (Bool.and_comm _ _)

/-- **The total of a request without `distinct` is the number of rows in scope that satisfy its filter.** -/
theorem total_planned (hd : r.distinct = false) :
    (r.planned e facility).total store = (r.rowsIn e facility store).length := by
  have hgroup : (r.planned e facility).groupBy = [] := if_neg (by simp [hd])
  rw [Query.total_ungrouped hgroup rfl, matching_eq_rowsIn]

/-- What the response to a query has, if there is one. -/
theorem fetch_eq_some {columns : List ColumnDef} {q : Query} {response : Response} :
    fetch store columns q = some response ↔ (q.resolves = true ∧ q.canRun TableDef.indexes store = true) ∧
      response.columns = columns.map (·.name) ∧ response.total = q.total store ∧
      (q.rows store).mapM (shape columns) = .ok response.data := by
  obtain ⟨names, total, data⟩ := response
  rw [← Bool.and_eq_true]
  unfold fetch
  split
  next hruns =>
    split
    next shown hshown =>
      simp only [hruns, hshown, Option.some.injEq, Response.mk.injEq, Except.ok.injEq, true_and]
      constructor <;> exact fun ⟨h, h', h''⟩ => ⟨h.symm, h'.symm, h''⟩
    next _ hshown => simp [hshown]
  next hruns => simp [hruns]

/-- The response to an accepted request is that of its plan. -/
theorem run_eq (he : e.WellFormed) (hr : r.Accepted e.config) (debug : Bool) (f : Option String) :
    r.run store debug e f =
      ((fetch store r.select (r.planned e f)).elim (.error (.fatal debug)) .ok : Except Failure Response) := by
  rw [run, plan_succeeds he hr]
  simp only [bind, Except.bind, Except.mapError]
  cases fetch store r.select (r.planned e f) <;> rfl

theorem run_eq_ok (he : e.WellFormed) (hr : r.Accepted e.config) {debug : Bool} {response : Response} :
    r.run store debug e facility = .ok response ↔
      fetch store r.select (r.planned e facility) = some response := by
  rw [run_eq he hr]
  cases fetch store r.select (r.planned e facility) <;> simp

theorem total_of_run (he : e.WellFormed) (hr : r.Accepted e.config) {debug : Bool} {response : Response}
    (h : r.run store debug e facility = .ok response) : response.total = (r.planned e facility).total store :=
  (fetch_eq_some.1 ((run_eq_ok he hr).1 h)).2.2.1

/-! ## The opposite request -/

def opposite (r : Request) : Request := { r with filter := r.filter.inverted }

theorem joinNames_opposite : r.opposite.joinNames e = r.joinNames e := by
  simp only [joinNames, neededJoins, columns, opposite, FilterNode.columns_inverted, FilterNode.joins_inverted]

theorem joinedRows_opposite :
    (r.opposite.planned e facility).joinedRows store = (r.planned e facility).joinedRows store := by
  refine Query.joinedRows_congr rfl ?_ rfl rfl
  rw [planned, planned, joinNames_opposite]
  rfl

theorem inScope_opposite :
    e.inScope facility store (r.opposite.planned e facility) = e.inScope facility store (r.planned e facility) := by
  rw [Entity.inScope, Entity.inScope, joinedRows_opposite]

/-- The request with the opposite filter, as it is written, passes its check. -/
theorem check_opposite {config : EntityConfig} {maxPageSize : Json} {d : DataRequest}
    (h : check config maxPageSize d = .ok (.ok r)) : ∃ j, invertFilter d.filter = .ok j ∧
      check config maxPageSize { d with filter := j } = .ok (.ok r.opposite) := by
  obtain ⟨herrors, hpaging, sort, f, hsort, hfilter, rfl⟩ := check_eq_ok.1 h
  obtain ⟨j, hj, hread⟩ := FilterNode.ofJson_invertFilter hfilter
  exact ⟨j, hj, check_eq_ok.2 ⟨herrors, hpaging, sort, f.inverted, hsort, hread, rfl⟩⟩

/-- Each row in scope satisfies exactly one of a filter and its opposite. -/
theorem holds_opposite (he : e.WellFormed) (hr : r.Accepted e.config) (hstore : e.Respected store)
    (hp : r.filter.PatternsReadable) : ∀ env ∈ e.inScope facility store (r.planned e facility),
      (r.filter.clause true).holds store env = !(r.filter.clause false).holds store env := by
  intro env henv
  have hthere := columnsThere he hr hstore env (List.mem_filter.1 henv).1
  rw [FilterNode.holds_clause store env hr.filter he.searches hp hthere, Bool.bne_true]

/-- The totals of a request and of the opposite one add up to the number of rows in scope. -/
theorem total_add_total_opposite (he : e.WellFormed) (hr : r.Accepted e.config) (hstore : e.Respected store)
    (hp : r.filter.PatternsReadable) (hd : r.distinct = false) :
    (r.planned e facility).total store + (r.opposite.planned e facility).total store =
      (e.inScope facility store (r.planned e facility)).length := by
  have hopposite : ∀ env ∈ e.inScope facility store (r.planned e facility),
      (r.opposite.filter.clause false).holds store env = !(r.filter.clause false).holds store env := by
    intro env henv
    rw [opposite, FilterNode.clause_inverted, Bool.not_false, holds_opposite he hr hstore hp env henv]
  rw [total_planned hd, total_planned (r := r.opposite) hd, rowsIn, rowsIn, inScope_opposite,
    List.filter_congr hopposite,
    ← List.length_eq_length_filter_add]

/-- **A filter and its opposite part the rows in scope.** Both requests have plans that go through the same
rows, each of these rows satisfies exactly one of the two filters, and the totals add up to the number of rows
in scope. -/
theorem filter_and_opposite_part_rows (he : e ∈ Entity.all) (hstore : e.Respected store) (facility : Option String)
    {maxPageSize : Json} {d : DataRequest} (hr : check e.config maxPageSize d = .ok (.ok r))
    (hd : d.distinct = false)
    (hp : r.filter.PatternsReadable) :
    ∃ j q q', invertFilter d.filter = .ok j ∧
      check e.config maxPageSize { d with filter := j } = .ok (.ok r.opposite) ∧
      r.plan e facility = .ok q ∧ r.opposite.plan e facility = .ok q' ∧ q'.joins = q.joins ∧
      e.inScope facility store q' = e.inScope facility store q ∧
      (∀ env ∈ e.inScope facility store q,
        (r.filter.clause true).holds store env = !(r.filter.clause false).holds store env) ∧
      q.total store + q'.total store = (e.inScope facility store q).length ∧
      ∀ debug response response', r.run store debug e facility = .ok response →
        r.opposite.run store debug e facility = .ok response' →
        response.total + response'.total = (e.inScope facility store q).length := by
  have hwf := Entity.wellFormed_of_mem e he
  have hacc := accepted_of_check hr
  obtain ⟨j, hj, hr'⟩ := check_opposite hr
  have hacc' := accepted_of_check hr'
  have hdistinct : r.distinct = false := by
    obtain ⟨-, -, sort, f, -, -, rfl⟩ := check_eq_ok.1 hr
    exact hd
  have htotal : (r.planned e facility).total store + (r.opposite.planned e facility).total store =
      (e.inScope facility store (r.planned e facility)).length :=
    total_add_total_opposite hwf hacc hstore hp hdistinct
  refine ⟨j, _, _, hj, hr', plan_succeeds hwf hacc facility, plan_succeeds hwf hacc' facility, ?_, inScope_opposite,
    holds_opposite hwf hacc hstore hp, htotal, fun debug response response' hrun hrun' => ?_⟩
  · rw [planned, planned, joinNames_opposite]
    rfl
  · rw [total_of_run hwf hacc hrun, total_of_run hwf hacc' hrun', htotal]

/-- A request for meetings without a note on a consultation, or not attended by one of the clients, that no
search for a name finds. -/
def consultations : DataRequest where
  columns := ["id", "date"]
  filter := .obj [("type", .str "op"), ("op", .str "|"), ("val", .arr [
    .obj [("type", .str "column"), ("column", .str "notes"), ("op", .str "/v/"), ("val", .str "[Cc]onsultation$"),
      ("inv", .bool true)],
    .obj [("type", .str "op"), ("op", .str "&"), ("val", .arr [
      .obj [("type", .str "custom"), ("customFilter", .str "isAttendant"),
        ("params", .obj [("userIds", .arr [.str (Sample.clientUserId 0)])])],
      .obj [("type", .str "global"), ("op", .str "%v%"), ("val", .str "anna kowalska")]]), ("inv", .bool true)]])]
  paging := { size := 10 }

/-- The meetings of the sample data, of which some satisfy the request and some do not. -/
theorem filter_and_opposite_part_rows_consultations :
    ∃ r q q', check Entity.meetings.config (.int 1000) consultations = .ok (.ok r) ∧
      r.plan Entity.meetings (some Sample.facility) = .ok q ∧
      r.opposite.plan Entity.meetings (some Sample.facility) = .ok q' ∧
      q.total Entity.sampleStore + q'.total Entity.sampleStore =
        (Entity.meetings.inScope (some Sample.facility) Entity.sampleStore q).length := by
  obtain ⟨r, hcheck, hp⟩ : ∃ r, check Entity.meetings.config (.int 1000) consultations = .ok (.ok r) ∧
      r.filter.PatternsReadable := exists_check (by decide +kernel)
  have he : Entity.meetings ∈ Entity.all := by simp [Entity.all]
  obtain ⟨_, q, q', -, -, hq, hq', -, -, -, htotal, -⟩ := filter_and_opposite_part_rows he
    (Entity.respected_sampleStore _ he) (some Sample.facility) hcheck rfl hp
  exact ⟨r, q, q', hcheck, hq, hq', htotal⟩

end Request

end TableQuery
