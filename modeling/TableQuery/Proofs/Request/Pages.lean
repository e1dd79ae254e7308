import Mathlib.Tactic.IntervalCases
import TableQuery.Proofs.Request.Differences

/-!
# Pages of a request without `distinct`

Without `distinct` each row in scope that satisfies the filter is one row of data. The rows are in the order of the
sort, every page shows a slice of them, and the total is their number (`Request.pages_of_request`). If there is one
row, the first page shows what that row has (`Request.AnsweredByOne`, `Request.exists_answeredByOne`).
-/

set_option autoImplicit false

namespace TableQuery

open Sql (Env InOrder Query Scalar Store Value slice)

namespace Request

variable {e : Entity} {r : Request} {facility : Option String} {store : Store} {maxPageSize : Json} {d : DataRequest}
  {s : Service}

/-! ## Rows in order -/

def sortKeys (store : Store) (r : Request) : List ((Env → Value) × Bool) :=
  r.sort.map fun (c, desc) => (fun env => c.scalar.value store env 1, desc)

/-- **Without `distinct` the sorted groups of a plan are the rows of the request, sorted.** -/
theorem sorted_planned (hs : e.Stored) (hr : check e.config maxPageSize d = .ok (.ok r)) (hd : d.distinct = false) :
    (r.planned e facility).sorted store =
      ((r.planned e facility).sortedRows store).map fun env => ⟨1, env⟩ := by
  have hgroup : (r.planned e facility).groupBy = [] := if_neg (by simp [distinct_of_check hr, hd])
  refine Query.sorted_ungrouped hgroup ?_
  rw [any_isCount hs (accepted_of_check hr), List.any_eq_false]
  exact fun c hc => by rw [isData_of_check hr hd c hc]; exact Bool.false_ne_true

/-- **The sorted rows are in the order of the sort**, if what is stored is defined. -/
theorem pairwise_sortedRows_planned (he : e ∈ Entity.all) (hr : r.Accepted e.config) (hstore : store.Defined) :
    ((r.planned e facility).sortedRows store).Pairwise (InOrder (r.sortKeys store)) := by
  have hkeys : (r.planned e facility).rowKeys store = r.sortKeys store := List.map_map
  rw [← hkeys]
  refine Query.pairwise_sortedRows fun env henv p hp => ?_
  rw [hkeys] at hp
  obtain ⟨⟨c, desc⟩, hc, rfl⟩ := List.mem_map.1 hp
  obtain ⟨k, hk, -⟩ := (Entity.stored_of_mem e he).shown c (hr.sort (c, desc) hc)
  exact Scalar.value_of_cells Sql.computable_defined hstore hk
    (rows_of_mem_matching (Entity.wellFormed_of_mem e he) henv) 1

/-! ## What the rows of an answer show -/

/-- **Every row of data shows a row of the request.** -/
theorem rows_of_answer (he : e ∈ Entity.all) (s : Service) (facility : Option String)
    (hr : check e.config maxPageSize d = .ok (.ok r)) (hd : d.distinct = false) :
    ∃ rows : List Env, rows.Perm (r.rowsIn e facility s.store) ∧
      ∀ p response, s.answer e facility maxPageSize { d with paging := p } = .ok response →
        List.Forall₂ (r.ShowsData s.store) (slice p.start.toNat p.size.toNat rows) response.data := by
  refine ⟨(r.planned e facility).sortedRows s.store, matching_eq_rowsIn ▸ Query.sortedRows_perm _,
    fun p response h => ?_⟩
  obtain ⟨-, -, -, -, hdata⟩ := (answer_eq_ok he hr).1 h
  rw [sorted_planned (Entity.stored_of_mem e he) hr hd, Sql.slice_map, List.mapM_map] at hdata
  exact (forall₂_of_mapM hdata).imp fun _ _ hshown => showsData_of_shown he (accepted_of_check hr) hshown

/-- The request `r` that is read from `d` has the one row `env`, which the answer shows as `fields`. -/
structure AnsweredByOne (r : Request) (s : Service) (e : Entity) (facility : Option String) (maxPageSize : Json)
    (d : DataRequest) (env : Env) (response : Response) (fields : Fields) : Prop where
  rows : r.rowsIn e facility s.store = [env]
  answer : s.answer e facility maxPageSize d = .ok response
  data : response.data = [fields]
  shows : r.ShowsData s.store env fields

/-- **The first page shows the one row that there is**, if the cells of the store match their columns and the store
takes the clauses and the numbers of the request. -/
theorem exists_answeredByOne (he : e ∈ Entity.all) (hr : check e.config maxPageSize d = .ok (.ok r))
    (hd : d.distinct = false) (hstore : s.store.Typed) (htaken : r.Taken e facility)
    (hsize : Value.fitsStore d.paging.size = true) (hstart : d.paging.start = 0)
    (hone : (r.rowsIn e facility s.store).length = 1) :
    ∃ env response fields, r.AnsweredByOne s e facility maxPageSize d env response fields := by
  have hpaging := (check_eq_ok.1 hr).2.1
  obtain ⟨response, hresponse⟩ := exists_answer (p := d.paging) he hr hstore htaken hpaging hsize (by rw [hstart]; rfl)
  obtain ⟨rows, hperm, hshows⟩ := rows_of_answer he s facility hr hd
  obtain ⟨env, rfl⟩ := List.length_eq_one_iff.1 (hperm.length_eq.trans hone)
  have hpage := hshows _ _ hresponse
  obtain ⟨n, hn⟩ : ∃ n, d.paging.size.toNat = n + 1 :=
    Nat.exists_eq_succ_of_ne_zero (by have := (bounds_of_pagingErrors hpaging).1; omega)
  rw [hstart, hn, slice, Int.toNat_zero, List.drop_zero, List.take_succ_cons, List.take_nil,
    List.forall₂_cons_left_iff] at hpage
  obtain ⟨fields, rest, hrow, hrest, hdata⟩ := hpage
  rw [List.forall₂_nil_left_iff.1 hrest] at hdata
  exact ⟨env, response, fields, List.perm_singleton.1 hperm.symm, hresponse, hdata, hrow⟩

/-! ## Pages -/

/-- **Pages show the rows of a request in order, each of them once.** The rows in scope that satisfy the filter can
be put in the order of the sort so that, whatever the paging, an answer shows a slice of them, with their number as
the total. So all pages of one size show all rows, and pages beyond the last row are empty. It makes no difference
whether a page is given by its number or by the number of rows before it.

Not every request that passes its check is answered. The store refuses one with a pattern that cannot be read or is
overlong, with a text that cannot be encoded, with an integer of more than 64 bits among its operands or as the size or
the start of the page, with too many operands, or with operations that are nested too deeply, and a cell that does not
match its column cannot be shown. Every other one is answered for every page that is allowed. -/
theorem pages_of_request (he : e ∈ Entity.all) (s : Service) (facility : Option String)
    (hr : check e.config maxPageSize d = .ok (.ok r)) (hd : d.distinct = false) :
    ∃ rows : List Env, rows.Perm (r.rowsIn e facility s.store) ∧
      (s.store.Defined → rows.Pairwise (InOrder (r.sortKeys s.store))) ∧
      (∀ p response, s.answer e facility maxPageSize { d with paging := p } = .ok response →
        response.total = (r.rowsIn e facility s.store).length ∧
        (slice p.start.toNat p.size.toNat rows).mapM (r.shown s.store · 1) = .ok response.data ∧
        (rows.length ≤ p.start.toNat → response.data = [])) ∧
      (∀ (size : Int) (count : Nat) (responses : Nat → Response), rows.length ≤ count * size.toNat →
        (∀ n < count, s.answer e facility maxPageSize { d with paging := { size, number := some (n + 1) } } =
          .ok (responses n)) →
        rows.mapM (r.shown s.store · 1) = .ok ((List.range count).flatMap fun n => (responses n).data)) ∧
      (∀ size n : Int, 1 ≤ size → 1 ≤ n →
        s.answer e facility maxPageSize { d with paging := { size, number := some n } } =
          s.answer e facility maxPageSize { d with paging := { size, offset := some ((n - 1) * size) } }) ∧
      (s.store.Typed → r.Taken e facility → ∀ p, pagingErrors maxPageSize p = .ok [] →
        Value.fitsStore p.size = true → Value.fitsStore p.start = true →
        ∃ response, s.answer e facility maxPageSize { d with paging := p } = .ok response) := by
  have hacc := accepted_of_check hr
  have hsorted : (r.planned e facility).sorted s.store =
      ((r.planned e facility).sortedRows s.store).map fun env => ⟨1, env⟩ :=
    sorted_planned (Entity.stored_of_mem e he) hr hd
  have hperm : ((r.planned e facility).sortedRows s.store).Perm (r.rowsIn e facility s.store) :=
    matching_eq_rowsIn ▸ Query.sortedRows_perm _
  refine ⟨(r.planned e facility).sortedRows s.store, hperm,
    fun hstore => pairwise_sortedRows_planned he hacc hstore, fun p response h => ?_,
    fun size count responses hall h => ?_, fun size n hsize hn => answer_number hsize hn,
    fun hstore htaken p hp => exists_answer he hr hstore htaken hp⟩
  · obtain ⟨-, -, -, htotal, hdata⟩ := (answer_eq_ok he hr).1 h
    rw [hsorted, Sql.slice_map, List.mapM_map] at hdata
    refine ⟨htotal.trans (total_planned ((distinct_of_check hr).trans hd)), hdata, fun hend => ?_⟩
    rw [Sql.slice_eq_nil hend] at hdata
    exact (Except.ok.inj hdata).symm
  · have hdata := mapM_of_answers he hr (by rwa [hsorted, List.length_map]) h
    rwa [hsorted, List.mapM_map] at hdata

/-- A request for the meetings that are not remote, the latest first. -/
def localMeetings : DataRequest where
  columns := ["date", "startDayminute", "staff"]
  filter := .obj [("type", .str "column"), ("column", .str "isRemote"), ("op", .str "="), ("val", .bool false)]
  sort := [⟨"date", true⟩, ⟨"startDayminute", false⟩]
  paging := { size := 2 }

def pageOfTwo (number : Int) : Paging := { size := 2, number := some number }

/-- Two pages show the three meetings of the sample data that are not remote. -/
theorem pages_of_request_localMeetings : ∃ (r : Request) (first second : Response) (rows : List Env),
    check Entity.meetings.config (.int 1000) localMeetings = .ok (.ok r) ∧
    Service.answer { store := Entity.sampleStore } Entity.meetings (some Sample.facility) (.int 1000)
      { localMeetings with paging := pageOfTwo 1 } = .ok first ∧
    Service.answer { store := Entity.sampleStore } Entity.meetings (some Sample.facility) (.int 1000)
      { localMeetings with paging := pageOfTwo 2 } = .ok second ∧
    rows.Perm (r.rowsIn Entity.meetings (some Sample.facility) Entity.sampleStore) ∧ rows.length = 3 ∧
    rows.Pairwise (InOrder (r.sortKeys Entity.sampleStore)) ∧
    rows.mapM (r.shown Entity.sampleStore · 1) = .ok (first.data ++ second.data) := by
  have he : Entity.meetings ∈ Entity.all := by simp [Entity.all]
  obtain ⟨r, hcheck, hjoins, htaken, hlength⟩ : ∃ r, check Entity.meetings.config (.int 1000) localMeetings =
      .ok (.ok r) ∧ r.neededJoins Entity.meetings.config = [] ∧ r.Taken Entity.meetings (some Sample.facility) ∧
        ((Entity.meetings.inScope (some Sample.facility) Entity.sampleStore
          ((r.unjoined Entity.meetings (some Sample.facility)).withJoined Entity.meetings.config.joins [])).filter
            ((r.filter.clause false).holds Entity.sampleStore)).length = 3 := exists_check (by decide +kernel)
  obtain ⟨rows, hperm, horder, -, hpages, -, hanswered⟩ := pages_of_request he { store := Entity.sampleStore }
    (some Sample.facility) hcheck rfl
  have hall : rows.length = 3 := by
    rw [hperm.length_eq, rowsIn, planned, joinNames_eq_nil hjoins]
    exact hlength
  have hallowed : ∀ n, 1 ≤ n → pagingErrors (.int 1000) (pageOfTwo n) = .ok [] := fun n hn =>
    pagingErrors_eq_nil.2 ⟨isPageSize_int, fun _ h => Option.some.inj h ▸ hn, fun _ h => by cases h⟩
  obtain ⟨first, hfirst⟩ := hanswered Entity.typed_sampleStore htaken (pageOfTwo 1) (hallowed 1 (by decide)) rfl rfl
  obtain ⟨second, hsecond⟩ := hanswered Entity.typed_sampleStore htaken (pageOfTwo 2) (hallowed 2 (by decide)) rfl rfl
  have hdata := hpages 2 2 (fun n => if n = 0 then first else second) (by rw [hall]; decide) fun n hn => by
    interval_cases n
    · exact hfirst
    · exact hsecond
  have hpair :
      (List.range 2).flatMap (fun n => (if n = 0 then first else second).data) = first.data ++ second.data := by
    simp [List.range_succ]
  exact ⟨r, first, second, rows, hcheck, hfirst, hsecond, hperm, hall, horder Entity.typed_sampleStore.defined,
    hpair ▸ hdata⟩

end Request

end TableQuery
