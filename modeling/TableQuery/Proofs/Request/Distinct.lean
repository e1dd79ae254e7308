import TableQuery.Proofs.Request.Answers

/-!
# Pages of a distinct request

A distinct request that selects data has a row of data for each group of rows, and its total is the number of these.
One that selects nothing but the count has one row of data, which counts all rows, while its total is the number of
rows that are counted (`Request.distinct_pages`).
-/

set_option autoImplicit false

namespace TableQuery

open Sql (Query Store Value)

namespace Request

variable {e : Entity} {r : Request} {facility : Option String} {store : Store} {maxPageSize : Json} {d : DataRequest}

theorem groupBy_eq_nil_iff (hd : r.distinct = true) :
    (r.planned e facility).groupBy = [] ↔ ∀ c ∈ r.select, c.isData = false := by
  have hgroup : (r.planned e facility).groupBy = (r.select.filter (·.isData)).map (·.scalar) := if_pos hd
  rw [hgroup, List.map_eq_nil_iff, List.filter_eq_nil_iff]
  exact forall₂_congr fun c _ => Bool.eq_false_iff.symm

theorem total_of_data (hd : r.distinct = true) (hdata : ∃ c ∈ r.select, c.isData = true) :
    (r.planned e facility).total store = ((r.planned e facility).sorted store).length := by
  obtain ⟨c, hc, hdata⟩ := hdata
  have hgroup : (r.planned e facility).groupBy ≠ [] := by
    intro hnil
    rw [(groupBy_eq_nil_iff hd).1 hnil c hc] at hdata
    cases hdata
  rw [Query.total_grouped hgroup, (Query.sorted_perm _).length_eq]

theorem total_of_counts (hd : r.distinct = true) (hcounts : ∀ c ∈ r.select, c.isData = false) :
    (r.planned e facility).total store = (r.rowsIn e facility store).length := by
  rw [Query.total_ungrouped ((groupBy_eq_nil_iff hd).2 hcounts) rfl, matching_eq_rowsIn]

/-- Where nothing but the count is selected, there is one group. -/
theorem length_sorted_of_counts (hs : e.Stored) (hr : r.Accepted e.config) (hd : r.distinct = true)
    (hcounts : ∀ c ∈ r.select, c.isData = false) (hsome : r.select ≠ []) :
    ((r.planned e facility).sorted store).length = 1 := by
  have hcount : (r.planned e facility).columns.any Query.isCount = true := by
    obtain ⟨c, hc⟩ := List.exists_mem_of_ne_nil _ hsome
    rw [any_isCount hs hr, List.any_eq_true]
    exact ⟨c, hc, by rw [hcounts c hc]; rfl⟩
  rw [(Query.sorted_perm _).length_eq, Query.groups_counting ((groupBy_eq_nil_iff hd).2 hcounts) hcount]
  rfl

/-- **What the pages of a distinct request show.** However the pages are chosen, their rows of data are parts of one
and the same number of rows, which are all shown by the pages of one size. If data is selected, this number is the
total on every page; if nothing but the count is, it is one, and the total is the number of rows in scope that
satisfy the filter. -/
theorem distinct_pages (he : e ∈ Entity.all) (s : Service) (facility : Option String)
    (hr : check e.config maxPageSize d = .ok (.ok r)) (hd : d.distinct = true) :
    ∃ rows : Nat,
      (∀ p response, s.answer e facility maxPageSize { d with paging := p } = .ok response →
        response.data.length = min p.size.toNat (rows - p.start.toNat) ∧
        ((∃ c ∈ r.select, c.isData = true) → response.total = rows) ∧
        ((∀ c ∈ r.select, c.isData = false) → response.total = (r.rowsIn e facility s.store).length)) ∧
      (∀ (size : Int) (count : Nat) (responses : Nat → Response), rows ≤ count * size.toNat →
        (∀ n < count, s.answer e facility maxPageSize { d with paging := { size, number := some (n + 1) } } =
          .ok (responses n)) →
        ((List.range count).map fun n => (responses n).data.length).sum = rows) ∧
      ((∀ c ∈ r.select, c.isData = false) → r.select ≠ [] → rows = 1) ∧
      (s.store.Typed → r.Taken e facility → ∀ p, pagingErrors maxPageSize p = .ok [] →
        Value.fitsStore p.size = true → Value.fitsStore p.start = true →
        ∃ response, s.answer e facility maxPageSize { d with paging := p } = .ok response) := by
  have hdistinct : r.distinct = true := (distinct_of_check hr).trans hd
  have hacc := accepted_of_check hr
  refine ⟨((r.planned e facility).sorted s.store).length, fun p response h => ?_,
    fun size count responses hall h => sum_length_of_answers he hr hall h,
    length_sorted_of_counts (Entity.stored_of_mem e he) hacc hdistinct,
    fun hstore htaken p hp => exists_answer he hr hstore htaken hp⟩
  obtain ⟨-, -, -, htotal, -⟩ := (answer_eq_ok he hr).1 h
  exact ⟨length_of_answer he hr h, fun hdata => htotal.trans (total_of_data hdistinct hdata),
    fun hcounts => htotal.trans (total_of_counts hdistinct hcounts)⟩

/-- A request for the statuses of meetings, each with the number of meetings. -/
def meetingStatuses : DataRequest where
  columns := ["statusDictId", "count"]
  sort := [⟨"count", true⟩]
  paging := { size := 10 }
  distinct := true

/-- The first page of the statuses in the sample data has as many rows as the total says, up to its size. -/
theorem distinct_pages_meetingStatuses : ∃ (r : Request) (response : Response),
    check Entity.meetings.config (.int 1000) meetingStatuses = .ok (.ok r) ∧
    Service.answer { store := Entity.sampleStore } Entity.meetings (some Sample.facility) (.int 1000)
      meetingStatuses = .ok response ∧
    response.data.length = min 10 response.total := by
  obtain ⟨r, hcheck, hdata, htaken⟩ : ∃ r, check Entity.meetings.config (.int 1000) meetingStatuses = .ok (.ok r) ∧
      (∃ c ∈ r.select, c.isData = true) ∧ r.Taken Entity.meetings (some Sample.facility) :=
    exists_check (by decide +kernel)
  obtain ⟨rows, hpages, -, -, hanswered⟩ := distinct_pages (by simp [Entity.all]) { store := Entity.sampleStore }
    (some Sample.facility) hcheck rfl
  obtain ⟨response, hresponse⟩ := hanswered Entity.typed_sampleStore htaken meetingStatuses.paging
    (check_eq_ok.1 hcheck).2.1 rfl rfl
  obtain ⟨hlength, htotal, -⟩ := hpages meetingStatuses.paging response hresponse
  exact ⟨r, response, hcheck, hresponse, by rw [hlength, htotal hdata]; rfl⟩

def countOfUsers : DataRequest where
  columns := ["count"]
  paging := { size := 10, number := some 1 }
  distinct := true

def twoUsers : Store where
  tables := [(TableDef.users.name, [[("id", .text (Sample.id 'd' 1)), ("name", .text "Anna")],
    [("id", .text (Sample.id 'd' 2)), ("name", .text "Ewa")]])]

/-- **The total of a count is not the number of rows of data.** Of two users the first page shows one row, their
number, and no other page shows anything, while the total is two. -/
theorem total_ne_rows_countOfUsers : ∃ (r : Request) (response : Response),
    check Entity.users.config (.int 1000) countOfUsers = .ok (.ok r) ∧
    Service.answer { store := twoUsers } Entity.users none (.int 1000) countOfUsers = .ok response ∧
    response.total = 2 ∧ response.data.length = 1 ∧
    ∀ (n : Int) (other : Response), 1 < n → Service.answer { store := twoUsers } Entity.users none (.int 1000)
      { countOfUsers with paging := { size := 10, number := some n } } = .ok other → other.data = [] := by
  have he : Entity.users ∈ Entity.all := by simp [Entity.all]
  have hs := Entity.stored_of_mem _ he
  obtain ⟨r, hcheck, hjoins, hcounts, hone, htaken, hlength⟩ : ∃ r,
      check Entity.users.config (.int 1000) countOfUsers = .ok (.ok r) ∧ r.neededJoins Entity.users.config = [] ∧
        (∀ c ∈ r.select, c.isData = false) ∧ r.select.length = 1 ∧ r.Taken Entity.users none ∧
        ((Entity.users.inScope none twoUsers
          ((r.unjoined Entity.users none).withJoined Entity.users.config.joins [])).filter
            ((r.filter.clause false).holds twoUsers)).length = 2 := exists_check (by decide +kernel)
  have hdistinct : r.distinct = true := distinct_of_check hcheck
  have hrows : (r.rowsIn Entity.users none twoUsers).length = 2 := by
    rw [rowsIn, planned, joinNames_eq_nil hjoins]
    exact hlength
  have hgroup : ((r.planned Entity.users none).sorted twoUsers).length = 1 :=
    length_sorted_of_counts hs (accepted_of_check hcheck) hdistinct hcounts (List.ne_nil_of_length_eq_add_one hone)
  obtain ⟨response, hresponse⟩ := exists_answer (s := { store := twoUsers }) (p := countOfUsers.paging) he hcheck
    (by decide +kernel) htaken (check_eq_ok.1 hcheck).2.1 rfl rfl
  obtain ⟨-, -, -, htotal, -⟩ := (answer_eq_ok he hcheck).1 hresponse
  refine ⟨r, response, hcheck, hresponse, ?_, ?_, fun n other hn hother => ?_⟩
  · rw [htotal, total_of_counts hdistinct hcounts, hrows]
  · rw [length_of_answer he hcheck hresponse, hgroup]
    rfl
  · have hstart : 10 ≤ (Paging.start { size := 10, number := some n }).toNat := by
      simp only [Paging.start]
      omega
    rw [← List.length_eq_zero_iff, length_of_answer he hcheck hother, hgroup]
    omega

end Request

end TableQuery
