import Mathlib.Algebra.Order.BigOperators.Group.List
import TableQuery.Proofs.Request.Distinct
import TableQuery.Proofs.Request.Selection

/-!
# Counts of a distinct request

A distinct request that selects the count beside data shows in each row of data how many rows make it up. All pages
together count each row in scope that satisfies the filter once, so that the counts add up to the total of the request
without the count and without `distinct` (`Request.counts_of_distinct`).
-/

set_option autoImplicit false

namespace TableQuery

open Sql (Env Group Query Store Value)

theorem ColumnType.render_count {t : ColumnType} (ht : t.kind = .count) (n : Nat) :
    t.render (.ofValue t (.int n)) = .ok (.int n) := by
  rw [render, Cell.ofValue, ht]
  rfl

namespace Request

variable {e : Entity} {r : Request} {facility : Option String} {store : Store} {maxPageSize : Json} {d : DataRequest}
  {p : Paging} {s : Service} {response : Response}

/-! ## Groups of rows -/

theorem groupBy_ne_nil (hd : r.distinct = true) (hdata : ∃ c ∈ r.select, c.isData = true) :
    (r.planned e facility).groupBy ≠ [] := by
  obtain ⟨c, hc, hdata⟩ := hdata
  intro hnil
  rw [(groupBy_eq_nil_iff hd).1 hnil c hc] at hdata
  cases hdata

/-- **The groups have all rows of the request together**, and none of them is empty. -/
theorem sizes_sorted (e : Entity) (facility : Option String) (store : Store) (hd : r.distinct = true)
    (hdata : ∃ c ∈ r.select, c.isData = true) :
    (((r.planned e facility).sorted store).map (·.size)).sum = (r.rowsIn e facility store).length ∧
      ∀ g ∈ (r.planned e facility).sorted store, 1 ≤ g.size := by
  have hgroup : (r.planned e facility).groupBy ≠ [] := groupBy_ne_nil hd hdata
  have hperm : ((r.planned e facility).sorted store).Perm ((r.planned e facility).groups store) :=
    Query.sorted_perm _
  constructor
  · rw [(hperm.map _).sum_nat, Query.sum_size_groups hgroup, matching_eq_rowsIn]
  · exact fun g hg => Query.size_pos_of_mem_groups hgroup g (hperm.mem_iff.1 hg)

/-! ## Counts in rows of data -/

/-- Rows of data have some counts, each in its own row. -/
def CountedBy (data : List Fields) (counts : List Nat) : Prop :=
  data.map (·.lookup countColumn) = counts.map fun n => some (.int n)

/-- **Each row of data counts the rows of its group.** -/
theorem countedBy_of_mapM (he : e ∈ Entity.all) (hr : r.Accepted e.config) (hcount : ∃ c ∈ r.select, c.isData = false)
    {gs : List Group} {data : List Fields} (h : gs.mapM (fun g => r.shown store g.first g.size) = .ok data) :
    CountedBy data (gs.map (·.size)) := by
  obtain ⟨c, hc, hcount⟩ := hcount
  have hmem := hr.select c hc
  have hname : c.name = countColumn := (Entity.counts_of_mem e he c hmem).1.1 hcount
  have hscalar : c.scalar = .rowCount := ((Entity.stored_of_mem e he).counts c hmem).1 hcount
  have hkind : c.type.kind = .count := by
    have htype : c.type = .plain .count := by simpa [ColumnDef.isData] using hcount
    rw [htype]
    rfl
  have hshown : ∀ g ∈ gs, ∀ fields, r.shown store g.first g.size = .ok fields →
      fields.lookup countColumn = some (.int g.size) := by
    intro g _ fields hfields
    obtain ⟨j, hj, hlookup⟩ := lookup_shown (Entity.wellFormed_of_mem e he) hr hfields hc
    have hrendered : c.type.render (.ofValue c.type (c.scalar.value store g.first g.size)) = .ok (.int g.size) := by
      rw [hscalar]
      exact ColumnType.render_count hkind g.size
    rw [hj] at hrendered
    rw [← hname, hlookup, Except.ok.inj hrendered]
  rw [CountedBy, List.map_map]
  exact map_of_mapM hshown h

/-- **The counts of a distinct request add up to the number of rows.** A distinct request that selects the count and
some data passes its check without `distinct` as well, once the count is left out. On all its pages no count is less
than one. The counts on all pages of one size, put together, add up to the total of the request without the count.

Both requests are answered if the cells of the store match their columns and the store takes the clauses and the numbers
of the request. It refuses a pattern that cannot be read or is overlong, a text that cannot be encoded, an integer of
more than 64 bits, too many operands and operations that are nested too deeply, all of which a request that passes its
check can have. -/
theorem counts_of_distinct (he : e ∈ Entity.all) (s : Service) (facility : Option String)
    (hr : check e.config maxPageSize d = .ok (.ok r)) (hd : d.distinct = true)
    (hcount : ∃ c ∈ r.select, c.isData = false) (hdata : ∃ c ∈ r.select, c.isData = true) :
    check e.config maxPageSize d.withoutCount = .ok (.ok r.withoutCount) ∧
    ∃ total groups : Nat, groups ≤ total ∧
      (∀ p response, s.answer e facility maxPageSize { d.withoutCount with paging := p } = .ok response →
        response.total = total) ∧
      (∀ p response, s.answer e facility maxPageSize { d with paging := p } = .ok response →
        response.total = groups ∧ ∃ counts, CountedBy response.data counts ∧ ∀ n ∈ counts, 1 ≤ n) ∧
      (∀ (size : Int) (count : Nat) (responses : Nat → Response), groups ≤ count * size.toNat →
        (∀ n < count, s.answer e facility maxPageSize { d with paging := { size, number := some (n + 1) } } =
          .ok (responses n)) →
        ∃ counts, CountedBy ((List.range count).flatMap fun n => (responses n).data) counts ∧ counts.sum = total) ∧
      (s.store.Typed → r.Taken e facility → ∀ p, pagingErrors maxPageSize p = .ok [] →
        Value.fitsStore p.size = true → Value.fitsStore p.start = true →
        (∃ response, s.answer e facility maxPageSize { d with paging := p } = .ok response) ∧
          ∃ response, s.answer e facility maxPageSize { d.withoutCount with paging := p } = .ok response) := by
  have hacc := accepted_of_check hr
  have hdistinct : r.distinct = true := (distinct_of_check hr).trans hd
  have hr' : check e.config maxPageSize d.withoutCount = .ok (.ok r.withoutCount) :=
    check_withoutCount (fun c hc => (Entity.counts_of_mem e he c hc).1) hr
  obtain ⟨hsum, hpos⟩ := sizes_sorted e facility s.store hdistinct hdata
  refine ⟨hr', (r.rowsIn e facility s.store).length, ((r.planned e facility).sorted s.store).length, ?_,
    fun p response h => ?_, fun p response h => ?_, fun size count responses hall h => ?_,
    fun hstore htaken p hp hsize hstart => ⟨exists_answer he hr hstore htaken hp hsize hstart, ?_⟩⟩
  · rw [← hsum, ← List.length_map (·.size)]
    exact List.length_le_sum_of_one_le _ (List.forall_mem_map.2 hpos)
  · obtain ⟨-, -, -, htotal, -⟩ := (answer_eq_ok he hr').1 h
    rw [htotal, total_planned rfl, rowsIn_withoutCount he hacc]
  · obtain ⟨-, -, -, htotal, hshown⟩ := (answer_eq_ok he hr).1 h
    refine ⟨htotal.trans (total_of_data hdistinct hdata), _, countedBy_of_mapM he hacc hcount hshown, ?_⟩
    exact List.forall_mem_map.2 fun g hg => hpos g (Sql.slice_subset _ _ _ hg)
  · exact ⟨_, countedBy_of_mapM he hacc hcount (mapM_of_answers he hr hall h), hsum⟩
  · -- The clauses are the same without the count.
    have htaken' : r.withoutCount.Taken e facility := ⟨htaken.usable, htaken.fit, htaken.few, htaken.shallow⟩
    exact exists_answer he hr' hstore htaken' hp hsize hstart

/-- The counts of the statuses in the sample data add up to the number of meetings. -/
theorem counts_of_distinct_meetingStatuses : ∃ (response plain : Response) (counts : List Nat),
    Service.answer { store := Entity.sampleStore } Entity.meetings (some Sample.facility) (.int 1000)
      { meetingStatuses with paging := { size := 10, number := some 1 } } = .ok response ∧
    Service.answer { store := Entity.sampleStore } Entity.meetings (some Sample.facility) (.int 1000)
      { meetingStatuses.withoutCount with paging := { size := 10, number := some 1 } } = .ok plain ∧
    CountedBy response.data counts ∧ counts.sum = plain.total := by
  have he : Entity.meetings ∈ Entity.all := by simp [Entity.all]
  obtain ⟨r, hcheck, hcount, hdata, htaken, hjoins, hlength⟩ : ∃ r,
      check Entity.meetings.config (.int 1000) meetingStatuses = .ok (.ok r) ∧
        (∃ c ∈ r.select, c.isData = false) ∧ (∃ c ∈ r.select, c.isData = true) ∧
        r.Taken Entity.meetings (some Sample.facility) ∧ r.neededJoins Entity.meetings.config = [] ∧
        (r.plainRowsIn Entity.meetings (some Sample.facility) Entity.sampleStore).length = 5 :=
    exists_check (by decide +kernel)
  rw [← rowsIn_eq_plain hjoins] at hlength
  obtain ⟨hplain, total, groups, hgroups, htotal, -, hcounts, hanswered⟩ := counts_of_distinct he
    { store := Entity.sampleStore } (some Sample.facility) hcheck rfl hcount hdata
  obtain ⟨⟨response, hresponse⟩, plain, hplain'⟩ := hanswered Entity.typed_sampleStore htaken
    { size := 10, number := some 1 }
    (pagingErrors_eq_nil.2 ⟨isPageSize_int, fun _ h => Option.some.inj h ▸ Int.le_refl 1, fun _ h => by cases h⟩)
    rfl rfl
  have hfive : total = 5 := by
    obtain ⟨-, -, -, hsame, -⟩ := (answer_eq_ok he hplain).1 hplain'
    rw [← htotal _ plain hplain', hsame, total_planned rfl, rowsIn_withoutCount he (accepted_of_check hcheck),
      hlength]
  obtain ⟨counts, hcounted, hsum⟩ := hcounts 10 1 (fun _ => response) (by omega) fun n hn => by
    obtain rfl : n = 0 := Nat.lt_one_iff.1 hn
    exact hresponse
  have hdata : (List.range 1).flatMap (fun _ => response.data) = response.data := by simp
  exact ⟨response, plain, counts, hresponse, hplain', hdata ▸ hcounted, hsum.trans (htotal _ plain hplain').symm⟩

end Request

end TableQuery
