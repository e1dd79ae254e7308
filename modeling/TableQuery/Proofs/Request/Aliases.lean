import TableQuery.Proofs.Filter.Lists
import TableQuery.Proofs.Request.Resolution
import TableQuery.Proofs.Store.Aliases

/-!
# Plans refer to their own tables

Every alias that the plan of an accepted request refers to is that of its base table or of a joined one, whether it
is referred to in what is selected, grouped or sorted by, in a clause, in the condition of a join or from inside of a
list. The conditions of a join refer to its own alias and to those before it. So no table is read beside the joined
ones, whatever tables there are (`Request.aliases_of_plan`).
-/

set_option autoImplicit false

namespace TableQuery

open Sql (Condition Join Members Query Table)

/-- **No list of an entity takes its own members for the rows that they belong to.** -/
theorem Entity.correlated_of_mem : ∀ e ∈ Entity.all,
    (∀ c ∈ e.config.columns, ∀ m ∈ c.scalar.lists, m.isCorrelated = true) ∧
      ∀ d ∈ e.config.customFilters, d.rows.isCorrelated = true := by
  decide +kernel

namespace Request

variable {e : Entity} {r : Request} {facility : Option String} {maxPageSize : Json} {d : DataRequest}

/-! ## Lists -/

/-- What is selected, grouped or sorted by in a plan are columns of the request. -/
theorem exists_column_of_planned {s : Sql.Scalar} (hs : s ∈ (r.planned e facility).columns.map (·.1) ++
    (r.planned e facility).groupBy ++ (r.planned e facility).orderBy.map (·.1)) :
    ∃ c ∈ r.select ++ r.sort.map (·.1), s = c.scalar := by
  rw [List.mem_append, List.mem_append] at hs
  rcases hs with (hs | hs) | hs
  · obtain ⟨p, hp, rfl⟩ := List.mem_map.1 hs
    obtain ⟨c, hc, rfl⟩ := List.mem_map.1 hp
    exact ⟨c, List.mem_append_left _ hc, rfl⟩
  · change s ∈ (if r.distinct then (r.select.filter (·.isData)).map (·.scalar) else []) at hs
    split at hs
    · obtain ⟨c, hc, rfl⟩ := List.mem_map.1 hs
      exact ⟨c, List.mem_append_left _ (List.mem_filter.1 hc).1, rfl⟩
    · cases hs
  · obtain ⟨p, hp, rfl⟩ := List.mem_map.1 hs
    obtain ⟨q, hq, rfl⟩ := List.mem_map.1 hp
    exact ⟨q.1, List.mem_append_right _ (List.mem_map_of_mem hq), rfl⟩

theorem lists_scopeClauses : ∀ c ∈ e.scopeClauses facility, c.lists = [] := by
  intro c hc
  unfold Entity.scopeClauses at hc
  split at hc
  · cases hc
  · rw [List.mem_singleton.1 hc]
    rfl
  · rw [List.mem_singleton.1 hc]
    rfl

/-- **No list of a plan takes its own members for the rows that they belong to.** -/
theorem correlated_planned (he : e ∈ Entity.all) (hr : r.Accepted e.config) :
    ∀ m ∈ (r.planned e facility).lists, m.isCorrelated = true := by
  obtain ⟨hcolumns, hcustom⟩ := Entity.correlated_of_mem e he
  intro m hm
  rcases List.mem_append.1 hm with hm | hm
  · obtain ⟨s, hs, hm⟩ := List.mem_flatMap.1 hm
    obtain ⟨c, hc, rfl⟩ := exists_column_of_planned hs
    rcases List.mem_append.1 hc with hc | hc
    · exact hcolumns c (hr.select c hc) m hm
    · obtain ⟨p, hp, rfl⟩ := List.mem_map.1 hc
      exact hcolumns p.1 (hr.sort p hp) m hm
  · obtain ⟨c, hc, hm⟩ := Sql.Clause.mem_listsOfAll.1 hm
    rcases List.mem_append.1 hc with hc | hc
    · rw [lists_scopeClauses c hc] at hm
      cases hm
    · split at hc
      · cases hc
      · rw [List.mem_singleton.1 hc] at hm
        -- More criteria change neither the table of the members nor their parent.
        have hsearch := (Entity.wellFormed_of_mem e he).searches
        obtain ⟨m₀, hlist, cs, rfl⟩ := FilterNode.hasList_clause hr.filter hsearch false m hm
        rcases hlist with ⟨c, hc, hmem⟩ | ⟨d, hd, rfl⟩
        · exact hcolumns c (hr.filter.mem_columns c hc) m₀ hmem
        · exact hcustom d hd

/-! ## Aliases -/

/-- **A plan refers to aliases of its own only, and a join to those before it.** A request that passes its check has
a plan. Every alias that the plan refers to is that of its base table or of a joined one; a condition of a join
refers to the base table, to its own table or to one that is joined before. Of other tables that might be read none
is put beside the joined ones. -/
theorem aliases_of_plan (he : e ∈ Entity.all) (facility : Option String)
    (hr : check e.config maxPageSize d = .ok (.ok r)) :
    ∃ q, r.plan e facility = .ok q ∧
      (∀ ref ∈ q.outerRefs, ref.source = q.base.name ∨ ref.source ∈ q.joined) ∧
      (∀ before j after, q.joins = before ++ j :: after → ∀ c ∈ j.on, ∀ ref ∈ c.refs,
        ref.source = q.base.name ∨ ref.source ∈ before.map (·.table.name) ∨ ref.source = j.table.name) ∧
      ∀ tables : List Table, (∀ t ∈ tables, t.name ≠ q.base.name) → { q with loose := tables }.crossed = [] := by
  have hwf := Entity.wellFormed_of_mem e he
  have hacc := accepted_of_check hr
  have hresolves : (r.planned e facility).resolves = true := resolves_planned hwf (Entity.stored_of_mem e he) hacc
  have hrefs : ∀ ref ∈ (r.planned e facility).outerRefs,
      ref.source = (r.planned e facility).base.name ∨ ref.source ∈ (r.planned e facility).joined := by
    intro ref href
    have hhas := Query.has_of_resolves hresolves (correlated_planned he hacc) ref href
    rw [scope_planned] at hhas
    obtain ⟨t, ht, hname⟩ := Sql.Scope.exists_of_has hhas
    rcases List.mem_cons.1 ht with rfl | ht
    · exact Or.inl hname.symm
    · obtain ⟨j, hj, rfl⟩ := List.mem_map.1 ht
      exact Or.inr (List.mem_map.2 ⟨j, hj, hname⟩)
  refine ⟨_, plan_succeeds hwf hacc facility, hrefs, fun before j after heq c hc ref href => ?_,
    fun tables htables => Query.crossed_of_outerRefs htables hrefs⟩
  have hjoins : Query.joinsResolve [(r.planned e facility).base] (before ++ j :: after) = true := by
    rw [← heq]
    simp only [Query.resolves, Bool.and_eq_true] at hresolves
    exact hresolves.1.1.1.1
  have hon := Query.resolves_of_joinsResolve hjoins c hc
  obtain ⟨t, ht, hname⟩ := Sql.Scope.exists_of_has (Condition.resolves_iff.1 hon ref href)
  rcases List.mem_append.1 ht with ht | ht
  · rcases List.mem_cons.1 ht with rfl | ht
    · exact Or.inl hname.symm
    · obtain ⟨k, hk, rfl⟩ := List.mem_map.1 ht
      exact Or.inr (Or.inl (List.mem_map.2 ⟨k, hk, hname⟩))
  · rw [List.mem_singleton.1 ht] at hname
    exact Or.inr (Or.inr hname.symm)

/-- A request for the attendants of the meetings of a client that a search finds, counted by their names and the names
of the authors. -/
def attendantsByName : DataRequest where
  columns := ["attendant.name", "createdBy.name", "count"]
  filter := .obj [("type", .str "op"), ("op", .str "&"), ("val", .arr [
    .obj [("type", .str "custom"), ("customFilter", .str "isAttendant"),
      ("params", .obj [("userIds", .arr [.str (Sample.clientUserId 0)])])],
    .obj [("type", .str "global"), ("op", .str "%v%"), ("val", .str "anna")],
    .obj [("type", .str "column"), ("column", .str "clients"), ("op", .str "has_any"),
      ("val", .arr [.str (Sample.clientUserId 0)])]])]
  sort := [⟨"createdBy.name", false⟩, ⟨"count", true⟩]
  paging := { size := 10 }
  distinct := true

/-- The plan for these attendants refers to aliases of its own. -/
theorem aliases_of_plan_attendantsByName : ∃ (r : Request) (q : Query),
    check Entity.meetingAttendants.config (.int 1000) attendantsByName = .ok (.ok r) ∧
    r.plan Entity.meetingAttendants (some Sample.facility) = .ok q ∧
    ∀ ref ∈ q.outerRefs, ref.source = q.base.name ∨ ref.source ∈ q.joined := by
  obtain ⟨r, hcheck, -⟩ : ∃ r, check Entity.meetingAttendants.config (.int 1000) attendantsByName = .ok (.ok r) ∧
      r.select.length = 3 := exists_check (by decide +kernel)
  obtain ⟨q, hq, hrefs, -, -⟩ := aliases_of_plan (by simp [Entity.all]) (some Sample.facility) hcheck
  exact ⟨r, q, hcheck, hq, hrefs⟩

end Request

end TableQuery
