import TableQuery.Proofs.Store.Scope

/-!
# Aliases that a query refers to

A query refers to aliases by the columns that it names itself, and by those that its lists read outside of the table
of their members (`Query.outerRefs`). Where everything that a query names is in scope, and no list takes its own
members for the rows that they belong to (`Members.isCorrelated`), all these columns are in scope
(`Query.has_of_resolves`). A query that refers to its own tables only has no other table beside them, whatever
tables there are (`Query.crossed_of_outerRefs`).
-/

set_option autoImplicit false

namespace TableQuery.Sql

variable {scope : Scope} {ref : Ref}

/-! ## Columns in scope -/

theorem Scope.exists_of_has (h : scope.has ref = true) : ∃ t ∈ scope, t.name = ref.source := by
  obtain ⟨t, ht, htable⟩ := List.any_eq_true.1 h
  exact ⟨t, ht, beq_iff_eq.1 (Bool.and_eq_true_iff.1 htable).1⟩

theorem Scope.has_of_cons {t : Table} (h : Scope.has (t :: scope) ref = true) (hne : ref.source ≠ t.name) :
    scope.has ref = true := by
  have hfirst : (t.name == ref.source) = false := beq_eq_false_iff_ne.2 (Ne.symm hne)
  rw [has, List.any_cons, hfirst, Bool.false_and, Bool.false_or] at h
  exact h

/-! ## Lists -/

namespace Members

variable {m : Members}

/-- The rows that the members of a list belong to are rows of another table than the members. -/
def isCorrelated (m : Members) : Bool := m.parent.source != m.table.name

/-- The columns that a list reads outside of the table of its members, that of its parent aside. -/
def outside (m : Members) : List Ref :=
  (m.value :: m.child :: m.criteria.flatMap Condition.refs).filter (·.source != m.table.name)

theorem has_outside (h : m.resolves scope = true) : ∀ ref ∈ m.outside, scope.has ref = true := by
  intro ref href
  obtain ⟨hmem, hsource⟩ := List.mem_filter.1 href
  simp only [resolves, Bool.and_eq_true, List.all_eq_true] at h
  obtain ⟨⟨⟨hvalue, hchild⟩, -⟩, hcriteria⟩ := h
  have hinner : Scope.has (m.table :: scope) ref = true := by
    rcases List.mem_cons.1 hmem with rfl | hmem
    · exact hvalue
    · rcases List.mem_cons.1 hmem with rfl | hmem
      · exact hchild
      · obtain ⟨c, hc, href⟩ := List.mem_flatMap.1 hmem
        exact Condition.resolves_iff.1 (hcriteria c hc) ref href
  exact Scope.has_of_cons hinner (bne_iff_ne.1 hsource)

theorem has_parent (h : m.resolves scope = true) (hm : m.isCorrelated = true) : scope.has m.parent = true := by
  simp only [resolves, Bool.and_eq_true] at h
  exact Scope.has_of_cons h.1.2 (bne_iff_ne.1 hm)

end Members

/-! ## Scalars and clauses -/

theorem Scalar.has_of_resolves {s : Scalar} (h : s.resolves scope = true)
    (hlists : ∀ m ∈ s.lists, m.isCorrelated = true) : ∀ ref ∈ s.refs, scope.has ref = true := by
  cases s with
  | column r | nullTest r n => exact List.forall_mem_singleton.2 h
  | rowCount => nofun
  | joined m => exact List.forall_mem_singleton.2 (Members.has_parent h (hlists m (List.mem_singleton_self m)))

theorem Scalar.resolves_of_mem_lists {s : Scalar} (h : s.resolves scope = true) :
    ∀ m ∈ s.lists, m.resolves scope = true := by
  cases s with
  | joined m => exact List.forall_mem_singleton.2 h
  | column r | nullTest r n | rowCount => nofun

theorem Scalar.mem_refs_of_mem_sources {s : Scalar} : ∀ name ∈ s.sources, ∃ ref ∈ s.refs, ref.source = name := by
  cases s with
  | column r | nullTest r n => exact List.forall_mem_singleton.2 ⟨r, List.mem_singleton_self r, rfl⟩
  | rowCount | joined m => nofun

theorem Term.has_of_resolves {t : Term} (h : t.resolves scope = true) (hlists : ∀ m ∈ t.lists, m.isCorrelated = true) :
    ∀ ref ∈ t.refs, scope.has ref = true := by
  cases t with
  | plain s | lower s | asText s | orEmpty s => exact Scalar.has_of_resolves (s := s) h hlists

theorem Term.resolves_of_mem_lists {t : Term} (h : t.resolves scope = true) :
    ∀ m ∈ t.lists, m.resolves scope = true := by
  cases t with
  | plain s | lower s | asText s | orEmpty s => exact Scalar.resolves_of_mem_lists (s := s) h

theorem Term.mem_refs_of_mem_sources {t : Term} : ∀ name ∈ t.sources, ∃ ref ∈ t.refs, ref.source = name := by
  cases t with
  | plain s | lower s | asText s | orEmpty s => exact Scalar.mem_refs_of_mem_sources (s := s)

namespace Clause

mutual

/-- The columns of a clause in scope are in scope. -/
theorem has_of_resolves : (c : Clause) → c.resolves scope = true → (∀ m ∈ c.lists, m.isCorrelated = true) →
    ∀ ref ∈ c.refs, scope.has ref = true
  | const _, _, _ | decided _, _, _ => nofun
  | nullTest _ _, h, hlists => Scalar.has_of_resolves h hlists
  | compare _ _ _, h, hlists | among _ _ _, h, hlists | like _ _ _ _, h, hlists | regexp _ _ _, h, hlists =>
    Term.has_of_resolves h hlists
  | anyMember m, h, hlists | memberCount m _ _, h, hlists =>
    List.forall_mem_singleton.2 (Members.has_parent h (hlists m (List.mem_singleton_self m)))
  | not c, h, hlists => has_of_resolves c h hlists
  | and cs, h, hlists | or cs, h, hlists => has_of_allResolve cs h hlists

theorem has_of_allResolve : (cs : List Clause) → allResolve scope cs = true →
    (∀ m ∈ listsOfAll cs, m.isCorrelated = true) → ∀ ref ∈ refsOfAll cs, scope.has ref = true
  | [], _, _ => nofun
  | c :: cs, h, hlists => by
    rw [allResolve, Bool.and_eq_true] at h
    intro ref href
    rcases List.mem_append.1 href with href | href
    · exact has_of_resolves c h.1 (fun m hm => hlists m (List.mem_append_left _ hm)) ref href
    · exact has_of_allResolve cs h.2 (fun m hm => hlists m (List.mem_append_right _ hm)) ref href

end

mutual

/-- The lists of a clause in scope are in scope. -/
theorem resolves_of_mem_lists : (c : Clause) → c.resolves scope = true → ∀ m ∈ c.lists, m.resolves scope = true
  | const _, _ | decided _, _ => nofun
  | nullTest _ _, h => Scalar.resolves_of_mem_lists h
  | compare _ _ _, h | among _ _ _, h | like _ _ _ _, h | regexp _ _ _, h => Term.resolves_of_mem_lists h
  | anyMember _, h | memberCount _ _ _, h => List.forall_mem_singleton.2 h
  | not c, h => resolves_of_mem_lists c h
  | and cs, h | or cs, h => resolves_of_mem_listsOfAll cs h

theorem resolves_of_mem_listsOfAll : (cs : List Clause) → allResolve scope cs = true →
    ∀ m ∈ listsOfAll cs, m.resolves scope = true
  | [], _ => nofun
  | c :: cs, h => by
    rw [allResolve, Bool.and_eq_true] at h
    intro m hm
    rcases List.mem_append.1 hm with hm | hm
    · exact resolves_of_mem_lists c h.1 m hm
    · exact resolves_of_mem_listsOfAll cs h.2 m hm

end

mutual

/-- An alias that a clause is read from is that of a column of it. -/
theorem mem_refs_of_mem_sources : (c : Clause) → ∀ name ∈ c.sources, ∃ ref ∈ c.refs, ref.source = name
  | const _ | decided _ | anyMember _ | memberCount _ _ _ => nofun
  | nullTest _ _ => Scalar.mem_refs_of_mem_sources
  | compare _ _ _ | among _ _ _ | like _ _ _ _ | regexp _ _ _ => Term.mem_refs_of_mem_sources
  | not c => mem_refs_of_mem_sources c
  | and cs | or cs => mem_refsOfAll_of_mem_sources cs

theorem mem_refsOfAll_of_mem_sources : (cs : List Clause) →
    ∀ name ∈ sourcesOfAll cs, ∃ ref ∈ refsOfAll cs, ref.source = name
  | [] => nofun
  | c :: cs => by
    intro name hname
    rcases List.mem_append.1 hname with hname | hname
    · obtain ⟨ref, href, hsource⟩ := mem_refs_of_mem_sources c name hname
      exact ⟨ref, List.mem_append_left _ href, hsource⟩
    · obtain ⟨ref, href, hsource⟩ := mem_refsOfAll_of_mem_sources cs name hname
      exact ⟨ref, List.mem_append_right _ href, hsource⟩

end

end Clause

/-! ## Queries -/

namespace Query

variable {q : Query}

/-- The lists that a query looks at. -/
def lists (q : Query) : List Members := q.valueLists ++ Clause.listsOfAll q.clauses

/-- The columns of the joined tables that a query refers to: in what it selects, groups and sorts by, in its clauses
and in the conditions of its joins, also from inside of lists. -/
def outerRefs (q : Query) : List Ref :=
  (q.columns.map (·.1) ++ q.groupBy ++ q.orderBy.map (·.1)).flatMap Scalar.refs ++ Clause.refsOfAll q.clauses ++
    q.joins.flatMap (fun j => j.on.flatMap Condition.refs) ++ q.lists.flatMap Members.outside

/-- **The conditions of a join are about its own table and those before it.** -/
theorem resolves_of_joinsResolve {before after : List Join} {j : Join}
    (h : joinsResolve scope (before ++ j :: after) = true) :
    ∀ c ∈ j.on, c.resolves (scope ++ before.map (·.table) ++ [j.table]) = true := by
  induction before generalizing scope with
  | nil =>
    rw [List.nil_append, joinsResolve, Bool.and_eq_true, List.all_eq_true] at h
    rw [List.map_nil, List.append_nil]
    exact h.1
  | cons k before ih =>
    rw [List.cons_append, joinsResolve, Bool.and_eq_true] at h
    have hrest := ih h.2
    rwa [List.append_assoc scope, List.singleton_append] at hrest

/-- **Every column that a query refers to is in scope**, if the query resolves and its lists are correlated. -/
theorem has_of_resolves (h : q.resolves = true) (hlists : ∀ m ∈ q.lists, m.isCorrelated = true) :
    ∀ ref ∈ q.outerRefs, q.scope.has ref = true := by
  simp only [resolves, Bool.and_eq_true, List.all_eq_true] at h
  obtain ⟨⟨⟨⟨hjoins, hcolumns⟩, hclauses⟩, hgroup⟩, horder⟩ := h
  have hscalars : ∀ s ∈ q.columns.map (·.1) ++ q.groupBy ++ q.orderBy.map (·.1), s.resolves q.scope = true := by
    intro s hs
    rw [List.mem_append, List.mem_append] at hs
    rcases hs with (hs | hs) | hs
    · obtain ⟨p, hp, rfl⟩ := List.mem_map.1 hs
      exact hcolumns p hp
    · exact hgroup s hs
    · obtain ⟨p, hp, rfl⟩ := List.mem_map.1 hs
      exact horder p hp
  have hfilter : Clause.allResolve q.scope q.clauses = true := Clause.allResolve_iff.2 hclauses
  intro ref href
  rw [outerRefs, List.mem_append, List.mem_append, List.mem_append] at href
  rcases href with ((href | href) | href) | href
  · obtain ⟨s, hs, href⟩ := List.mem_flatMap.1 href
    have hmine : ∀ m ∈ s.lists, m.isCorrelated = true := fun m hm =>
      hlists m (List.mem_append_left _ (List.mem_flatMap.2 ⟨s, hs, hm⟩))
    exact Scalar.has_of_resolves (hscalars s hs) hmine ref href
  · exact Clause.has_of_allResolve _ hfilter (fun m hm => hlists m (List.mem_append_right _ hm)) ref href
  · obtain ⟨j, hj, href⟩ := List.mem_flatMap.1 href
    obtain ⟨c, hc, href⟩ := List.mem_flatMap.1 href
    obtain ⟨before, after, heq⟩ := List.append_of_mem hj
    have hon := resolves_of_joinsResolve (heq ▸ hjoins) c hc
    have hsub : [q.base] ++ before.map (·.table) ++ [j.table] ⊆ q.scope := by
      rw [scope, heq]
      simp
    exact Scope.has_mono hsub (Condition.resolves_iff.1 hon ref href)
  · obtain ⟨m, hm, href⟩ := List.mem_flatMap.1 href
    have hin : m.resolves q.scope = true := by
      rcases List.mem_append.1 hm with hm | hm
      · obtain ⟨s, hs, hm⟩ := List.mem_flatMap.1 hm
        exact Scalar.resolves_of_mem_lists (hscalars s hs) m hm
      · exact Clause.resolves_of_mem_listsOfAll _ hfilter m hm
    exact Members.has_outside hin ref href

/-- An alias that is read is that of a column that the query refers to. -/
theorem mem_outerRefs_of_mem_sources {name : String}
    (h : name ∈ q.columns.flatMap (·.1.sources) ++ Clause.sourcesOfAll q.clauses) :
    ∃ ref ∈ q.outerRefs, ref.source = name := by
  rw [List.mem_append] at h
  rcases h with h | h
  · obtain ⟨p, hp, h⟩ := List.mem_flatMap.1 h
    obtain ⟨ref, href, hsource⟩ := Scalar.mem_refs_of_mem_sources name h
    have hs : p.1 ∈ q.columns.map (·.1) := List.mem_map_of_mem hp
    have hmem : ref ∈ (q.columns.map (·.1) ++ q.groupBy ++ q.orderBy.map (·.1)).flatMap Scalar.refs :=
      List.mem_flatMap.2 ⟨p.1, by simp [hs], href⟩
    exact ⟨ref, List.mem_append_left _ (List.mem_append_left _ (List.mem_append_left _ hmem)), hsource⟩
  · obtain ⟨ref, href, hsource⟩ := Clause.mem_refsOfAll_of_mem_sources _ name h
    exact ⟨ref, by simp [outerRefs, href], hsource⟩

/-- **No table is read beside those of a query that refers to its own tables only.** -/
theorem crossed_of_outerRefs (hloose : ∀ t ∈ q.loose, t.name ≠ q.base.name)
    (h : ∀ ref ∈ q.outerRefs, ref.source = q.base.name ∨ ref.source ∈ q.joins.map (·.table.name)) :
    q.crossed = [] := by
  rw [crossed, List.filterMap_eq_nil_iff]
  intro name hname
  obtain ⟨ref, href, rfl⟩ := mem_outerRefs_of_mem_sources (List.mem_eraseDups.1 hname)
  split
  · rfl
  next hnone =>
    have hbase : ref.source = q.base.name := by
      refine (h ref href).resolve_right fun hjoined => hnone ?_
      obtain ⟨j, hj, hname⟩ := List.mem_map.1 hjoined
      exact List.any_eq_true.2 ⟨j, hj, beq_iff_eq.2 hname⟩
    rw [List.find?_eq_none]
    intro t ht
    rw [hbase, beq_iff_eq]
    exact hloose t ht

end Query

end TableQuery.Sql
