import Mathlib.Algebra.Order.BigOperators.Group.List
import TableQuery.Proofs.Request.Grammar
import TableQuery.Proofs.Request.Parts
import TableQuery.Proofs.Request.Resolution
import TableQuery.Proofs.Request.Totals
import TableQuery.Proofs.Sql.Order
import TableQuery.Proofs.Sql.Patterns
import TableQuery.Proofs.Sql.Rows
import TableQuery.Proofs.Store.Sample
import TableQuery.Service.Service

/-!
# Answers to a request, page by page

The answer to an accepted request with some paging shows a slice of the sorted groups of its plan, each as one row
of data, and the same total on every page (`Request.answer_eq_ok`). All pages of one size, put together, show all
groups (`Request.mapM_of_answers`). There is an answer if the cells of the store match their columns and the store
takes the clauses of the request (`Request.exists_answer`).
-/

set_option autoImplicit false

namespace TableQuery

open Sql (Clause Env Group Query Store Value slice)

/-! ## The number of bound values -/

/-- The number of values that a query of an entity can bind besides those in its clauses: in its columns, which it can
select and group by, in its joins, and for a page. -/
def Entity.room (e : Entity) : Nat :=
  2 * (e.config.columns.map (·.scalar.bound)).sum + (e.config.joins.map (·.toJoin.bound)).sum + 2

theorem Entity.room_le : ∀ e ∈ Entity.all, e.room ≤ 100 := by
  decide +kernel

/-- Only lists bind a value when they are selected. -/
theorem Entity.WellFormed.bound_scalar {e : Entity} (he : e.WellFormed) {c : ColumnDef} (hc : c ∈ e.config.columns)
    (hlist : c.type.isList = false) : c.scalar.bound = 0 := by
  have hsuits := he.suits c hc
  rw [ColumnDef.scalar]
  cases hsource : c.source with
  | members m => simp [hsource, Sql.Source.suits, hlist] at hsuits
  | value s =>
    cases s with
    | joined m => simp [hsource, Sql.Source.suits] at hsuits
    | _ => rfl

theorem sum_map_le_of_nodup {α : Type} {f : α → Nat} {l l' : List α} (hnodup : l.Nodup) (hsub : l ⊆ l') :
    (l.map f).sum ≤ (l'.map f).sum := by
  obtain ⟨l'', hperm, hsublist⟩ := List.subperm_of_subset hnodup hsub
  rw [← (hperm.map f).sum_eq]
  exact (hsublist.map f).sum_le_sum fun _ _ => Nat.zero_le _

namespace Request

variable {e : Entity} {r : Request} {facility : Option String} {store : Store} {maxPageSize bound : Json}
  {d : DataRequest} {p : Paging} {s : Service} {response : Response}

/-- A query binds what its clauses bind, and no more besides than there is room for. -/
theorem bound_planned_le (he : e.WellFormed) (hr : check e.config maxPageSize d = .ok (.ok r)) :
    (r.planned e facility).bound ≤ Clause.boundInAll (r.clausesIn e facility) + e.room := by
  obtain ⟨herrors, -, sort, f, hsort, -, hrequest⟩ := check_eq_ok.1 hr
  obtain ⟨hnames, hnodup, hselect⟩ := columns_of_ofNames herrors
  have hcolumns : (r.select.map (·.scalar.bound)).sum ≤ (e.config.columns.map (·.scalar.bound)).sum := by
    rw [hrequest]
    exact sum_map_le_of_nodup (List.Nodup.of_map _ (hnames ▸ hnodup)) fun c hc => (hselect c hc).1
  have hgroups : ((r.planned e facility).groupBy.map (·.bound)).sum ≤ (r.select.map (·.scalar.bound)).sum := by
    show ((if r.distinct then (r.select.filter (·.isData)).map (·.scalar) else []).map (·.bound)).sum ≤ _
    split
    · rw [List.map_map]
      exact (List.filter_sublist.map _).sum_le_sum fun _ _ => Nat.zero_le _
    · exact Nat.zero_le _
  -- No list is sorted by.
  have horder : ((r.planned e facility).orderBy.map (·.1.bound)).sum = 0 := by
    show ((r.sort.map fun s => (s.1.scalar, s.2)).map (·.1.bound)).sum = 0
    rw [List.map_map]
    refine List.sum_eq_zero fun n hn => ?_
    obtain ⟨s, hs, rfl⟩ := List.mem_map.1 hn
    rw [hrequest] at hs
    obtain ⟨item, -, hcolumn, hsortable, -⟩ := exists_of_mem_forall₂ (checkSort_eq_ok.1 hsort) hs
    exact he.bound_scalar (FilterNode.column?_mem hcolumn) hsortable.isList
  have hjoins : ((r.planned e facility).joins.map (·.bound)).sum ≤ (e.config.joins.map (·.toJoin.bound)).sum := by
    have hdifferent : ((r.planned e facility).joins.map (·.table.name)).Nodup :=
      (List.nodup_cons.1 (nodup_names_planned he)).2
    have hmap : (e.config.joins.map (·.toJoin)).map (·.bound) = e.config.joins.map (·.toJoin.bound) := List.map_map
    rw [← hmap]
    refine sum_map_le_of_nodup (List.Nodup.of_map _ hdifferent) fun j hj => ?_
    obtain ⟨j, hj, rfl⟩ := mem_joins_planned hj
    exact List.mem_map_of_mem (JoinDefs.named?_mem hj)
  have hselected : ((r.planned e facility).columns.map (·.1.bound)).sum = (r.select.map (·.scalar.bound)).sum := by
    show ((r.select.map fun c => (c.scalar, c.name)).map (·.1.bound)).sum = _
    rw [List.map_map]
    rfl
  have hclauses : (r.planned e facility).clauses = r.clausesIn e facility := rfl
  have hsum : ∀ ns : List Nat, Sql.sumOf ns = ns.sum := fun _ => rfl
  rw [Query.bound, Entity.room, hsum, hsum, hsum, hsum, hselected, hclauses, horder]
  omega

/-! ## Paging -/

def paged (r : Request) (p : Paging) : Request := { r with size := p.size, offset := p.start }

theorem check_paged (hr : check e.config maxPageSize d = .ok (.ok r)) :
    check e.config bound { d with paging := p } = .ok (.ok (r.paged p)) ↔ pagingErrors bound p = .ok [] := by
  obtain ⟨herrors, -, sort, f, hsort, hfilter, rfl⟩ := check_eq_ok.1 hr
  constructor
  · exact fun h => (check_eq_ok.1 h).2.1
  · exact fun hpaging => check_eq_ok.2 ⟨herrors, hpaging, sort, f, hsort, hfilter, rfl⟩

/-! ## Answers -/

theorem answer_eq_run (hr : check e.config maxPageSize d = .ok (.ok r)) :
    s.answer e facility maxPageSize d = r.run s.store s.settings.debug e facility := by
  rw [Service.answer, Service.checked, hr]
  rfl

theorem exists_check_of_answer (h : s.answer e facility maxPageSize d = .ok response) :
    ∃ r, check e.config maxPageSize d = .ok (.ok r) := by
  rw [Service.answer] at h
  obtain ⟨r, hr, -⟩ := bind_eq_ok.1 h
  rw [Service.checked] at hr
  obtain ⟨c, hc, hr⟩ := bind_eq_ok.1 hr
  cases hcheck : check e.config maxPageSize d with
  | error fault => rw [hcheck] at hc; cases hc
  | ok c' =>
    rw [hcheck] at hc
    cases hc
    cases c with
    | error errors => cases hr
    | ok r' => exact ⟨r', rfl⟩

theorem any_isCount (hs : e.Stored) (hr : r.Accepted e.config) :
    (r.planned e facility).columns.any Query.isCount = r.select.any fun c => !c.isData := by
  have hcount : ∀ c ∈ r.select, Query.isCount (c.scalar, c.name) = !c.isData := by
    intro c hc
    have hdata := hs.counts c (hr.select c hc)
    cases hscalar : c.scalar <;> simp_all [Query.isCount]
  refine List.any_map.trans ?_
  rw [Bool.eq_iff_iff, List.any_eq_true, List.any_eq_true]
  exact exists_congr fun c => and_congr_right fun hc => by rw [← hcount c hc]; rfl

/-- Where data is selected, rows are grouped by it, or nothing is counted. -/
theorem grouped_or_uncounted (hs : e.Stored) (hr : check e.config maxPageSize d = .ok (.ok r)) {c : ColumnDef}
    (hc : c ∈ r.select) (hdata : c.isData = true) :
    (r.planned e facility).groupBy ≠ [] ∨ (r.planned e facility).columns.any Query.isCount = false := by
  by_cases hdistinct : r.distinct = true
  · refine Or.inl (List.ne_nil_of_mem (a := c.scalar) ?_)
    rw [planned]
    show c.scalar ∈ if r.distinct then (r.select.filter (·.isData)).map (·.scalar) else []
    rw [if_pos hdistinct]
    exact List.mem_map_of_mem (List.mem_filter.2 ⟨hc, hdata⟩)
  · rw [any_isCount hs (accepted_of_check hr), List.any_eq_false]
    rw [distinct_of_check hr, Bool.not_eq_true] at hdistinct
    exact Or.inr fun c' hc' => by simp [isData_of_check hr hdistinct c' hc']

/-- What is shown of a row that stands for a number of rows: the values of the selected columns, each in the form of
its type. -/
def shown (store : Store) (r : Request) (env : Env) (size : Nat) : Except Fault Fields :=
  r.select.mapM fun c => do return (c.name, ← c.type.render (.ofValue c.type (c.scalar.value store env size)))

/-- What is shown of a selected column stands under its name. -/
theorem lookup_shown (he : e.WellFormed) (hr : r.Accepted e.config) {env : Env} {size : Nat} {fields : Fields}
    (h : r.shown store env size = .ok fields) {c : ColumnDef} (hc : c ∈ r.select) :
    ∃ j, c.type.render (.ofValue c.type (c.scalar.value store env size)) = .ok j ∧ fields.lookup c.name = some j := by
  have hmem := hr.select
  have hshown := forall₂_of_mapM h
  clear h
  generalize r.select = cs at hc hmem hshown
  induction hshown with
  | nil => cases hc
  | @cons c' field cs fields hfield _ ih =>
    obtain ⟨j, hj, hfield⟩ := bind_eq_ok.1 hfield
    cases hfield
    rw [List.forall_mem_cons] at hmem
    by_cases hname : c.name = c'.name
    · -- Columns with one name are one column.
      have hsame : c = c' := he.eq_of_name hmem.1 (List.forall_mem_cons.2 hmem c hc) hname
      rw [hsame]
      exact ⟨j, hj, List.lookup_cons_self⟩
    · have hother : (c.name == c'.name) = false := beq_eq_false_iff_ne.2 hname
      obtain ⟨j, hj, hlookup⟩ := ih ((List.mem_cons.1 hc).resolve_left fun h => hname (h ▸ rfl)) hmem.2
      exact ⟨j, hj, by rw [List.lookup_cons, hother]; exact hlookup⟩

theorem keys_of_shown {env : Env} {size : Nat} {fields : Fields} (h : r.shown store env size = .ok fields) :
    fields.map (·.1) = r.select.map (·.name) := by
  refine map_of_mapM (fun c _ field hfield => ?_) h
  obtain ⟨j, -, hfield⟩ := bind_eq_ok.1 hfield
  cases hfield
  rfl

theorem shape_planned (e : Entity) (facility : Option String) (g : Group) :
    shape r.select ((r.planned e facility).shape store g) = r.shown store g.first g.size := by
  have hvalues : (r.planned e facility).shape store g =
      r.select.map fun c => c.scalar.value store g.first g.size := List.map_map
  rw [hvalues, shape, ← List.map_prod_left_eq_zip, List.mapM_map]
  rfl

/-- **What the answer to a request has**, if there is one: on each page a slice of the sorted groups. -/
theorem answer_eq_ok (he : e ∈ Entity.all) (hr : check e.config maxPageSize d = .ok (.ok r)) :
    s.answer e facility bound { d with paging := p } = .ok response ↔
      pagingErrors bound p = .ok [] ∧
        ((r.paged p).planned e facility).canRun TableDef.indexes s.store = true ∧
        response.columns = r.select.map (·.name) ∧ response.total = (r.planned e facility).total s.store ∧
        (slice p.start.toNat p.size.toNat ((r.planned e facility).sorted s.store)).mapM
          (fun g => r.shown s.store g.first g.size) = .ok response.data := by
  have hwf := Entity.wellFormed_of_mem e he
  by_cases hpaging : pagingErrors bound p = .ok []
  · have hcheck := (check_paged hr).2 hpaging
    have hacc := accepted_of_check hcheck
    have hsize : 0 ≤ p.size := Int.le_trans (by decide) (bounds_of_pagingErrors hpaging).1
    have hrows : (((r.paged p).planned e facility).rows s.store).mapM (shape r.select) =
        (slice p.start.toNat p.size.toNat ((r.planned e facility).sorted s.store)).mapM
          fun g => r.shown s.store g.first g.size := by
      rw [Query.rows, Query.page_eq_slice rfl rfl hsize, List.mapM_map]
      exact congrArg (List.mapM · _) (funext fun g => shape_planned e facility g)
    rw [answer_eq_run hcheck, run_eq_ok hwf hacc, fetch_eq_some, resolves_planned hwf (Entity.stored_of_mem e he) hacc]
    simp only [hpaging, true_and]
    exact and_congr_right fun _ => and_congr_right fun _ => and_congr_right fun _ => by rw [← hrows]; rfl
  · constructor
    · intro h
      obtain ⟨r', hr'⟩ := exists_check_of_answer h
      exact absurd (check_eq_ok.1 hr').2.1 hpaging
    · exact fun h => absurd h.1 hpaging

theorem length_of_answer (he : e ∈ Entity.all) (hr : check e.config maxPageSize d = .ok (.ok r))
    (h : s.answer e facility maxPageSize { d with paging := p } = .ok response) : response.data.length =
      min p.size.toNat (((r.planned e facility).sorted s.store).length - p.start.toNat) := by
  obtain ⟨-, -, -, -, hdata⟩ := (answer_eq_ok he hr).1 h
  rw [length_of_mapM hdata, Sql.length_slice]

/-- **All pages of one size show all groups.** -/
theorem mapM_of_answers (he : e ∈ Entity.all) (hr : check e.config maxPageSize d = .ok (.ok r)) {size : Int}
    {count : Nat} {responses : Nat → Response}
    (hall : ((r.planned e facility).sorted s.store).length ≤ count * size.toNat)
    (h : ∀ n < count, s.answer e facility maxPageSize { d with paging := { size, number := some (n + 1) } } =
      .ok (responses n)) :
    ((r.planned e facility).sorted s.store).mapM (fun g => r.shown s.store g.first g.size) =
      .ok ((List.range count).flatMap fun n => (responses n).data) := by
  refine Sql.mapM_of_slices hall fun n hn => ?_
  obtain ⟨hpaging, -, -, -, hdata⟩ := (answer_eq_ok he hr).1 (h n hn)
  have hsize : 0 ≤ size := Int.le_trans (by decide) (bounds_of_pagingErrors hpaging).1
  have hstart : (Paging.start { size, number := some (n + 1 : Int) }).toNat = n * size.toNat := by
    simp only [Paging.start, Int.add_sub_cancel]
    rw [Int.toNat_mul (Int.natCast_nonneg n) hsize, Int.toNat_natCast]
  rwa [hstart] at hdata

/-- All pages of one size have as many rows of data as there are groups. -/
theorem sum_length_of_answers (he : e ∈ Entity.all) (hr : check e.config maxPageSize d = .ok (.ok r)) {size : Int}
    {count : Nat} {responses : Nat → Response}
    (hall : ((r.planned e facility).sorted s.store).length ≤ count * size.toNat)
    (h : ∀ n < count, s.answer e facility maxPageSize { d with paging := { size, number := some (n + 1) } } =
      .ok (responses n)) :
    ((List.range count).map fun n => (responses n).data.length).sum =
      ((r.planned e facility).sorted s.store).length := by
  rw [← length_of_mapM (mapM_of_answers he hr hall h), List.length_flatMap]

/-- The answer to a request for a page is the same whether the page is given by its number or by the number of rows
before it. -/
theorem answer_number {size n : Int} (hsize : 1 ≤ size) (hn : 1 ≤ n) :
    s.answer e facility maxPageSize { d with paging := { size, number := some n } } =
      s.answer e facility maxPageSize { d with paging := { size, offset := some ((n - 1) * size) } } := by
  have hchecks : check e.config maxPageSize { d with paging := { size, number := some n } } =
      check e.config maxPageSize { d with paging := { size, offset := some ((n - 1) * size) } } := by
    rw [check_eq, check_eq]
    dsimp only
    rw [pagingErrors_number hsize hn]
    rfl
  rw [Service.answer, Service.answer, Service.checked, Service.checked, hchecks]

/-! ## Requests that are answered -/

/-- The store takes the clauses of a request in the scope of a facility: their patterns can be used, their operands
fit (integers have 64 bits, texts can be encoded) and are not too many beside what a query of the entity binds besides,
and they are not nested too deeply. -/
structure Taken (e : Entity) (facility : Option String) (r : Request) : Prop where
  usable : ∀ c ∈ r.clausesIn e facility, c.isUsable = true
  fit : ∀ c ∈ r.clausesIn e facility, c.fitsStore = true
  few : Clause.boundInAll (r.clausesIn e facility) + e.room ≤ Query.boundLimit
  shallow : (Clause.conj (r.clausesIn e facility)).isShallow = true

instance (e : Entity) (facility : Option String) (r : Request) : Decidable (r.Taken e facility) :=
  decidable_of_iff ((∀ c ∈ r.clausesIn e facility, c.isUsable = true) ∧
    (∀ c ∈ r.clausesIn e facility, c.fitsStore = true) ∧
    Clause.boundInAll (r.clausesIn e facility) + e.room ≤ Query.boundLimit ∧
    (Clause.conj (r.clausesIn e facility)).isShallow = true)
    ⟨fun ⟨usable, fit, few, shallow⟩ => ⟨usable, fit, few, shallow⟩, fun h => ⟨h.usable, h.fit, h.few, h.shallow⟩⟩

theorem rows_of_mem_matching (he : e.WellFormed) {env : Env} (henv : env ∈ (r.planned e facility).matching store) :
    ∀ t ∈ e.tables, ∀ row ∈ env.lookup t.name, row ∈ store.rows t.table := by
  intro t ht row hrow
  have hdrawn := Query.drawn_joinedRows rfl (left_planned he) env (List.mem_filter.1 henv).1
  obtain ⟨before, after, heq, -⟩ := List.lookup_eq_some_iff.1 hrow
  obtain ⟨t', ht', hname, hmem⟩ := hdrawn.rows (t.name, row) (by simp [heq])
  rwa [he.eq_of_alias t ht t' (plannedTables_subset ht') hname.symm] at hmem

theorem rows_of_mem_groups (he : e.WellFormed) {g : Group} (hg : g ∈ (r.planned e facility).groups store) :
    ∀ t ∈ e.tables, ∀ row ∈ g.first.lookup t.name, row ∈ store.rows t.table := by
  rcases Query.first_mem_groups g hg with hmatch | hnone
  · exact rows_of_mem_matching he hmatch
  · rw [hnone]
    exact fun _ _ _ hrow => nomatch hrow

theorem shown_succeeds (he : e ∈ Entity.all) (hr : r.Accepted e.config) (hstore : store.Typed) {g : Group}
    (hg : g ∈ (r.planned e facility).groups store) : ∃ fields, r.shown store g.first g.size = .ok fields := by
  refine exists_mapM fun c hc => ?_
  obtain ⟨k, hk, hshows⟩ := (Entity.stored_of_mem e he).shown c (hr.select c hc)
  have hvalue := Sql.Scalar.value_of_cells Sql.computable_holds hstore hk
    (rows_of_mem_groups (Entity.wellFormed_of_mem e he) hg) g.size
  obtain ⟨j, hj⟩ := ColumnType.render_succeeds hshows hvalue
  exact ⟨(c.name, j), by rw [hj]; rfl⟩

/-- **A request is answered** if the cells of the store match their columns and the store takes the clauses and the
numbers of the request. -/
theorem exists_answer (he : e ∈ Entity.all) (hr : check e.config maxPageSize d = .ok (.ok r))
    (hstore : s.store.Typed) (htaken : r.Taken e facility) (hp : pagingErrors bound p = .ok [])
    (hsize : Value.fitsStore p.size = true) (hstart : Value.fitsStore p.start = true) :
    ∃ response, s.answer e facility bound { d with paging := p } = .ok response := by
  have hfew : ((r.paged p).planned e facility).bindsFew = true :=
    decide_eq_true ((bound_planned_le (Entity.wellFormed_of_mem e he) hr).trans htaken.few)
  have hruns : ((r.paged p).planned e facility).canRun TableDef.indexes s.store = true :=
    Query.canRun_of_clauses s.store (fun n hn => Option.some.inj hn ▸ hsize) (fun n hn => Option.some.inj hn ▸ hstart)
      hfew htaken.usable htaken.fit htaken.shallow
  have hshown : ∀ g ∈ slice p.start.toNat p.size.toNat ((r.planned e facility).sorted s.store),
      ∃ fields, r.shown s.store g.first g.size = .ok fields := fun g hg =>
    shown_succeeds he (accepted_of_check hr) hstore ((Query.sorted_perm _).mem_iff.1 (Sql.slice_subset _ _ _ hg))
  obtain ⟨data, hdata⟩ := exists_mapM hshown
  exact ⟨⟨r.select.map (·.name), _, data⟩, (answer_eq_ok he hr).2 ⟨hp, hruns, rfl, rfl, hdata⟩⟩

end Request

end TableQuery
