import TableQuery.Proofs.Entity.Confined
import TableQuery.Proofs.Json.Fields
import TableQuery.Proofs.Request.Plan

/-!
# Rows in the scope of a facility

In the joined rows of a plan that are in the scope of a facility, every part is a row that the facility may see
(`Request.isWithin_of_inScope`). The rows that satisfy the clauses of the plan are therefore found in the part
of the store for that facility alone (`Request.matching_planned`).
-/

set_option autoImplicit false

namespace TableQuery

open Sql (Clause Condition Env Members Query Ref Row SameLists Store Table Value)

namespace Request

variable {e : Entity} {r : Request} {scope : Ref} {facility : String} {store : Store}

/-! ## The tables of a plan -/

theorem nodup_names_planned (he : e.WellFormed) {facility : Option String} :
    ((r.planned e facility).base.name :: (r.planned e facility).joins.map (·.table.name)).Nodup := by
  refine List.nodup_cons.2 ⟨fun hmem => ?_, ?_⟩
  · obtain ⟨j, hj, hname⟩ := List.mem_map.1 hmem
    obtain ⟨d, hd, rfl⟩ := mem_joins_planned hj
    exact he.name_ne_base (JoinDefs.named?_mem hd) hname
  · have hnames : (r.joinNames e).Nodup := (JoinDefs.reachAll_nodup [] [] _ List.nodup_nil).1
    show (((r.joinNames e).filterMap fun name => (JoinDefs.named? e.config.joins name).map JoinDef.toJoin).map
      fun j => j.table.name).Nodup
    rw [List.map_filterMap]
    refine hnames.filterMap fun n n' name hn hn' => ?_
    have hself : ∀ {n : String},
        name ∈ ((JoinDefs.named? e.config.joins n).map JoinDef.toJoin).map (fun j => j.table.name) →
        name = n := by
      intro n hn
      rw [Option.map_map, Option.mem_def, Option.map_eq_some_iff] at hn
      obtain ⟨d, hd, rfl⟩ := hn
      exact JoinDefs.named?_name hd
    exact (hself hn).symm.trans (hself hn')

/-- A required join belongs to every plan. -/
theorem mem_joins_of_required (he : e.WellFormed) (hr : r.Accepted e.config) {facility : Option String}
    {j : JoinDef} (hj : JoinDefs.named? e.config.joins j.name = some j) (hreq : j.required = true) :
    j.toJoin ∈ (r.planned e facility).joins :=
  mem_joins_of_needed he hr hj (mem_neededJoins_of_required (JoinDefs.named?_mem hj) hreq)

/-! ## Rows in scope -/

theorem scopeClauses_eq (hscope : e.scope = some scope) :
    e.scopeClauses (some facility) = [.compare .eq (.plain (.column scope)) (.text facility)] := by
  unfold Entity.scopeClauses
  rw [hscope]

theorem read_of_inScope (hscope : e.scope = some scope) {env : Env}
    (h : (e.scopeClauses (some facility)).all (·.holds store env) = true) : env.read scope = .text facility := by
  rw [scopeClauses_eq hscope, List.all_cons, List.all_nil, Bool.and_true, Clause.holds, Clause.truth,
    beq_iff_eq] at h
  exact Sql.compareTruth_text.1 h

/-- The row that the scope is a column of belongs to the facility. -/
theorem isOf_of_inScope (he : e.WellFormed) (hc : e.Confined scope) (hscope : e.scope = some scope) {env : Env}
    (henv : env ∈ (r.planned e (some facility)).joinedRows store)
    (h : (e.scopeClauses (some facility)).all (·.holds store env) = true) :
    env.IsOf store facility scope (e.home scope) := by
  have hread := read_of_inScope hscope h
  cases hlookup : env.lookup scope.source with
  | none =>
    rw [Env.read, hlookup] at hread
    cases hread
  | some o =>
    have hdrawn := Query.drawn_joinedRows rfl (left_planned he) env henv
    obtain ⟨t, ht, hname, ho⟩ := hdrawn.rows _ (mem_of_lookup_eq_some hlookup)
    refine ⟨o, ?_, hlookup, ?_⟩
    · rwa [← hc.home t (plannedTables_subset ht) hname.symm]
    · rw [Row.isOf, ← hc.column, ← Sql.Env.read_eq_cell hlookup, hread, beq_self_eq_true]

/-- The rows of a table, by its name in a plan, that a facility may see. -/
def seen (e : Entity) (facility : String) (r : Request) (store : Store) (name : String) (row : Row) : Bool :=
  (r.plannedTables e (some facility)).all fun t => t.name != name || store.grants facility t.table row

theorem seen_eq_grants (he : e.WellFormed) {t : Table} (ht : t ∈ r.plannedTables e (some facility)) (row : Row) :
    r.seen e facility store t.name row = store.grants facility t.table row := by
  rw [Bool.eq_iff_iff, seen, List.all_eq_true]
  constructor
  · intro h
    simpa using h t ht
  · intro h t' ht'
    by_cases hname : t'.name = t.name
    · rw [plannedTables_inj he ht ht' hname, h, Bool.or_true]
    · simp [hname]

/-- **Every part of a row in scope is a row that the facility may see.** -/
theorem isWithin_of_inScope (he : e.WellFormed) (hc : e.Confined scope) (hscope : e.scope = some scope) {env : Env}
    (henv : env ∈ (r.planned e (some facility)).joinedRows store)
    (h : (e.scopeClauses (some facility)).all (·.holds store env) = true) :
    Query.isWithin (r.seen e facility store) env = true := by
  have hof := isOf_of_inScope he hc hscope henv h
  have hleft : ∀ j ∈ (r.planned e (some facility)).joins, j.left = false := left_planned he
  refine List.all_eq_true.2 fun p hp => ?_
  obtain ⟨t, ht, hname, -⟩ := (Query.drawn_joinedRows rfl hleft env henv).rows p hp
  have hlookup : env.lookup t.name = some p.2 := by
    rw [← hname]
    refine lookup_of_mem ?_ p hp
    rw [Query.aliases_joinedRows rfl hleft env henv]
    exact nodup_names_planned he
  rw [hname, seen_eq_grants he ht]
  rcases List.mem_cons.1 ht with rfl | ht
  · exact Store.grants_of_guards hof hc.base hlookup nofun
  · obtain ⟨j, hj, rfl⟩ := List.mem_map.1 ht
    have hon := Query.joined_same rfl hleft env henv j hj
    obtain ⟨d, hd, rfl⟩ := mem_joins_planned hj
    exact Store.grants_of_guards hof (hc.joins d (JoinDefs.named?_mem hd)) hlookup hon

theorem inScope_of_keeps {env : Env} (h : (r.planned e (some facility)).keeps store env = true) :
    (e.scopeClauses (some facility)).all (·.holds store env) = true := by
  rw [Query.keeps_eq_all] at h
  exact List.all_eq_true.2 fun c hc => List.all_eq_true.1 h c (List.mem_append_left _ hc)

/-- In the part of the store for a facility the joined rows are those that it may see. -/
theorem joinedRows_partOf (he : e.WellFormed) (hc : e.Confined scope) :
    (r.planned e (some facility)).joinedRows (store.partOf facility) =
      ((r.planned e (some facility)).joinedRows store).filter (Query.isWithin (r.seen e facility store)) := by
  refine Query.joinedRows_filter rfl (left_planned he) fun t ht => ?_
  rw [Store.partOf, Store.rows_restrict (hc.known t (plannedTables_subset ht))]
  exact List.filter_congr fun row _ => (seen_eq_grants he ht row).symm

/-- **The rows that satisfy the clauses of a plan are in the part of the store for the facility.** -/
theorem matching_planned (he : e.WellFormed) (hc : e.Confined scope) (hscope : e.scope = some scope) :
    (r.planned e (some facility)).matching store =
      ((r.planned e (some facility)).joinedRows (store.partOf facility)).filter
        ((r.planned e (some facility)).keeps store) := by
  rw [Query.matching, joinedRows_partOf he hc, List.filter_filter]
  refine List.filter_congr fun env henv => ?_
  cases hkeeps : (r.planned e (some facility)).keeps store env with
  | false => rfl
  | true => rw [isWithin_of_inScope he hc hscope henv (inScope_of_keeps hkeeps), Bool.true_and]

end Request

end TableQuery
