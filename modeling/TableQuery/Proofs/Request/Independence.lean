import TableQuery.Proofs.Request.Aliases
import TableQuery.Proofs.Request.Answers
import TableQuery.Proofs.Store.Readings
import TableQuery.Proofs.Store.References

/-!
# The total does not depend on the columns of a request

An entity joins some tables for every request, and all other joins look up the user that a row of these refers to
(`Entity.looksUp_of_mem`). In a store with integrity the joined rows of a request are therefore those of its entity,
each with the users that were looked up for it (`Request.joinedRows_planned`), and the clauses of requests with the
same filter hold in the same ones. So the total depends on the filter alone (`Request.total_of_filter`).
-/

set_option autoImplicit false

namespace TableQuery

open Sql (Clause Env Join Members Query Scope Store Value)

open Request (namedJoins mem_namedJoins)

/-! ## Entities -/

namespace Entity

variable {e : Entity}

/-- The names of the joins that are made for every request. -/
def requiredNames (e : Entity) : List String := (e.config.joins.filter (·.required)).map (·.name)

/-- The names of these joins and of those that they depend on, in the order in which they are made. -/
def coreNames (e : Entity) : List String := (JoinDefs.reachAll e.config.joins [] [] e.requiredNames).1

/-- The query for the rows that an entity goes through for every request. -/
def core (e : Entity) : Query := { base := e.base, joins := namedJoins e e.coreNames }

/-- A join looks up the user that a row refers to which is there for every request. -/
def looksUp (e : Entity) (j : JoinDef) : Bool :=
  j.from.table == TableDef.users.name && (e.base :: (namedJoins e e.requiredNames).map (·.table)).any fun t =>
    TableDef.userReferences.any fun ref =>
      ref.source == t.table && j.on == [.sameAs ⟨j.name, "id"⟩ ⟨t.name, ref.column⟩]

/-- **Joins that are not made for every request look up users.** -/
theorem looksUp_of_mem : ∀ e ∈ all, ∀ j ∈ e.config.joins, j.required = false → e.looksUp j = true := by
  decide +kernel

theorem requiredNames_known : ∀ n ∈ e.requiredNames, (JoinDefs.named? e.config.joins n).isSome := by
  intro n hn
  obtain ⟨j, hj, rfl⟩ := List.mem_map.1 hn
  exact JoinDefs.isSome_named?.2 ⟨j, (List.mem_filter.1 hj).1, rfl⟩

theorem requiredNames_subset (he : e.WellFormed) : e.requiredNames ⊆ e.coreNames :=
  (JoinDefs.reachAll_known he.dependsOn requiredNames_known).1

theorem left_core (he : e.WellFormed) : ∀ j ∈ e.core.joins, j.left = false := by
  intro j hj
  obtain ⟨n, -, d, hd, rfl⟩ := mem_namedJoins.1 hj
  exact he.inner d (JoinDefs.named?_mem hd)

end Entity

namespace Request

variable {e : Entity} {r r' : Request} {facility : Option String} {store : Store} {extra extra' : List String}
  {env : Env}

/-! ## Joined rows -/

theorem exists_joinNames (he : e.WellFormed) (r : Request) : ∃ extra, r.joinNames e = e.coreNames ++ extra := by
  have hnone := JoinDefs.reachAll_succeeds he.dependsOn [] [] e.requiredNames
    fun n hn => ⟨Entity.requiredNames_known n hn, nofun⟩
  have hsplit : r.neededJoins e.config = e.requiredNames ++ (r.columns.filterMap (·.join) ++ r.filter.joins) :=
    List.append_assoc _ _ _
  rw [joinNames, hsplit, JoinDefs.reachAll_append hnone]
  obtain ⟨extra, hextra⟩ : e.coreNames <+: (JoinDefs.reachAll e.config.joins [] e.coreNames
      (r.columns.filterMap (·.join) ++ r.filter.joins)).1 := JoinDefs.prefix_reachAll _ _ _
  exact ⟨extra, hextra.symm⟩

section Extra

variable (hextra : r.joinNames e = e.coreNames ++ extra)

include hextra

theorem joins_planned : (r.planned e facility).joins = e.core.joins ++ namedJoins e extra := by
  show namedJoins e (r.joinNames e) = _
  rw [hextra, namedJoins, List.filterMap_append]
  rfl

/-- The aliases of the joins of the entity and of the other ones are different. -/
theorem aliases_disjoint (he : e.WellFormed) :
    ((namedJoins e extra).map (·.table.name)).Nodup ∧
      ∀ j ∈ namedJoins e extra, j.table.name ∉ e.core.base.name :: e.core.joins.map (·.table.name) := by
  have hnames : ((r.planned e none).base.name :: (r.planned e none).joins.map (·.table.name)).Nodup :=
    nodup_names_planned he
  rw [joins_planned hextra, List.map_append, ← List.cons_append, List.nodup_append] at hnames
  obtain ⟨-, hnodup, hdisjoint⟩ := hnames
  exact ⟨hnodup, fun j hj hmem => hdisjoint _ hmem _ (List.mem_map_of_mem hj) rfl⟩

/-- **The other joins of a request look up one row each**, in a store with integrity. -/
theorem looksUp_extra (he : e ∈ Entity.all) (hdefined : store.Defined) (hstore : store.Integral) :
    ∀ env ∈ e.core.joinedRows store, ∀ j ∈ namedJoins e extra, j.LooksUp store env := by
  have hwf := Entity.wellFormed_of_mem e he
  obtain ⟨-, hnew⟩ := aliases_disjoint hextra hwf
  intro env henv j hj
  obtain ⟨n, -, d, hd, rfl⟩ := mem_namedJoins.1 hj
  have hmem := JoinDefs.named?_mem hd
  have hname : d.name = n := JoinDefs.named?_name hd
  have hoptional : d.required = false := by
    refine Bool.eq_false_iff.2 fun hreq => hnew _ hj (List.mem_cons_of_mem _ ?_)
    have hrequired : n ∈ e.requiredNames := hname ▸ List.mem_map_of_mem (List.mem_filter.2 ⟨hmem, hreq⟩)
    exact List.mem_map_of_mem (mem_namedJoins.2 ⟨n, Entity.requiredNames_subset hwf hrequired, d, hd, rfl⟩)
  have hlooksUp := Entity.looksUp_of_mem e he d hmem hoptional
  simp only [Entity.looksUp, Bool.and_eq_true, List.any_eq_true, beq_iff_eq] at hlooksUp
  obtain ⟨husers, t, ht, ref, href, hsource, hon⟩ := hlooksUp
  -- The table that refers to the user is one of those that are there for every request.
  have hcore : t ∈ e.core.base :: e.core.joins.map (·.table) := by
    rcases List.mem_cons.1 ht with rfl | ht
    · exact List.mem_cons_self
    · obtain ⟨k, hk, rfl⟩ := List.mem_map.1 ht
      obtain ⟨m, hm, hnamed⟩ := mem_namedJoins.1 hk
      exact List.mem_cons_of_mem _
        (List.mem_map_of_mem (mem_namedJoins.2 ⟨m, Entity.requiredNames_subset hwf hm, hnamed⟩))
  have htables : ∀ t' ∈ e.core.base :: e.core.joins.map (·.table), t'.name = t.name → t' = t :=
    fun t' ht' => hwf.eq_of_alias t (base_cons_tables_subset _ hcore) t' (base_cons_tables_subset _ ht')
  have hleft := Entity.left_core hwf
  obtain ⟨row, hrow, hlookup⟩ := (Query.drawn_joinedRows rfl hleft env henv).lookup hcore htables
  have halias : d.toJoin.table.name ∉ env.map (·.1) := by
    rw [Query.aliases_joinedRows rfl hleft env henv]
    exact hnew _ hj
  exact Store.looksUp_user hdefined hstore hon husers (hsource ▸ href) hrow hlookup halias

/-- **The joined rows of a request are those of its entity**, each with the rows that are looked up for it. -/
theorem joinedRows_planned (he : e ∈ Entity.all) (hdefined : store.Defined) (hstore : store.Integral) :
    (r.planned e facility).joinedRows store =
      (e.core.joinedRows store).map fun env => env ++ Join.lookedUp store (namedJoins e extra) env := by
  have hwf := Entity.wellFormed_of_mem e he
  have hleft : ∀ j ∈ namedJoins e extra, j.left = false := by
    intro j hj
    obtain ⟨n, -, d, hd, rfl⟩ := mem_namedJoins.1 hj
    exact hwf.inner d (JoinDefs.named?_mem hd)
  have hcore : e.core.joinedRows store =
      e.core.joins.foldl (Query.joinRows store) ((store.rows e.base.table).map fun row => [(e.base.name, row)]) := by
    rw [Query.joinedRows, Query.crossed_eq_nil rfl, List.foldl_nil]
    rfl
  rw [← Query.foldl_joinRows (aliases_disjoint hextra hwf).1 hleft (looksUp_extra hextra he hdefined hstore), hcore,
    Query.joinedRows, Query.crossed_eq_nil rfl, List.foldl_nil, joins_planned hextra, List.foldl_append]
  rfl

/-- What stands under the alias of a table of a plan does not depend on the other tables. -/
theorem lookup_planned (he : e.WellFormed) (henv : env ∈ e.core.joinedRows store) {name : String}
    (hthere : ∃ t ∈ r.plannedTables e facility, t.name = name) :
    (env ++ Join.lookedUp store (namedJoins e extra) env).lookup name =
      (env.lookup name).or ((JoinDefs.named? e.config.joins name).map fun d => d.toJoin.partner store env) := by
  rw [List.lookup_append]
  cases hfound : env.lookup name with
  | some row => rfl
  | none =>
    rw [Option.none_or, Option.none_or]
    have hdrawn := Query.drawn_joinedRows rfl (Entity.left_core he) env henv
    obtain ⟨t, ht, rfl⟩ := hthere
    have hother : t ∉ e.core.base :: e.core.joins.map (·.table) := by
      intro hcore
      have hthere := hdrawn.complete t hcore
      rw [hfound] at hthere
      cases hthere
    have hjoin : ∃ j ∈ namedJoins e extra, j.table = t := by
      rw [plannedTables, joins_planned hextra, List.map_append, ← List.cons_append] at ht
      exact List.mem_map.1 ((List.mem_append.1 ht).resolve_left hother)
    obtain ⟨j, hj, rfl⟩ := hjoin
    obtain ⟨n, -, d, hd, rfl⟩ := mem_namedJoins.1 hj
    have hname : d.toJoin.table.name = n := JoinDefs.named?_name hd
    rw [Join.lookup_lookedUp (aliases_disjoint hextra he).1 hj, hname, hd]
    rfl

end Extra

/-! ## Totals -/

/-- **What requests with the same filter refer to in their clauses is the same in their joined rows.** -/
theorem agree_planned (he : e ∈ Entity.all) (hr : r.Accepted e.config) (hr' : r'.Accepted e.config)
    (hfilter : r'.filter = r.filter) (hextra : r.joinNames e = e.coreNames ++ extra)
    (hextra' : r'.joinNames e = e.coreNames ++ extra') (henv : env ∈ e.core.joinedRows store) :
    ∀ c ∈ r.clausesIn e facility, Env.Agree (env ++ Join.lookedUp store (namedJoins e extra) env)
      (env ++ Join.lookedUp store (namedJoins e extra') env) (c.refs ++ c.lists.flatMap Members.outside) := by
  have hwf := Entity.wellFormed_of_mem e he
  have hs := Entity.stored_of_mem e he
  have hsame : r'.clausesIn e facility = r.clausesIn e facility := by rw [clausesIn, clausesIn, hfilter]
  -- A column of a clause is in scope of either plan.
  have hhas : ∀ {r : Request}, r.Accepted e.config → ∀ c ∈ r.clausesIn e facility,
      ∀ ref ∈ c.refs ++ c.lists.flatMap Members.outside, Scope.has (r.plannedTables e facility) ref = true := by
    intro r hr c hc ref href
    have hresolves := resolves_clausesIn hwf hs hr c hc
    rcases List.mem_append.1 href with href | href
    · refine Clause.has_of_resolves c hresolves (fun m hm => ?_) ref href
      exact correlated_planned he hr m (List.mem_append_right _ (Clause.mem_listsOfAll.2 ⟨c, hc, hm⟩))
    · obtain ⟨m, hm, href⟩ := List.mem_flatMap.1 href
      exact Members.has_outside (Clause.resolves_of_mem_lists c hresolves m hm) ref href
  intro c hc ref href
  have hlookup := lookup_planned hextra hwf henv (Scope.exists_of_has (hhas hr c hc ref href))
  have hlookup' := lookup_planned hextra' hwf henv (Scope.exists_of_has (hhas hr' c (hsame ▸ hc) ref href))
  rw [Env.read, Env.read, hlookup, hlookup']

/-- **Requests with the same filter have the same rows of their entity**, each with what is looked up for it, in a store
with integrity. -/
theorem exists_rowsIn (he : e ∈ Entity.all) (hdefined : store.Defined) (hstore : store.Integral)
    (hr : r.Accepted e.config) (hr' : r'.Accepted e.config) (hfilter : r'.filter = r.filter)
    (hextra : r.joinNames e = e.coreNames ++ extra) (hextra' : r'.joinNames e = e.coreNames ++ extra')
    (facility : Option String) : ∃ envs ⊆ e.core.joinedRows store,
      r.rowsIn e facility store = envs.map (fun env => env ++ Join.lookedUp store (namedJoins e extra) env) ∧
      r'.rowsIn e facility store = envs.map (fun env => env ++ Join.lookedUp store (namedJoins e extra') env) := by
  have hsame : r'.clausesIn e facility = r.clausesIn e facility := by rw [clausesIn, clausesIn, hfilter]
  have hkeeps : ∀ env ∈ e.core.joinedRows store,
      (r'.planned e facility).keeps store (env ++ Join.lookedUp store (namedJoins e extra') env) =
        (r.planned e facility).keeps store (env ++ Join.lookedUp store (namedJoins e extra) env) := by
    intro env henv
    have hholds : ∀ c ∈ r.clausesIn e facility,
        c.holds store (env ++ Join.lookedUp store (namedJoins e extra) env) =
          c.holds store (env ++ Join.lookedUp store (namedJoins e extra') env) := by
      intro c hc
      have hagree := agree_planned he hr hr' hfilter hextra hextra' henv c hc
      exact Clause.holds_of_agree (hagree.mono (List.subset_append_left _ _))
        (hagree.mono (List.subset_append_right _ _))
    rw [Query.keeps_eq_all, Query.keeps_eq_all]
    show (r'.clausesIn e facility).all _ = (r.clausesIn e facility).all _
    rw [hsame, Bool.eq_iff_iff, List.all_eq_true, List.all_eq_true]
    exact forall₂_congr fun c hc => by rw [hholds c hc]
  refine ⟨(e.core.joinedRows store).filter fun env =>
    (r.planned e facility).keeps store (env ++ Join.lookedUp store (namedJoins e extra) env),
    List.filter_sublist.subset, ?_, ?_⟩
  · rw [← matching_eq_rowsIn, Query.matching, joinedRows_planned hextra he hdefined hstore, List.filter_map]
    rfl
  · rw [← matching_eq_rowsIn, Query.matching, joinedRows_planned hextra' he hdefined hstore, List.filter_map]
    exact congrArg (List.map _) (List.filter_congr hkeeps)

/-- Requests with the same filter have the same number of rows, in a store with integrity. -/
theorem length_rowsIn (he : e ∈ Entity.all) (hdefined : store.Defined) (hstore : store.Integral)
    (hr : r.Accepted e.config) (hr' : r'.Accepted e.config) (hfilter : r'.filter = r.filter) :
    (r'.rowsIn e facility store).length = (r.rowsIn e facility store).length := by
  have hwf := Entity.wellFormed_of_mem e he
  obtain ⟨extra, hextra⟩ := exists_joinNames hwf r
  obtain ⟨extra', hextra'⟩ := exists_joinNames hwf r'
  obtain ⟨envs, -, hrows, hrows'⟩ := exists_rowsIn he hdefined hstore hr hr' hfilter hextra hextra' facility
  rw [hrows, hrows', List.length_map, List.length_map]

/-- The request for the rows of a filter that shows nothing of them. -/
def bare (f : FilterNode) : Request := { select := [], filter := f, size := 0 }

theorem accepted_bare {config : EntityConfig} {f : FilterNode} (h : FilterNode.Accepted config f) :
    (bare f).Accepted config where
  select _ hc := absurd hc List.not_mem_nil
  filter := h
  sort _ hp := absurd hp List.not_mem_nil

/-- **The total depends on the filter alone.** In a store with integrity the requests of an entity without `distinct`
that have one filter have one total, whatever columns they select and sort by, in whatever direction, and whatever
their paging.

They are answered if the cells of the store match their columns and the store takes the clauses and the numbers of the
request. It refuses a pattern that cannot be read or is overlong, a text that cannot be encoded, an integer of more
than 64 bits, too many operands and operations that are nested too deeply, all of which a request that passes its check
can have. -/
theorem total_of_filter (he : e ∈ Entity.all) (s : Service) (hdefined : s.store.Defined) (hstore : s.store.Integral)
    (facility : Option String) (filter : Json) :
    ∃ total : Nat, ∀ (maxPageSize : Json) (d : DataRequest) (r : Request),
      check e.config maxPageSize d = .ok (.ok r) → d.filter = filter → d.distinct = false →
        (∀ response, s.answer e facility maxPageSize d = .ok response → response.total = total) ∧
        (s.store.Typed → r.Taken e facility → Value.fitsStore d.paging.size = true →
          Value.fitsStore d.paging.start = true →
            ∃ response, s.answer e facility maxPageSize d = .ok response ∧ response.total = total) := by
  by_cases hread : ∃ f, FilterNode.ofJson e.config filter = .ok (.ok f)
  · obtain ⟨f, hf⟩ := hread
    have hbare : (bare f).Accepted e.config := accepted_bare (FilterNode.accepted_of_ofJson hf)
    refine ⟨((bare f).rowsIn e facility s.store).length, fun maxPageSize d r hr hfilter hd => ?_⟩
    have hsame : r.filter = f := by
      obtain ⟨-, -, sort, f', -, hf', rfl⟩ := check_eq_ok.1 hr
      rw [hfilter, hf] at hf'
      cases hf'
      rfl
    have htotal : ∀ response, s.answer e facility maxPageSize d = .ok response →
        response.total = ((bare f).rowsIn e facility s.store).length := by
      intro response h
      obtain ⟨-, -, -, htotal, -⟩ := (answer_eq_ok (p := d.paging) he hr).1 h
      rw [htotal, total_planned ((distinct_of_check hr).trans hd)]
      exact length_rowsIn he hdefined hstore hbare (accepted_of_check hr) hsame
    refine ⟨htotal, fun htyped htaken hsize hstart => ?_⟩
    have hpaging := (check_eq_ok.1 hr).2.1
    obtain ⟨response, hresponse⟩ := exists_answer (p := d.paging) he hr htyped htaken hpaging hsize hstart
    exact ⟨response, hresponse, htotal response hresponse⟩
  · refine ⟨0, fun maxPageSize d r hr hfilter _ => absurd ?_ hread⟩
    obtain ⟨-, -, sort, f, -, hf, -⟩ := check_eq_ok.1 hr
    exact ⟨f, hfilter ▸ hf⟩

/-- A meeting that two users attend, one of whom entered it. -/
def meetingOfTwo : Store where
  tables := [(TableDef.users.name, [[("id", .text "u1"), ("name", .text "Anna")],
      [("id", .text "u2"), ("name", .text "Ewa")]]),
    (TableDef.meetings.name, [[("id", .text "m1"), ("facility_id", .text "f1"), ("created_by_id", .text "u2")]]),
    (TableDef.meetingAttendants.name, [[("id", .text "a1"), ("meeting_id", .text "m1"), ("user_id", .text "u1")],
      [("id", .text "a2"), ("meeting_id", .text "m1"), ("user_id", .text "u2")]])]

/-- A request for the attendants of the meetings that a user entered. -/
def attendantsOfAuthor : DataRequest where
  columns := ["id", "date"]
  filter := .obj [("type", .str "column"), ("column", .str "createdBy.name"), ("op", .str "="), ("val", .str "Ewa")]
  paging := { size := 2 }

/-- The same request for other columns, in another order and with another paging. -/
def attendantsByNameOfAuthor : DataRequest where
  columns := ["attendant.name", "staff"]
  filter := attendantsOfAuthor.filter
  sort := [⟨"attendant.name", true⟩]
  paging := { size := 7, number := some 3 }

/-- Showing the names of attendants and sorting by them leaves the total as it is. -/
theorem total_of_filter_attendantsOfAuthor : ∃ response response' : Response,
    Service.answer { store := meetingOfTwo } Entity.meetingAttendants (some "f1") (.int 1000) attendantsOfAuthor =
      .ok response ∧
    Service.answer { store := meetingOfTwo } Entity.meetingAttendants (some "f1") (.int 50) attendantsByNameOfAuthor =
      .ok response' ∧
    response'.total = response.total := by
  have htyped : meetingOfTwo.Typed := by decide +kernel
  have hstore : meetingOfTwo.Integral := by decide +kernel
  obtain ⟨total, htotal⟩ := total_of_filter (e := Entity.meetingAttendants) (by simp [Entity.all])
    { store := meetingOfTwo } htyped.defined hstore (some "f1") attendantsOfAuthor.filter
  obtain ⟨r, hr, htaken⟩ : ∃ r, check Entity.meetingAttendants.config (.int 1000) attendantsOfAuthor = .ok (.ok r) ∧
      r.Taken Entity.meetingAttendants (some "f1") := exists_check (by decide +kernel)
  obtain ⟨r', hr', htaken'⟩ : ∃ r', check Entity.meetingAttendants.config (.int 50) attendantsByNameOfAuthor =
      .ok (.ok r') ∧ r'.Taken Entity.meetingAttendants (some "f1") := exists_check (by decide +kernel)
  obtain ⟨response, hresponse, hfirst⟩ := (htotal _ _ r hr rfl rfl).2 htyped htaken rfl rfl
  obtain ⟨response', hresponse', hsecond⟩ := (htotal _ _ r' hr' rfl rfl).2 htyped htaken' rfl rfl
  exact ⟨response, response', hresponse, hresponse', hsecond.trans hfirst.symm⟩

end Request

end TableQuery
