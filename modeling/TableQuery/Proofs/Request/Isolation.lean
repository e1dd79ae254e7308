import TableQuery.Proofs.Filter.Lists
import TableQuery.Proofs.Request.Scope
import TableQuery.Proofs.Request.Totals
import TableQuery.Proofs.Sql.Patterns

/-!
# Requests do not see other facilities

A request in the name of a facility gives the same response in two stores that differ in data of other
facilities only, if it does not refer to the groups of clients, or if these are the same
(`Request.run_isolated`). The groups of a client are looked up by the user alone, who may be a client of several
facilities, so that a request for them shows groups of other facilities (`Request.run_not_isolated_groups`).

Whether the request can be run at all is the same in both stores if its patterns can be used; a pattern that
cannot be used may be reached in rows of other facilities, before they are left out.
-/

set_option autoImplicit false

namespace TableQuery

open Sql (Clause Condition Env Members Query Ref Row SameLists Store Table Value)

namespace Request

variable {e : Entity} {r : Request} {scope : Ref} {facility : String} {store store' : Store}

/-! ## Lists in rows of the facility -/

section Lists

variable {env : Env}

/-- A guarded list has the same members in both stores. -/
theorem values_of_isGuarded {home : String} {m : Members} (hsame : store.partOf facility = store'.partOf facility)
    (henv : env.IsOf store facility scope home) (henv' : env.IsOf store' facility scope home)
    (hm : m.isGuarded scope home = true) : m.values store env = m.values store' env := by
  simp only [Members.isGuarded, Bool.and_eq_true, bne_iff_ne] at hm
  obtain ⟨⟨⟨hknown, hname⟩, -⟩, hguards⟩ := hm
  rw [← Members.values_partOf henv hknown hname hguards, hsame, Members.values_partOf henv' hknown hname hguards]

/-- The row of the users in a row in scope is that of a client, if the entity has groups of clients. -/
theorem exists_client (he : e.WellFormed) (hc : e.Confined scope) (hr : r.Accepted e.config) {c : ColumnDef}
    (hmem : c ∈ e.config.columns) (hgroups : Entity.clientGroups ∈ c.scalar.lists)
    (henv : env ∈ (r.planned e (some facility)).joinedRows store)
    (hof : env.IsOf store facility scope (e.home scope)) :
    ∃ user ∈ store.rows TableDef.users.name, env.read (Entity.user "id") = Row.cell user "id" ∧
      store.isClient facility user = true := by
  obtain ⟨rfl, hbase, hjoins⟩ := hc.groups c hmem hgroups
  have hmembers : Entity.membersJoin.toJoin ∈ (r.planned e (some facility)).joins :=
    mem_joins_of_required he hr (hjoins Entity.membersJoin (by simp)) rfl
  have hclients : Entity.clientJoin.toJoin ∈ (r.planned e (some facility)).joins :=
    mem_joins_of_required he hr (hjoins Entity.clientJoin (by simp)) rfl
  have hdrawn := Query.drawn_joinedRows rfl (left_planned he) env henv
  have hlookup : ∀ t ∈ r.plannedTables e (some facility),
      ∃ row ∈ store.rows t.table, env.lookup t.name = some row :=
    fun t ht => hdrawn.lookup ht fun t' ht' => plannedTables_inj he ht ht'
  obtain ⟨user, huser, hulookup⟩ := hlookup e.base List.mem_cons_self
  obtain ⟨m, hm, hmlookup⟩ := hlookup _ (List.mem_cons_of_mem _ (List.mem_map_of_mem hmembers))
  obtain ⟨client, hclient, hclookup⟩ := hlookup _ (List.mem_cons_of_mem _ (List.mem_map_of_mem hclients))
  have huserMember := Query.joined_same rfl (left_planned he) env henv _ hmembers _ _ (List.mem_singleton_self _)
  have hclientMember := Query.joined_same rfl (left_planned he) env henv _ hclients _ _ (List.mem_singleton_self _)
  rw [hbase] at huser hulookup
  obtain ⟨o, -, holookup, hoof⟩ := hof
  -- The membership under the alias of the join is the row that the scope is a column of.
  obtain rfl : m = o := Option.some.inj (hmlookup.symm.trans holookup)
  have hread : ∀ (ref : Ref) (row : Row), env.lookup ref.source = some row →
      env.read ref = Row.cell row ref.column :=
    fun _ _ h => Sql.Env.read_eq_cell h
  rw [Condition.truth, hread _ m hmlookup, hread _ user hulookup] at huserMember
  rw [Condition.truth, hread _ client hclookup, hread _ m hmlookup] at hclientMember
  refine ⟨user, huser, hread _ user hulookup, List.any_eq_true.2 ⟨m, hm, ?_⟩⟩
  rw [Bool.and_eq_true, Bool.and_eq_true]
  exact ⟨⟨hoof, beq_iff_eq.2 huserMember⟩, List.any_eq_true.2 ⟨client, hclient, beq_iff_eq.2 hclientMember⟩⟩

/-- **In rows of the facility the list of a column has the same members in both stores**, if groups of clients
do. -/
theorem sameLists_column (he : e.WellFormed) (hc : e.Confined scope) (hr : r.Accepted e.config)
    (hsame : store.partOf facility = store'.partOf facility) {c : ColumnDef} (hmem : c ∈ e.config.columns)
    (hgroups : c.name = "groups" → Store.SameGroups facility store store')
    (henv : env ∈ (r.planned e (some facility)).joinedRows store)
    (hof : env.IsOf store facility scope (e.home scope))
    (hof' : env.IsOf store' facility scope (e.home scope)) : SameLists store store' env c.scalar.lists := by
  intro m hm
  rcases hc.lists c hmem m hm with hguarded | ⟨hname, rfl⟩
  · exact values_of_isGuarded hsame hof hof' hguarded
  · obtain ⟨user, huser, hread, hclient⟩ := exists_client he hc hr hmem hm henv hof
    rw [Members.values_clientGroups, Members.values_clientGroups, hread]
    exact hgroups hname user huser hclient

theorem sameLists_nil (hc : e.Confined scope) {c : ColumnDef} (hmem : c ∈ e.config.columns) :
    SameLists store store' [] c.scalar.lists := by
  intro m hm
  have hparent : m.parent.source ≠ m.table.name := by
    rcases hc.lists c hmem m hm with hguarded | ⟨-, rfl⟩
    · simp only [Members.isGuarded, Bool.and_eq_true, bne_iff_ne] at hguarded
      exact hguarded.1.2
    · decide
  rw [Members.values_nil hparent, Members.values_nil hparent]

end Lists

/-! ## Plans in both stores -/

theorem mem_valueLists_planned {f : Option String} {m : Members} (h : m ∈ (r.planned e f).valueLists) :
    ∃ c ∈ r.select ++ r.filter.columns ++ r.sort.map (·.1), m ∈ c.scalar.lists := by
  obtain ⟨s, hs, hm⟩ := List.mem_flatMap.1 h
  rw [List.mem_append, List.mem_append] at hs
  rcases hs with (hs | hs) | hs
  · obtain ⟨p, hp, rfl⟩ := List.mem_map.1 hs
    obtain ⟨c, hc, rfl⟩ := List.mem_map.1 hp
    exact ⟨c, by simp [hc], hm⟩
  · have hs : s ∈ r.select.map (·.scalar) := by
      change s ∈ (if r.distinct then (r.select.filter (·.isData)).map (·.scalar) else []) at hs
      split at hs
      · obtain ⟨c, hc, rfl⟩ := List.mem_map.1 hs
        exact List.mem_map_of_mem (List.mem_filter.1 hc).1
      · cases hs
    obtain ⟨c, hc, rfl⟩ := List.mem_map.1 hs
    exact ⟨c, by simp [hc], hm⟩
  · obtain ⟨p, hp, rfl⟩ := List.mem_map.1 hs
    obtain ⟨q, hq, rfl⟩ := List.mem_map.1 hp
    exact ⟨q.1, by simp [List.mem_map_of_mem hq], hm⟩

/-- **Stores that differ in data of other facilities only look alike to the plan of a request**, if groups of
clients are the same or not referred to. -/
theorem alike_planned (he : e.WellFormed) (hc : e.Confined scope) (hscope : e.scope = some scope)
    (hr : r.Accepted e.config) (hsame : store.partOf facility = store'.partOf facility)
    (hgroups : (∃ c ∈ r.columns, c.name = "groups") → Store.SameGroups facility store store') :
    Query.Alike store store' (r.planned e (some facility)) := by
  have hcolumns : ∀ c ∈ r.select ++ r.filter.columns ++ r.sort.map (·.1), c ∈ e.config.columns ∧
      (c.name = "groups" → Store.SameGroups facility store store') := by
    intro c hmem
    refine ⟨?_, fun hname => ?_⟩
    · rw [List.mem_append, List.mem_append] at hmem
      rcases hmem with (hmem | hmem) | hmem
      · exact hr.select c hmem
      · exact hr.filter.mem_columns c hmem
      · obtain ⟨p, hp, rfl⟩ := List.mem_map.1 hmem
        exact hr.sort p hp
    · obtain ⟨c', hc', hname'⟩ := exists_mem_firstUses hmem [] List.not_mem_nil
      exact hgroups ⟨c', hc', hname'.trans hname⟩
  -- A row in scope that is in the part of the facility is one of the facility in either store.
  have hrows : ∀ env ∈ (r.planned e (some facility)).joinedRows (store.partOf facility),
      (e.scopeClauses (some facility)).all (·.holds store env) = true →
        env ∈ (r.planned e (some facility)).joinedRows store ∧ env.IsOf store facility scope (e.home scope) ∧
          env.IsOf store' facility scope (e.home scope) := by
    intro env henv hin
    have hin' : (e.scopeClauses (some facility)).all (·.holds store' env) = true := by
      rwa [scopeClauses_eq hscope] at hin ⊢
    have henv' := hsame ▸ henv
    rw [joinedRows_partOf he hc] at henv henv'
    exact ⟨(List.mem_filter.1 henv).1, isOf_of_inScope he hc hscope (List.mem_filter.1 henv).1 hin,
      isOf_of_inScope he hc hscope (List.mem_filter.1 henv').1 hin'⟩
  have hlists : ∀ env ∈ (r.planned e (some facility)).joinedRows (store.partOf facility),
      (e.scopeClauses (some facility)).all (·.holds store env) = true →
        ∀ c ∈ r.select ++ r.filter.columns ++ r.sort.map (·.1), SameLists store store' env c.scalar.lists := by
    intro env henv hin c hmem
    obtain ⟨hjoined, hof, hof'⟩ := hrows env henv hin
    exact sameLists_column he hc hr hsame (hcolumns c hmem).1 (hcolumns c hmem).2 hjoined hof hof'
  have hkeeps : ∀ env ∈ (r.planned e (some facility)).joinedRows (store.partOf facility),
      (r.planned e (some facility)).keeps store env = (r.planned e (some facility)).keeps store' env := by
    intro env henv
    have hclauses : ∀ s, (r.planned e (some facility)).keeps s env =
        ((e.scopeClauses (some facility)).all (·.holds s env) && (r.filter.clause false).holds s env) :=
      fun s => (Query.keeps_eq_all env).trans (all_clausesIn env)
    have hscopes : (e.scopeClauses (some facility)).all (·.holds store' env) =
        (e.scopeClauses (some facility)).all (·.holds store env) := by
      rw [scopeClauses_eq hscope]
      rfl
    rw [hclauses, hclauses, hscopes]
    cases hin : (e.scopeClauses (some facility)).all (·.holds store env) with
    | false => rfl
    | true =>
      obtain ⟨-, hof, hof'⟩ := hrows env henv hin
      have hfilter : SameLists store store' env (r.filter.clause false).lists :=
        FilterNode.sameLists_clause hr.filter he.suits (fun c hmem => hlists env henv hin c (by simp [hmem]))
          (fun d hd => ⟨he.searches d hd, fun cs m hm => by
            rw [List.mem_singleton.1 hm]
            exact values_of_isGuarded hsame hof hof' (hc.customFilters d hd)⟩) false
      rw [Clause.holds_congr hfilter]
  constructor
  · rw [matching_planned he hc hscope, matching_planned he hc hscope, ← hsame]
    exact List.filter_congr hkeeps
  · intro env henv m hm
    obtain ⟨c, hmem, hm⟩ := mem_valueLists_planned hm
    rcases henv with henv | rfl
    · rw [matching_planned he hc hscope] at henv
      obtain ⟨hjoined, hkept⟩ := List.mem_filter.1 henv
      exact hlists env hjoined (inScope_of_keeps hkept) c hmem m hm
    · exact sameLists_nil hc (hcolumns c hmem).1 m hm

/-! ## Responses -/

/-- Stores that look alike to a query give the same response, unless a pattern that cannot be used is reached in
one of them. -/
theorem fetch_congr {columns : List ColumnDef} {q : Query} (h : Query.Alike store store' q) (hloose : q.loose = [])
    (hbad : q.reachesBad TableDef.indexes store = q.reachesBad TableDef.indexes store') :
    fetch store columns q = fetch store' columns q := by
  unfold fetch Query.canRun
  rw [h.rows_eq, h.total_eq hloose, hbad]

/-- Two responses to a query are the same in stores that look alike. -/
theorem fetch_unique {columns : List ColumnDef} {q : Query} (h : Query.Alike store store' q) (hloose : q.loose = [])
    {response response' : Response} (hfetch : fetch store columns q = some response)
    (hfetch' : fetch store' columns q = some response') : response = response' := by
  unfold fetch at hfetch hfetch'
  rw [h.rows_eq, h.total_eq hloose] at hfetch
  split at hfetch
  · split at hfetch'
    · split at hfetch
      next data hdata =>
        rw [hdata] at hfetch'
        rw [← Option.some.inj hfetch, ← Option.some.inj hfetch']
      next => cases hfetch
    · cases hfetch'
  · cases hfetch

/-- **A response depends on the data that the facility may see only**, and on the groups of its clients if it
refers to them. Whether there is one depends on nothing else either, if the patterns of the filter can be used.
-/
theorem run_isolated (he : e ∈ Entity.all) (hscoped : e.isScoped = true)
    (hsame : store.partOf facility = store'.partOf facility) {maxPageSize : Json} {d : DataRequest}
    (hr : check e.config maxPageSize d = .ok (.ok r))
    (hgroups : (∃ c ∈ r.columns, c.name = "groups") → Store.SameGroups facility store store') (debug : Bool) :
    (∀ response response', r.run store debug e (some facility) = .ok response →
      r.run store' debug e (some facility) = .ok response' → response = response') ∧
    ((r.filter.clause false).isUsable = true →
      r.run store debug e (some facility) = r.run store' debug e (some facility)) := by
  obtain ⟨scope, hscope⟩ := Option.isSome_iff_exists.1 hscoped
  have hwf := Entity.wellFormed_of_mem e he
  have hacc := accepted_of_check hr
  have halike := alike_planned hwf (Entity.confined_of_mem e he scope hscope) hscope hacc hsame hgroups
  rw [run_eq hwf hacc, run_eq hwf hacc]
  constructor
  · intro response response' hrun hrun'
    cases hfetch : fetch store r.select (r.planned e (some facility)) with
    | none => rw [hfetch] at hrun; cases hrun
    | some a =>
      cases hfetch' : fetch store' r.select (r.planned e (some facility)) with
      | none => rw [hfetch'] at hrun'; cases hrun'
      | some b =>
        rw [hfetch] at hrun
        rw [hfetch'] at hrun'
        rw [← Except.ok.inj hrun, ← Except.ok.inj hrun']
        exact fetch_unique halike rfl hfetch hfetch'
  · intro husable
    have hclauses : ∀ c ∈ (r.planned e (some facility)).clauses, c.isUsable = true := by
      intro c hmem
      rcases List.mem_append.1 hmem with hmem | hmem
      · rw [scopeClauses_eq hscope, List.mem_singleton] at hmem
        rw [hmem]
        rfl
      · split at hmem
        · cases hmem
        · rwa [List.mem_singleton.1 hmem]
    rw [fetch_congr halike rfl]
    rw [Query.reachesBad_eq_false store hclauses, Query.reachesBad_eq_false store' hclauses]

/-! ## Two facilities -/

def storeOf (rows : List Sample.NewRow) : Store :=
  rows.foldl (fun store (t, fields) => (store.insert t fields).toOption.getD store) {}

/-- A client of the first of two facilities, who has a client record for the other one as well. -/
def firstData : List Sample.NewRow :=
  [Sample.texts .facilities [("id", Sample.id 'f' 1), ("name", "One"), ("url", "one")],
    Sample.texts .facilities [("id", Sample.id 'f' 2), ("name", "Two"), ("url", "two")],
    Sample.texts .users [("id", Sample.id 'd' 1), ("name", "Anna")],
    Sample.texts .clients [("id", Sample.id 'c' 1)], Sample.texts .clients [("id", Sample.id 'c' 2)],
    Sample.texts .members [("id", Sample.id '1' 1), ("user_id", Sample.id 'd' 1), ("facility_id", Sample.id 'f' 1),
      ("client_id", Sample.id 'c' 1)]]

/-- The data of the other facility: the user is a client there and attends a meeting. -/
def secondData : List Sample.NewRow :=
  [Sample.texts .members [("id", Sample.id '1' 2), ("user_id", Sample.id 'd' 1), ("facility_id", Sample.id 'f' 2),
      ("client_id", Sample.id 'c' 2)],
    Sample.texts .meetings [("id", Sample.id '3' 2), ("facility_id", Sample.id 'f' 2), ("date", "2024-01-15"),
      ("created_by_id", Sample.id 'd' 1)],
    Sample.texts .meetingAttendants [("id", Sample.id '4' 2), ("meeting_id", Sample.id '3' 2),
      ("user_id", Sample.id 'd' 1)],
    Sample.texts .clientGroups [("id", Sample.id '6' 2), ("facility_id", Sample.id 'f' 2), ("name", "Family")]]

/-- The user is a member of a group of the other facility. -/
def secondMembership : List Sample.NewRow :=
  [Sample.texts .clientGroupMembers [("id", Sample.id '7' 2), ("client_group_id", Sample.id '6' 2),
    ("user_id", Sample.id 'd' 1)]]

def clientsWithGroups : DataRequest where
  columns := ["id", "groups"]
  paging := { size := 10 }

/-- The data of the other facility leaves the response as it is. -/
theorem run_isolated_clientsWithGroups :
    ∃ r, check Entity.clients.config (.int 1000) clientsWithGroups = .ok (.ok r) ∧
    r.run (storeOf firstData) false Entity.clients (some (Sample.id 'f' 1)) =
      r.run (storeOf (firstData ++ secondData)) false Entity.clients (some (Sample.id 'f' 1)) := by
  obtain ⟨r, hr, husable⟩ := (Option.any_eq_true _ _).1 (show (checked? Entity.clients.config (.int 1000)
    clientsWithGroups).any (fun r => (r.filter.clause false).isUsable) = true by decide +kernel)
  have hsame : (storeOf firstData).partOf (Sample.id 'f' 1) =
      (storeOf (firstData ++ secondData)).partOf (Sample.id 'f' 1) := congrArg Store.mk (by decide +kernel)
  have hgroups : Store.SameGroups (Sample.id 'f' 1) (storeOf firstData) (storeOf (firstData ++ secondData)) := by
    decide +kernel
  exact ⟨r, checked?_eq_some.1 hr, (run_isolated (by simp [Entity.all]) rfl hsame (checked?_eq_some.1 hr)
    (fun _ => hgroups) false).2 husable⟩

/-- The response to a query for a single row, which needs no sorting. -/
def soleResponse? (store : Store) (columns : List ColumnDef) (q : Query) : Option Response :=
  if q.resolves && q.canRun TableDef.indexes store && (q.groups store).length == 1 then
    match ((q.page (q.groups store)).map (q.shape store)).mapM (shape columns) with
    | .ok data => some ⟨columns.map (·.name), q.total store, data⟩
    | .error _ => none
  else none

theorem fetch_of_soleResponse {columns : List ColumnDef} {q : Query} {response : Response}
    (h : soleResponse? store columns q = some response) : fetch store columns q = some response := by
  unfold soleResponse? at h
  split at h
  next hruns =>
    rw [Bool.and_eq_true, beq_iff_eq] at hruns
    obtain ⟨g, hg⟩ := List.length_eq_one_iff.1 hruns.2
    have hrows : q.rows store = (q.page (q.groups store)).map (q.shape store) := by
      rw [Query.rows, Query.sorted, hg, List.map_cons, List.map_nil, List.mergeSort_singleton]
      rfl
    rw [fetch, if_pos hruns.1, hrows]
    exact h
  next => cases h

theorem joinNames_clients (h : r.neededJoins Entity.clients.config = ["members", "clients"]) :
    r.joinNames Entity.clients = ["members", "clients"] := by
  have hmembers : JoinDefs.named? Entity.clients.config.joins "members" = some Entity.membersJoin := by
    decide +kernel
  have hclients : JoinDefs.named? Entity.clients.config.joins "clients" = some Entity.clientJoin := by
    decide +kernel
  rw [joinNames, h, JoinDefs.reachAll, JoinDefs.reach_of_subset hmembers (by simp) (by simp) (List.nil_subset _)]
  dsimp only
  rw [List.nil_append, JoinDefs.reachAll,
    JoinDefs.reach_of_subset hclients (by simp) (by simp) (List.Subset.refl ["members"])]
  dsimp only
  rw [JoinDefs.reachAll]
  rfl

/-- The groups in the rows of a response, as they are displayed. -/
def groupTexts (response : Response) : List String := response.data.map fun row => (row.value "groups").display

/-- **A group of another facility is shown.** The two stores differ in a membership in that group only. -/
theorem run_not_isolated_groups : ∃ r response response',
    (storeOf (firstData ++ secondData)).partOf (Sample.id 'f' 1) =
      (storeOf (firstData ++ secondData ++ secondMembership)).partOf (Sample.id 'f' 1) ∧
    check Entity.clients.config (.int 1000) clientsWithGroups = .ok (.ok r) ∧
    r.run (storeOf (firstData ++ secondData)) false Entity.clients (some (Sample.id 'f' 1)) = .ok response ∧
    r.run (storeOf (firstData ++ secondData ++ secondMembership)) false Entity.clients (some (Sample.id 'f' 1)) =
      .ok response' ∧ response ≠ response' := by
  have hsame : (storeOf (firstData ++ secondData)).partOf (Sample.id 'f' 1) =
      (storeOf (firstData ++ secondData ++ secondMembership)).partOf (Sample.id 'f' 1) :=
    congrArg Store.mk (by decide +kernel)
  have hresponses : (checked? Entity.clients.config (.int 1000) clientsWithGroups).any (fun r =>
      r.neededJoins Entity.clients.config == ["members", "clients"] &&
      let q := (r.unjoined Entity.clients (some (Sample.id 'f' 1))).withJoined Entity.clients.config.joins
        ["members", "clients"]
      (soleResponse? (storeOf (firstData ++ secondData)) r.select q).any fun response =>
        (soleResponse? (storeOf (firstData ++ secondData ++ secondMembership)) r.select q).any fun response' =>
          groupTexts response != groupTexts response') = true := by decide +kernel
  obtain ⟨r, hr, hdiffer⟩ := (Option.any_eq_true _ _).1 hresponses
  have hcheck := checked?_eq_some.1 hr
  have hwf := Entity.wellFormed_of_mem Entity.clients (by simp [Entity.all])
  rw [Bool.and_eq_true, beq_iff_eq] at hdiffer
  obtain ⟨hneeded, hdiffer⟩ := hdiffer
  rw [← joinNames_clients hneeded] at hdiffer
  obtain ⟨response, hsole, hdiffer⟩ := (Option.any_eq_true _ _).1 hdiffer
  obtain ⟨response', hsole', hdiffer⟩ := (Option.any_eq_true _ _).1 hdiffer
  refine ⟨r, response, response', hsame, hcheck, ?_, ?_, fun heq => ?_⟩
  · rw [run_eq hwf (accepted_of_check hcheck), planned, fetch_of_soleResponse hsole]
    rfl
  · rw [run_eq hwf (accepted_of_check hcheck), planned, fetch_of_soleResponse hsole']
    rfl
  · rw [heq, bne_self_eq_false] at hdiffer
    cases hdiffer

end Request

end TableQuery
