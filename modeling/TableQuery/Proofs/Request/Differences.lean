import TableQuery.Proofs.Column.Shown
import TableQuery.Proofs.Request.Counts

/-!
# Differences between the rows of a distinct request

A distinct request has a row of data for each group of rows, and no two groups have the same stored values in the
selected columns. Clients see less than these values, points in time without a fraction of a second and numbers without
their fraction, so that groups can look the same to them. Where nothing is lost like that, any two rows of data differ
in a selected column (`Request.differences_of_distinct`).
-/

set_option autoImplicit false

namespace TableQuery

open Sql (Env Group Query Scalar Store Value)

/-- What corresponds to different things pairwise is different, if differences are kept. -/
theorem pairwise_of_forall₂ {α β : Type} {R : α → β → Prop} {S : α → α → Prop} {T : β → β → Prop} {as : List α}
    {bs : List β} (h : List.Forall₂ R as bs) (hpairs : as.Pairwise S)
    (hkeep : ∀ a a' b b', R a b → R a' b' → S a a' → T b b') : bs.Pairwise T := by
  obtain ⟨hlength, hget⟩ := List.forall₂_iff_get.1 h
  rw [List.pairwise_iff_getElem] at hpairs ⊢
  intro i j hi hj hij
  have hi' : i < as.length := hlength ▸ hi
  have hj' : j < as.length := hlength ▸ hj
  exact hkeep _ _ _ _ (hget i hi' hi) (hget j hj' hj) (hpairs i j hi' hj' hij)

theorem Sql.Scalar.value_of_ne_rowCount {store : Store} {env : Env} {s : Scalar} (h : s ≠ .rowCount) (size : Nat) :
    s.value store env size = s.value store env 1 := by
  cases s with
  | rowCount => exact absurd rfl h
  | column r | nullTest r n | joined m => rfl

namespace Request

variable {e : Entity} {r : Request} {facility : Option String} {store : Store} {maxPageSize : Json} {d : DataRequest}
  {s : Service} {env env' : Env} {fields fields' : Fields}

/-! ## Stored and shown data -/

/-- Two joined rows have different values in some selected column of data. -/
def DifferInData (store : Store) (r : Request) (env env' : Env) : Prop :=
  ∃ c ∈ r.select, c.isData = true ∧ (c.scalar.value store env 1).compare (c.scalar.value store env' 1) ≠ .eq

instance (r : Request) (env env' : Env) : Decidable (r.DifferInData store env env') :=
  inferInstanceAs (Decidable (∃ c ∈ r.select, c.isData = true ∧
    (c.scalar.value store env 1).compare (c.scalar.value store env' 1) ≠ .eq))

theorem not_differInData_self : ¬ r.DifferInData store env env :=
  fun ⟨_, _, _, hvalues⟩ => hvalues (Value.compare_self _)

/-- A row of data shows what a joined row has in the selected columns of data. -/
def ShowsData (store : Store) (r : Request) (env : Env) (fields : Fields) : Prop :=
  ∀ c ∈ r.select, c.isData = true → ∃ j, fields.lookup c.name = some j ∧
    c.type.render (.ofValue c.type (c.scalar.value store env 1)) = .ok j

/-- Nothing of what a joined row has in the selected columns of data is lost where it is shown. -/
def ShowsAllData (store : Store) (r : Request) (env : Env) : Prop :=
  ∀ c ∈ r.select, c.isData = true → c.type.showsAllOf (c.scalar.value store env 1) = true

instance (r : Request) (env : Env) : Decidable (r.ShowsAllData store env) :=
  inferInstanceAs (Decidable (∀ c ∈ r.select, c.isData = true → c.type.showsAllOf (c.scalar.value store env 1) = true))

/-- Two rows of data show different things in some selected column of data. -/
def LookDifferent (r : Request) (fields fields' : Fields) : Prop :=
  ∃ c ∈ r.select, c.isData = true ∧ fields.lookup c.name ≠ fields'.lookup c.name

/-- Rows with different data look different, if nothing of the data is lost. -/
theorem lookDifferent_of_differInData (hshows : r.ShowsData store env fields) (hshows' : r.ShowsData store env' fields')
    (hall : r.ShowsAllData store env) (hall' : r.ShowsAllData store env') (h : r.DifferInData store env env') :
    r.LookDifferent fields fields' := by
  obtain ⟨c, hc, hdata, hvalues⟩ := h
  obtain ⟨j, hj, hrender⟩ := hshows c hc hdata
  obtain ⟨j', hj', hrender'⟩ := hshows' c hc hdata
  refine ⟨c, hc, hdata, fun hsame => hvalues ?_⟩
  obtain rfl : j = j' := Option.some.inj (hj.symm.trans (hsame.trans hj'))
  exact ColumnType.compare_of_render (hall c hc hdata) (hall' c hc hdata) hrender hrender'

/-! ## Groups -/

/-- Rows have different keys iff they have different data. -/
theorem sameKey_groupKey (hd : r.distinct = true) :
    Query.sameKey ((r.planned e facility).groupKey store env) ((r.planned e facility).groupKey store env') = false ↔
      r.DifferInData store env env' := by
  have hgroup : (r.planned e facility).groupBy = (r.select.filter (·.isData)).map (·.scalar) := if_pos hd
  rw [Query.groupKey, Query.groupKey, hgroup, List.map_map, List.map_map, Query.sameKey_map, List.all_eq_false]
  constructor
  · rintro ⟨c, hc, hvalues⟩
    obtain ⟨hc, hdata⟩ := List.mem_filter.1 hc
    exact ⟨c, hc, hdata, by simpa using hvalues⟩
  · rintro ⟨c, hc, hdata, hvalues⟩
    exact ⟨c, List.mem_filter.2 ⟨hc, hdata⟩, by simpa using hvalues⟩

/-- **No two groups have the same data.** -/
theorem pairwise_sorted (e : Entity) (facility : Option String) (store : Store) (hd : r.distinct = true)
    (hdata : ∃ c ∈ r.select, c.isData = true) :
    (((r.planned e facility).sorted store).map (·.first)).Pairwise (r.DifferInData store) := by
  have hperm : ((r.planned e facility).sorted store).Perm ((r.planned e facility).groups store) :=
    Query.sorted_perm _
  have hkeys := hperm.symm.pairwise (Query.pairwise_groups (groupBy_ne_nil hd hdata))
    fun hkeys => (Query.sameKey_comm _ _).trans hkeys
  rw [List.pairwise_map]
  exact hkeys.imp fun hkey => (sameKey_groupKey hd).1 hkey

/-- **The data of each row in scope that satisfies the filter are those of a group.** -/
theorem exists_sorted (e : Entity) (facility : Option String) (store : Store) (hd : r.distinct = true)
    (hdata : ∃ c ∈ r.select, c.isData = true) : ∀ env ∈ r.rowsIn e facility store,
      ∃ first ∈ ((r.planned e facility).sorted store).map (·.first), ¬ r.DifferInData store first env := by
  intro env henv
  rw [← matching_eq_rowsIn] at henv
  obtain ⟨g, hg, hsame⟩ := Query.exists_group (groupBy_ne_nil hd hdata) env henv
  refine ⟨g.first, List.mem_map_of_mem ((Query.sorted_perm _).mem_iff.2 hg), fun hdiffer => ?_⟩
  rw [(sameKey_groupKey hd).2 hdiffer] at hsame
  cases hsame

/-- The first row of each group is in scope and satisfies the filter. -/
theorem first_mem_rowsIn (e : Entity) (facility : Option String) (store : Store) (hd : r.distinct = true)
    (hdata : ∃ c ∈ r.select, c.isData = true) :
    ∀ g ∈ (r.planned e facility).sorted store, g.first ∈ r.rowsIn e facility store := by
  intro g hg
  rw [← matching_eq_rowsIn]
  exact Query.first_mem_matching (Or.inl (groupBy_ne_nil hd hdata)) g ((Query.sorted_perm _).mem_iff.1 hg)

theorem showsData_of_shown (he : e ∈ Entity.all) (hr : r.Accepted e.config) {size : Nat}
    (h : r.shown store env size = .ok fields) : r.ShowsData store env fields := by
  intro c hc hdata
  have hscalar : c.scalar ≠ .rowCount := fun hcount => by
    rw [((Entity.stored_of_mem e he).counts c (hr.select c hc)).2 hcount] at hdata
    cases hdata
  obtain ⟨j, hj, hlookup⟩ := lookup_shown (Entity.wellFormed_of_mem e he) hr h hc
  exact ⟨j, hlookup, Sql.Scalar.value_of_ne_rowCount hscalar size ▸ hj⟩

/-- **What tells the rows of a distinct request apart.** A distinct request that selects some data has a row of data for
each of a number of joined rows, on whatever pages. These are in scope and satisfy the filter, every other such row has
the data of one of them, and any two of them have different values in a selected column. Where nothing of their values
is lost when they are shown, any two rows of data on all pages of one size look different in a selected column. The
request is answered if the cells of the store match their columns and the store takes the clauses and the numbers of the
request. -/
theorem differences_of_distinct (he : e ∈ Entity.all) (s : Service) (facility : Option String)
    (hr : check e.config maxPageSize d = .ok (.ok r)) (hd : d.distinct = true)
    (hdata : ∃ c ∈ r.select, c.isData = true) :
    ∃ envs : List Env, (∀ env ∈ envs, env ∈ r.rowsIn e facility s.store) ∧
      (∀ env ∈ r.rowsIn e facility s.store, ∃ env' ∈ envs, ¬ r.DifferInData s.store env' env) ∧
      envs.Pairwise (r.DifferInData s.store) ∧
      (∀ p response, s.answer e facility maxPageSize { d with paging := p } = .ok response →
        response.total = envs.length ∧
          List.Forall₂ (r.ShowsData s.store) (Sql.slice p.start.toNat p.size.toNat envs) response.data) ∧
      (∀ (size : Int) (count : Nat) (responses : Nat → Response), envs.length ≤ count * size.toNat →
        (∀ n < count, s.answer e facility maxPageSize { d with paging := { size, number := some (n + 1) } } =
          .ok (responses n)) →
        List.Forall₂ (r.ShowsData s.store) envs ((List.range count).flatMap fun n => (responses n).data) ∧
          ((∀ env ∈ r.rowsIn e facility s.store, r.ShowsAllData s.store env) →
            ((List.range count).flatMap fun n => (responses n).data).Pairwise r.LookDifferent)) ∧
      (s.store.Typed → r.Taken e facility → ∀ p, pagingErrors maxPageSize p = .ok [] →
        Value.fitsStore p.size = true → Value.fitsStore p.start = true →
        ∃ response, s.answer e facility maxPageSize { d with paging := p } = .ok response) := by
  have hdistinct : r.distinct = true := (distinct_of_check hr).trans hd
  have hacc := accepted_of_check hr
  have hrows := first_mem_rowsIn e facility s.store hdistinct hdata
  have hpairs := pairwise_sorted e facility s.store hdistinct hdata
  have hshows : ∀ {gs : List Group} {data : List Fields}, gs.mapM (fun g => r.shown s.store g.first g.size) = .ok data →
      List.Forall₂ (r.ShowsData s.store) (gs.map (·.first)) data := fun h =>
    List.forall₂_map_left_iff.2 ((forall₂_of_mapM h).imp fun _ _ hshown => showsData_of_shown he hacc hshown)
  refine ⟨((r.planned e facility).sorted s.store).map (·.first), List.forall_mem_map.2 hrows,
    exists_sorted e facility s.store hdistinct hdata, hpairs, fun p response h => ?_,
    fun size count responses hall h => ?_, fun hstore htaken p hp => exists_answer he hr hstore htaken hp⟩
  · obtain ⟨-, -, -, htotal, hdata'⟩ := (answer_eq_ok he hr).1 h
    refine ⟨?_, ?_⟩
    · rw [htotal, total_of_data hdistinct hdata, List.length_map]
    · have hslice := hshows hdata'
      rwa [Sql.slice, List.map_take, List.map_drop] at hslice
  · rw [List.length_map] at hall
    have hpages := hshows (mapM_of_answers he hr hall h)
    refine ⟨hpages, fun hfull => ?_⟩
    -- Each row of data shows a row of which nothing is lost.
    have hboth := (List.forall₂_and_left _ _).2 ⟨List.forall_mem_map.2 fun g hg => hfull g.first (hrows g hg), hpages⟩
    exact pairwise_of_forall₂ hboth hpairs fun _ _ _ _ hrow hrow' =>
      lookDifferent_of_differInData hrow.2 hrow'.2 hrow.1 hrow'.1

/-- A request for the days of meetings and when they were entered, each with the number of meetings. -/
def meetingDays : DataRequest where
  columns := ["date", "createdAt", "count"]
  paging := { size := 10, number := some 1 }
  distinct := true

/-- The days of the meetings in the sample data, which were entered at a full second, look different. -/
theorem differences_of_distinct_meetingDays : ∃ (r : Request) (response : Response),
    check Entity.meetings.config (.int 1000) meetingDays = .ok (.ok r) ∧
    Service.answer { store := Entity.sampleStore } Entity.meetings (some Sample.facility) (.int 1000) meetingDays =
      .ok response ∧
    response.data.length = response.total ∧ response.data.Pairwise r.LookDifferent := by
  have he : Entity.meetings ∈ Entity.all := by simp [Entity.all]
  obtain ⟨r, hcheck, hdata, htaken, hjoins, hlength, hfull⟩ : ∃ r,
      check Entity.meetings.config (.int 1000) meetingDays = .ok (.ok r) ∧
        (∃ c ∈ r.select, c.isData = true) ∧ r.Taken Entity.meetings (some Sample.facility) ∧
        r.neededJoins Entity.meetings.config = [] ∧
        (r.plainRowsIn Entity.meetings (some Sample.facility) Entity.sampleStore).length = 5 ∧
        ∀ env ∈ r.plainRowsIn Entity.meetings (some Sample.facility) Entity.sampleStore,
          r.ShowsAllData Entity.sampleStore env := exists_check (by decide +kernel)
  rw [← rowsIn_eq_plain hjoins] at hlength hfull
  obtain ⟨envs, hrows, -, hpairs, hpage, hpages, hanswered⟩ := differences_of_distinct he
    { store := Entity.sampleStore } (some Sample.facility) hcheck rfl hdata
  obtain ⟨response, hresponse⟩ :=
    hanswered Entity.typed_sampleStore htaken meetingDays.paging (check_eq_ok.1 hcheck).2.1
    rfl rfl
  have hfew : envs.length ≤ 5 := by
    have hnodup : envs.Nodup := hpairs.imp fun hdiffer hsame => by
      subst hsame
      exact not_differInData_self hdiffer
    exact hlength ▸ (List.subperm_of_subset hnodup hrows).length_le
  obtain ⟨hshows, hdifferent⟩ := hpages 10 1 (fun _ => response) (by omega) fun n hn => by
    obtain rfl : n = 0 := Nat.lt_one_iff.1 hn
    exact hresponse
  have hdata : (List.range 1).flatMap (fun _ => response.data) = response.data := by simp
  rw [hdata] at hshows hdifferent
  exact ⟨r, response, hcheck, hresponse, hshows.length_eq.symm.trans (hpage _ response hresponse).1.symm,
    hdifferent hfull⟩

/-- What is shown depends on the names, the types and the values of the selected columns. -/
theorem shown_eq_mapM (size : Nat) : r.shown store env size =
    (r.select.map fun c => (c.name, c.type, c.scalar)).mapM fun (name, t, s) => do
      return (name, ← t.render (.ofValue t (s.value store env size))) := by
  rw [List.mapM_map]
  rfl

/-- A request for the times at which users were made. -/
def creationTimes : DataRequest where
  columns := ["createdAt"]
  paging := { size := 10, number := some 1 }
  distinct := true

/-- Two users who were made half a second apart. -/
def usersOfOneSecond : Store where
  tables := [(TableDef.users.name,
    [[("id", .text (Sample.id 'd' 1)), ("name", .text "Anna"), ("created_at", .text "2024-01-01 10:00:00.250000")],
      [("id", .text (Sample.id 'd' 2)), ("name", .text "Ewa"), ("created_at", .text "2024-01-01 10:00:00.750000")]])]

/-- What is shown of either of them. -/
def theirSecond : Fields := [("createdAt", .str "2024-01-01T10:00:00Z")]

/-- **Rows of a distinct request can look the same.** The first page of the times at which two users were made shows
one and the same second twice. -/
theorem not_lookDifferent_creationTimes : ∃ (r : Request) (response : Response),
    check Entity.users.config (.int 1000) creationTimes = .ok (.ok r) ∧ (∃ c ∈ r.select, c.isData = true) ∧
    Service.answer { store := usersOfOneSecond } Entity.users none (.int 1000) creationTimes = .ok response ∧
    response.total = 2 ∧ response.data = [theirSecond, theirSecond] ∧ ¬ response.data.Pairwise r.LookDifferent := by
  have he : Entity.users ∈ Entity.all := by simp [Entity.all]
  obtain ⟨r, hcheck, hjoins, hdata, hselect, htaken, hgroups, hread⟩ : ∃ r,
      check Entity.users.config (.int 1000) creationTimes = .ok (.ok r) ∧ r.neededJoins Entity.users.config = [] ∧
        (∃ c ∈ r.select, c.isData = true) ∧ r.select.map (fun c => (c.name, c.type, c.scalar)) =
          [("createdAt", .plain .moment, .column (Entity.user "created_at"))] ∧ r.Taken Entity.users none ∧
        ((r.plainRowsIn Entity.users none usersOfOneSecond).foldl (fun gs env => Query.addToGroups
          (((r.select.filter (·.isData)).map (·.scalar)).map fun s => s.value usersOfOneSecond env 1) env gs)
          []).length = 2 ∧
        ∀ env ∈ r.plainRowsIn Entity.users none usersOfOneSecond,
          (Cell.ofValue (.plain .moment) (env.read (Entity.user "created_at"))).renderMoment =
            .ok "2024-01-01T10:00:00Z" ∧ env.read (Entity.user "created_at") ≠ .null := exists_check (by decide +kernel)
  rw [← rowsIn_eq_plain hjoins] at hgroups hread
  have hdistinct : r.distinct = true := distinct_of_check hcheck
  have hgroup : (r.planned Entity.users none).groupBy ≠ [] := groupBy_ne_nil hdistinct hdata
  have hlength : ((r.planned Entity.users none).sorted usersOfOneSecond).length = 2 := by
    have hkeys : (r.planned Entity.users none).groupBy = (r.select.filter (·.isData)).map (·.scalar) := if_pos hdistinct
    rw [(Query.sorted_perm _).length_eq, Query.groups_grouped hgroup, List.length_map, List.length_mergeSort,
      matching_eq_rowsIn]
    simp only [Query.groupKey, hkeys]
    exact hgroups
  obtain ⟨response, hresponse⟩ := exists_answer (s := { store := usersOfOneSecond }) (p := creationTimes.paging) he
    hcheck (by decide +kernel) htaken (check_eq_ok.1 hcheck).2.1 rfl rfl
  obtain ⟨-, -, -, htotal, hshown⟩ := (answer_eq_ok he hcheck).1 hresponse
  have hsame : response.data = [theirSecond, theirSecond] := by
    have hrow : ∀ g ∈ Sql.slice 0 10 ((r.planned Entity.users none).sorted usersOfOneSecond), ∀ fields,
        r.shown usersOfOneSecond g.first g.size = .ok fields → fields = theirSecond := by
      intro g hg fields hfields
      have hfirst := first_mem_rowsIn Entity.users none _ hdistinct hdata g (Sql.slice_subset _ _ _ hg)
      obtain ⟨hmoment, hnull⟩ := hread g.first hfirst
      rw [shown_eq_mapM, hselect] at hfields
      simp only [List.mapM_cons, List.mapM_nil, Scalar.value, ColumnType.render, Cell.isMissing_ofValue hnull,
        Bool.false_eq_true, ↓reduceIte, ColumnType.kind, Kind.render, hmoment] at hfields
      exact (Except.ok.inj hfields).symm
    have hrows := map_of_mapM (h := id) hrow hshown
    rwa [List.map_id, List.map_const', Sql.length_slice, hlength] at hrows
  refine ⟨r, response, hcheck, hdata, hresponse, ?_, hsame, ?_⟩
  · rw [htotal, total_of_data hdistinct hdata, hlength]
  · rw [hsame]
    intro hpairs
    obtain ⟨c, -, -, hdiffer⟩ := List.rel_of_pairwise_cons hpairs (List.mem_singleton_self _)
    exact hdiffer rfl

end Request

end TableQuery
