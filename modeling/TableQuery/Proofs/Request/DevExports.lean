import TableQuery.Proofs.Request.Exports
import TableQuery.Proofs.Request.Row

/-!
# Exports in the development mode

In the development mode an export also asks for the data columns that the request leaves out, lists aside where the rows
have to be different (`Request.widened`). In a store with integrity it goes through the same rows
(`Request.exists_rows_widened`). Where the other columns tell no rows apart that the selected ones do not, the groups
are the same too (`Request.exists_pairs_widened`), and the selected columns of the table have what they have without the
development mode (`Service.devExport_perm`).
-/

set_option autoImplicit false

namespace TableQuery

open Sql (Env Group Query Store Value)

/-- What belongs to the parts of pairs is the same in some order, if it is for each pair. -/
theorem perm_of_pairs {α β : Type} {R R' : α → β → Prop} {f : β → β} {pairs : List (α × α)} {xs xs' : List α}
    {ys ys' : List β} (hxs : xs.Perm (pairs.map (·.1))) (hxs' : xs'.Perm (pairs.map (·.2))) (h : List.Forall₂ R xs ys)
    (h' : List.Forall₂ R' xs' ys') (hsame : ∀ p ∈ pairs, ∀ y y', R p.1 y → R' p.2 y' → f y' = y) :
    (ys'.map f).Perm ys := by
  obtain ⟨zs, hzs, hperm⟩ := List.perm_comp_forall₂ hxs.symm h
  obtain ⟨zs', hzs', hperm'⟩ := List.perm_comp_forall₂ hxs'.symm h'
  have hmap : zs'.map f = zs := by
    clear hxs hxs' hperm hperm'
    induction pairs generalizing zs zs' with
    | nil =>
      cases hzs
      cases hzs'
      rfl
    | cons p pairs ih =>
      obtain ⟨y, zs, hy, hrest, rfl⟩ := List.forall₂_cons_left_iff.1 hzs
      obtain ⟨y', zs', hy', hrest', rfl⟩ := List.forall₂_cons_left_iff.1 hzs'
      obtain ⟨hp, hsame⟩ := List.forall_mem_cons.1 hsame
      rw [List.map_cons, hp y y' hy hy', ih hsame zs hrest zs' hrest']
  exact (hperm'.symm.map f).trans (hmap ▸ hperm)

namespace Request

variable {e : Entity} {r r' : Request} {facility : Option String} {store : Store} {bound : Json} {d : DataRequest}
  {noLists : Bool} {c : ColumnDef}

/-! ## Requests for more columns -/

/-- The data columns that a request leaves out, with lists or without. -/
def others (e : Entity) (noLists : Bool) (r : Request) : List ColumnDef :=
  (e.config.dataBut (r.select.map (·.name))).filter fun c => !(noLists && c.type.isList)

/-- The request for these columns as well. -/
def widened (e : Entity) (noLists : Bool) (r : Request) : Request := { r with select := r.select ++ r.others e noLists }

theorem mem_others : c ∈ r.others e noLists ↔
    (c ∈ e.config.columns ∧ c.isData = true ∧ c.name ∉ r.select.map (·.name)) ∧
      (noLists = true → c.type.isList = false) := by
  rw [others, EntityConfig.dataBut, List.mem_filter, List.mem_filter]
  cases c.type.isList <;> simp

/-- A request that passes its check passes it with the other columns, lists aside where the rows have to be
different. -/
theorem check_widened (hnames : (e.config.columns.map (·.name)).Nodup) (hr : check e.config bound d = .ok (.ok r))
    (hnoLists : d.distinct = true → noLists = true) :
    check e.config bound { d with columns := d.columns ++ (r.others e noLists).map (·.name) } =
      .ok (.ok (r.widened e noLists)) := by
  have hselected : r.select.map (·.name) = d.columns := names_of_check hr
  obtain ⟨herrors, hpaging, sort, f, hsort, hfilter, hrequest⟩ := check_eq_ok.1 hr
  obtain ⟨-, hnodup, hselect⟩ := columns_of_ofNames herrors
  have hselect : ∀ c ∈ r.select, c ∈ e.config.columns ∧ Selectable d.distinct c := by rwa [hrequest]
  have hall : ∀ c ∈ r.select ++ r.others e noLists, c ∈ e.config.columns ∧ Selectable d.distinct c := by
    refine List.forall_mem_append.2 ⟨hselect, fun c hc => ?_⟩
    obtain ⟨⟨hmem, hdata, -⟩, hlist⟩ := mem_others.1 hc
    exact ⟨hmem, fun hcount => absurd (hcount.symm.trans hdata) Bool.false_ne_true, fun hd => hlist (hnoLists hd)⟩
  have hdifferent : ((r.select ++ r.others e noLists).map (·.name)).Nodup := by
    rw [List.map_append, List.nodup_append]
    refine ⟨hselected ▸ hnodup, ?_, fun a ha b hb hab => ?_⟩
    · exact ((List.filter_sublist.trans List.filter_sublist).map _).nodup hnames
    · obtain ⟨c, hc, rfl⟩ := List.mem_map.1 hb
      exact (mem_others.1 hc).1.2.2 (hab ▸ ha)
  have hselection : Selection.ofNames e.config d.distinct (d.columns ++ (r.others e noLists).map (·.name)) =
      { columns := r.select ++ r.others e noLists } := by
    rw [← hselected, ← List.map_append]
    exact ofNames_of_selects (selects_of_selectable hnames [] _ hall hdifferent)
  refine check_eq_ok.2 ⟨?_, hpaging, sort, f, ?_, hfilter, ?_⟩
  · rw [hselection]
  · rw [hselection]
    rw [checkSort_eq_ok] at hsort ⊢
    refine hsort.imp fun item s ⟨hcolumn, hsortable, hdesc⟩ => ⟨hcolumn, ?_, hdesc⟩
    refine ⟨hsortable.count, hsortable.kind, fun hd => ?_⟩
    obtain ⟨k, hk, hname⟩ := hsortable.selected hd
    exact ⟨k, List.mem_append_left _ (by rwa [hrequest]), hname⟩
  · rw [hselection, widened, hrequest]

/-! ## The same groups -/

/-- **A request and the request for more columns go through the same rows** in a store with integrity, each with what is
looked up for it, and the selected columns have the same values in them. -/
theorem exists_rows_widened (he : e ∈ Entity.all) (hdefined : store.Defined) (hstore : store.Integral)
    (hr : r.Accepted e.config) (hr' : (r.widened e noLists).Accepted e.config) (facility : Option String) :
    ∃ (envs : List Env) (f f' : Env → Env), r.rowsIn e facility store = envs.map f ∧
      (r.widened e noLists).rowsIn e facility store = envs.map f' ∧
      ∀ env ∈ envs, ∀ c ∈ r.select, ∀ size, c.scalar.value store (f env) size = c.scalar.value store (f' env) size := by
  have hwf := Entity.wellFormed_of_mem e he
  obtain ⟨extra, hextra⟩ := exists_joinNames hwf r
  obtain ⟨extra', hextra'⟩ := exists_joinNames hwf (r.widened e noLists)
  obtain ⟨envs, hsub, hrows, hrows'⟩ := exists_rowsIn he hdefined hstore hr hr' rfl hextra hextra' facility
  refine ⟨envs, _, _, hrows, hrows', fun env henv c hc size => ?_⟩
  have hselected : c ∈ r.select ++ r.filter.columns ++ r.sort.map (·.1) :=
    List.mem_append_left _ (List.mem_append_left _ hc)
  have hselected' : c ∈ r.select ++ r.others e noLists ++ r.filter.columns ++ r.sort.map (·.1) :=
    List.mem_append_left _ (List.mem_append_left _ (List.mem_append_left _ hc))
  exact value_planned he hr hr' hextra hextra' (hsub henv) (hr.select c hc) hselected hselected' size

/-- **The other columns tell no rows apart** that the selected ones do not, of which there are some. -/
structure OthersAgree (e : Entity) (facility : Option String) (store : Store) (noLists : Bool) (r : Request) :
    Prop where
  data : ∃ c ∈ r.select, c.isData = true
  agree : ∀ env ∈ (r.widened e noLists).rowsIn e facility store, ∀ env' ∈ (r.widened e noLists).rowsIn e facility store,
    (r.widened e noLists).DifferInData store env env' → r.DifferInData store env env'

/-- **A request and the request for more columns have the same groups**, in a store with integrity: those of either come
in pairs that have the same values in the selected columns. -/
theorem exists_pairs_widened (he : e ∈ Entity.all) (hdefined : store.Defined) (hstore : store.Integral)
    (hr : check e.config bound d = .ok (.ok r)) {d' : DataRequest}
    (hr' : check e.config bound d' = .ok (.ok (r.widened e noLists)))
    (hsame : d.distinct = true → r.OthersAgree e facility store noLists) : ∃ pairs : List (Group × Group),
      ((r.planned e facility).groups store).Perm (pairs.map (·.1)) ∧
      (((r.widened e noLists).planned e facility).groups store).Perm (pairs.map (·.2)) ∧
      ∀ p ∈ pairs, ∀ c ∈ r.select,
        c.scalar.value store p.1.first p.1.size = c.scalar.value store p.2.first p.2.size := by
  have hs := Entity.stored_of_mem e he
  have hacc := accepted_of_check hr
  have hacc' := accepted_of_check hr'
  have hd : r.distinct = d.distinct := distinct_of_check hr
  obtain ⟨envs, f, f', hrows, hrows', hvalue⟩ := exists_rows_widened he hdefined hstore hacc hacc' facility
  have halike : Query.GroupAlike store (r.planned e facility) ((r.widened e noLists).planned e facility) envs f f' := by
    cases hdistinct : r.distinct with
    | false =>
      have hcount : ∀ {r : Request} {d : DataRequest}, check e.config bound d = .ok (.ok r) → r.distinct = false →
          (r.planned e facility).columns.any Query.isCount = false := by
        intro r d hr hd
        rw [any_isCount hs (accepted_of_check hr), List.any_eq_false]
        rw [distinct_of_check hr] at hd
        exact fun c hc => by simp [isData_of_check hr hd c hc]
      exact Or.inl ⟨if_neg (Bool.eq_false_iff.1 hdistinct), hcount hr hdistinct,
        if_neg (Bool.eq_false_iff.1 hdistinct), hcount hr' hdistinct⟩
    | true =>
      obtain ⟨⟨c, hc, hdata⟩, hagree⟩ := hsame (hd.symm.trans hdistinct)
      have hdata' : ∃ c ∈ (r.widened e noLists).select, c.isData = true := ⟨c, List.mem_append_left _ hc, hdata⟩
      have hdistinct' : (r.widened e noLists).distinct = true := hdistinct
      refine Or.inr ⟨groupBy_ne_nil hdistinct ⟨c, hc, hdata⟩, groupBy_ne_nil hdistinct' hdata', fun a ha b hb => ?_⟩
      simp only [Function.comp_apply]
      rw [Bool.eq_iff_iff, ← not_iff_not, Bool.not_eq_true, Bool.not_eq_true, sameKey_groupKey hdistinct,
        sameKey_groupKey hdistinct']
      -- The selected columns have the same values for either request.
      have hselected : r.DifferInData store (f a) (f b) ↔ r.DifferInData store (f' a) (f' b) :=
        exists_congr fun c => and_congr_right fun hc => by rw [hvalue a ha c hc, hvalue b hb c hc]
      rw [hselected]
      constructor
      · exact fun ⟨c, hc, h⟩ => ⟨c, List.mem_append_left _ hc, h⟩
      · exact hagree _ (hrows' ▸ List.mem_map_of_mem ha) _ (hrows' ▸ List.mem_map_of_mem hb)
  obtain ⟨pairs, hgroups, hgroups', hpairs⟩ := Query.exists_pairs_of_groups (matching_eq_rowsIn.trans hrows)
    (matching_eq_rowsIn.trans hrows') halike
  refine ⟨pairs, hgroups, hgroups', fun p hp c hc => ?_⟩
  obtain ⟨hsize, env, henv, hfirst, hfirst'⟩ := hpairs p hp
  rw [hsize, hfirst, hfirst']
  exact hvalue env henv c hc p.2.size

/-- The rows of a request are as many as those of the request for more columns. -/
theorem length_allRows_widened (he : e ∈ Entity.all) (hdefined : store.Defined) (hstore : store.Integral)
    (hr : check e.config bound d = .ok (.ok r)) {d' : DataRequest}
    (hr' : check e.config bound d' = .ok (.ok (r.widened e noLists)))
    (hsame : d.distinct = true → r.OthersAgree e facility store noLists) {rows rows' : List Fields}
    (hrows : r.AllRows e facility store rows) (hrows' : (r.widened e noLists).AllRows e facility store rows') :
    rows'.length = rows.length := by
  obtain ⟨pairs, hgroups, hgroups', -⟩ := exists_pairs_widened he hdefined hstore hr hr' hsame
  rw [length_of_mapM hrows, length_of_mapM hrows', (Query.sorted_perm _).length_eq, (Query.sorted_perm _).length_eq,
    hgroups.length_eq, hgroups'.length_eq, List.length_map, List.length_map]

/-- The values of the selected columns of data in a row. -/
def dataOf (store : Store) (r : Request) (env : Env) : List Value :=
  ((r.select.filter (·.isData)).map (·.scalar)).map fun s => s.value store env 1

/-- Where the rows have to be different, a request has a row of data for each group that its rows are put into. -/
theorem length_sorted_of_distinct (e : Entity) (facility : Option String) (store : Store) (hd : r.distinct = true)
    (hdata : ∃ c ∈ r.select, c.isData = true) : ((r.planned e facility).sorted store).length =
      ((r.rowsIn e facility store).foldl (fun gs env => Query.addToGroups (r.dataOf store env) env gs) []).length := by
  have hkeys : (r.planned e facility).groupBy = (r.select.filter (·.isData)).map (·.scalar) := if_pos hd
  rw [(Query.sorted_perm _).length_eq, Query.groups_grouped (groupBy_ne_nil hd hdata), List.length_map,
    List.length_mergeSort, matching_eq_rowsIn]
  simp only [Query.groupKey, hkeys, dataOf]

theorem exists_data_of_check {config : EntityConfig} (hr : check config bound d = .ok (.ok r)) (hne : d.columns ≠ [])
    (hdistinct : d.distinct = true → ∃ c ∈ r.select, c.isData = true) : ∃ c ∈ r.select, c.isData = true := by
  cases hd : d.distinct with
  | true => exact hdistinct hd
  | false =>
    have hsome : r.select ≠ [] := fun hnil => hne (by rw [← names_of_check hr, hnil]; rfl)
    obtain ⟨c, hc⟩ := List.exists_mem_of_ne_nil _ hsome
    exact ⟨c, hc, isData_of_check hr hd c hc⟩

/-- A column that two requests select has the same data in rows of either in which its values are the same. -/
theorem value_of_shown (he : e.WellFormed) (hr : r.Accepted e.config) (hr' : r'.Accepted e.config) {g g' : Group}
    {row row' : Fields} (hrow : r.shown store g.first g.size = .ok row)
    (hrow' : r'.shown store g'.first g'.size = .ok row') (hc : c ∈ r.select) (hc' : c ∈ r'.select)
    (hvalue : c.scalar.value store g.first g.size = c.scalar.value store g'.first g'.size) :
    row.value c.name = row'.value c.name := by
  obtain ⟨j, hj, hlookup⟩ := lookup_shown he hr hrow hc
  obtain ⟨j', hj', hlookup'⟩ := lookup_shown he hr' hrow' hc'
  rw [hvalue, hj'] at hj
  rw [Fields.value, Fields.value, hlookup, hlookup', Except.ok.inj hj]

end Request

/-- The texts of the first columns of a table are those of a table of these columns, if the data are the same. -/
theorem TableStyle.ShowsTexts.take {style : TableStyle} {columns hidden : List ColumnDef} {row row' : Fields}
    {texts texts' : List String} (h : style.ShowsTexts columns row texts)
    (h' : style.ShowsTexts (columns ++ hidden) row' texts')
    (hsame : ∀ c ∈ columns, row.value c.name = row'.value c.name) : texts'.take columns.length = texts := by
  unfold ShowsTexts at h h'
  induction h generalizing texts' with
  | nil => rfl
  | @cons c text columns texts hcell _ ih =>
    obtain ⟨text', texts', hcell', hrest, rfl⟩ := List.forall₂_cons_left_iff.1 h'
    obtain ⟨hvalue, hsame⟩ := List.forall_mem_cons.1 hsame
    -- The text of a cell depends on the value alone.
    have hcell' : style.cell row c.schemaFields none (row.value c.name) = .ok text' := hvalue ▸ hcell'
    rw [List.length_cons, List.take_succ_cons, ih hrest hsame, Except.ok.inj (hcell.symm.trans hcell')]

namespace Service

variable {s : Service} {name : String} {facility : Option String} {d : DataRequest} {e : Entity} {r : Request}
  {payload : Fields}

def inDevMode (s : Service) : Service := { s with settings := { s.settings with devMode := true } }

/-- The other columns are those that are added to a request. -/
theorem otherColumns_eq (e : Entity) (distinct : Bool) (r : Request) :
    otherColumns e distinct ((r.select.map (·.name)).map .str) =
      ((r.others e distinct).map (·.name)).map fun name => columnEntry (.str name) := by
  have hnames : ∀ c : ColumnDef, (Json.str c.name).isIn ((r.select.map (·.name)).map .str) =
      (r.select.map (·.name)).contains c.name := by
    intro c
    rw [Json.isIn, List.any_map, ← List.any_beq']
    rfl
  rw [otherColumns, Request.others, EntityConfig.dataBut, List.filter_filter]
  refine Eq.trans ?_ List.map_map.symm
  refine congrArg (List.map fun c : ColumnDef => columnEntry (.str c.name)) (List.filter_congr fun c _ => ?_)
  rw [hnames]
  cases c.isData <;> cases (r.select.map (·.name)).contains c.name <;> cases distinct <;> cases c.type.isList <;> rfl

/-- The payload of an export in the development mode has the other columns as well. -/
theorem exportPayload_inDevMode {items : List Json} (hitems : payload.lookup "columns" = some (.arr items))
    (names : List Json) : s.inDevMode.exportPayload e payload names =
      .ok ((payload.set "columns" (.arr (items ++ otherColumns e (payload.value "distinct").truthy names))).set "paging"
        (.obj [("size", s.settings.exportMaxRows), ("number", .int 1)])) := by
  have hcolumns : withColumns payload (otherColumns e (payload.value "distinct").truthy names) =
      .ok (payload.set "columns" (.arr (items ++ otherColumns e (payload.value "distinct").truthy names))) := by
    rw [withColumns, hitems]
  unfold exportPayload
  show (withColumns payload _).bind _ = _
  rw [hcolumns]
  rfl

/-- An export in the development mode is made of the answer to the request for more columns. -/
theorem devExport_eq (hentity : s.entity name facility = .ok e) {n : Int} (hmax : s.settings.exportMaxRows = .int n)
    {inBody : Bool} {body : Json} (hread : DataRequest.read inBody body = .ok d) (hasks : Asks payload d)
    (hnames : r.select.map (·.name) = d.columns) : s.inDevMode.exportTable name facility payload =
      (s.answer e facility (.int n) { d with
        columns := d.columns ++ (r.others e (payload.value "distinct").truthy).map (·.name),
        paging := exportPaging n }).bind (s.inDevMode.rendered e (d.columns.map .str)) := by
  obtain ⟨items, hitems, hmore⟩ := hasks.read_set_columns hread (Paging.read_written false n 1)
  have hpayload := exportPayload_inDevMode (s := s) (e := e) hitems (d.columns.map .str)
  rw [hmax, ← hnames, otherColumns_eq] at hpayload
  rw [← hnames] at hmore
  have hexport := exportTable_eq (s := s.inDevMode) hentity (hasks.requestedNames_eq hread) (hnames ▸ hpayload)
    (hmore ((r.others e (payload.value "distinct").truthy).map (·.name)))
  rw [hexport, ← hnames]
  show (s.answer e facility s.settings.exportMaxRows _).bind _ = _
  rw [hmax]
  rfl

/-- **Rows of a request have the texts of the selected columns in either mode**, in some order. -/
theorem texts_perm (he : e ∈ Entity.all) {bound : Json} (hr : Request.check e.config bound d = .ok (.ok r))
    {d' : DataRequest} {noLists : Bool} (hr' : Request.check e.config bound d' = .ok (.ok (r.widened e noLists)))
    (hdefined : s.store.Defined) (hstore : s.store.Integral)
    (hsame : d.distinct = true → r.OthersAgree e facility s.store noLists) {rows rows' : List Fields}
    (hrows : r.AllRows e facility s.store rows) (hrows' : (r.widened e noLists).AllRows e facility s.store rows')
    {hidden : List ColumnDef} {texts texts' : List (List String)}
    (htexts : List.Forall₂ (exportStyle.ShowsTexts r.select) rows texts)
    (htexts' : List.Forall₂ (exportStyle.ShowsTexts (r.select ++ hidden)) rows' texts') :
    (texts'.map (·.take r.select.length)).Perm texts := by
  have hwf := Entity.wellFormed_of_mem e he
  have hacc := Request.accepted_of_check hr
  have hacc' := Request.accepted_of_check hr'
  obtain ⟨pairs, hgroups, hgroups', hpairs⟩ := Request.exists_pairs_widened he hdefined hstore hr hr' hsame
  refine perm_of_pairs ((Query.sorted_perm _).trans hgroups) ((Query.sorted_perm _).trans hgroups')
    (forall₂_comp (forall₂_of_mapM hrows) htexts) (forall₂_comp (forall₂_of_mapM hrows') htexts') ?_
  rintro p hp texts texts' ⟨row, hrow, hshows⟩ ⟨row', hrow', hshows'⟩
  refine TableStyle.ShowsTexts.take hshows hshows' fun c hc => ?_
  exact Request.value_of_shown hwf hacc hacc' hrow hrow' hc (List.mem_append_left _ hc) (hpairs p hp c hc)

section DevExport

variable {n : Int} {inBody : Bool} {body : Json} {bound : Json} {rows : List Fields}
  (hentity : s.entity name facility = .ok e) (hmax : s.settings.exportMaxRows = .int n) (htyped : s.store.Typed)
  (hread : DataRequest.read inBody body = .ok d) (hasks : Asks payload d)
  (hr : Request.check e.config bound d = .ok (.ok r))

include hentity htyped hread hasks hr

/-- The table that is made in the development mode of the answer to the request for more columns. -/
theorem exists_devTable {whole : Response}
    (hwhole : s.answer e facility (.int n) { d with
      columns := d.columns ++ (r.others e (payload.value "distinct").truthy).map (·.name), paging := exportPaging n } =
        .ok whole)
    (hrows : (r.widened e (payload.value "distinct").truthy).AllRows e facility s.store rows) :
    ∃ table, s.inDevMode.rendered e (d.columns.map .str) whole = .ok table ∧
      table.headers = d.columns.map .str ++ (e.config.dataBut d.columns).map (fun c => .str c.name) ∧
      List.Forall₂ (exportStyle.ShowsTexts (r.select ++ e.config.dataBut d.columns)) (rows.take n.toNat)
        table.rows := by
  obtain ⟨he, -⟩ := entity_eq_ok hentity
  have hacc := Request.accepted_of_check hr
  have hr' := Request.check_widened (Entity.wellFormed_of_mem e he).columnNames hr (hasks.truthy_distinct hread)
  have hmem : ∀ c ∈ r.select ++ e.config.dataBut (r.select.map (·.name)), c ∈ e.config.columns :=
    List.forall_mem_append.2 ⟨hacc.select, fun c hc => (List.mem_filter.1 hc).1⟩
  obtain ⟨texts, htexts⟩ := exists_texts he (Request.accepted_of_check hr') htyped hrows hmem
  have hfirst := List.forall₂_take n.toNat htexts
  rw [← data_exportPaging hrows he hr' hwhole] at hfirst ⊢
  obtain ⟨table, htable, hheaders, -, hrowsOf⟩ := exists_rendered (s := s.inDevMode) he hacc.select rfl hfirst
  rw [Request.names_of_check hr] at htable hheaders hfirst
  refine ⟨table, htable, ?_, hrowsOf.symm ▸ hfirst⟩
  rw [hheaders, List.map_append, ← Request.names_of_check hr, List.map_map]
  rfl

include hmax

/-- **An export in the development mode is a table of the first rows** of the request for more columns, under the names
of the selected columns and of all other data columns. -/
theorem devExport_rows (hrows : (r.widened e (payload.value "distinct").truthy).AllRows e facility s.store rows)
    {table : RenderedTable} (htable : s.inDevMode.exportTable name facility payload = .ok table) :
    table.headers = d.columns.map .str ++ (e.config.dataBut d.columns).map (fun c => .str c.name) ∧
      List.Forall₂ (exportStyle.ShowsTexts (r.select ++ e.config.dataBut d.columns)) (rows.take n.toNat)
        table.rows := by
  rw [devExport_eq hentity hmax hread hasks (Request.names_of_check hr)] at htable
  obtain ⟨whole, hwhole, hrendered⟩ := bind_eq_ok.1 htable
  obtain ⟨table', hrendered', htold⟩ := exists_devTable hentity htyped hread hasks hr hwhole hrows
  obtain rfl := Except.ok.inj (hrendered'.symm.trans hrendered)
  exact htold

theorem exists_devExport (hn : 1 ≤ n) (hfits : Value.fitsStore n = true) (htaken : r.Taken e facility) :
    ∃ table, s.inDevMode.exportTable name facility payload = .ok table := by
  obtain ⟨he, -⟩ := entity_eq_ok hentity
  have hr' := Request.check_widened (Entity.wellFormed_of_mem e he).columnNames hr (hasks.truthy_distinct hread)
  obtain ⟨rows, hrows⟩ := Request.exists_allRows he (Request.accepted_of_check hr') htyped facility
  obtain ⟨whole, hwhole⟩ := Request.exists_answer he hr' htyped
    ⟨htaken.usable, htaken.fit, htaken.few, htaken.shallow⟩ (pagingErrors_exportPaging hn) hfits
    (fitsStore_start_exportPaging n)
  obtain ⟨table, hrendered, -⟩ := exists_devTable hentity htyped hread hasks hr hwhole hrows
  rw [devExport_eq hentity hmax hread hasks (Request.names_of_check hr)]
  exact ⟨table, bind_eq_ok.2 ⟨whole, hwhole, hrendered⟩⟩

end DevExport

/-- **The development mode only adds columns.** Where a query is answered that has no more rows than an export may have,
in a store with integrity, the export in the development mode has the selected columns first, under the same names, and
in them the same rows as the export without it; the other data columns of the entity come after them. If the rows have
to be different, this is so where the other columns tell no rows apart that the selected ones do not. The export in the
development mode is made if the store takes the clauses of the request. -/
theorem devExport_perm {inBody : Bool} {body : Json} (hread : DataRequest.read inBody body = .ok d)
    (hentity : s.entity name facility = .ok e) (hr : Request.check e.config s.settings.maxPageSize d = .ok (.ok r))
    {response : Response} (hquery : s.query name facility (.ok d) = .ok response) (htyped : s.store.Typed)
    (hstore : s.store.Integral) (hdev : s.settings.devMode = false) {n : Int}
    (hmax : s.settings.exportMaxRows = .int n) (hn : 1 ≤ n) (hfits : Value.fitsStore n = true)
    (hfew : response.total ≤ n.toNat) (hsame : d.distinct = true → r.OthersAgree e facility s.store true)
    (hasks : Asks payload d) :
    ∃ table, s.exportTable name facility payload = .ok table ∧ table.headers = d.columns.map .str ∧
      (∀ table', s.inDevMode.exportTable name facility payload = .ok table' →
        table'.headers = table.headers ++ (e.config.dataBut d.columns).map (fun c => .str c.name) ∧
        (table'.rows.map (·.take d.columns.length)).Perm table.rows) ∧
      (r.Taken e facility → ∃ table', s.inDevMode.exportTable name facility payload = .ok table') := by
  obtain ⟨he, -⟩ := entity_eq_ok hentity
  have hacc := Request.accepted_of_check hr
  have hnames : r.select.map (·.name) = d.columns := Request.names_of_check hr
  have hanswer : s.answer e facility s.settings.maxPageSize d = .ok response :=
    (query_eq_answer hentity d).symm.trans hquery
  obtain ⟨rows, hrows⟩ := Request.exists_allRows he hacc htyped facility
  obtain ⟨table, htable, hheaders, -, htexts⟩ :=
    exists_exportTable hentity htyped hdev hmax hn hfits hread hasks hr hanswer hrows
  -- No row is left out of the export.
  have hall : rows.length ≤ n.toNat := by
    have hdata := Request.exists_data_of_check hr (DataRequest.columns_ne_nil_of_read hread) fun hd => (hsame hd).data
    obtain ⟨-, -, -, htotal, -⟩ := (Request.answer_eq_ok he hr).1 hanswer
    rwa [length_of_mapM hrows, ← Request.total_eq_length_sorted he hr hdata, ← htotal]
  rw [List.take_of_length_le hall] at htexts
  refine ⟨table, htable, hheaders, fun table' htable' => ?_,
    exists_devExport hentity hmax htyped hread hasks hr hn hfits⟩
  have hnoLists := hasks.truthy_distinct hread
  have hr' := Request.check_widened (Entity.wellFormed_of_mem e he).columnNames hr hnoLists
  have hagree : d.distinct = true → r.OthersAgree e facility s.store (payload.value "distinct").truthy :=
    fun hd => (hnoLists hd).symm ▸ hsame hd
  obtain ⟨rows', hrows'⟩ := Request.exists_allRows he (Request.accepted_of_check hr') htyped facility
  obtain ⟨hheaders', htexts'⟩ := devExport_rows hentity hmax htyped hread hasks hr hrows' htable'
  -- The request for more columns has as many rows.
  have hlength := Request.length_allRows_widened he htyped.defined hstore hr hr' hagree hrows hrows'
  rw [List.take_of_length_le (hlength ▸ hall)] at htexts'
  refine ⟨by rw [hheaders', hheaders], ?_⟩
  rw [← hnames, List.length_map]
  exact texts_perm he hr hr' htyped.defined hstore hagree hrows hrows' htexts htexts'

/-- A request for the names of users, each with the number of users. -/
def namesOfUsers : DataRequest where
  columns := ["name", "count"]
  paging := { size := 10, number := some 1 }
  distinct := true

/-- A service for two users of different names. -/
def ofTwoUsers : Service := { store := Request.twoUsers }

/-- The export of their names has the same rows in either mode. -/
theorem devExport_perm_ofTwoUsers : ∃ table table' : RenderedTable,
    ofTwoUsers.exportTable "users" none namesOfUsers.toFields = .ok table ∧
    ofTwoUsers.inDevMode.exportTable "users" none namesOfUsers.toFields = .ok table' ∧
    (table'.rows.map (·.take 2)).Perm table.rows := by
  have he : Entity.users ∈ Entity.all := by simp [Entity.all]
  have htyped : ofTwoUsers.store.Typed := by decide +kernel
  have hstore : ofTwoUsers.store.Integral := by decide +kernel
  have hentity : ofTwoUsers.entity "users" none = .ok Entity.users := rfl
  obtain ⟨r, hcheck, htaken, hdata, hjoins, hjoins', hagree, hlength⟩ : ∃ r,
      Request.check Entity.users.config (.int 1000) namesOfUsers = .ok (.ok r) ∧ r.Taken Entity.users none ∧
        (∃ c ∈ r.select, c.isData = true) ∧ r.neededJoins Entity.users.config = [] ∧
        (r.widened Entity.users true).neededJoins Entity.users.config = [] ∧
        (∀ env ∈ (r.widened Entity.users true).plainRowsIn Entity.users none ofTwoUsers.store,
          ∀ env' ∈ (r.widened Entity.users true).plainRowsIn Entity.users none ofTwoUsers.store,
            (r.widened Entity.users true).DifferInData ofTwoUsers.store env env' →
              r.DifferInData ofTwoUsers.store env env') ∧
        (r.plainRowsIn Entity.users none ofTwoUsers.store).length = 2 := Request.exists_check (by decide +kernel)
  have hread : DataRequest.read false (.obj namesOfUsers.toFields) = .ok namesOfUsers :=
    DataRequest.read_written (by decide) rfl rfl false
  rw [← Request.rowsIn_eq_plain hjoins] at hlength
  rw [← Request.rowsIn_eq_plain hjoins'] at hagree
  obtain ⟨response, hanswer⟩ := Request.exists_answer (s := ofTwoUsers) (p := namesOfUsers.paging) he hcheck htyped
    htaken (Request.check_eq_ok.1 hcheck).2.1 rfl rfl
  have hquery : ofTwoUsers.query "users" none (.ok namesOfUsers) = .ok response :=
    (query_eq_answer hentity _).trans hanswer
  have hfew : response.total ≤ 50000 := by
    obtain ⟨-, -, -, htotal, -⟩ := (Request.answer_eq_ok he hcheck).1 hanswer
    obtain ⟨hsum, hpos⟩ := Request.sizes_sorted Entity.users none ofTwoUsers.store (Request.distinct_of_check hcheck)
      hdata
    have hgroups := List.length_le_sum_of_one_le _ (List.forall_mem_map.2 hpos)
    rw [hsum, hlength, List.length_map, ← Request.total_eq_length_sorted he hcheck hdata, ← htotal] at hgroups
    omega
  obtain ⟨table, htable, -, hdev, hmade⟩ := devExport_perm hread hentity hcheck hquery htyped hstore rfl rfl
    (by decide) rfl hfew (fun _ => ⟨hdata, hagree⟩) (Asks.of_read hread)
  obtain ⟨table', htable'⟩ := hmade htaken
  exact ⟨table, table', htable, htable', (hdev table' htable').2⟩

/-- A service for two users of one name. -/
def ofOneName : Service where
  store := { tables := [(TableDef.users.name, [[("id", .text (Sample.id 'd' 1)), ("name", .text "Anna")],
    [("id", .text (Sample.id 'd' 2)), ("name", .text "Anna")]])] }

def differentNames : DataRequest where
  columns := ["name"]
  paging := { size := 10, number := some 1 }
  distinct := true

/-- **The development mode can change the rows of an export.** The query has one row, the name, and so has its export;
in the development mode the name comes twice, once for each of the users, whose identifiers are different. -/
theorem devExport_ofOneName : ofOneName.store.Typed ∧ ofOneName.store.Integral ∧
    ∃ (response : Response) (table table' : RenderedTable),
      ofOneName.query "users" none (.ok differentNames) = .ok response ∧ response.total = 1 ∧
      ofOneName.exportTable "users" none differentNames.toFields = .ok table ∧
      ofOneName.inDevMode.exportTable "users" none differentNames.toFields = .ok table' ∧
      table.rows.length = 1 ∧ table'.rows.length = 2 ∧ ¬ (table'.rows.map (·.take 1)).Perm table.rows := by
  have he : Entity.users ∈ Entity.all := by simp [Entity.all]
  have htyped : ofOneName.store.Typed := by decide +kernel
  have hstore : ofOneName.store.Integral := by decide +kernel
  have hentity : ofOneName.entity "users" none = .ok Entity.users := rfl
  have hread : DataRequest.read false (.obj differentNames.toFields) = .ok differentNames :=
    DataRequest.read_written (by decide) rfl rfl false
  obtain ⟨r, hcheck, htaken, hdata, hjoins, hjoins', hone, htwo⟩ : ∃ r,
      Request.check Entity.users.config (.int 1000) differentNames = .ok (.ok r) ∧ r.Taken Entity.users none ∧
        (∃ c ∈ r.select, c.isData = true) ∧ r.neededJoins Entity.users.config = [] ∧
        (r.widened Entity.users true).neededJoins Entity.users.config = [] ∧
        ((r.plainRowsIn Entity.users none ofOneName.store).foldl
          (fun gs env => Query.addToGroups (r.dataOf ofOneName.store env) env gs) []).length = 1 ∧
        (((r.widened Entity.users true).plainRowsIn Entity.users none ofOneName.store).foldl
          (fun gs env => Query.addToGroups ((r.widened Entity.users true).dataOf ofOneName.store env) env gs)
          []).length = 2 := Request.exists_check (by decide +kernel)
  rw [← Request.rowsIn_eq_plain hjoins] at hone
  rw [← Request.rowsIn_eq_plain hjoins'] at htwo
  have hdistinct : r.distinct = true := Request.distinct_of_check hcheck
  have hdistinct' : (r.widened Entity.users true).distinct = true := hdistinct
  have hdata' : ∃ c ∈ (r.widened Entity.users true).select, c.isData = true :=
    hdata.imp fun c hc => ⟨List.mem_append_left _ hc.1, hc.2⟩
  obtain ⟨response, hanswer⟩ := Request.exists_answer (s := ofOneName) (p := differentNames.paging) he hcheck htyped
    htaken (Request.check_eq_ok.1 hcheck).2.1 rfl rfl
  obtain ⟨-, -, -, htotal, -⟩ := (Request.answer_eq_ok he hcheck).1 hanswer
  have hasks : Asks differentNames.toFields differentNames := Asks.of_read hread
  obtain ⟨rows, hrows⟩ := Request.exists_allRows he (Request.accepted_of_check hcheck) htyped none
  obtain ⟨table, htable, -, -, htexts⟩ := exists_exportTable hentity htyped rfl rfl (by decide) rfl hread hasks hcheck
    hanswer hrows
  obtain ⟨table', htable'⟩ := exists_devExport hentity rfl htyped hread hasks hcheck (by decide) rfl htaken
  have hcheck' := Request.check_widened (Entity.wellFormed_of_mem _ he).columnNames hcheck
    (hasks.truthy_distinct hread)
  obtain ⟨rows', hrows'⟩ := Request.exists_allRows he (Request.accepted_of_check hcheck') htyped none
  obtain ⟨-, htexts'⟩ := devExport_rows hentity rfl htyped hread hasks hcheck hrows' htable'
  have hlength : table.rows.length = 1 := by
    rw [← htexts.length_eq, List.length_take, length_of_mapM hrows,
      Request.length_sorted_of_distinct Entity.users none _ hdistinct hdata, hone]
    rfl
  have hlength' : table'.rows.length = 2 := by
    have htwo' : rows'.length = 2 := by
      rw [length_of_mapM hrows']
      exact (Request.length_sorted_of_distinct Entity.users none _ hdistinct' hdata').trans htwo
    rw [← htexts'.length_eq, List.length_take, htwo']
    rfl
  refine ⟨htyped, hstore, response, table, table', (query_eq_answer hentity _).trans hanswer, ?_, htable, htable',
    hlength, hlength', fun hperm => ?_⟩
  · rw [htotal, Request.total_of_data hdistinct hdata,
      Request.length_sorted_of_distinct Entity.users none _ hdistinct hdata, hone]
  · have hcount := hperm.length_eq
    rw [List.length_map, hlength, hlength'] at hcount
    cases hcount

end Service

end TableQuery
