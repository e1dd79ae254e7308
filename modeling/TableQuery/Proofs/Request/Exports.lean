import TableQuery.Proofs.Request.Grammar
import TableQuery.Proofs.Request.Pages
import TableQuery.Proofs.Request.Payload
import TableQuery.Proofs.Request.Typed
import TableQuery.Proofs.View.Table

/-!
# Exports

An export asks for all rows of a request on one page and makes a table of them. Its rows are the rows that the request
shows on its pages, put together, up to the greatest number of rows of an export, each cell as a text
(`Service.exists_exportTable`). The table can always be written as comma-separated text; a sheet holds it iff no text
has a control character that sheets cannot hold (`Service.export_of_query`).
-/

set_option autoImplicit false

namespace TableQuery

open Sql (Group Query Store Value slice)

theorem Entity.stored_date_of_mem : ∀ e ∈ all, ∀ c ∈ e.config.columns, c.type.kind = .date →
    c.scalar.kind? e.tables = some .date := by
  decide +kernel

theorem Entity.sheetHolds_of_mem : ∀ e ∈ all, ∀ c ∈ e.config.columns, RenderedTable.sheetHolds c.name = true := by
  decide +kernel

namespace Request

variable {e : Entity} {r : Request} {facility : Option String} {maxPageSize bound : Json} {d : DataRequest}
  {s : Service} {p p' : Paging} {response : Response} {rows : List Fields}

/-! ## All rows of a request -/

/-- Whether a query can be run does not depend on the page, if the numbers of the page fit the store. -/
theorem canRun_paged {store : Store} (h : ((r.paged p).planned e facility).canRun TableDef.indexes store = true)
    (hsize : Value.fitsStore p'.size = true) (hstart : Value.fitsStore p'.start = true) :
    ((r.paged p').planned e facility).canRun TableDef.indexes store = true := by
  unfold Query.canRun at h ⊢
  simp only [Bool.and_eq_true] at h ⊢
  obtain ⟨⟨⟨⟨-, hfew⟩, hfit⟩, hshallow⟩, hbad⟩ := h
  exact ⟨⟨⟨⟨⟨hsize, hstart⟩, hfew⟩, hfit⟩, hshallow⟩, hbad⟩

/-- All rows of data of a request, in order. -/
def AllRows (e : Entity) (facility : Option String) (store : Store) (r : Request) (rows : List Fields) : Prop :=
  ((r.planned e facility).sorted store).mapM (fun g => r.shown store g.first g.size) = .ok rows

theorem exists_allRows (he : e ∈ Entity.all) (hr : r.Accepted e.config) {store : Store} (htyped : store.Typed)
    (facility : Option String) : ∃ rows, r.AllRows e facility store rows :=
  exists_mapM fun _ hg => shown_succeeds he hr htyped ((Query.sorted_perm _).mem_iff.1 hg)

/-- **A page has a slice of all rows.** -/
theorem AllRows.data_eq (h : r.AllRows e facility s.store rows) (he : e ∈ Entity.all)
    (hr : check e.config maxPageSize d = .ok (.ok r))
    (hanswer : s.answer e facility bound { d with paging := p } = .ok response) :
    response.data = slice p.start.toNat p.size.toNat rows := by
  obtain ⟨-, -, -, -, hdata⟩ := (answer_eq_ok he hr).1 hanswer
  rw [Sql.mapM_slice h] at hdata
  exact (Except.ok.inj hdata).symm

/-- **A request that is answered on one page is answered on every page** that is allowed and whose numbers fit the
store. -/
theorem AllRows.exists_answer (h : r.AllRows e facility s.store rows) (he : e ∈ Entity.all)
    (hr : check e.config maxPageSize d = .ok (.ok r)) (hanswer : s.answer e facility maxPageSize d = .ok response)
    (hpaging : pagingErrors bound p = .ok []) (hsize : Value.fitsStore p.size = true)
    (hstart : Value.fitsStore p.start = true) :
    ∃ response, s.answer e facility bound { d with paging := p } = .ok response := by
  obtain ⟨-, hrun, -⟩ := (answer_eq_ok (p := d.paging) he hr).1 hanswer
  exact ⟨⟨r.select.map (·.name), _, _⟩,
    (answer_eq_ok he hr).2 ⟨hpaging, canRun_paged hrun hsize hstart, rfl, rfl, Sql.mapM_slice h _ _⟩⟩

end Request

namespace Service

variable {s : Service} {name : String} {facility : Option String} {d : DataRequest} {e : Entity} {r : Request}
  {payload : Fields} {rows : List Fields}

def exportStyle : TableStyle := { label? := fun _ position => .ok (Dictionary.label? position) }

theorem findsLabels_exportStyle : exportStyle.FindsLabels := fun _ position => ⟨Dictionary.label? position, rfl⟩

/-- What is shown of a group has texts in all columns, which are empty in those that are not selected. -/
theorem exists_texts_of_group (he : e ∈ Entity.all) (hr : r.Accepted e.config) {store : Store} (htyped : store.Typed)
    {g : Group} (hg : g ∈ (r.planned e facility).groups store) {row : Fields}
    (hrow : r.shown store g.first g.size = .ok row) {columns : List ColumnDef}
    (hcolumns : ∀ c ∈ columns, c ∈ e.config.columns) : ∃ texts, exportStyle.ShowsTexts columns row texts := by
  have hwf := Entity.wellFormed_of_mem e he
  have hcell : ∀ c ∈ columns, ∃ text, exportStyle.cell row c.schemaFields none (row.value c.name) = .ok text := by
    intro c hc
    have hmem := hcolumns c hc
    by_cases hselected : c ∈ r.select
    · obtain ⟨j, hrender, hlookup⟩ := Request.lookup_shown hwf hr hrow hselected
      obtain ⟨k, hk, hshows⟩ := (Entity.stored_of_mem e he).shown c hmem
      have hdate : c.type.kind = .date → k = .date := fun hkind =>
        Option.some.inj (hk.symm.trans (Entity.stored_date_of_mem e he c hmem hkind))
      have hvalue := Sql.Scalar.value_of_cells Sql.computable_holds htyped hk (Request.rows_of_mem_groups hwf hg) g.size
      rw [Fields.value, hlookup]
      exact TableStyle.cell_succeeds findsLabels_exportStyle hshows hdate hvalue hrender c.value_type_schemaFields row
    · have hmissing : row.lookup c.name = none := by
        refine List.lookup_eq_none_iff.2 fun p hp => bne_iff_ne.2 fun hname => hselected ?_
        have hkey : p.1 ∈ r.select.map (·.name) := Request.keys_of_shown hrow ▸ List.mem_map_of_mem hp
        obtain ⟨c', hc', hname'⟩ := List.mem_map.1 hkey
        rwa [hwf.eq_of_name (hr.select c' hc') hmem (hname.trans hname'.symm)]
      rw [Fields.value, hmissing]
      exact ⟨"", rfl⟩
  obtain ⟨texts, htexts⟩ := exists_mapM hcell
  exact ⟨texts, forall₂_of_mapM htexts⟩

/-- **What is shown of all rows has texts.** -/
theorem exists_texts (he : e ∈ Entity.all) (hr : r.Accepted e.config) {store : Store} (htyped : store.Typed)
    (hrows : r.AllRows e facility store rows) {columns : List ColumnDef}
    (hcolumns : ∀ c ∈ columns, c ∈ e.config.columns) :
    ∃ texts, List.Forall₂ (exportStyle.ShowsTexts columns) rows texts := by
  have hrow : ∀ row ∈ rows, ∃ texts, columns.mapM
      (fun c => exportStyle.cell row c.schemaFields none (row.value c.name)) = .ok texts := by
    intro row hmem
    obtain ⟨g, hg, hshown⟩ := exists_of_mem_mapM hrows hmem
    obtain ⟨texts, htexts⟩ :=
      exists_texts_of_group he hr htyped ((Query.sorted_perm _).mem_iff.1 hg) hshown hcolumns
    exact ⟨texts, mapM_of_forall₂ htexts⟩
  obtain ⟨texts, htexts⟩ := exists_mapM hrow
  exact ⟨texts, (forall₂_of_mapM htexts).imp fun _ _ => forall₂_of_mapM⟩

/-- What an export makes of the answer to a request. -/
def rendered (s : Service) (e : Entity) (names : List Json) (whole : Response) : Except Failure RenderedTable :=
  match RenderedTable.build e.config.schemaFields (whole.data.map .obj) (names.map fun name => { name })
    s.settings.devMode exportStyle with
  | .ok table => .ok table
  | .error (.config e) => .error (.config e)
  | .error (.fault f) => .error (.fault f)

/-- An export is made of the answer to the request that is read from its payload. -/
theorem exportTable_eq (hentity : s.entity name facility = .ok e) {names : List Json}
    (hnames : requestedNames payload = .ok names) {payload' : Fields}
    (hpayload : s.exportPayload e payload names = .ok payload') {d' : DataRequest}
    (hread' : DataRequest.read false (.obj payload') = .ok d') : s.exportTable name facility payload =
      (s.answer e facility s.settings.exportMaxRows d').bind (s.rendered e names) := by
  unfold exportTable
  rw [hentity]
  dsimp only [bind, Except.bind]
  rw [hnames]
  dsimp only [Except.mapError]
  rw [hpayload]
  dsimp only
  rw [readRequest, hread']
  rfl

/-- **The table that is made of an answer** has the names of the columns that were asked for at its head and, in the
development mode, those of the other ones after them. -/
theorem exists_rendered (he : e ∈ Entity.all) {columns hidden : List ColumnDef}
    (hcolumns : ∀ c ∈ columns, c ∈ e.config.columns)
    (hhidden : hidden = if s.settings.devMode then e.config.dataBut (columns.map (·.name)) else []) {whole : Response}
    {texts : List (List String)}
    (htexts : List.Forall₂ (exportStyle.ShowsTexts (columns ++ hidden)) whole.data texts) :
    ∃ table, s.rendered e ((columns.map (·.name)).map .str) whole = .ok table ∧
      table.headers = (columns ++ hidden).map (fun c => .str c.name) ∧
      table.columns = (columns ++ hidden).map (fun c => .str c.name) ∧ table.rows = texts := by
  obtain ⟨table, htable, htold⟩ := RenderedTable.exists_build (Entity.wellFormed_of_mem e he).columnNames hcolumns
    s.settings.devMode hhidden htexts
  have hchosen : (((columns.map (·.name)).map Json.str).map fun name => ({ name } : TableColumn)) =
      columns.map fun c => { name := .str c.name } := by
    rw [List.map_map, List.map_map]
    rfl
  refine ⟨table, ?_, htold⟩
  rw [rendered, hchosen, htable]

def exportPaging (n : Int) : Paging := { size := n, number := some 1 }

theorem start_exportPaging (n : Int) : (exportPaging n).start = 0 := by
  show (1 - 1) * n = 0
  rw [Int.sub_self, Int.zero_mul]

theorem fitsStore_start_exportPaging (n : Int) : Value.fitsStore (exportPaging n).start = true := by
  rw [start_exportPaging]
  rfl

theorem pagingErrors_exportPaging {n : Int} (hn : 1 ≤ n) : Request.pagingErrors (.int n) (exportPaging n) = .ok [] := by
  refine Request.pagingErrors_eq_nil.2 ⟨?_, fun k hk => Option.some.inj hk ▸ Int.le_refl 1, nofun⟩
  rw [Request.isPageSize_int, exportPaging, decide_eq_true ⟨hn, Int.le_refl n⟩]

/-- **The page of an export has the first rows** of a request. -/
theorem data_exportPaging {bound bound' : Json} (hrows : r.AllRows e facility s.store rows) (he : e ∈ Entity.all)
    (hr : Request.check e.config bound d = .ok (.ok r)) {n : Int} {whole : Response}
    (hwhole : s.answer e facility bound' { d with paging := exportPaging n } = .ok whole) :
    whole.data = rows.take n.toNat := by
  rw [hrows.data_eq he hr hwhole, start_exportPaging]
  rfl

/-- **An export without the other columns is a table of the first rows**, in the order of the request, under the names
of its columns. -/
theorem exists_exportTable (hentity : s.entity name facility = .ok e) (htyped : s.store.Typed)
    (hdev : s.settings.devMode = false) {n : Int} (hmax : s.settings.exportMaxRows = .int n) (hn : 1 ≤ n)
    (hfits : Value.fitsStore n = true) {inBody : Bool} {body : Json} (hread : DataRequest.read inBody body = .ok d)
    (hasks : Asks payload d) (hr : Request.check e.config s.settings.maxPageSize d = .ok (.ok r)) {response : Response}
    (hanswer : s.answer e facility s.settings.maxPageSize d = .ok response)
    (hrows : r.AllRows e facility s.store rows) :
    ∃ table, s.exportTable name facility payload = .ok table ∧ table.headers = d.columns.map .str ∧
      table.columns = d.columns.map .str ∧
      List.Forall₂ (exportStyle.ShowsTexts r.select) (rows.take n.toNat) table.rows := by
  obtain ⟨he, -⟩ := entity_eq_ok hentity
  have hacc := Request.accepted_of_check hr
  have hnames : r.select.map (·.name) = d.columns := Request.names_of_check hr
  obtain ⟨whole, hwhole⟩ := hrows.exists_answer he hr hanswer (pagingErrors_exportPaging hn) hfits
    (fitsStore_start_exportPaging n)
  obtain ⟨texts, htexts⟩ := exists_texts he hacc htyped hrows hacc.select
  have hfirst : List.Forall₂ (exportStyle.ShowsTexts (r.select ++ [])) whole.data (texts.take n.toNat) := by
    rw [List.append_nil, data_exportPaging hrows he hr hwhole]
    exact List.forall₂_take _ htexts
  have hpayload : s.exportPayload e payload (d.columns.map .str) =
      .ok (payload.set "paging" (.obj [("size", .int n), ("number", .int 1)])) := by
    rw [exportPayload, hdev, hmax]
    rfl
  obtain ⟨table, htable, hheaders, hcolumns, hrowsOf⟩ := exists_rendered he hacc.select (by rw [hdev]; rfl) hfirst
  have hexport : s.exportTable name facility payload = .ok table := by
    rw [exportTable_eq hentity (hasks.requestedNames_eq hread) hpayload
      (hasks.read_set_paging hread (Paging.read_written false n 1)), hmax]
    exact bind_eq_ok.2 ⟨whole, hwhole, hnames ▸ htable⟩
  have hheads : (r.select ++ []).map (fun c : ColumnDef => Json.str c.name) = d.columns.map .str := by
    rw [List.append_nil, ← hnames, List.map_map]
    rfl
  exact ⟨table, hexport, hheaders.trans hheads, hcolumns.trans hheads, hrowsOf ▸ List.forall₂_take _ htexts⟩

/-! ## Files -/

theorem export_csv {table : RenderedTable} (h : s.exportTable name facility payload = .ok table) :
    s.export name facility payload "csv" = .ok ⟨.csv, name ++ "." ++ "csv", .text table.toCsv⟩ := by
  have hformat : ExportFormat.ofName? "csv" = some .csv := by decide +kernel
  rw [«export», hformat]
  dsimp only [bind, Except.bind]
  rw [h]
  rfl

/-- A table is written as a sheet iff the sheet holds its texts. -/
theorem export_xlsx {table : RenderedTable} {names : List String} (h : s.exportTable name facility payload = .ok table)
    (hne : names ≠ []) (hheaders : table.headers = names.map .str) : s.export name facility payload "xlsx" =
      if (names :: table.rows).all (·.all RenderedTable.sheetHolds) then
        .ok ⟨.xlsx, name ++ "." ++ "xlsx", .sheet ((names :: table.rows).map (·.map RenderedTable.sheetText))⟩
      else .error (.fault .badCharacter) := by
  have hformat : ExportFormat.ofName? "xlsx" = some .xlsx := by decide +kernel
  rw [«export», hformat]
  dsimp only [bind, Except.bind]
  rw [h]
  dsimp only [ExportFormat.encode]
  rw [RenderedTable.toCells_eq hne hheaders]
  cases (names :: table.rows).all (·.all RenderedTable.sheetHolds) <;> rfl

/-! ## Exports of requests that are answered -/

/-- The rows of a request are those on its pages: each page that is asked for has a slice of them, every page that is
allowed and whose numbers fit the store is there, and all pages of one size, put together, have all rows. -/
structure HasRows (s : Service) (name : String) (facility : Option String) (d : DataRequest) (rows : List Fields) :
    Prop where
  page : ∀ p response, s.query name facility (.ok { d with paging := p }) = .ok response →
    response.data = slice p.start.toNat p.size.toNat rows
  answered : ∀ p, Request.pagingErrors s.settings.maxPageSize p = .ok [] → Value.fitsStore p.size = true →
    Value.fitsStore p.start = true → ∃ response, s.query name facility (.ok { d with paging := p }) = .ok response
  together : ∀ (size : Int) (count : Nat) (responses : Nat → Response), rows.length ≤ count * size.toNat →
    (∀ n < count, s.query name facility (.ok { d with paging := { size, number := some (n + 1 : Int) } }) =
      .ok (responses n)) → (List.range count).flatMap (fun n => (responses n).data) = rows

theorem query_eq_answer (hentity : s.entity name facility = .ok e) (d : DataRequest) :
    s.query name facility (.ok d) = s.answer e facility s.settings.maxPageSize d := by
  rw [query, hentity]
  rfl

/-- All rows of a request that is answered are those on its pages. -/
theorem hasRows_of_allRows (hentity : s.entity name facility = .ok e)
    (hr : Request.check e.config s.settings.maxPageSize d = .ok (.ok r)) {response : Response}
    (hanswer : s.answer e facility s.settings.maxPageSize d = .ok response)
    (hrows : r.AllRows e facility s.store rows) : s.HasRows name facility d rows := by
  obtain ⟨he, -⟩ := entity_eq_ok hentity
  refine ⟨fun p response h => ?_, fun p hpaging hsize hstart => ?_, fun size count responses hall h => ?_⟩
  · rw [query_eq_answer hentity] at h
    exact hrows.data_eq he hr h
  · rw [query_eq_answer hentity]
    exact hrows.exists_answer he hr hanswer hpaging hsize hstart
  · simp only [query_eq_answer hentity] at h
    have hlength : ((r.planned e facility).sorted s.store).length ≤ count * size.toNat := by
      rwa [← length_of_mapM hrows]
    have hpages := Request.mapM_of_answers he hr hlength h
    exact Except.ok.inj (hpages.symm.trans hrows)

/-- **An export has the rows of the query.** Where a query is answered, the export of the same request, whatever page
its payload names, makes a table of the rows that the pages of the query show: in the same order, up to the greatest
number of rows of an export, each as the texts of the columns, under the names of the columns in the order of the
request. The table can always be exported as comma-separated text. As a sheet it can be exported iff each text is free
of control characters that sheets cannot hold, as far as a cell keeps the text. -/
theorem export_of_query {inBody : Bool} {body : Json} (hread : DataRequest.read inBody body = .ok d)
    {response : Response} (hquery : s.query name facility (.ok d) = .ok response) (htyped : s.store.Typed)
    (hdev : s.settings.devMode = false) {n : Int} (hmax : s.settings.exportMaxRows = .int n) (hn : 1 ≤ n)
    (hfits : Value.fitsStore n = true) :
    ∃ e columns rows, s.entity name facility = .ok e ∧ (∀ c ∈ columns, c ∈ e.config.columns) ∧
      columns.map (·.name) = d.columns ∧ s.HasRows name facility d rows ∧
      ∀ payload, Asks payload d → ∃ table, s.exportTable name facility payload = .ok table ∧
        table.headers = d.columns.map .str ∧
        List.Forall₂ (exportStyle.ShowsTexts columns) (rows.take n.toNat) table.rows ∧
        s.export name facility payload "csv" = .ok ⟨.csv, name ++ "." ++ "csv", .text table.toCsv⟩ ∧
        s.export name facility payload "xlsx" =
          if table.rows.all (·.all RenderedTable.sheetHolds) then
            .ok ⟨.xlsx, name ++ "." ++ "xlsx", .sheet ((d.columns :: table.rows).map (·.map RenderedTable.sheetText))⟩
          else .error (.fault .badCharacter) := by
  obtain ⟨e, hentity, hanswer⟩ := bind_eq_ok.1 hquery
  obtain ⟨he, -⟩ := entity_eq_ok hentity
  have hanswer : s.answer e facility s.settings.maxPageSize d = .ok response := hanswer
  obtain ⟨r, hr⟩ := Request.exists_check_of_answer hanswer
  have hacc := Request.accepted_of_check hr
  obtain ⟨rows, hrows⟩ := Request.exists_allRows he hacc htyped facility
  have hnames : r.select.map (·.name) = d.columns := Request.names_of_check hr
  refine ⟨e, r.select, rows, hentity, hacc.select, hnames, hasRows_of_allRows hentity hr hanswer hrows,
    fun payload hasks => ?_⟩
  obtain ⟨table, htable, hheaders, -, htexts⟩ :=
    exists_exportTable hentity htyped hdev hmax hn hfits hread hasks hr hanswer hrows
  refine ⟨table, htable, hheaders, htexts, export_csv htable, ?_⟩
  -- The names at the head can always be written.
  have hhead : d.columns.all RenderedTable.sheetHolds = true := by
    rw [← hnames, List.all_map, List.all_eq_true]
    exact fun c hc => Entity.sheetHolds_of_mem e he c (hacc.select c hc)
  rw [export_xlsx htable (DataRequest.columns_ne_nil_of_read hread) hheaders, List.all_cons, hhead, Bool.true_and]

/-- A service of the sample data whose exports have at most two rows. -/
def shortExports : Service := { store := Entity.sampleStore, settings := { exportMaxRows := .int 2 } }

/-- The first ten meetings that are not remote, the latest first. -/
def localMeetingsOnPage : DataRequest := { Request.localMeetings with paging := { size := 10, number := some 1 } }

/-- The export of the three meetings of the sample data that are not remote has the first two of them, also if it asks
for another page. -/
theorem export_of_query_localMeetings : ∃ (response : Response) (table : RenderedTable) (columns : List ColumnDef),
    shortExports.query "meetings" (some Sample.facility) (.ok localMeetingsOnPage) = .ok response ∧
    response.data.length = 3 ∧ columns.map (·.name) = ["date", "startDayminute", "staff"] ∧
    List.Forall₂ (exportStyle.ShowsTexts columns) (response.data.take 2) table.rows ∧
    shortExports.export "meetings" (some Sample.facility)
      (DataRequest.toFields { Request.localMeetings with paging := Request.pageOfTwo 7 }) "csv" =
        .ok ⟨.csv, "meetings.csv", .text table.toCsv⟩ := by
  have he : Entity.meetings ∈ Entity.all := by simp [Entity.all]
  have hentity : shortExports.entity "meetings" (some Sample.facility) = .ok Entity.meetings := by
    have hfacility : shortExports.hasFacility Sample.facility = true := by decide +kernel
    exact if_pos hfacility
  obtain ⟨r, hcheck, hjoins, htaken, hlength⟩ : ∃ r,
      Request.check Entity.meetings.config (.int 1000) localMeetingsOnPage = .ok (.ok r) ∧
        r.neededJoins Entity.meetings.config = [] ∧ r.Taken Entity.meetings (some Sample.facility) ∧
        (r.plainRowsIn Entity.meetings (some Sample.facility) Entity.sampleStore).length = 3 :=
    Request.exists_check (by decide +kernel)
  obtain ⟨response, hanswer⟩ := Request.exists_answer (s := shortExports) (p := localMeetingsOnPage.paging) he hcheck
    Entity.typed_sampleStore htaken (Request.check_eq_ok.1 hcheck).2.1 rfl rfl
  have hquery : shortExports.query "meetings" (some Sample.facility) (.ok localMeetingsOnPage) = .ok response :=
    (query_eq_answer hentity _).trans hanswer
  obtain ⟨e, columns, rows, -, -, hcolumns, hrows, hexport⟩ := export_of_query (n := 2)
    (DataRequest.read_written (by decide) rfl rfl false) hquery Entity.typed_sampleStore rfl rfl (by decide) rfl
  obtain ⟨table, -, -, htexts, hcsv, -⟩ := hexport _ (Or.inl ⟨Request.pageOfTwo 7, rfl⟩)
  have hthree : response.data.length = 3 := by
    rw [Request.length_of_answer he hcheck hanswer, Request.sorted_planned (Entity.stored_of_mem _ he) hcheck rfl,
      List.length_map, (Query.sortedRows_perm _).length_eq, Request.matching_eq_rowsIn, Request.rowsIn_eq_plain hjoins]
    exact congrArg _ hlength
  have hpage : response.data.take 2 = rows.take 2 := by
    rw [hrows.page localMeetingsOnPage.paging response hquery]
    exact List.take_take
  exact ⟨response, table, columns, hquery, hthree, hcolumns, hpage ▸ htexts, hcsv⟩

/-- A user with a control character in the name. -/
def strangeName : Service where
  store := { tables := [(TableDef.users.name, [[("id", .text (Sample.id 'd' 1)), ("name", .text "a\x01")]])] }

def userNames : DataRequest where
  columns := ["name"]
  paging := { size := 10, number := some 1 }

/-- **Not every request that is answered can be exported as a sheet.** The name of the user is shown by the query and
exported as comma-separated text, and fails to be exported as a sheet. -/
theorem export_strangeName :
    (∃ response, strangeName.query "users" none (.ok userNames) = .ok response) ∧
    (∃ file, strangeName.export "users" none userNames.toFields "csv" = .ok file) ∧
    strangeName.export "users" none userNames.toFields "xlsx" = .error (.fault .badCharacter) := by
  have he : Entity.users ∈ Entity.all := by simp [Entity.all]
  have htyped : strangeName.store.Typed := by decide +kernel
  have hentity : strangeName.entity "users" none = .ok Entity.users := rfl
  have hread : DataRequest.read false (.obj userNames.toFields) = .ok userNames :=
    DataRequest.read_written (by decide) rfl rfl false
  obtain ⟨r, hcheck, hjoins, htaken, hone, hsome, hselect, hvalue⟩ : ∃ r,
      Request.check Entity.users.config (.int 1000) userNames = .ok (.ok r) ∧ r.neededJoins Entity.users.config = [] ∧
        r.Taken Entity.users none ∧ (r.plainRowsIn Entity.users none strangeName.store).length = 1 ∧ r.select ≠ [] ∧
        (∀ c ∈ r.select, c.isData = true ∧ c.type = .plain .string) ∧
        (∀ c ∈ r.select, ∀ env ∈ r.plainRowsIn Entity.users none strangeName.store,
          c.scalar.value strangeName.store env 1 = .text "a\x01") :=
    Request.exists_check (by decide +kernel)
  rw [← Request.rowsIn_eq_plain hjoins] at hone hvalue
  obtain ⟨env, response, fields, hanswered⟩ := Request.exists_answeredByOne (s := strangeName) he hcheck rfl htyped
    htaken rfl rfl hone
  obtain ⟨rows, hrows⟩ := Request.exists_allRows he (Request.accepted_of_check hcheck) htyped none
  obtain ⟨table, htable, hheaders, -, htexts⟩ := exists_exportTable hentity htyped rfl rfl (by decide) rfl hread
    (Asks.of_read hread) hcheck hanswered.answer hrows
  refine ⟨⟨response, (query_eq_answer hentity _).trans hanswered.answer⟩, ⟨_, export_csv htable⟩, ?_⟩
  -- The first row of the table shows the name.
  obtain ⟨c, cs, hcs⟩ := List.exists_cons_of_ne_nil hsome
  have hc : c ∈ r.select := hcs ▸ List.mem_cons_self
  obtain ⟨hdata, htype⟩ := hselect c hc
  have hshown : fields.value c.name = .str "a\x01" := by
    obtain ⟨j, hlookup, hrender⟩ := hanswered.shows c hc hdata
    rw [hvalue c hc env (hanswered.rows ▸ List.mem_singleton_self env), htype] at hrender
    rw [Fields.value, hlookup, ← Except.ok.inj hrender]
    rfl
  have hfirst : ∃ rest, rows = fields :: rest := by
    have hpage := hrows.data_eq he hcheck hanswered.answer
    rw [hanswered.data] at hpage
    cases rows with
    | nil => cases hpage
    | cons row rest => exact ⟨rest, congrArg (· :: rest) (List.cons.inj hpage).1.symm⟩
  obtain ⟨rest, rfl⟩ := hfirst
  obtain ⟨texts, more, hrow, -, hmore⟩ := List.forall₂_cons_left_iff.1 htexts
  rw [TableStyle.ShowsTexts, hcs] at hrow
  obtain ⟨text, others, hcell, -, rfl⟩ := List.forall₂_cons_left_iff.1 hrow
  have hcolumn : c.schemaFields.value "type" = .str "string" := by
    rw [c.value_type_schemaFields, htype]
    rfl
  rw [hshown, TableStyle.cell, hcolumn] at hcell
  obtain rfl : "a\x01" = text := Except.ok.inj hcell
  have hbad : RenderedTable.sheetHolds "a\x01" = false := by decide +kernel
  rw [export_xlsx htable (List.cons_ne_nil _ _) hheaders, hmore, if_neg]
  simp [hbad]

end Service

end TableQuery
