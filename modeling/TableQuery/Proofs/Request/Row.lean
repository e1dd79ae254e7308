import TableQuery.Proofs.Filter.ColumnReduction
import TableQuery.Proofs.Request.Core
import TableQuery.Proofs.Request.Grammar
import TableQuery.Proofs.Request.Pages
import TableQuery.Proofs.Request.Typed

/-!
# Single rows

A single row is asked for with all that is known of it. The request for it goes through the rows of its entity in the
scope of the facility, like every other request, and keeps those with the identifier (`Request.exists_mem_rowsIn`). So
there is one iff some page of a request without a filter has a row with the identifier, and otherwise the answer is that
there is none (`Service.row_iff_listed`).
-/

set_option autoImplicit false

namespace TableQuery

open Sql (Clause Env Group Join Query Row Store Value slice)

open Request (namedJoins)

/-! ## Identifiers -/

/-- A stored value that is a lower case identifier. -/
def Sql.Value.isIdentifier : Value → Bool
  | .text s => isUuid s
  | _ => false

/-- The keys of all tables but the log are lower case identifiers. -/
def Sql.Store.Identified (store : Store) : Prop :=
  ∀ t ∈ TableDef.all, t.name ≠ TableDef.log.name → ∀ row ∈ store.rows t.name, (Row.cell row "id").isIdentifier = true

instance (store : Store) : Decidable store.Identified :=
  inferInstanceAs (Decidable (∀ t ∈ TableDef.all, t.name ≠ TableDef.log.name → ∀ row ∈ store.rows t.name,
    (Row.cell row "id").isIdentifier = true))

theorem Sql.Value.fitsStore_of_lt {i n : Nat} (h : Value.fitsStore n = true) (hi : i < n) :
    Value.fitsStore i = true := by
  rw [Value.fitsStore, Bool.and_eq_true, decide_eq_true_eq, decide_eq_true_eq] at h ⊢
  omega

namespace Entity

variable {e : Entity} {store : Store} {facility id : String} {env : Env} {c : ColumnDef}

/-- The stored column with the identifiers of an entity. -/
def idRef (e : Entity) : Sql.Ref := ⟨e.base.name, "id"⟩

/-- A column shows the identifiers of an entity. -/
structure ShowsIds (e : Entity) (c : ColumnDef) : Prop where
  named : e.config.column? "id" = some c
  type : c.type = .plain .uuid
  source : c.source = .value (.column e.idRef)

namespace ShowsIds

theorem name (h : e.ShowsIds c) : c.name = "id" := by
  simpa using List.find?_some h.named

theorem mem (h : e.ShowsIds c) : c ∈ e.config.columns := List.mem_reverse.1 (List.mem_of_find?_eq_some h.named)

theorem isData (h : e.ShowsIds c) : c.isData = true := by
  rw [ColumnDef.isData, h.type]
  rfl

theorem scalar (h : e.ShowsIds c) : c.scalar = .column e.idRef := by
  rw [ColumnDef.scalar, h.source]
  rfl

theorem render (h : e.ShowsIds c) (id : String) : c.type.render (.ofValue c.type (.text id)) = .ok (.str id) := by
  rw [h.type]
  rfl

end ShowsIds

/-- **Entities of a facility show their rows by identifiers.** -/
theorem exists_showsIds : ∀ e ∈ all, e.isScoped = true → ∃ c, e.ShowsIds c := by
  have h : ∀ e ∈ all, e.isScoped = true → (e.config.column? "id").any (fun c =>
      decide (c.type = .plain .uuid) && decide (c.source = .value (.column e.idRef))) = true := by decide +kernel
  intro e he hscoped
  obtain ⟨c, hc, hcolumn⟩ := (Option.any_eq_true _ _).1 (h e he hscoped)
  rw [Bool.and_eq_true, decide_eq_true_eq, decide_eq_true_eq] at hcolumn
  exact ⟨c, hc, hcolumn.1, hcolumn.2⟩

theorem base_of_mem : ∀ e ∈ all, e.isScoped = true →
    ∃ t ∈ TableDef.all, t.name = e.base.table ∧ t.name ≠ TableDef.log.name := by
  decide +kernel

theorem exists_id (he : e ∈ all) (hscoped : e.isScoped = true) (hids : store.Identified)
    (henv : env ∈ e.core.joinedRows store) : ∃ id, env.read e.idRef = .text id ∧ isUuid id = true := by
  have hwf := wellFormed_of_mem e he
  have htables : ∀ t ∈ e.core.base :: e.core.joins.map (·.table), t.name = e.base.name → t = e.base := fun t ht =>
    hwf.eq_of_alias e.base List.mem_cons_self t (Request.base_cons_tables_subset _ ht)
  obtain ⟨row, hrow, hlookup⟩ :=
    (Query.drawn_joinedRows rfl (left_core hwf) env henv).lookup (t := e.base) List.mem_cons_self htables
  obtain ⟨t, ht, hname, hlog⟩ := base_of_mem e he hscoped
  have hid := hids t ht hlog row (hname ▸ hrow)
  have hread : env.read e.idRef = Row.cell row "id" := Env.read_eq_cell hlookup
  rw [hread]
  cases hcell : Row.cell row "id" with
  | text s =>
    rw [hcell] at hid
    exact ⟨s, rfl, hid⟩
  | null | int n | real x =>
    rw [hcell] at hid
    cases hid

/-- A row in the scope of a facility has an identifier. -/
def HasRow (e : Entity) (facility : String) (store : Store) (id : String) : Prop :=
  ∃ env ∈ e.inScope (some facility) store e.core, env.read e.idRef = .text id

theorem hasRow_iff_of_unjoined (h : e.requiredNames = []) : e.HasRow facility store id ↔
    ∃ env ∈ e.inScope (some facility) store { base := e.base }, env.read e.idRef = .text id := by
  have hcore : e.core = { base := e.base } := by
    rw [core, coreNames, h, JoinDefs.reachAll]
    rfl
  rw [HasRow, hcore]

end Entity

namespace Request

variable {e : Entity} {r : Request} {store : Store} {maxPageSize : Json} {d : DataRequest} {facility id : String}
  {c : ColumnDef} {s : Service}

/-! ## Rows of a request by their identifiers -/

/-- **A request that keeps the rows with an identifier has one iff the entity has one.** -/
theorem exists_mem_rowsIn (he : e ∈ Entity.all) (hdefined : store.Defined) (hstore : store.Integral)
    (hkept : ∀ env : Env, env.read e.idRef = .text id → (r.filter.clause false).holds store env = true) :
    (∃ env ∈ r.rowsIn e (some facility) store, env.read e.idRef = .text id) ↔ e.HasRow facility store id := by
  have hwf := Entity.wellFormed_of_mem e he
  obtain ⟨extra, hextra⟩ := exists_joinNames hwf r
  -- What is looked up does not change the identifier.
  have hread : ∀ env ∈ e.inScope (some facility) store e.core,
      Env.read (env ++ Join.lookedUp store (namedJoins e extra) env) e.idRef = env.read e.idRef := fun env henv =>
    Entity.read_append hwf (List.mem_filter.1 henv).1 List.mem_cons_self _
  rw [rowsIn, inScope_planned he hdefined hstore hextra]
  constructor
  · rintro ⟨env', henv', hid⟩
    obtain ⟨env, henv, rfl⟩ := List.mem_map.1 (List.mem_filter.1 henv').1
    exact ⟨env, henv, (hread env henv).symm.trans hid⟩
  · rintro ⟨env, henv, hid⟩
    have hid' := (hread env henv).trans hid
    exact ⟨_, List.mem_filter.2 ⟨List.mem_map_of_mem henv, hkept _ hid'⟩, hid'⟩

/-- A row of a request has an identifier. -/
theorem exists_id_of_mem_rowsIn (he : e ∈ Entity.all) (hscoped : e.isScoped = true) (hdefined : store.Defined)
    (hstore : store.Integral) (hids : store.Identified) :
    ∀ env ∈ r.rowsIn e (some facility) store, ∃ id, env.read e.idRef = .text id ∧ isUuid id = true := by
  intro env' henv'
  have hwf := Entity.wellFormed_of_mem e he
  obtain ⟨extra, hextra⟩ := exists_joinNames hwf r
  rw [rowsIn, inScope_planned he hdefined hstore hextra] at henv'
  obtain ⟨env, henv, rfl⟩ := List.mem_map.1 (List.mem_filter.1 henv').1
  have hcore := (List.mem_filter.1 henv).1
  rw [Entity.read_append hwf hcore List.mem_cons_self]
  exact Entity.exists_id he hscoped hids hcore

theorem lookup_id_of_showsData (hc : e.ShowsIds c) (hmem : c ∈ r.select) {env : Env} {fields : Fields}
    (h : r.ShowsData store env fields) (hid : env.read e.idRef = .text id) : fields.lookup "id" = some (.str id) := by
  obtain ⟨j, hj, hrender⟩ := h c hmem hc.isData
  have hvalue : c.scalar.value store env 1 = .text id := by
    rw [hc.scalar]
    exact hid
  rw [hvalue, hc.render] at hrender
  rw [← hc.name, hj, ← Except.ok.inj hrender]

/-- The data of each row of a request are those of a sorted group, if some data is selected. -/
theorem exists_sorted_group (he : e ∈ Entity.all) (hr : check e.config maxPageSize d = .ok (.ok r))
    (hdata : ∃ c ∈ r.select, c.isData = true) {f : Option String} :
    ∀ env ∈ r.rowsIn e f store, ∃ g ∈ (r.planned e f).sorted store, ¬ r.DifferInData store g.first env := by
  intro env henv
  by_cases hdistinct : r.distinct = true
  · obtain ⟨first, hfirst, hsame⟩ := exists_sorted e f store hdistinct hdata env henv
    obtain ⟨g, hg, rfl⟩ := List.mem_map.1 hfirst
    exact ⟨g, hg, hsame⟩
  · rw [distinct_of_check hr, Bool.not_eq_true] at hdistinct
    rw [sorted_planned (Entity.stored_of_mem e he) hr hdistinct]
    rw [← matching_eq_rowsIn] at henv
    exact ⟨⟨1, env⟩, List.mem_map_of_mem ((Query.sortedRows_perm _).mem_iff.2 henv), not_differInData_self⟩

/-- The total of a request that selects some data is the number of its sorted groups. -/
theorem total_eq_length_sorted (he : e ∈ Entity.all) (hr : check e.config maxPageSize d = .ok (.ok r))
    (hdata : ∃ c ∈ r.select, c.isData = true) {f : Option String} :
    (r.planned e f).total store = ((r.planned e f).sorted store).length := by
  by_cases hdistinct : r.distinct = true
  · exact total_of_data hdistinct hdata
  · rw [total_planned (Bool.not_eq_true _ ▸ hdistinct)]
    rw [distinct_of_check hr, Bool.not_eq_true] at hdistinct
    rw [sorted_planned (Entity.stored_of_mem e he) hr hdistinct, List.length_map,
      (Query.sortedRows_perm _).length_eq, matching_eq_rowsIn]

theorem taken_of_always (he : e ∈ Entity.all) (hscoped : e.isScoped = true) (hr : r.Accepted e.config)
    (halways : r.filter = .const true) (hfacility : isUuid facility = true) : r.Taken e (some facility) := by
  obtain ⟨scope, hscope⟩ := Option.isSome_iff_exists.1 hscoped
  have htests : (FilterNode.const true).tests = [] := rfl
  have hoperands : (FilterNode.const true).operands = [] := rfl
  have hpatterns : (FilterNode.const true).patterns = [] := rfl
  refine taken_of_operands he hr (fun f hf => Option.some.inj hf ▸ Text.hasHalf_of_isUuid hfacility) ?_ ?_ ?_ ?_ ?_
  · rw [halways, htests]
    exact List.forall_mem_nil _
  · rw [halways, hoperands]
    exact List.forall_mem_nil _
  · rw [halways, hpatterns]
    exact List.forall_mem_nil _
  · rw [clausesIn, scopeClauses_eq hscope, halways]
    show 1 + e.room ≤ 32766
    have hroom := Entity.room_le e he
    omega
  · rw [clausesIn, scopeClauses_eq hscope, halways]
    rfl

/-- **Some page lists an identifier iff a row of the request has it**, if the request is answered. -/
theorem exists_page_iff (he : e ∈ Entity.all) (hscoped : e.isScoped = true) (htyped : s.store.Typed)
    (hstore : s.store.Integral) (hids : s.store.Identified) (hc : e.ShowsIds c)
    (hr : check e.config maxPageSize d = .ok (.ok r)) (hmem : c ∈ r.select)
    (hsize : isPageSize maxPageSize 1 = .ok true)
    (htaken : r.Taken e (some facility))
    (hfew : Value.fitsStore ((r.planned e (some facility)).total s.store) = true) :
    (∃ p response row, s.answer e (some facility) maxPageSize { d with paging := p } = .ok response ∧
        row ∈ response.data ∧ row.lookup "id" = some (.str id)) ↔
      ∃ env ∈ r.rowsIn e (some facility) s.store, env.read e.idRef = .text id := by
  have hacc := accepted_of_check hr
  have hstored := Entity.stored_of_mem e he
  have hdata : ∃ c ∈ r.select, c.isData = true := ⟨c, hmem, hc.isData⟩
  constructor
  · rintro ⟨p, response, row, hanswer, hrow, hid⟩
    obtain ⟨-, -, -, -, hshown⟩ := (answer_eq_ok he hr).1 hanswer
    obtain ⟨g, hg, hg'⟩ := exists_of_mem_mapM hshown hrow
    have hgroup := (Query.sorted_perm _).mem_iff.1 (Sql.slice_subset _ _ _ hg)
    have hfirst := Query.first_mem_matching (grouped_or_uncounted hstored hr hmem hc.isData) g hgroup
    rw [matching_eq_rowsIn] at hfirst
    obtain ⟨id', hid', -⟩ := exists_id_of_mem_rowsIn he hscoped htyped.defined hstore hids g.first hfirst
    have hlookup := lookup_id_of_showsData hc hmem (showsData_of_shown he hacc hg') hid'
    obtain rfl : id' = id := by simpa [hlookup] using hid
    exact ⟨g.first, hfirst, hid'⟩
  · rintro ⟨env, henv, hid⟩
    obtain ⟨g, hg, hsame⟩ := exists_sorted_group he hr hdata env henv
    -- The group has the same identifier.
    have hid' : g.first.read e.idRef = .text id := by
      by_contra hne
      refine hsame ⟨c, hmem, hc.isData, fun hcompare => hne (Value.compare_text.1 ?_)⟩
      rw [← hid]
      rwa [hc.scalar] at hcompare
    obtain ⟨i, hi, hget⟩ := List.getElem_of_mem hg
    have hslice : slice i 1 ((r.planned e (some facility)).sorted s.store) = [g] := by
      rw [slice, List.drop_eq_getElem_cons hi, List.take_succ_cons, List.take_zero, hget]
    have hstart : Value.fitsStore i = true :=
      Value.fitsStore_of_lt (total_eq_length_sorted he hr hdata ▸ hfew) hi
    have hpaging : pagingErrors maxPageSize { size := 1, offset := some (i : Int) } = .ok [] :=
      pagingErrors_eq_nil.2
        ⟨hsize, fun n hn => absurd hn (Option.not_mem_none n), fun n hn => Option.some.inj hn ▸ Int.natCast_nonneg i⟩
    obtain ⟨response, hanswer⟩ := exists_answer he hr htyped htaken hpaging rfl hstart
    obtain ⟨-, -, -, -, hshown⟩ := (answer_eq_ok he hr).1 hanswer
    have hpage : [g].mapM (fun g => r.shown s.store g.first g.size) = .ok response.data := hslice ▸ hshown
    obtain ⟨row, rest, hrow, -, hrows⟩ := List.forall₂_cons_left_iff.1 (forall₂_of_mapM hpage)
    refine ⟨_, response, row, hanswer, hrows ▸ List.mem_cons_self, ?_⟩
    exact lookup_id_of_showsData hc hmem (showsData_of_shown he hacc hrow) hid'

/-! ## The request for a row -/

def idFilter (c : ColumnDef) (id : String) : FilterNode := .column c .equal (.one (.text id)) false

def forRow (e : Entity) (c : ColumnDef) (id : String) : Request :=
  { select := e.config.columns.filter (·.isData), filter := idFilter c id, size := 1 }

theorem clause_idFilter (hc : e.ShowsIds c) :
    (idFilter c id).clause false = .compare .eq (.plain (.column e.idRef)) (.text id) := by
  have hclause : (idFilter c id).clause false = Operator.equal.clause c.type c.source (.one (.text id)) := rfl
  rw [hclause, hc.type, hc.source]
  rfl

theorem holds_idFilter (hc : e.ShowsIds c) {env : Env} :
    ((idFilter c id).clause false).holds store env = true ↔ env.read e.idRef = .text id := by
  rw [clause_idFilter hc, Clause.holds, Clause.truth, beq_iff_eq]
  exact Sql.compareTruth_text

theorem ofJson_rowRequest (hc : e.ShowsIds c) (hid : isUuid id = true) :
    FilterNode.ofJson e.config (Service.rowRequest e id).filter = .ok (.ok (idFilter c id)) := by
  have hread : Rule.uuid.read (.str id) = .ok (.text id) := if_pos hid
  have haccepts : c.type.accepts .equal = true := by
    rw [hc.type]
    rfl
  refine @ColumnFilter.ofJson_make _ _ _ .equal (some (.str id)) _ hc.named haccepts ?_
  refine FilterNode.readArgument_one (by decide) ?_ ?_ hread
  · rw [hc.type]
    rfl
  · rw [hc.type]
    rfl

theorem check_rowRequest (he : e ∈ Entity.all) (hsize : isPageSize maxPageSize 1 = .ok true) (hc : e.ShowsIds c)
    (hid : isUuid id = true) :
    check e.config maxPageSize (Service.rowRequest e id) = .ok (.ok (forRow e c id)) := by
  have hnames : (e.config.columns.map (·.name)).Nodup := (Entity.wellFormed_of_mem e he).columnNames
  have hselection : Selection.ofNames e.config false ((e.config.columns.filter (·.isData)).map (·.name)) =
      { columns := e.config.columns.filter (·.isData) } := by
    refine ofNames_of_selects (selects_of_selectable hnames [] _ (fun c hc => ?_) ?_)
    · obtain ⟨hmem, hdata⟩ := List.mem_filter.1 hc
      exact ⟨hmem, fun hcount => absurd (hcount.symm.trans hdata) Bool.false_ne_true, Bool.noConfusion⟩
    · exact (List.filter_sublist.map _).nodup hnames
  have hpaging : pagingErrors maxPageSize (Service.rowRequest e id).paging = .ok [] :=
    pagingErrors_eq_nil.2 ⟨hsize, fun n hn => Option.some.inj hn ▸ Int.le_refl 1, fun n hn => by cases hn⟩
  have hcolumns : Selection.ofNames e.config (Service.rowRequest e id).distinct (Service.rowRequest e id).columns =
      { columns := e.config.columns.filter (·.isData) } := hselection
  refine check_eq_ok.2 ⟨by rw [hcolumns], hpaging, [], _, rfl, ofJson_rowRequest hc hid, ?_⟩
  rw [hcolumns]
  rfl

/-- The store takes the request for a row. -/
theorem taken_forRow (he : e ∈ Entity.all) (hscoped : e.isScoped = true) (hr : (forRow e c id).Accepted e.config)
    (hc : e.ShowsIds c) (hid : isUuid id = true) (hfacility : isUuid facility = true) :
    (forRow e c id).Taken e (some facility) := by
  obtain ⟨scope, hscope⟩ := Option.isSome_iff_exists.1 hscoped
  have htests : (forRow e c id).filter.tests = [⟨c, .equal, .one (.text id)⟩] := rfl
  have hoperands : (forRow e c id).filter.operands = [.text id] := rfl
  have hpatterns : (forRow e c id).filter.patterns = [] := rfl
  refine taken_of_operands he hr (fun f hf => Option.some.inj hf ▸ Text.hasHalf_of_isUuid hfacility) ?_ ?_ ?_ ?_ ?_
  · rw [htests]
    exact List.forall_mem_singleton.2 nofun
  · rw [hoperands]
    refine List.forall_mem_singleton.2 ?_
    rw [Operand.fitsStore, Text.hasHalf_of_isUuid hid]
    rfl
  · rw [hpatterns]
    exact List.forall_mem_nil _
  · rw [clausesIn, scopeClauses_eq hscope, forRow, clause_idFilter hc]
    show 2 + e.room ≤ 32766
    have hroom := Entity.room_le e he
    omega
  · rw [clausesIn, scopeClauses_eq hscope, forRow, clause_idFilter hc]
    rfl

/-- **The request for a row is answered** with rows that have the identifier and all data of the entity; there is one
iff the entity has a row with the identifier in the scope of the facility. -/
theorem answer_rowRequest (he : e ∈ Entity.all) (hscoped : e.isScoped = true) (htyped : s.store.Typed)
    (hstore : s.store.Integral) (hsize : isPageSize maxPageSize 1 = .ok true) (hc : e.ShowsIds c)
    (hid : isUuid id = true) (hfacility : isUuid facility = true) :
    ∃ response, s.answer e (some facility) maxPageSize (Service.rowRequest e id) = .ok response ∧
      (response.data = [] ↔ ¬ e.HasRow facility s.store id) ∧
      ∀ row ∈ response.data, row.lookup "id" = some (.str id) ∧
        row.map (·.1) = (e.config.columns.filter (·.isData)).map (·.name) := by
  have hr : check e.config maxPageSize (Service.rowRequest e id) = .ok (.ok (forRow e c id)) :=
    check_rowRequest he hsize hc hid
  have hacc := accepted_of_check hr
  have hmem : c ∈ (forRow e c id).select :=
    List.mem_filter.2 ⟨hc.mem, hc.isData⟩
  have hpaging := (check_eq_ok.1 hr).2.1
  obtain ⟨response, hanswer⟩ := exists_answer (p := (Service.rowRequest e id).paging) he hr htyped
    (taken_forRow he hscoped hacc hc hid hfacility) hpaging rfl rfl
  obtain ⟨rows, hperm, hpages⟩ := rows_of_answer he s (some facility) hr rfl
  have hshows : List.Forall₂ ((forRow e c id).ShowsData s.store) (rows.take 1) response.data := hpages _ _ hanswer
  -- All rows of the request have the identifier.
  have hids : ∀ env ∈ rows, env.read e.idRef = .text id := fun env henv =>
    (holds_idFilter hc).1 (List.mem_filter.1 (hperm.mem_iff.1 henv)).2
  refine ⟨response, hanswer, ?_, fun row hrow => ⟨?_, ?_⟩⟩
  · have hempty : response.data = [] ↔ rows = [] := by
      rw [← List.length_eq_zero_iff, ← hshows.length_eq, List.length_eq_zero_iff, List.take_eq_nil_iff]
      exact or_iff_right (by decide)
    have hkept : ∀ env : Env, env.read e.idRef = .text id →
        ((forRow e c id).filter.clause false).holds s.store env = true := fun env henv => (holds_idFilter hc).2 henv
    rw [hempty, List.eq_nil_iff_forall_not_mem, ← exists_mem_rowsIn he htyped.defined hstore hkept]
    constructor
    · exact fun hnone ⟨env, henv, _⟩ => hnone env (hperm.mem_iff.2 henv)
    · exact fun hnone env henv => hnone ⟨env, hperm.mem_iff.1 henv, hids env henv⟩
  · obtain ⟨env, henv, hshow⟩ := exists_of_mem_forall₂ hshows hrow
    exact lookup_id_of_showsData hc hmem hshow (hids env (List.mem_of_mem_take henv))
  · obtain ⟨-, -, -, -, hshown⟩ := (answer_eq_ok he hr).1 hanswer
    obtain ⟨g, -, hg⟩ := exists_of_mem_mapM hshown hrow
    exact keys_of_shown hg

end Request

/-! ## The row with an identifier -/

namespace Service

variable {e : Entity} {r : Request} {s : Service} {d : DataRequest} {facility : String}

/-- An entity of facilities is found for every facility that exists. -/
theorem entity_of_scoped (he : e ∈ Entity.all) (hscoped : e.isScoped = true) (s : Service) (facility : String) :
    s.entity e.name (some facility) =
      if s.hasFacility facility then .ok e else .error (.notFound "Facility not found") := by
  have hfind : (Entity.find? e.name).filter (·.isScoped) = some e := by
    simp only [Entity.all, List.mem_cons, List.not_mem_nil, or_false] at he
    rcases he with rfl | rfl | rfl | rfl | rfl | rfl | rfl
    · cases hscoped
    · cases hscoped
    all_goals rfl
  have hsome : (Entity.find? e.name).filter (·.isScoped == (some facility).isSome) = some e := by
    simp only [Option.isSome_some, beq_true]
    exact hfind
  unfold entity
  rw [hsome]

/-- Single rows are those that the entity has, if the facility exists. -/
theorem row_eq_ok_or (he : e ∈ Entity.all) (hscoped : e.isScoped = true) (htyped : s.store.Typed)
    (hstore : s.store.Integral) (hids : s.store.Identified)
    (hsize : Request.isPageSize s.settings.maxPageSize 1 = .ok true) (facility id : String) :
    (s.hasFacility facility = true ∧ e.HasRow facility s.store id ∧
        ∃ row, s.row e.name (some facility) id = .ok row ∧ row.lookup "id" = some (.str id) ∧
          row.map (·.1) = (e.config.columns.filter (·.isData)).map (·.name)) ∨
      ¬(s.hasFacility facility = true ∧ e.HasRow facility s.store id) ∧
        ∃ detail, s.row e.name (some facility) id = .error (.notFound detail) := by
  by_cases hfacility : s.hasFacility facility = true
  · have hentity : s.entity e.name (some facility) = .ok e := by
      rw [entity_of_scoped he hscoped, if_pos hfacility]
    by_cases hid : isUuid id = true
    · obtain ⟨c, hc⟩ := Entity.exists_showsIds e he hscoped
      obtain ⟨response, hanswer, hempty, hrows⟩ := Request.answer_rowRequest he hscoped htyped hstore hsize hc hid
        (Bool.and_eq_true_iff.1 hfacility).1
      cases hdata : response.data with
      | nil =>
        have hrow : s.row e.name (some facility) id = .error .nothing := by
          unfold row
          rw [hentity]
          simp only [hid, Bool.not_true, bind, Except.bind, hanswer, hdata, if_neg Bool.false_ne_true]
        exact Or.inr ⟨fun h => hempty.1 hdata h.2, _, hrow⟩
      | cons row rest =>
        have hrow : s.row e.name (some facility) id = .ok row := by
          unfold Service.row
          rw [hentity]
          simp only [hid, Bool.not_true, bind, Except.bind, hanswer, hdata, if_neg Bool.false_ne_true]
        rw [hdata] at hrows hempty
        exact Or.inl ⟨hfacility, by_contra fun h => List.cons_ne_nil _ _ (hempty.2 h), row, hrow,
          hrows row List.mem_cons_self⟩
    · refine Or.inr ⟨fun h => hid ?_, "Not found", ?_⟩
      · obtain ⟨-, env, henv, hread⟩ := h
        obtain ⟨id', hid', huuid⟩ := Entity.exists_id he hscoped hids (List.mem_filter.1 henv).1
        rw [hread] at hid'
        cases hid'
        exact huuid
      · unfold row
        rw [hentity]
        simp only [bind, Except.bind, hid, Bool.not_false, if_true]
        rfl
  · refine Or.inr ⟨fun h => hfacility h.1, "Facility not found", ?_⟩
    unfold row
    rw [entity_of_scoped he hscoped, if_neg hfacility]
    rfl

/-- Some page of a request for an entity in the name of a facility has a row with an identifier. -/
def Lists (s : Service) (name facility : String) (d : DataRequest) (id : String) : Prop :=
  ∃ p response row, s.query name (some facility) (.ok { d with paging := p }) = .ok response ∧ row ∈ response.data ∧
    row.lookup "id" = some (.str id)

/-- A request without a filter lists what the entity has, if the facility exists. -/
theorem lists_iff_hasRow (he : e ∈ Entity.all) (hscoped : e.isScoped = true) (htyped : s.store.Typed)
    (hstore : s.store.Integral) (hids : s.store.Identified)
    (hsize : Request.isPageSize s.settings.maxPageSize 1 = .ok true)
    (hr : Request.check e.config s.settings.maxPageSize d = .ok (.ok r)) (hfilter : d.filter = .str "always")
    (hid : "id" ∈ d.columns)
    (hfew : Value.fitsStore ((r.planned e (some facility)).total s.store) = true) (id : String) :
    s.Lists e.name facility d id ↔ s.hasFacility facility = true ∧ e.HasRow facility s.store id := by
  have hacc := Request.accepted_of_check hr
  obtain ⟨c, hc⟩ := Entity.exists_showsIds e he hscoped
  obtain ⟨-, -, sort, f, -, hread, hrequest⟩ := Request.check_eq_ok.1 hr
  have hmem : c ∈ r.select := by
    rw [← Request.names_of_check hr] at hid
    obtain ⟨c', hc', hname⟩ := List.mem_map.1 hid
    obtain rfl : c = c' :=
      (Entity.wellFormed_of_mem e he).eq_of_name (hacc.select c' hc') hc.mem (hc.name.trans hname.symm)
    exact hc'
  have halways : r.filter = .const true := by
    rw [hfilter] at hread
    rw [hrequest]
    exact (Except.ok.inj (Except.ok.inj hread)).symm
  by_cases hfacility : s.hasFacility facility = true
  · have hquery : ∀ p, s.query e.name (some facility) (.ok { d with paging := p }) =
        s.answer e (some facility) s.settings.maxPageSize { d with paging := p } := by
      intro p
      rw [query, entity_of_scoped he hscoped, if_pos hfacility]
      rfl
    have htaken : r.Taken e (some facility) :=
      Request.taken_of_always he hscoped hacc halways (Bool.and_eq_true_iff.1 hfacility).1
    simp only [Lists, hquery, hfacility, true_and]
    rw [Request.exists_page_iff he hscoped htyped hstore hids hc hr hmem hsize htaken hfew]
    refine Request.exists_mem_rowsIn he htyped.defined hstore fun env _ => ?_
    rw [halways]
    rfl
  · have hquery : ∀ read, s.query e.name (some facility) read = .error (.notFound "Facility not found") := by
      intro read
      rw [query, entity_of_scoped he hscoped, if_neg hfacility]
      rfl
    constructor
    · rintro ⟨p, response, row, hanswer, -⟩
      rw [hquery] at hanswer
      cases hanswer
    · exact fun h => absurd h.1 hfacility

/-- **There is a row with an identifier iff the request without a filter lists it.** For every entity of facilities,
whatever text is given for the facility and for the identifier: if some page of a request for the identifiers of all
rows has it, the row with all data of the entity is found, and otherwise there is none to be found, be it that the
facility does not exist, that the identifier is none, that no row has it, or that the row belongs to another facility.
-/
theorem row_iff_listed (he : e ∈ Entity.all) (hscoped : e.isScoped = true) (htyped : s.store.Typed)
    (hstore : s.store.Integral) (hids : s.store.Identified)
    (hsize : Request.isPageSize s.settings.maxPageSize 1 = .ok true)
    (hr : Request.check e.config s.settings.maxPageSize d = .ok (.ok r)) (hfilter : d.filter = .str "always")
    (hid : "id" ∈ d.columns) (facility : String)
    (hfew : Value.fitsStore ((r.planned e (some facility)).total s.store) = true) (id : String) :
    (s.Lists e.name facility d id → ∃ row, s.row e.name (some facility) id = .ok row ∧
        row.lookup "id" = some (.str id) ∧
        row.map (·.1) = (e.config.columns.filter (·.isData)).map (·.name)) ∧
      (¬ s.Lists e.name facility d id → ∃ detail, s.row e.name (some facility) id = .error (.notFound detail)) := by
  rw [lists_iff_hasRow he hscoped htyped hstore hids hsize hr hfilter hid hfew]
  rcases row_eq_ok_or he hscoped htyped hstore hids hsize facility id with
    ⟨hfacility, hrow, hfound⟩ | ⟨hnone, hmissing⟩
  · exact ⟨fun _ => hfound, fun h => absurd ⟨hfacility, hrow⟩ h⟩
  · exact ⟨fun h => absurd h hnone, fun _ => hmissing⟩

/-- A request for the days of meetings, each with the identifiers of the meetings. -/
def meetingsByDay : DataRequest where
  columns := ["date", "id"]
  sort := [⟨"date", false⟩]
  paging := { size := 10 }

def twoFacilities : Service where
  store := {
    tables := [(TableDef.facilities.name, [[("id", .text (Sample.id 'f' 1))], [("id", .text (Sample.id 'f' 2))]]),
      (TableDef.users.name, [[("id", .text (Sample.id 'd' 1)), ("name", .text "Anna")]]),
      (TableDef.meetings.name, [
        [("id", .text (Sample.id '3' 1)), ("facility_id", .text (Sample.id 'f' 1)), ("date", .text "2024-01-01"),
          ("created_by_id", .text (Sample.id 'd' 1))],
        [("id", .text (Sample.id '3' 2)), ("facility_id", .text (Sample.id 'f' 2)), ("date", .text "2024-01-02"),
          ("created_by_id", .text (Sample.id 'd' 1))]])] }

/-- The row of the meeting of a facility is found, and that of another facility is not. -/
theorem row_iff_listed_twoFacilities : ∃ row detail,
    twoFacilities.row "meetings" (some (Sample.id 'f' 1)) (Sample.id '3' 1) = .ok row ∧
    row.lookup "id" = some (.str (Sample.id '3' 1)) ∧
    twoFacilities.row "meetings" (some (Sample.id 'f' 1)) (Sample.id '3' 2) = .error (.notFound detail) := by
  have he : Entity.meetings ∈ Entity.all := by simp [Entity.all]
  obtain ⟨r, hcheck, hjoins, hfew⟩ : ∃ r, Request.check Entity.meetings.config (.int 1000) meetingsByDay = .ok (.ok r) ∧
      r.neededJoins Entity.meetings.config = [] ∧ Value.fitsStore (((r.unjoined Entity.meetings
        (some (Sample.id 'f' 1))).withJoined Entity.meetings.config.joins []).total twoFacilities.store) = true :=
    Request.exists_check (by decide +kernel)
  rw [← Request.joinNames_eq_nil hjoins] at hfew
  have htyped : twoFacilities.store.Typed := by decide +kernel
  have hstore : twoFacilities.store.Integral := by decide +kernel
  have hids : twoFacilities.store.Identified := by decide +kernel
  have hrow := row_iff_listed (s := twoFacilities) he rfl htyped hstore hids Request.isPageSize_int hcheck rfl
    (by decide) (Sample.id 'f' 1) hfew
  have hlists := lists_iff_hasRow (s := twoFacilities) he rfl htyped hstore hids Request.isPageSize_int hcheck rfl
    (by decide) hfew
  have hunjoined : Entity.meetings.requiredNames = [] := by decide +kernel
  simp only [Entity.hasRow_iff_of_unjoined hunjoined] at hlists
  obtain ⟨row, hfound, hid, -⟩ := (hrow (Sample.id '3' 1)).1 ((hlists _).2 (by decide +kernel))
  obtain ⟨detail, hmissing⟩ := (hrow (Sample.id '3' 2)).2 (mt (hlists _).1 (by decide +kernel))
  exact ⟨row, detail, hfound, hid, hmissing⟩

end Service

end TableQuery
