import TableQuery.Proofs.Column.Rendered
import TableQuery.Proofs.Filter.Bound
import TableQuery.Proofs.Request.Answers
import TableQuery.Proofs.Store.Filled

/-!
# What requests are answered with

A request that passes its check, without regular expressions and within the limits of the store, is answered from
every store whose cells match their columns: each row of data has the selected columns as its keys, in their order,
with values of the types of the columns (`Request.IsRowOf`). Only a text that cannot be encoded can stand in the way,
and then the failure is that of a query (`Request.answered_or_unencodable`).
-/

set_option autoImplicit false

namespace TableQuery

open Sql (Clause Env Group Query Store Value)

/-! ## Entities -/

namespace Entity

theorem fitsStore_of_mem : ∀ e ∈ all, (∀ c ∈ e.config.columns, ∀ m ∈ c.scalar.lists, m.fitsStore = true) ∧
    ∀ d ∈ e.config.customFilters, d.isSearch = true ∧ d.rows.fitsStore = true := by
  decide +kernel

/-- A column that declares its values to be there reads a required column of its table. -/
theorem required_of_mem : ∀ e ∈ all, ∀ c ∈ e.config.columns, c.type.isNullable = false → ∀ ref ∈ c.source.column?,
    ∀ t ∈ e.tables, t.name = ref.source → (TableDef.find? t.table).any (fun d =>
      d.columns.any fun column => column.name == ref.column && column.required) = true := by
  decide +kernel

/-- **Where no required cell is missing, entities find all that their columns declare to be there.** -/
theorem respected_of_filled {e : Entity} (he : e ∈ all) {store : Store} (hstore : store.Filled) :
    e.Respected store := by
  intro c hc hnull ref href t ht hname row hrow
  obtain ⟨d, hd, hcolumn⟩ := (Option.any_eq_true _ _).1 (required_of_mem e he c hc hnull ref href t ht hname)
  obtain ⟨column, hmem, hrequired⟩ := List.any_eq_true.1 hcolumn
  rw [Bool.and_eq_true, beq_iff_eq] at hrequired
  have hd' : d ∈ TableDef.all := List.mem_of_find?_eq_some hd
  have htable : d.name = t.table := by simpa using List.find?_some hd
  rw [← hrequired.1]
  exact hstore d hd' row (htable ▸ hrow) column hmem hrequired.2

end Entity

namespace Service

variable {s : Service} {name : String} {facility : Option String} {e : Entity}

theorem entity_eq_ok (h : s.entity name facility = .ok e) :
    e ∈ Entity.all ∧ ∀ f ∈ facility, s.hasFacility f = true := by
  unfold entity at h
  split at h
  · cases h
  next e' hfind =>
    cases h
    exact ⟨List.mem_of_find?_eq_some (Option.filter_eq_some_iff.1 hfind).1, nofun⟩
  next e' f hfind =>
    split at h
    next hfacility =>
      cases h
      refine ⟨List.mem_of_find?_eq_some (Option.filter_eq_some_iff.1 hfind).1, fun f' hf' => ?_⟩
      rw [← Option.some.inj hf']
      exact hfacility
    next => cases h

end Service

namespace Request

variable {e : Entity} {r : Request} {facility : Option String} {store : Store} {maxPageSize : Json} {d : DataRequest}
  {s : Service}

/-! ## Clauses -/

/-- The store takes the clauses of a request if it takes what its filter binds. -/
theorem taken_of_operands (he : e ∈ Entity.all) (hr : r.Accepted e.config)
    (hfacility : ∀ f ∈ facility, Text.hasHalf f = false) (hregexp : ∀ t ∈ r.filter.tests, t.operator ≠ .regexp)
    (hoperands : ∀ v ∈ r.filter.operands, v.fitsStore = true)
    (hpatterns : ∀ p ∈ r.filter.patterns, Sql.isOverlong p = false)
    (hfew : Clause.boundInAll (r.clausesIn e facility) + e.room ≤ Query.boundLimit)
    (hshallow : (Clause.conj (r.clausesIn e facility)).isShallow = true) : r.Taken e facility := by
  obtain ⟨hlists, hcustom⟩ := Entity.fitsStore_of_mem e he
  have hscope : ∀ c ∈ e.scopeClauses facility, c.IsTaken := by
    intro c hc
    unfold Entity.scopeClauses at hc
    split at hc
    · cases hc
    next ref f _ =>
      rw [List.mem_singleton.1 hc]
      refine ⟨rfl, ?_⟩
      rw [Clause.fitsStore, Operand.fitsStore, hfacility f rfl]
      rfl
    · rw [List.mem_singleton.1 hc]
      exact ⟨rfl, rfl⟩
  have hclauses : ∀ c ∈ r.clausesIn e facility, c.IsTaken := by
    intro c hc
    rcases List.mem_append.1 hc with hc | hc
    · exact hscope c hc
    · split at hc
      · cases hc
      · rw [List.mem_singleton.1 hc]
        exact FilterNode.isTaken_clause hr.filter hlists hcustom hregexp hoperands hpatterns false
  exact ⟨fun c hc => (hclauses c hc).usable, fun c hc => (hclauses c hc).fits, hfew, hshallow⟩

/-! ## Rows -/

/-- A row of data has some columns as its keys, in their order, each with a value of the type of the column. -/
def IsRowOf (columns : List ColumnDef) (row : Fields) : Prop :=
  List.Forall₂ (fun c field => field.1 = c.name ∧ c.type.admits field.2 = true) columns row

/-- In every group each selected column is there that may not be missing. -/
theorem value_ne_null_of_group (he : e ∈ Entity.all) (hr : check e.config maxPageSize d = .ok (.ok r))
    (hstore : e.Respected store) {g : Group} (hg : g ∈ (r.planned e facility).groups store) {c : ColumnDef}
    (hc : c ∈ r.select) (hnull : c.type.isNullable = false) : c.scalar.value store g.first g.size ≠ .null := by
  have hwf := Entity.wellFormed_of_mem e he
  have hacc := accepted_of_check hr
  have hstored := Entity.stored_of_mem e he
  cases hdata : c.isData with
  | false =>
    rw [(hstored.counts c (hacc.select c hc)).1 hdata]
    nofun
  | true =>
    have hmatch := Query.first_mem_matching (grouped_or_uncounted hstored hr hc hdata) g hg
    exact value_ne_null hwf hacc hstore (List.mem_filter.1 hmatch).1 (by simp [hc]) (hacc.select c hc) hnull g.size

/-- What is shown of a group is a row of the selected columns. -/
theorem isRowOf_shown (he : e ∈ Entity.all) (hr : check e.config maxPageSize d = .ok (.ok r))
    (hstore : e.Respected store) {g : Group} (hg : g ∈ (r.planned e facility).groups store) {fields : Fields}
    (hshown : r.shown store g.first g.size = .ok fields) : IsRowOf r.select fields := by
  have hcolumns := (accepted_of_check hr).select
  have hthere : ∀ c ∈ r.select, c.type.isNullable = false → c.scalar.value store g.first g.size ≠ .null :=
    fun c hc => value_ne_null_of_group he hr hstore hg hc
  have hpairs := forall₂_of_mapM hshown
  unfold IsRowOf
  clear hshown
  generalize r.select = cs at hcolumns hthere hpairs
  induction hpairs with
  | nil => exact .nil
  | @cons c field cs fields hfield _ ih =>
    rw [List.forall_mem_cons] at hcolumns hthere
    obtain ⟨j, hj, hfield⟩ := bind_eq_ok.1 hfield
    cases hfield
    obtain ⟨k, -, hshows⟩ := (Entity.stored_of_mem e he).shown c hcolumns.1
    exact .cons ⟨rfl, ColumnType.admits_of_render hshows hthere.1 hj⟩ (ih hcolumns.2 hthere.2)

/-- **The rows of a response are rows of the selected columns.** -/
theorem isRowOf_of_run (he : e ∈ Entity.all) (hr : check e.config maxPageSize d = .ok (.ok r))
    (hstore : e.Respected s.store) {response : Response}
    (h : r.run s.store s.settings.debug e facility = .ok response) :
    response.columns = r.select.map (·.name) ∧ ∀ row ∈ response.data, IsRowOf r.select row := by
  rw [← answer_eq_run hr] at h
  obtain ⟨-, -, hcolumns, -, hdata⟩ := (answer_eq_ok (p := d.paging) he hr).1 h
  refine ⟨hcolumns, fun row hrow => ?_⟩
  obtain ⟨g, hg, hshown⟩ := exists_of_mem_mapM hdata hrow
  have hgroup := (Query.sorted_perm _).mem_iff.1 (Sql.slice_subset _ _ _ hg)
  exact isRowOf_shown he hr hstore hgroup hshown

/-! ## Requests -/

/-- A request is within the limits of the store: its integers have 64 bits, its like patterns are not overlong, and its
clauses neither bind too many values nor are nested too deeply. -/
structure WithinLimits (e : Entity) (facility : Option String) (r : Request) : Prop where
  operands : ∀ v ∈ r.filter.operands, v.isInRange = true
  size : Value.fitsStore r.size = true
  offset : Value.fitsStore r.offset = true
  patterns : ∀ p ∈ r.filter.patterns, Sql.isOverlong p = false
  few : Clause.boundInAll (r.clausesIn e facility) + e.room ≤ Query.boundLimit
  shallow : (Clause.conj (r.clausesIn e facility)).isShallow = true

instance (e : Entity) (facility : Option String) (r : Request) : Decidable (r.WithinLimits e facility) :=
  decidable_of_iff ((∀ v ∈ r.filter.operands, v.isInRange = true) ∧ Value.fitsStore r.size = true ∧
    Value.fitsStore r.offset = true ∧ (∀ p ∈ r.filter.patterns, Sql.isOverlong p = false) ∧
    Clause.boundInAll (r.clausesIn e facility) + e.room ≤ Query.boundLimit ∧
    (Clause.conj (r.clausesIn e facility)).isShallow = true)
    ⟨fun ⟨operands, size, offset, patterns, few, shallow⟩ => ⟨operands, size, offset, patterns, few, shallow⟩,
      fun h => ⟨h.operands, h.size, h.offset, h.patterns, h.few, h.shallow⟩⟩

/-- A query with an operand that does not fit the store fails. -/
theorem run_of_unfit (he : e ∈ Entity.all) (hr : r.Accepted e.config)
    (h : Clause.fitStore (r.unjoined e facility).conjuncts = false) (debug : Bool) :
    r.run store debug e facility = .error (.fatal debug) := by
  have hnot : (r.planned e facility).canRun TableDef.indexes store = false := by
    have hconjuncts : (r.planned e facility).conjuncts = (r.unjoined e facility).conjuncts := rfl
    rw [Query.canRun, hconjuncts, h]
    simp
  have hnone : fetch store r.select (r.planned e facility) = none := by
    rw [fetch, hnot, Bool.and_false, if_neg Bool.false_ne_true]
  rw [run_eq (Entity.wellFormed_of_mem e he) hr, hnone]
  rfl

/-- **An accepted request is answered in the types of its columns**, from every store whose cells match their columns,
if it has no regular expressions and is within the limits of the store; only a text of its filter that cannot be
encoded can make the query fail. -/
theorem answered_or_unencodable {name : String} (hentity : s.entity name facility = .ok e) (htyped : s.store.Typed)
    (hfilled : s.store.Filled) (hr : check e.config maxPageSize d = .ok (.ok r))
    (hregexp : ∀ t ∈ r.filter.tests, t.operator ≠ .regexp) (hlimits : r.WithinLimits e facility) :
    (∃ response, r.run s.store s.settings.debug e facility = .ok response ∧
        response.columns = r.select.map (·.name) ∧ ∀ row ∈ response.data, IsRowOf r.select row) ∨
      r.run s.store s.settings.debug e facility = .error (.fatal s.settings.debug) ∧
        ∃ v ∈ r.filter.operands, v.isEncodable = false := by
  obtain ⟨he, hfacility⟩ := Service.entity_eq_ok hentity
  have hwf := Entity.wellFormed_of_mem e he
  have hacc := accepted_of_check hr
  have hrespected := Entity.respected_of_filled he hfilled
  cases hrun : r.run s.store s.settings.debug e facility with
  | ok response => exact Or.inl ⟨response, rfl, isRowOf_of_run he hr hrespected hrun⟩
  | error failure =>
    refine Or.inr ⟨?_, ?_⟩
    · rw [run_eq hwf hacc] at hrun
      cases hfetch : fetch s.store r.select (r.planned e facility) with
      | none =>
        rw [hfetch] at hrun
        exact hrun.symm
      | some response =>
        rw [hfetch] at hrun
        cases hrun
    · by_contra hnone
      have hencodable : ∀ v ∈ r.filter.operands, v.isEncodable = true := by
        intro v hv
        rw [← Bool.not_eq_false]
        exact fun hnot => hnone ⟨v, hv, hnot⟩
      have hid : ∀ f ∈ facility, Text.hasHalf f = false := fun f hf =>
        Text.hasHalf_of_isUuid (Bool.and_eq_true_iff.1 (hfacility f hf)).1
      have hoperands := hacc.filter.fitsStore_of_mem_operands hlimits.operands hencodable
      have htaken := taken_of_operands he hacc hid hregexp hoperands hlimits.patterns hlimits.few hlimits.shallow
      obtain ⟨-, hpaging, _, _, -, -, hrequest⟩ := check_eq_ok.1 hr
      have hsize := hlimits.size
      have hoffset := hlimits.offset
      rw [hrequest] at hsize hoffset
      obtain ⟨response, hanswer⟩ := exists_answer (p := d.paging) he hr htyped htaken hpaging hsize hoffset
      rw [answer_eq_run hr, hrun] at hanswer
      cases hanswer

/-- A request for meetings with one of two clients that last an hour or were not entered by a name with a certain letter
in front, and that no search for a name finds. -/
def clientMeetings : DataRequest where
  columns := ["id", "date", "startDayminute", "isRemote", "createdBy.name", "createdAt", "notes", "clients"]
  filter := .obj [("type", .str "op"), ("op", .str "&"), ("val", .arr [
    .obj [("type", .str "column"), ("column", .str "clients"), ("op", .str "has_any"),
      ("val", .arr [.str (Sample.clientUserId 0), .str (Sample.clientUserId 1)])],
    .obj [("type", .str "global"), ("op", .str "%v%"), ("val", .str "anna"), ("inv", .bool true)],
    .obj [("type", .str "op"), ("op", .str "|"), ("val", .arr [
      .obj [("type", .str "column"), ("column", .str "durationMinutes"), ("op", .str "in"), ("val", .arr [.int 60])],
      .obj [("type", .str "column"), ("column", .str "createdBy.name"), ("op", .str "v%"), ("val", .str "J"),
        ("inv", .bool true)]])],
    .obj [("type", .str "custom"), ("customFilter", .str "isAttendant"),
      ("params", .obj [("userIds", .arr [.str (Sample.clientUserId 0)])])]])]
  sort := [⟨"date", true⟩, ⟨"createdBy.name", false⟩]
  paging := { size := 10, number := some 1 }

def sampleService : Service := { store := Entity.sampleStore }

/-- The sample data answer it. -/
theorem answered_clientMeetings :
    ∃ r response, check Entity.meetings.config (.int 1000) clientMeetings = .ok (.ok r) ∧
      r.run Entity.sampleStore false Entity.meetings (some Sample.facility) = .ok response ∧
      response.columns = clientMeetings.columns ∧ ∀ row ∈ response.data, IsRowOf r.select row := by
  have hentity : sampleService.entity "meetings" (some Sample.facility) = .ok Entity.meetings := by
    have hfacility : sampleService.hasFacility Sample.facility = true := by decide +kernel
    exact if_pos hfacility
  obtain ⟨r, hcheck, hregexp, hlimits, hencodable, hcolumns⟩ :
      ∃ r, check Entity.meetings.config (.int 1000) clientMeetings = .ok (.ok r) ∧
        (∀ t ∈ r.filter.tests, t.operator ≠ .regexp) ∧ r.WithinLimits Entity.meetings (some Sample.facility) ∧
        (∀ v ∈ r.filter.operands, v.isEncodable = true) ∧ r.select.map (·.name) = clientMeetings.columns :=
    exists_check (by decide +kernel)
  rcases answered_or_unencodable (s := sampleService) hentity Entity.typed_sampleStore Entity.filled_sampleStore hcheck
      hregexp hlimits with ⟨response, hrun, hnames, hrows⟩ | ⟨-, v, hv, hnot⟩
  · exact ⟨r, response, hcheck, hrun, hnames.trans hcolumns, hrows⟩
  · rw [hencodable v hv] at hnot
    cases hnot

/-- A search for users with half of a surrogate pair in their names. -/
def strayUsers : DataRequest where
  columns := ["name"]
  filter := .obj [("type", .str "column"), ("column", .str "name"), ("op", .str "%v%"),
    ("val", .str (String.singleton (Text.charOfUnit 0xD800)))]
  paging := { size := 1 }

/-- It is not answered, even by an empty store. -/
theorem not_answered_strayUsers : Store.Typed {} ∧ Store.Filled {} ∧
    ∃ r, check Entity.users.config (.int 1000) strayUsers = .ok (.ok r) ∧
      (∀ t ∈ r.filter.tests, t.operator ≠ .regexp) ∧ r.WithinLimits Entity.users none ∧
      r.run {} false Entity.users none = .error (.fatal false) := by
  have he : Entity.users ∈ Entity.all := by simp [Entity.all]
  obtain ⟨r, hcheck, hregexp, hlimits, hunfit⟩ :
      ∃ r, check Entity.users.config (.int 1000) strayUsers = .ok (.ok r) ∧
        (∀ t ∈ r.filter.tests, t.operator ≠ .regexp) ∧ r.WithinLimits Entity.users none ∧
        Clause.fitStore (r.unjoined Entity.users none).conjuncts = false :=
    exists_check (by decide +kernel)
  exact ⟨by decide +kernel, Store.filled_empty, r, hcheck, hregexp, hlimits,
    run_of_unfit he (accepted_of_check hcheck) hunfit false⟩

end Request

end TableQuery
