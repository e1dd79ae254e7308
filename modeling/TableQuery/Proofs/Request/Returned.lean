import TableQuery.Proofs.Column.Returned
import TableQuery.Proofs.Entity.Schema
import TableQuery.Proofs.Filter.ColumnReduction
import TableQuery.Proofs.Request.Pages

/-!
# Shown values as operands of filters

What a row of an answer shows in a column whose values can be compared is an operand of comparisons on that column
(`Request.operands_of_request`). The row is found again by the values from there on and by those up to there iff
nothing of its own value is lost where it is shown: points in time lose the fraction of their second, and some numbers
theirs.
-/

set_option autoImplicit false

namespace TableQuery

open Sql (Clause Comparison Env Scalar Store Value slice)

def ColumnDef.comparedWith (c : ColumnDef) (o : Operator) (j : Json) : Json :=
  .obj [("type", .str "column"), ("column", .str c.name), ("op", .str o.symbol), ("val", j)]

namespace Entity

theorem exists_isKeptAs_of_mem {e : Entity} (he : e ∈ all) {c : ColumnDef} (hc : c ∈ e.config.columns)
    (h : c.type.kind.isOrdered = true) : ∃ k, c.scalar.kind? e.tables = some k ∧ c.type.isKeptAs k = true := by
  have hkept : ∀ e ∈ all, ∀ c ∈ e.config.columns, c.type.kind.isOrdered = true →
      (c.scalar.kind? e.tables).any c.type.isKeptAs = true := by decide +kernel
  exact (Option.any_eq_true _ _).1 (hkept e he c hc h)

end Entity

namespace FilterNode

variable {e : Entity} {c : ColumnDef} {o : Operator} {j : Json} {w : Operand}

/-- A filter that compares a column with an operand is read. -/
theorem ofJson_comparedWith (he : e.WellFormed) (hc : c ∈ e.config.columns) (hkind : c.type.kind.isOrdered = true)
    (ho : o.isComparison = true) (hj : c.type.comparisonRule.read j = .ok w) :
    ofJson e.config (c.comparedWith o j) = .ok (.ok (.column c o (.one w) false)) := by
  have hcolumn : e.config.column? c.name = some c := EntityConfig.column?_of_mem he.columnNames hc
  have haccepts : c.type.accepts o = true := by
    rw [ColumnType.accepts, Kind.accepts_of_isComparison hkind ho, Bool.true_or]
  have hnull : o ≠ .null := by
    rintro rfl
    cases ho
  have hlist : c.type.takesList o = false := by
    cases o <;> first | rfl | cases ho
  have hmade : c.comparedWith o j = (ColumnFilter.make (.str c.name) o.symbol (some j)).toDraft.toJson := rfl
  rw [hmade]
  exact ColumnFilter.ofJson_make hcolumn haccepts
    (readArgument_one hnull (ColumnType.rule?_of_isComparison hkind ho) hlist hj)

/-- A value satisfies a comparison iff both sides are there and compare so. -/
theorem holds_comparison {store : Store} {env : Env} {s : Scalar} {comparison : Comparison}
    (hsource : c.source = .value s) (hcomparison : o.comparison? = some comparison)
    (hvalue : s.value store env 1 ≠ .null) (hw : Value.ofOperand w ≠ .null) :
    ((FilterNode.column c o (.one w) false).clause false).holds store env =
      comparison.holds ((s.value store env 1).compare (.ofOperand w)) := by
  have hthere : w ≠ .null := by
    rintro rfl
    exact hw rfl
  have hclause : (FilterNode.column c o (.one w) false).clause false = .compare comparison (.plain s) w := by
    rw [clause, hsource]
    exact Operator.clause_comparison hcomparison hthere
  rw [hclause, Clause.holds, Clause.truth, Sql.compareTruth, Sql.Term.value, Value.compare?_of_ne_null hvalue hw,
    Option.map_some]
  cases comparison.holds ((s.value store env 1).compare (.ofOperand w)) <;> rfl

end FilterNode

namespace Request

variable {e : Entity} {r : Request} {maxPageSize : Json} {d : DataRequest}

/-- A request is accepted with another filter that is read. -/
theorem check_filter (hr : check e.config maxPageSize d = .ok (.ok r)) {j : Json} {f : FilterNode}
    (hf : FilterNode.ofJson e.config j = .ok (.ok f)) :
    check e.config maxPageSize { d with filter := j } = .ok (.ok { r with filter := f }) := by
  obtain ⟨herrors, hpaging, sort, _, hsort, -, rfl⟩ := check_eq_ok.1 hr
  exact check_eq_ok.2 ⟨herrors, hpaging, sort, f, hsort, hf, rfl⟩

/-- **What a row of data shows is an operand for it.** A row of data of a request without `distinct` shows a row of the
request, and what it shows of a value in a column that can be compared is accepted as an operand of comparisons on that
column. The row satisfies those with the values from there on and with the values up to there iff nothing of its own
value is lost where it is shown. It satisfies the one with the values from there on in any case if dates and points in
time are stored under their own texts, unless the column leaves out the fraction of numbers. The request is answered if
the store takes the clauses and the numbers of the request. -/
theorem operands_of_request (he : e ∈ Entity.all) (s : Service) (facility : Option String)
    (hr : check e.config maxPageSize d = .ok (.ok r)) (hd : d.distinct = false) (hstore : s.store.Typed) :
    ∃ rows : List Env, rows.Perm (r.rowsIn e facility s.store) ∧
      (∀ p response, s.answer e facility maxPageSize { d with paging := p } = .ok response →
        List.Forall₂ (fun env fields => ∀ c ∈ r.select, c.type.kind.isOrdered = true →
          let value := c.scalar.value s.store env 1
          ∃ j, fields.lookup c.name = some j ∧ (j = .null ↔ value = .null) ∧ (j ≠ .null → ∃ f : Operator → FilterNode,
            (∀ o, o.isComparison = true →
              check e.config maxPageSize { d with filter := c.comparedWith o j } =
                .ok (.ok { r with filter := f o })) ∧
            (((f .atLeast).clause false).holds s.store env = true ∧
              ((f .atMost).clause false).holds s.store env = true ↔
                c.type.showsAllOf value = true) ∧
            (s.store.Written → c.type ≠ .wholeNullable → ((f .atLeast).clause false).holds s.store env = true)))
          (slice p.start.toNat p.size.toNat rows) response.data) ∧
      (r.Taken e facility → ∀ p, pagingErrors maxPageSize p = .ok [] →
        Value.fitsStore p.size = true → Value.fitsStore p.start = true →
        ∃ response, s.answer e facility maxPageSize { d with paging := p } = .ok response) := by
  have hwf := Entity.wellFormed_of_mem e he
  obtain ⟨rows, hperm, hshows⟩ := rows_of_answer he s facility hr hd
  refine ⟨rows, hperm, fun p response h => ?_, fun htaken p hp => exists_answer he hr hstore htaken hp⟩
  have hpage : ∀ env ∈ slice p.start.toNat p.size.toNat rows, env ∈ r.rowsIn e facility s.store := fun env henv =>
    hperm.mem_iff.1 (Sql.slice_subset _ _ _ henv)
  refine ((List.forall₂_and_left _ _).2 ⟨hpage, hshows p response h⟩).imp ?_
  rintro env fields ⟨henv, hrow⟩ c hc hkind
  have hmem := (accepted_of_check hr).select c hc
  obtain ⟨j, hlookup, hrender⟩ := hrow c hc (isData_of_check hr hd c hc)
  obtain ⟨k, hk, hkept⟩ := Entity.exists_isKeptAs_of_mem he hmem hkind
  have hrows := rows_of_mem_matching hwf (matching_eq_rowsIn ▸ henv)
  have hholds := Sql.Scalar.value_of_cells Sql.computable_holds hstore hk hrows 1
  have hlist : c.type.isList = false := Kind.isList_of_isOrdered hkind
  have hmissing : j = .null ↔ c.scalar.value s.store env 1 = .null := by
    constructor
    · rintro rfl
      by_contra hvalue
      obtain ⟨w, hw⟩ := ColumnType.exists_operand hkind hkept hholds hvalue hrender
      exact ColumnType.read_comparisonRule_null c.type hw.read
    · intro hvalue
      rw [hvalue] at hrender
      have hshown : (if c.type.isList then Json.arr [] else .null) = j := Except.ok.inj hrender
      rw [hlist, if_neg Bool.false_ne_true] at hshown
      exact hshown.symm
  refine ⟨j, hlookup, hmissing, fun hj => ?_⟩
  have hvalue := mt hmissing.2 hj
  obtain ⟨w, hw⟩ := ColumnType.exists_operand hkind hkept hholds hvalue hrender
  have hthere : Value.ofOperand w ≠ .null := (Rule.yields_of_read hw.read).ne_null
  have hsource : c.source = .value c.scalar := by
    have hsuits := hwf.suits c hmem
    cases hsource : c.source with
    | value s => rw [ColumnDef.scalar, hsource, Sql.Source.scalar]
    | members m =>
      rw [hsource, Sql.Source.suits, hlist, Bool.false_and] at hsuits
      cases hsuits
  have hatLeast := FilterNode.holds_comparison (o := .atLeast) hsource rfl hvalue hthere
  have hatMost := FilterNode.holds_comparison (o := .atMost) hsource rfl hvalue hthere
  refine ⟨fun o => .column c o (.one w) false,
    fun o ho => check_filter hr (FilterNode.ofJson_comparedWith hwf hmem hkind ho hw.read), ?_,
    fun hwritten hfull => ?_⟩
  · rw [hatLeast, hatMost, ← hw.equal]
    cases (c.scalar.value s.store env 1).compare (.ofOperand w) <;> decide
  · rw [hatLeast]
    have hwrites := Sql.Scalar.value_of_cells Sql.computable_writes hwritten hk hrows 1
    exact bne_iff_ne.2 (hw.notLess hwrites hfull)

/-- A request for the days of meetings, when they start and when they were entered. -/
def meetingTimes : DataRequest where
  columns := ["date", "startDayminute", "createdAt"]
  paging := { size := 10, number := some 1 }

/-- The meetings in the sample data, which were entered at full seconds, are found by the times that are shown. -/
theorem operands_of_request_meetingTimes : ∃ (r : Request) (response : Response),
    check Entity.meetings.config (.int 1000) meetingTimes = .ok (.ok r) ∧
    Service.answer { store := Entity.sampleStore } Entity.meetings (some Sample.facility) (.int 1000) meetingTimes =
      .ok response ∧
    response.data.length = 5 ∧
    ∀ fields ∈ response.data, ∃ env ∈ r.rowsIn Entity.meetings (some Sample.facility) Entity.sampleStore,
      ∀ c ∈ r.select, ∃ j, fields.lookup c.name = some j ∧ ∃ f : Operator → FilterNode,
        (∀ o, o.isComparison = true →
          check Entity.meetings.config (.int 1000) { meetingTimes with filter := c.comparedWith o j } =
            .ok (.ok { r with filter := f o })) ∧
        ((f .atLeast).clause false).holds Entity.sampleStore env = true ∧
        ((f .atMost).clause false).holds Entity.sampleStore env = true := by
  have he : Entity.meetings ∈ Entity.all := by simp [Entity.all]
  obtain ⟨r, hcheck, htaken, hjoins, hlength, hvalues, hordered⟩ : ∃ r,
      check Entity.meetings.config (.int 1000) meetingTimes = .ok (.ok r) ∧
        r.Taken Entity.meetings (some Sample.facility) ∧ r.neededJoins Entity.meetings.config = [] ∧
        (r.plainRowsIn Entity.meetings (some Sample.facility) Entity.sampleStore).length = 5 ∧
        (∀ env ∈ r.plainRowsIn Entity.meetings (some Sample.facility) Entity.sampleStore, ∀ c ∈ r.select,
          c.scalar.value Entity.sampleStore env 1 ≠ .null ∧
            c.type.showsAllOf (c.scalar.value Entity.sampleStore env 1) = true) ∧
        ∀ c ∈ r.select, c.type.kind.isOrdered = true := exists_check (by decide +kernel)
  rw [← rowsIn_eq_plain hjoins] at hlength hvalues
  obtain ⟨rows, hperm, hshown, hanswered⟩ := operands_of_request he { store := Entity.sampleStore }
    (some Sample.facility) hcheck rfl Entity.typed_sampleStore
  obtain ⟨response, hresponse⟩ := hanswered htaken meetingTimes.paging (check_eq_ok.1 hcheck).2.1 rfl rfl
  have hpage := hshown _ _ hresponse
  refine ⟨r, response, hcheck, hresponse, ?_, fun fields hfields => ?_⟩
  · rw [← hpage.length_eq, Sql.length_slice, hperm.length_eq, hlength]
    rfl
  · obtain ⟨env, henv, hrow⟩ := exists_of_mem_forall₂ hpage hfields
    have hmem := hperm.mem_iff.1 (Sql.slice_subset _ _ _ henv)
    refine ⟨env, hmem, fun c hc => ?_⟩
    obtain ⟨j, hlookup, hmissing, hfilters⟩ := hrow c hc (hordered c hc)
    obtain ⟨hthere, hfull⟩ := hvalues env hmem c hc
    obtain ⟨f, hread, hboth, -⟩ := hfilters (mt hmissing.1 hthere)
    exact ⟨j, hlookup, f, hread, hboth.2 hfull⟩

/-- A request for the times at which users were made, one row for each user. -/
def timesOfUsers : DataRequest where
  columns := ["createdAt"]
  paging := { size := 10, number := some 1 }

/-- A user who was made within a second. -/
def userWithinSecond : Store where
  tables := [(TableDef.users.name,
    [[("id", .text (Sample.id 'd' 1)), ("name", .text "Anna"), ("created_at", .text "2024-01-01 10:00:00.250000")]])]

/-- **A row can be missed by the value that it shows.** The one user is shown as made at a full second, and is not among
those who were made up to that second. -/
theorem not_holds_withinSecond : ∃ (r : Request) (response : Response) (fields : Fields) (c : ColumnDef)
    (f : FilterNode),
    check Entity.users.config (.int 1000) timesOfUsers = .ok (.ok r) ∧ c ∈ r.select ∧
    Service.answer { store := userWithinSecond } Entity.users none (.int 1000) timesOfUsers = .ok response ∧
    response.data = [fields] ∧ fields.lookup c.name = some (.str "2024-01-01T10:00:00Z") ∧
    check Entity.users.config (.int 1000)
      { timesOfUsers with filter := c.comparedWith .atMost (.str "2024-01-01T10:00:00Z") } =
        .ok (.ok { r with filter := f }) ∧
    ∀ env ∈ r.rowsIn Entity.users none userWithinSecond, (f.clause false).holds userWithinSecond env = false := by
  have he : Entity.users ∈ Entity.all := by simp [Entity.all]
  obtain ⟨r, hcheck, htaken, hjoins, hlength, c, hc, hdata, htype, hsource, hread⟩ : ∃ r,
      check Entity.users.config (.int 1000) timesOfUsers = .ok (.ok r) ∧ r.Taken Entity.users none ∧
        r.neededJoins Entity.users.config = [] ∧ (r.plainRowsIn Entity.users none userWithinSecond).length = 1 ∧
        ∃ c ∈ r.select, c.isData = true ∧ c.type = .plain .moment ∧
          c.source = .value (.column (Entity.user "created_at")) ∧
          ∀ env ∈ r.plainRowsIn Entity.users none userWithinSecond,
            env.read (Entity.user "created_at") = .text "2024-01-01 10:00:00.250000" := exists_check (by decide +kernel)
  rw [← rowsIn_eq_plain hjoins] at hlength hread
  have hmem := (accepted_of_check hcheck).select c hc
  obtain ⟨env, response, fields, hrows, hresponse, hfields, hrow⟩ := exists_answeredByOne
    (s := { store := userWithinSecond }) he hcheck rfl (by decide +kernel) htaken rfl rfl hlength
  obtain ⟨m, hm, hstored⟩ := (Option.any_eq_true _ _).1
    (by decide +kernel :
      ((readUtc? "2024-01-01T10:00:00Z").any fun m => m.toStored = "2024-01-01 10:00:00.000000") = true)
  have hoperand : c.type.comparisonRule.read (.str "2024-01-01T10:00:00Z") = .ok (.moment m) := by
    have hshape : isMomentShaped "2024-01-01T10:00:00Z" = true := by decide +kernel
    simp only [htype, ColumnType.comparisonRule, ColumnType.kind, Rule.read, hshape, ↓reduceIte, hm]
  have hfilter := FilterNode.ofJson_comparedWith (o := .atMost) (Entity.wellFormed_of_mem _ he) hmem
    (by rw [htype]; rfl) rfl hoperand
  refine ⟨r, response, fields, c, _, hcheck, hc, hresponse, hfields, ?_, check_filter hcheck hfilter,
    fun env' henv' => ?_⟩
  · obtain ⟨j, hlookup, hrender⟩ := hrow c hc hdata
    have hshown : (Cell.ofValue (.plain .moment) (.text "2024-01-01 10:00:00.250000")).renderMoment =
        .ok "2024-01-01T10:00:00Z" := by decide +kernel
    have hthere : (Cell.ofValue (.plain .moment) (.text "2024-01-01 10:00:00.250000")).isMissing = false :=
      Cell.isMissing_ofValue (by simp)
    rw [htype, ColumnDef.scalar, hsource, Sql.Source.scalar, Scalar.value,
      hread env (hrows ▸ List.mem_singleton_self env), ColumnType.render, hthere, if_neg Bool.false_ne_true,
      ColumnType.kind, Kind.render, hshown] at hrender
    rw [hlookup, ← Except.ok.inj hrender]
  · have hvalue := hread env' henv'
    have hthere : Value.text "2024-01-01 10:00:00.250000" ≠ .null := by simp
    rw [FilterNode.holds_comparison hsource rfl (by rwa [Scalar.value, hvalue]) (by simp [Value.ofOperand]),
      Scalar.value, hvalue, Value.ofOperand, of_decide_eq_true hstored]
    decide +kernel

end Request

end TableQuery
