import TableQuery.Proofs.Entity.Schema
import TableQuery.Proofs.Filter.Cleaned
import TableQuery.Proofs.Filter.Tests
import TableQuery.Proofs.Filter.Written

/-!
# Reducing accepted column filters

The filter that reduction makes of an accepted filter on a column is accepted, and holds in the same of the rows that
suit its test (`Simple.Faithful`). For values the operands that are left out are those that no cell of such a row
counts as (`ColumnFilter.exists_equals_cleaned`), for lists those that no sound list has as members
(`ColumnFilter.exists_members`). The main statement is `ColumnFilter.reduceOn_faithful`.
-/

set_option autoImplicit false

namespace TableQuery

open Sql (Clause Scalar Members Source Store Env Value textOperands)

/-! ## Faithful filters -/

def ColumnTest.node (t : ColumnTest) : FilterNode :=
  .column t.column t.operator t.argument false

/-- A plain test that some rows suit. -/
structure ColumnTest.Good (rows : Store → Env → Prop) (t : ColumnTest) : Prop where
  plain : t.Plain
  suited : ∀ {store env}, rows store env → t.Suited store env

/-- A filter without parts that is read without complaints as one whose tests are good, and that holds in the same
of some rows as another filter. -/
def Simple.Faithful (config : EntityConfig) (rows : Store → Env → Prop) (n : FilterNode) (r : Simple) : Prop :=
  ∃ n', FilterNode.ofJson config r.toDraft.toJson = .ok (.ok n') ∧ (∀ t ∈ n'.tests, t.Good rows) ∧
    ∀ store env, rows store env → (n'.clause false).holds store env = (n.clause false).holds store env

namespace FilterNode

variable {t : ColumnType} {o : Operator} {r : Rule}

theorem readArgument_one {j : Json} {v : Operand} (ho : o ≠ .null) (hr : t.rule? o = some r)
    (hlist : t.takesList o = false)
    (hv : r.read j = .ok v) :
    ∀ fields : Fields, fields.lookup "val" = some j → readArgument t o fields = .ok (.one v) :=
  fun _ hval => readArgument_eq_ok.2 (Or.inr ⟨ho, j, r, hval, hr, Or.inl ⟨hlist, v, hv, rfl⟩⟩)

theorem readArgument_many {values : List Json} (ho : o ≠ .null) (hr : t.rule? o = some r)
    (hlist : t.takesList o = true)
    (hne : values ≠ []) (htakes : ∀ j ∈ values, r.Takes j) :
    ∀ fields : Fields, fields.lookup "val" = some (.arr values) →
      readArgument t o fields = .ok (.many (r.operands values)) :=
  fun _ hval => readArgument_eq_ok.2 (Or.inr ⟨ho, _, r, hval, hr, Or.inr ⟨hlist, values, rfl, hne, htakes, rfl⟩⟩)

end FilterNode

namespace ColumnFilter

variable {config : EntityConfig} {rows : Store → Env → Prop} {name : String}

/-- A filter that reduction makes is read as it is meant. -/
theorem ofJson_make {c : ColumnDef} {o : Operator} {value : Option Json} {a : Argument}
    (hc : config.column? name = some c)
    (hacc : c.type.accepts o = true)
    (ha : ∀ fields : Fields, fields.lookup "val" = value → FilterNode.readArgument c.type o fields = .ok a) :
    FilterNode.ofJson config (make (.str name) o.symbol value).toDraft.toJson =
      .ok (.ok (.column c o a false)) := by
  refine FilterNode.ofJson_obj_eq_ok.2 ⟨"column", rfl, ?_, Or.inr (Or.inl ⟨rfl, ?_⟩)⟩
  · refine ⟨_, rfl, List.append_eq_nil_iff.2 ⟨FilterNode.strangers_eq_nil.2 ?_, ?_⟩⟩
    · cases value <;> simp [Fields.keys]
    · cases value <;> rfl
  · refine FilterNode.readColumnFilter_eq_ok.2
      ⟨name, c, o.symbol, o, a, rfl, hc, rfl, Operator.ofSymbol?_symbol o, hacc, ha _ ?_, ?_⟩
    · cases value <;> rfl
    · cases value <;> rfl

section Faithful

variable {t : ColumnTest}

theorem faithful_const {n : FilterNode} {b : Bool}
    (h : ∀ store env, rows store env → (n.clause false).holds store env = b) :
    (Simple.const b).Faithful config rows n := by
  refine ⟨.const b, ?_, by simp [FilterNode.tests], fun store env hrow => ?_⟩
  · cases b <;> rfl
  · rw [h store env hrow]
    cases b <;> rfl

theorem faithful_false (ht : t.Good rows) (h : ∀ store env, t.Suited store env → ¬ t.clause.holds store env = true) :
    (Simple.const false).Faithful config rows t.node :=
  faithful_const fun store env hrow => Bool.eq_false_iff.2 (h store env (ht.suited hrow))

theorem faithful_true (ht : t.Good rows) (h : ∀ store env, t.Suited store env → t.clause.holds store env = true) :
    (Simple.const true).Faithful config rows t.node :=
  faithful_const fun store env hrow => h store env (ht.suited hrow)

/-- A filter on the same column without the empty text among its operands. -/
theorem faithful_make (hc : config.column? name = some t.column) (ht : t.Good rows) {o : Operator}
    {value : Option Json} {a : Argument} (hacc : t.column.type.accepts o = true)
    (ha : ∀ fields : Fields, fields.lookup "val" = value → FilterNode.readArgument t.column.type o fields = .ok a)
    (hpattern : o.HasPattern a) (hempty : .text "" ∉ a.operands)
    (hnodup : o = .equal ∨ o = .hasAll → a.operands.Nodup)
    (h : ∀ store env, t.Suited store env →
      ((o.clause t.column.type t.column.source a).holds store env = true ↔ t.clause.holds store env = true)) :
    (make (.str name) o.symbol value).Faithful config rows t.node := by
  refine ⟨_, ofJson_make hc hacc ha, fun t' ht' => ?_, fun store env hrow => ?_⟩
  · rw [FilterNode.tests, List.mem_singleton] at ht'
    rw [ht']
    refine ⟨⟨hpattern, ?_, hnodup⟩, fun hrow => ⟨(ht.suited hrow).1, fun hmem => absurd hmem hempty⟩⟩
    rintro rfl
    exact hempty (List.mem_singleton.2 rfl)
  · exact Bool.eq_iff_iff.2 (h store env (ht.suited hrow))

end Faithful

theorem hasOp_eq {fields : Fields} {o : Operator} (h : fields.value "op" = .str o.symbol) (symbols : List String) :
    hasOp fields symbols = symbols.contains o.symbol := by
  rw [hasOp, h, List.contains_eq_any_beq]
  rfl

/-! ## Lists of operands -/

section ListEquations

variable {column fields : Fields} {values : List Json}

theorem reduceList_eq_oneOf (hop : fields.value "op" = .str Operator.oneOf.symbol) :
    reduceList column fields values = some (match (cleaned values).1 with
      | [] => .const false
      | [v] => make (fields.value "column") "=" (some v)
      | vs => make (fields.value "column") "in" (some (.arr vs))) := by
  rw [reduceList]
  dsimp only
  exact if_pos (by rw [hasOp_eq hop]; decide)

theorem reduceList_eq_equal (hop : fields.value "op" = .str Operator.equal.symbol) :
    reduceList column fields values = some (if (cleaned values).2 then .const false
      else if (cleaned values).1.isEmpty then nullFilter column (fields.value "column")
      else make (fields.value "column") "=" (some (.arr (cleaned values).1))) := by
  rw [reduceList]
  dsimp only
  simp only [hasOp_eq hop]
  rfl

theorem reduceList_eq_hasAll (hop : fields.value "op" = .str Operator.hasAll.symbol) :
    reduceList column fields values = some (if (cleaned values).2 then .const false
      else match (cleaned values).1 with
        | [] => .const true
        | [v] => make (fields.value "column") "has" (some v)
        | vs => make (fields.value "column") "has_all" (some (.arr vs))) := by
  rw [reduceList]
  dsimp only
  simp only [hasOp_eq hop]
  rfl

theorem reduceList_eq_hasAny (hop : fields.value "op" = .str Operator.hasAny.symbol) :
    reduceList column fields values = some (match (cleaned values).1 with
      | [] => .const false
      | [v] => make (fields.value "column") "has" (some v)
      | vs => make (fields.value "column") "has_any" (some (.arr vs))) := by
  rw [reduceList]
  dsimp only
  simp only [hasOp_eq hop]
  rfl

theorem reduceList_eq_hasOnly (hop : fields.value "op" = .str Operator.hasOnly.symbol) :
    reduceList column fields values = some (if (cleaned values).1.isEmpty then
      nullFilter column (fields.value "column")
      else make (fields.value "column") "has_only" (some (.arr (cleaned values).1))) := by
  rw [reduceList]
  dsimp only
  simp only [hasOp_eq hop]
  rfl

end ListEquations

/-! ## Values -/

/-- A column that accepts lists of values takes the same operands one by one. -/
theorem oneOf_facts {t : ColumnType} {r : Rule} (hacc : t.accepts .oneOf = true) (hr : t.rule? .oneOf = some r) :
    r ≠ .string ∧ r ≠ .moment ∧ (r = .uuid → t.kind ≠ .string) ∧ t.accepts .equal = true ∧ t.rule? .equal = some r ∧
      t.isList = false := by
  unfold ColumnType.accepts ColumnType.rule? ColumnType.isList at *
  cases hk : t.kind <;> simp_all [Kind.accepts, Operator.isTextual, Operator.needsTrimmed, Operator.isComparison,
    Operator.isSetRelation, Kind.isList] <;> subst hr <;> simp

section Values

variable {c : ColumnDef} {s : Scalar} {r : Rule} {values : List Json}

/-- The operands that are left out count for no cell of a row that suits the test. -/
theorem exists_equals_cleaned {t : ColumnType} {store : Store} {env : Env} (htakes : ∀ j ∈ values, r.Takes j)
    (hr : r ≠ .string ∧ r ≠ .moment) (huuid : r = .uuid → t.kind ≠ .string)
    (hfilled : .text "" ∈ r.operands values → (s.value store env 1).toText? ≠ some "")
    (hs : (s.value store env 1).Trimmed) :
    (∃ w ∈ r.operands (cleaned values).1, t.Equals store env s w) ↔
      ∃ w ∈ r.operands values, t.Equals store env s w := by
  constructor
  · rintro ⟨w, hw, heq⟩
    obtain ⟨j, hj, hread⟩ := Rule.mem_operands.1 hw
    exact ⟨w, Rule.mem_operands.2 ⟨j, ((mem_cleaned htakes).1 hj).1, hread⟩, heq⟩
  · rintro ⟨w, hw, heq⟩
    obtain ⟨j, hj, hread⟩ := Rule.mem_operands.1 hw
    refine ⟨w, Rule.mem_operands.2 ⟨j, (mem_cleaned htakes).2 ⟨hj, ?_⟩, hread⟩, heq⟩
    rintro x rfl
    have hx : x ≠ "" := by
      rintro rfl
      rcases Rule.text_of_takes hread hr.1 hr.2 with ⟨-, hne⟩ | ⟨rfl, -⟩
      · exact hne rfl
      · exact ColumnType.not_equals_empty store env (hfilled hw) heq
    rcases Rule.text_of_takes hread hr.1 hr.2 with ⟨htrimmed, -⟩ | ⟨rfl, ⟨-, hx'⟩ | hr'⟩
    · simp [isClean, hx, htrimmed]
    · exact absurd hx' hx
    · by_contra hclean
      have huntrimmed : Text.isTrimmed x = false := by simpa [isClean, hx] using hclean
      exact ColumnType.not_equals_untrimmed store env (huuid hr') hs huntrimmed heq

theorem empty_not_mem_cleaned (htakes : ∀ j ∈ values, r.Takes j) :
    .text "" ∉ r.operands (cleaned values).1 := by
  intro h
  obtain ⟨j, hj, hread⟩ := Rule.mem_operands.1 h
  have hclean := ((mem_cleaned htakes).1 hj).2 "" (Rule.eq_of_read_text hread)
  cases hclean

theorem takes_cleaned (htakes : ∀ j ∈ values, r.Takes j) : ∀ j ∈ (cleaned values).1, r.Takes j :=
  fun j hj => htakes j ((mem_cleaned htakes).1 hj).1

theorem ne_null_of_read {j : Json} {w : Operand} (h : r.read j = .ok w) : w ≠ .null := by
  rintro rfl
  exact (Rule.yields_of_read h).ne_null rfl

/-- To be among values is to be among those that are kept. -/
theorem reduceList_oneOf (hc : config.column? name = some c) (hs : c.source = .value s) {fields : Fields}
    (hname : fields.value "column" = .str name) (hop : fields.value "op" = .str Operator.oneOf.symbol)
    (hacc : c.type.accepts .oneOf = true) (hr : c.type.rule? .oneOf = some r) (htakes : ∀ j ∈ values, r.Takes j)
    (ht : (⟨c, .oneOf, .many (r.operands values)⟩ : ColumnTest).Good rows) (column : Fields) :
    ∃ out, reduceList column fields values = some out ∧
      out.Faithful config rows (ColumnTest.node ⟨c, .oneOf, .many (r.operands values)⟩) := by
  obtain ⟨hstring, hmoment, huuid, hacc', hr', hlist⟩ := oneOf_facts hacc hr
  have hkept := takes_cleaned htakes
  have hempty := empty_not_mem_cleaned htakes
  -- What is asked, in terms of the values that are kept.
  have hasked : ∀ store env, ColumnTest.Suited store env ⟨c, .oneOf, .many (r.operands values)⟩ →
      ((ColumnTest.clause ⟨c, .oneOf, .many (r.operands values)⟩).holds store env = true ↔
        ∃ w ∈ r.operands (cleaned values).1, c.type.Equals store env s w) := by
    rintro store env ⟨hsound, hfilled⟩
    rw [ColumnDef.CellSound, hs] at hsound
    rw [ColumnDef.CellFilled, hs] at hfilled
    rw [ColumnTest.clause, hs, Operator.holds_oneOf store env,
      exists_equals_cleaned htakes ⟨hstring, hmoment⟩ huuid hfilled hsound.2]
  refine ⟨_, reduceList_eq_oneOf hop, ?_⟩
  rw [hname]
  rcases hvalues : (cleaned values).1 with _ | ⟨v, _ | ⟨v', vs⟩⟩
  · refine faithful_false ht fun store env hrow => ?_
    rw [hasked store env hrow, hvalues]
    simp [Rule.operands]
  · rw [hvalues] at hasked hkept hempty
    obtain ⟨w, hw⟩ := hkept v List.mem_cons_self
    have hone : r.operands [v] = [w] := by simp [Rule.operands, hw, Except.toOption]
    rw [hone] at hempty
    refine faithful_make hc ht (o := .equal) hacc'
      (FilterNode.readArgument_one (by decide) hr' (by simp [ColumnType.takesList, Operator.takesList, hlist]) hw)
      Operator.noConfusion hempty (fun _ => List.nodup_singleton _) fun store env hrow => ?_
    rw [hasked store env hrow, hone, hs, Operator.holds_equal store env (ne_null_of_read hw)]
    simp
  · rw [hvalues] at hasked hkept hempty
    refine faithful_make hc ht (o := .oneOf) hacc
      (FilterNode.readArgument_many (by decide) hr (by simp [ColumnType.takesList, Operator.takesList])
        (by simp) hkept)
      trivial hempty (fun h => by rcases h with h | h <;> cases h) fun store env hrow => ?_
    rw [hasked store env hrow, hs, Operator.holds_oneOf store env]

end Values

/-! ## Lists -/

/-- The members that values stand for, and those among them that are kept when the values are cleaned. -/
structure Kept (values : List Json) (xs ys : List String) : Prop where
  asked : Rule.uuid.operands values = textOperands xs
  cleaned : (cleaned values).1 = ys.map .str
  dropped : (ColumnFilter.cleaned values).2 = true ↔ ∃ x ∈ xs, Text.isTrimmed x = false
  uuids : ∀ y ∈ ys, isUuid y = true
  nodup : ys.Nodup
  mem : ∀ y, y ∈ ys ↔ y ∈ xs ∧ Text.isTrimmed y = true

theorem Kept.mem_of_not_dropped {values : List Json} {xs ys : List String} (hk : Kept values xs ys)
    (h : ¬ (ColumnFilter.cleaned values).2 = true) (x : String) : x ∈ xs ↔ x ∈ ys := by
  rw [hk.mem]
  refine ⟨fun hx => ⟨hx, ?_⟩, And.left⟩
  by_contra huntrimmed
  exact h (hk.dropped.2 ⟨x, hx, Bool.eq_false_iff.2 huntrimmed⟩)

theorem read_uuid {x : String} {v : Operand} :
    Rule.uuid.read (.str x) = .ok v ↔ isUuid x = true ∧ v = .text x := by
  rw [Rule.read]
  split
  next h => simp [h, eq_comm]
  next h => simp [h]

theorem operands_uuid {xs : List String} (h : ∀ x ∈ xs, isUuid x = true) :
    Rule.uuid.operands (xs.map .str) = textOperands xs := by
  induction xs with
  | nil => rfl
  | cons x xs ih =>
    have hx := read_uuid.2 ⟨h x List.mem_cons_self, rfl⟩
    have ih := ih fun y hy => h y (List.mem_cons_of_mem _ hy)
    rw [List.map_cons, Rule.operands, List.filterMap_cons, hx]
    exact congrArg (Operand.text x :: ·) ih

/-- **What is kept of the members** that values stand for are those that are trimmed, each once. -/
theorem exists_members {values : List Json} (htakes : ∀ j ∈ values, Rule.uuid.Takes j) :
    ∃ xs ys : List String, Kept values xs ys := by
  have huuid : ∀ x, .str x ∈ values → isUuid x = true := by
    intro x hx
    obtain ⟨v, hv⟩ := htakes _ hx
    exact (read_uuid.1 hv).1
  have hclean : ∀ x, .str x ∈ values → isClean x = Text.isTrimmed x := by
    intro x hx
    have hne : x ≠ "" := by
      rintro rfl
      exact absurd (huuid _ hx) (by decide)
    simp [isClean, hne]
  obtain ⟨xs, rfl⟩ := exists_texts fun j hj => Rule.exists_text_of_takes (htakes j hj) rfl
  obtain ⟨ys, hys⟩ := exists_texts fun j hj => Rule.exists_text_of_takes (takes_cleaned htakes j hj) rfl
  have hmem : ∀ y, y ∈ ys ↔ y ∈ xs ∧ Text.isTrimmed y = true := by
    intro y
    have hcleaned : Json.str y ∈ (cleaned (xs.map .str)).1 ↔ y ∈ ys := by simp [hys]
    rw [← hcleaned, mem_cleaned htakes]
    constructor
    · rintro ⟨hy, htrimmed⟩
      refine ⟨by simpa using hy, ?_⟩
      rw [← hclean y hy]
      exact htrimmed y rfl
    · rintro ⟨hy, htrimmed⟩
      have hy : Json.str y ∈ xs.map .str := List.mem_map_of_mem hy
      refine ⟨hy, fun s hs => ?_⟩
      cases hs
      rwa [hclean y hy]
  refine ⟨xs, ys, ?_, hys, ?_, fun y hy => ?_, ?_, hmem⟩
  · exact operands_uuid fun x hx => huuid x (List.mem_map_of_mem hx)
  · rw [dropped_cleaned htakes]
    constructor
    · rintro ⟨x, hx, hdirty⟩
      exact ⟨x, by simpa using hx, by rwa [← hclean x hx]⟩
    · rintro ⟨x, hx, hdirty⟩
      have hx : Json.str x ∈ xs.map .str := List.mem_map_of_mem hx
      exact ⟨x, hx, by rwa [hclean x hx]⟩
  · exact huuid y (List.mem_map_of_mem ((hmem y).1 hy).1)
  · have hnodup := nodup_cleaned htakes
    rw [hys] at hnodup
    exact hnodup.of_map _

/-- What a column of lists accepts. -/
theorem list_facts {t : ColumnType} (h : t.isList = true) : t.isNullable = true ∧ t.accepts .has = true ∧
    t.accepts .null = true ∧ t.accepts .equal = true ∧
      (∀ o : Operator, o.isSetRelation = true → t.accepts o = true) ∧
      ∀ o : Operator, o.isTextual = false → t.rule? o = some .uuid := by
  cases t with
  | plain k =>
    cases k with
    | uuidList | dictList =>
      refine ⟨rfl, rfl, rfl, rfl, fun o ho => ?_, fun o ho => ?_⟩
      · cases o <;> first | rfl | cases ho
      · simp [ColumnType.rule?, ho, ColumnType.kind]
    | _ => cases h
  | _ => cases h

section Lists

variable {c : ColumnDef} {m : Members} {values : List Json} {xs ys : List String}

theorem empty_not_mem_textOperands (h : ∀ y ∈ ys, isUuid y = true) : .text "" ∉ textOperands ys := by
  intro hmem
  obtain ⟨y, hy, heq⟩ := List.mem_map.1 hmem
  cases heq
  exact absurd (h _ hy) (by decide)

theorem nodup_textOperands : (textOperands ys).Nodup ↔ ys.Nodup :=
  List.nodup_map_iff fun _ _ h => Operand.text.inj h

theorem isTrimmed_of_mem {store : Store} {env : Env} (hs : c.source = .members m) (hsound : c.CellSound store env)
    {x : String} (hx : .text x ∈ m.values store env) : Text.isTrimmed x = true := by
  rw [ColumnDef.CellSound, hs] at hsound
  exact (hsound _ hx).2 x rfl

/-- A filter for one member. -/
theorem faithful_has {t : ColumnTest} (hc : config.column? name = some t.column) (ht : t.Good rows)
    (hs : t.column.source = .members m) (hm : m.value.source = m.table.name) (hlist : t.column.type.isList = true)
    {y : String} (hy : isUuid y = true)
    (h : ∀ store env, t.column.CellSound store env →
      (.text y ∈ m.values store env ↔ t.clause.holds store env = true)) :
    (make (.str name) "has" (some (.str y))).Faithful config rows t.node := by
  obtain ⟨-, hacc, -, -, -, hrule⟩ := list_facts hlist
  have hempty : .text "" ∉ textOperands [y] := empty_not_mem_textOperands (by simpa using hy)
  refine faithful_make hc ht (o := .has) hacc
    (FilterNode.readArgument_one (by decide) (hrule .has rfl) rfl (read_uuid.2 ⟨hy, rfl⟩))
    nofun hempty (fun _ => List.nodup_singleton _) fun store env hrow => ?_
  rw [← h store env hrow.1, hs, Operator.holds_has store env hm]

/-- A filter for several members. -/
theorem faithful_many {t : ColumnTest} (hc : config.column? name = some t.column) (ht : t.Good rows)
    (hs : t.column.source = .members m) (hlist : t.column.type.isList = true) (o : Operator)
    (ho : o.isSetRelation = true ∨ o = .equal) (hne : ys ≠ []) (hys : ∀ y ∈ ys, isUuid y = true) (hnodup : ys.Nodup)
    (h : ∀ store env, t.column.CellSound store env →
      ((o.clause t.column.type (.members m) (.many (textOperands ys))).holds store env = true ↔
        t.clause.holds store env = true)) :
    (make (.str name) o.symbol (some (.arr (ys.map .str)))).Faithful config rows t.node := by
  obtain ⟨-, -, -, hequal, hrelation, hrule⟩ := list_facts hlist
  have htakes : ∀ j ∈ ys.map Json.str, Rule.uuid.Takes j := by
    intro j hj
    obtain ⟨y, hy, rfl⟩ := List.mem_map.1 hj
    exact ⟨_, read_uuid.2 ⟨hys y hy, rfl⟩⟩
  have hfacts : t.column.type.accepts o = true ∧ o ≠ .null ∧ o.isTextual = false ∧
      t.column.type.takesList o = true := by
    rcases ho with ho | rfl
    · refine ⟨hrelation o ho, ?_⟩
      cases o <;> first | exact absurd ho (by decide) | exact ⟨by decide, rfl, rfl⟩
    · exact ⟨hequal, by simp [Operator.isTextual, ColumnType.takesList, hlist]⟩
  obtain ⟨hacc, hnull, htextual, htakesList⟩ := hfacts
  have hargument := FilterNode.readArgument_many hnull (hrule o htextual) htakesList (by simpa using hne) htakes
  rw [operands_uuid hys] at hargument
  refine faithful_make hc ht hacc hargument trivial (empty_not_mem_textOperands hys)
    (fun _ => nodup_textOperands.2 hnodup) fun store env hrow => ?_
  rw [← h store env hrow.1, hs]

variable (hc : config.column? name = some c) (hs : c.source = .members m) (hm : m.value.source = m.table.name)
  (hlist : c.type.isList = true)

include hc hs hm hlist

/-- To have some of several members is to have some of those that are kept. -/
theorem reduceList_hasAny {fields : Fields} (hname : fields.value "column" = .str name)
    (hop : fields.value "op" = .str Operator.hasAny.symbol) (hk : Kept values xs ys)
    (ht : (⟨c, .hasAny, .many (textOperands xs)⟩ : ColumnTest).Good rows) (column : Fields) :
    ∃ out, reduceList column fields values = some out ∧
      out.Faithful config rows (ColumnTest.node ⟨c, .hasAny, .many (textOperands xs)⟩) := by
  have hasked : ∀ store env, c.CellSound store env →
      ((ColumnTest.clause ⟨c, .hasAny, .many (textOperands xs)⟩).holds store env = true ↔
        ∃ y ∈ ys, .text y ∈ m.values store env) := by
    intro store env hsound
    rw [ColumnTest.clause, hs, Operator.holds_hasAny store env hm]
    refine exists_congr fun x => ?_
    rw [hk.mem]
    constructor
    · exact fun ⟨hx, hin⟩ => ⟨⟨hx, isTrimmed_of_mem hs hsound hin⟩, hin⟩
    · exact fun ⟨hx, hin⟩ => ⟨hx.1, hin⟩
  refine ⟨_, reduceList_eq_hasAny hop, ?_⟩
  rw [hname, hk.cleaned]
  have hys := hk.uuids
  have hnodup := hk.nodup
  rcases ys with _ | ⟨y, _ | ⟨y', ys⟩⟩
  · refine faithful_false ht fun store env hrow => ?_
    rw [hasked store env hrow.1]
    simp
  · refine faithful_has hc ht hs hm hlist (hys y List.mem_cons_self) fun store env hsound => ?_
    rw [hasked store env hsound]
    simp
  · have hne : y :: y' :: ys ≠ [] := List.cons_ne_nil _ _
    show (make (.str name) Operator.hasAny.symbol (some (.arr ((y :: y' :: ys).map .str)))).Faithful config rows _
    refine faithful_many hc ht hs hlist .hasAny (Or.inl rfl) hne hys hnodup fun store env hsound => ?_
    rw [hasked store env hsound, Operator.holds_hasAny store env hm]

/-- To have all of several members is to have all of those that are kept, unless some was left out. -/
theorem reduceList_hasAll {fields : Fields} (hname : fields.value "column" = .str name)
    (hop : fields.value "op" = .str Operator.hasAll.symbol) (hk : Kept values xs ys)
    (ht : (⟨c, .hasAll, .many (textOperands xs)⟩ : ColumnTest).Good rows) (column : Fields) :
    ∃ out, reduceList column fields values = some out ∧
      out.Faithful config rows (ColumnTest.node ⟨c, .hasAll, .many (textOperands xs)⟩) := by
  have hxs : xs.Nodup := nodup_textOperands.1 (ht.plain.2.2 (Or.inr rfl))
  have hasked : ∀ store env, (ColumnTest.clause ⟨c, .hasAll, .many (textOperands xs)⟩).holds store env = true ↔
      ∀ x ∈ xs, .text x ∈ m.values store env := by
    intro store env
    rw [ColumnTest.clause, hs, Operator.holds_hasAll store env hm hxs]
  refine ⟨_, reduceList_eq_hasAll hop, ?_⟩
  rw [hname, hk.cleaned]
  split
  next hdropped =>
    obtain ⟨x, hx, huntrimmed⟩ := hk.dropped.1 hdropped
    refine faithful_false ht fun store env hrow => ?_
    rw [hasked]
    intro hall
    rw [isTrimmed_of_mem hs hrow.1 (hall x hx)] at huntrimmed
    cases huntrimmed
  next hdropped =>
    have hmem : ∀ x, x ∈ xs ↔ x ∈ ys := hk.mem_of_not_dropped hdropped
    simp only [hmem] at hasked
    have hys := hk.uuids
    have hnodup := hk.nodup
    rcases ys with _ | ⟨y, _ | ⟨y', ys⟩⟩
    · refine faithful_true ht fun store env _ => ?_
      rw [hasked]
      simp
    · refine faithful_has hc ht hs hm hlist (hys y List.mem_cons_self) fun store env _ => ?_
      rw [hasked]
      simp
    · have hne : y :: y' :: ys ≠ [] := List.cons_ne_nil _ _
      show (make (.str name) Operator.hasAll.symbol (some (.arr ((y :: y' :: ys).map .str)))).Faithful config rows _
      refine faithful_many hc ht hs hlist .hasAll (Or.inl rfl) hne hys hnodup fun store env _ => ?_
      rw [hasked, Operator.holds_hasAll store env hm hnodup]

/-- To have no other members than several is to have no other than those that are kept. -/
theorem reduceList_hasOnly {fields : Fields} (hname : fields.value "column" = .str name)
    (hop : fields.value "op" = .str Operator.hasOnly.symbol) (hk : Kept values xs ys)
    (ht : (⟨c, .hasOnly, .many (textOperands xs)⟩ : ColumnTest).Good rows) :
    ∃ out, reduceList c.schemaFields fields values = some out ∧
      out.Faithful config rows (ColumnTest.node ⟨c, .hasOnly, .many (textOperands xs)⟩) := by
  have hasked : ∀ store env, c.CellSound store env →
      ((ColumnTest.clause ⟨c, .hasOnly, .many (textOperands xs)⟩).holds store env = true ↔
        ∀ v ∈ m.values store env, v ≠ .null → ∃ y ∈ ys, v = .text y) := by
    intro store env hsound
    rw [ColumnTest.clause, hs, Operator.holds_hasOnly store env hm]
    refine forall_congr' fun v => imp_congr_right fun hv => imp_congr_right fun _ => ?_
    constructor
    · rintro ⟨x, hx, rfl⟩
      exact ⟨x, (hk.mem x).2 ⟨hx, isTrimmed_of_mem hs hsound hv⟩, rfl⟩
    · rintro ⟨x, hx, rfl⟩
      exact ⟨x, ((hk.mem x).1 hx).1, rfl⟩
  obtain ⟨hnullable, -, hnull, -, -, -⟩ := list_facts hlist
  refine ⟨_, reduceList_eq_hasOnly hop, ?_⟩
  rw [hname, hk.cleaned]
  split
  next hempty =>
    have hys : ys = [] := by simpa using hempty
    rw [nullFilter, c.isNullable_schemaFields, if_pos hnullable]
    refine faithful_make hc ht (o := .null) hnull
      (fun fields hval => FilterNode.readArgument_eq_ok.2 (Or.inl ⟨rfl, hval, rfl⟩))
      trivial List.not_mem_nil (fun _ => List.nodup_nil) fun store env ⟨hsound, _⟩ => ?_
    rw [hasked store env hsound, hs, Operator.holds_null store env, hys]
    constructor
    · intro hnone v hv
      rw [hnone] at hv
      cases hv
    · intro hall
      rw [List.eq_nil_iff_forall_not_mem]
      intro v hv
      rw [ColumnDef.CellSound, hs] at hsound
      obtain ⟨y, hy, -⟩ := hall v hv (hsound v hv).1
      cases hy
  next hne =>
    refine faithful_many hc ht hs hlist .hasOnly (Or.inl rfl) (by simpa using hne) hk.uuids hk.nodup
      fun store env hsound => ?_
    rw [hasked store env hsound, Operator.holds_hasOnly store env hm]

/-- To be equal to several members is to be equal to those that are kept, unless some was left out. -/
theorem reduceList_equal {fields : Fields} (hname : fields.value "column" = .str name)
    (hop : fields.value "op" = .str Operator.equal.symbol) (hk : Kept values xs ys) (hne : xs ≠ [])
    (ht : (⟨c, .equal, .many (textOperands xs)⟩ : ColumnTest).Good rows) (column : Fields) :
    ∃ out, reduceList column fields values = some out ∧
      out.Faithful config rows (ColumnTest.node ⟨c, .equal, .many (textOperands xs)⟩) := by
  have hxs : xs.Nodup := nodup_textOperands.1 (ht.plain.2.2 (Or.inl rfl))
  have hasked : ∀ store env, (ColumnTest.clause ⟨c, .equal, .many (textOperands xs)⟩).holds store env = true ↔
      (∀ v ∈ m.values store env, v ≠ .null → ∃ x ∈ xs, v = .text x) ∧ ∀ x ∈ xs, .text x ∈ m.values store env := by
    intro store env
    rw [ColumnTest.clause, hs, Operator.holds_equalList store env hm hxs]
  refine ⟨_, reduceList_eq_equal hop, ?_⟩
  rw [hname, hk.cleaned]
  split
  next hdropped =>
    obtain ⟨x, hx, huntrimmed⟩ := hk.dropped.1 hdropped
    refine faithful_false ht fun store env hrow => ?_
    rw [hasked]
    rintro ⟨-, hall⟩
    rw [isTrimmed_of_mem hs hrow.1 (hall x hx)] at huntrimmed
    cases huntrimmed
  next hdropped =>
    have hmem : ∀ x, x ∈ xs ↔ x ∈ ys := hk.mem_of_not_dropped hdropped
    obtain ⟨x, hx⟩ := List.exists_mem_of_ne_nil _ hne
    have hys : ys ≠ [] := List.ne_nil_of_mem ((hmem x).1 hx)
    rw [if_neg (by simpa using hys)]
    refine faithful_many hc ht hs hlist .equal (Or.inr rfl) hys hk.uuids hk.nodup fun store env _ => ?_
    rw [hasked, Operator.holds_equalList store env hm hk.nodup]
    simp only [hmem]

end Lists

/-! ## Column filters -/

/-- Where one text is compared for equality and need not be trimmed, it is an identifier. -/
theorem single_facts {t : ColumnType} {o : Operator} {r : Rule} (hacc : t.accepts o = true)
    (hr : t.rule? o = some r)
    (hlist : t.takesList o = false) (ho : o = .equal ∨ o = .exact ∨ o = .has) :
    r ≠ .string ∧ r ≠ .moment ∧
      (r = .uuid → o = .equal ∧ t.kind ≠ .string ∧ t.isList = false ∨ o = .has ∧ t.isList = true) := by
  unfold ColumnType.accepts at hacc
  unfold ColumnType.rule? at hr
  unfold ColumnType.takesList ColumnType.isList at hlist
  unfold ColumnType.isList
  rcases ho with rfl | rfl | rfl <;> cases hk : t.kind <;>
    simp_all [Kind.accepts, Kind.isList, Operator.isTextual, Operator.needsTrimmed, Operator.isComparison,
      Operator.isSetRelation, Operator.takesList] <;> subst hr <;> simp

/-- Several operands are for the values of a column, or for the members of its lists. -/
theorem many_facts {t : ColumnType} {o : Operator} (hacc : t.accepts o = true) (hlist : t.takesList o = true) :
    o = .oneOf ∧ t.isList = false ∨
      t.isList = true ∧ (o = .hasAll ∨ o = .hasAny ∨ o = .hasOnly ∨ o = .equal) := by
  unfold ColumnType.accepts ColumnType.takesList ColumnType.isList at *
  cases o <;> simp_all [Operator.takesList] <;> cases hk : t.kind <;>
    simp_all [Kind.accepts, Kind.isList, Operator.isComparison, Operator.isTextual, Operator.isSetRelation]

theorem eq_empty_of_read {r : Rule} {v : Operand} (h : r.read (.str "") = .ok v) : v = .text "" := by
  have hnot : isUuid "" = false ∧ isDateShaped "" = false ∧ isMomentShaped "" = false := by decide
  have htrimmed : Text.isTrimmed "" = true := by decide
  cases r <;> simp [Rule.read, hnot, htrimmed] at h <;> exact h.symm

theorem members_of_isList {c : ColumnDef} (hsuits : c.source.suits c.type = true) (hlist : c.type.isList = true) :
    ∃ m, c.source = .members m ∧ m.value.source = m.table.name := by
  cases hs : c.source with
  | members m =>
    rw [hs, Sql.Source.suits, hlist, Bool.true_and] at hsuits
    exact ⟨m, rfl, beq_iff_eq.1 hsuits⟩
  | value s => cases s <;> simp [hs, Sql.Source.suits, hlist] at hsuits

theorem value_of_not_isList {c : ColumnDef} (hsuits : c.source.suits c.type = true)
    (hlist : c.type.isList = false) :
    ∃ s, c.source = .value s := by
  cases hs : c.source with
  | members m => simp [hs, Sql.Source.suits, hlist] at hsuits
  | value s => exact ⟨s, rfl⟩

section Columns

variable {c : ColumnDef} {o : Operator} {r : Rule}

/-- No sound cell is equal to an untrimmed text. -/
theorem faithful_untrimmed (hsuits : c.source.suits c.type = true) (hacc : c.type.accepts o = true)
    (hr : c.type.rule? o = some r) (hlist : c.type.takesList o = false) (ho : o = .equal ∨ o = .exact ∨ o = .has)
    {x : String} {v : Operand} (hv : r.read (.str x) = .ok v) (hx : x ≠ "")
    (huntrimmed : Text.isTrimmed x = false) (ht : (⟨c, o, .one v⟩ : ColumnTest).Good rows) :
    (Simple.const false).Faithful config rows (ColumnTest.node ⟨c, o, .one v⟩) := by
  obtain ⟨hstring, hmoment, huuid⟩ := single_facts hacc hr hlist ho
  rcases Rule.text_of_takes hv hstring hmoment with ⟨htrimmed, -⟩ | ⟨rfl, ⟨-, hempty⟩ | rfl⟩
  · rw [htrimmed] at huntrimmed
    cases huntrimmed
  · exact absurd hempty hx
  rcases huuid rfl with ⟨rfl, hkind, hnot⟩ | ⟨rfl, hmembers⟩
  · obtain ⟨s, hs⟩ := value_of_not_isList hsuits hnot
    refine faithful_false ht fun store env ⟨hsound, _⟩ => ?_
    rw [ColumnDef.CellSound, hs] at hsound
    rw [ColumnTest.clause, hs, Operator.holds_equal store env (by simp)]
    exact ColumnType.not_equals_untrimmed store env hkind hsound.2 huntrimmed
  · obtain ⟨m, hs, hm⟩ := members_of_isList hsuits hmembers
    refine faithful_false ht fun store env hrow => ?_
    rw [ColumnTest.clause, hs, Operator.holds_has store env hm]
    intro hmem
    rw [isTrimmed_of_mem hs hrow.1 hmem] at huntrimmed
    cases huntrimmed

/-- A list of operands. -/
theorem reduceList_faithful (hc : config.column? name = some c) (hsuits : c.source.suits c.type = true)
    {fields : Fields} (hname : fields.value "column" = .str name) (hop : fields.value "op" = .str o.symbol)
    (hacc : c.type.accepts o = true) (hr : c.type.rule? o = some r)
    (hlist : c.type.takesList o = true) {values : List Json}
    (hne : values ≠ []) (htakes : ∀ j ∈ values, r.Takes j)
    (ht : (⟨c, o, .many (r.operands values)⟩ : ColumnTest).Good rows) :
    ∃ out, reduceList c.schemaFields fields values = some out ∧
      out.Faithful config rows (ColumnTest.node ⟨c, o, .many (r.operands values)⟩) := by
  rcases many_facts hacc hlist with ⟨rfl, hnot⟩ | ⟨hmembers, ho⟩
  · obtain ⟨s, hs⟩ := value_of_not_isList hsuits hnot
    exact reduceList_oneOf hc hs hname hop hacc hr htakes ht _
  · obtain ⟨m, hs, hm⟩ := members_of_isList hsuits hmembers
    obtain ⟨-, -, -, -, -, hrule⟩ := list_facts hmembers
    have hr' : r = .uuid := by
      have htextual : o.isTextual = false := by rcases ho with rfl | rfl | rfl | rfl <;> rfl
      rw [hrule o htextual] at hr
      exact (Option.some.inj hr).symm
    subst hr'
    obtain ⟨xs, ys, hk⟩ := exists_members htakes
    rw [hk.asked] at ht ⊢
    rcases ho with rfl | rfl | rfl | rfl
    · exact reduceList_hasAll hc hs hm hmembers hname hop hk ht _
    · exact reduceList_hasAny hc hs hm hmembers hname hop hk ht _
    · exact reduceList_hasOnly hc hs hm hmembers hname hop hk ht
    · refine reduceList_equal hc hs hm hmembers hname hop hk ?_ ht _
      rintro rfl
      obtain ⟨j, hj⟩ := List.exists_mem_of_ne_nil _ hne
      obtain ⟨v, hv⟩ := htakes j hj
      have hmem := Rule.mem_operands.2 ⟨j, hj, hv⟩
      rw [hk.asked] at hmem
      cases hmem

/-- **An accepted column filter is reduced** to one that is accepted and holds in the same of the rows that suit it,
or left as it is. -/
theorem reduceOn_faithful (hc : config.column? name = some c) (hsuits : c.source.suits c.type = true)
    {fields : Fields} (hname : fields.value "column" = .str name) (hop : fields.value "op" = .str o.symbol)
    (hacc : c.type.accepts o = true) {a : Argument} (ha : FilterNode.readArgument c.type o fields = .ok a)
    (ht : (⟨c, o, a⟩ : ColumnTest).Good rows) :
    ∃ out, reduceOn c.schemaFields fields = .ok out ∧
      ∀ r ∈ out, r.Faithful config rows (ColumnTest.node ⟨c, o, a⟩) := by
  rcases FilterNode.readArgument_eq_ok.1 ha with ⟨rfl, -, rfl⟩ | ⟨ho, j, r, hval, hr, harg⟩
  · have hnullable : c.type.isNullable = true := by simpa [ColumnType.accepts, Kind.accepts_null] using hacc
    refine ⟨none, ?_, by simp⟩
    rw [reduceOn, if_pos (by rw [hasOp_eq hop]; decide), c.isNullable_schemaFields, if_pos hnullable]
  have hnull : ¬ hasOp fields ["null"] = true := by
    rw [hasOp_eq hop]
    cases o <;> first | exact absurd rfl ho | decide
  have hvalue : fields.value "val" = j := by rw [Fields.value, hval, Option.getD_some]
  rw [reduceOn, if_neg hnull, hvalue]
  rcases harg with ⟨hlist, v, hv, rfl⟩ | ⟨hlist, values, rfl, hne, htakes, rfl⟩
  · cases j with
    | str x =>
      have hx : x ≠ "" := by
        rintro rfl
        rw [eq_empty_of_read hv] at ht
        exact ht.plain.2.1 rfl
      dsimp only
      rw [if_neg (by simpa using hx)]
      split
      next h =>
        rw [hasOp_eq hop, Bool.and_eq_true, Bool.not_eq_true'] at h
        have ho : o = .equal ∨ o = .exact ∨ o = .has := by
          cases o <;> first | exact absurd h.1 (by decide) | simp
        refine ⟨_, rfl, fun out hout => ?_⟩
        cases hout
        exact faithful_untrimmed hsuits hacc hr hlist ho hv hx h.2 ht
      next => exact ⟨none, rfl, by simp⟩
    | arr values => cases r <;> cases hv
    | _ => exact ⟨none, rfl, by simp⟩
  · obtain ⟨out, hout, hfaithful⟩ := reduceList_faithful hc hsuits hname hop hacc hr hlist hne htakes ht
    refine ⟨some out, ?_, fun r' hr' => ?_⟩
    · dsimp only
      rw [hout]
    · cases hr'
      exact hfaithful

end Columns

end ColumnFilter

end TableQuery
