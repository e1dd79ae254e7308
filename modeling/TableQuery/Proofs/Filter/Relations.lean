import Mathlib.Data.Set.Basic
import TableQuery.Proofs.Filter.ColumnReduction
import TableQuery.Proofs.Request.Plan
import TableQuery.Proofs.Store.Filled

/-!
# Lists as sets

The operators on list columns stand for relations of two sets, the members of a row and the operands
(`Operator.Relates`). The clause of an operator holds in a row iff the sets are so related, and its opposite iff
they are not, except where an operand is repeated: to have all of the operands and to be equal to them are found out
by counting, which takes a repeated operand for a member that is not there (`FilterNode.holds_listFilter_iff`).
-/

set_option autoImplicit false

namespace TableQuery

open Sql (Clause Members Source Store Env Value textOperands)

/-! ## Sets -/

def Operand.valueSet (vs : List Operand) : Set Value := {v | ∃ w ∈ vs, Value.ofOperand w = v}

def Sql.Members.valueSet (store : Store) (env : Env) (m : Members) : Set Value := {v | v ∈ m.values store env}

/-- The relation of the members of a row to an argument that an operator on list columns stands for. -/
def Operator.Relates (members : Set Value) : Operator → Argument → Prop
  | .null, .nothing => members = ∅
  | .has, .one v => Value.ofOperand v ∈ members
  | .hasAny, .many vs => (members ∩ Operand.valueSet vs).Nonempty
  | .hasAll, .many vs => Operand.valueSet vs ⊆ members
  | .hasOnly, .many vs => members ⊆ Operand.valueSet vs
  | .equal, .many vs => members = Operand.valueSet vs
  | _, _ => False

/-- An operator finds out by counting whether operands are members. -/
def Operator.isCounting (o : Operator) : Bool :=
  o = .equal || o = .hasAll

theorem Operand.mem_valueSet_textOperands {xs : List String} {v : Value} :
    v ∈ valueSet (textOperands xs) ↔ ∃ x ∈ xs, v = .text x := by
  simp [valueSet, textOperands, Value.ofOperand, eq_comm]

/-! ## Arguments of operators on lists -/

theorem Rule.exists_textOperands {vs : List Operand} (h : ∀ v ∈ vs, Rule.uuid.Yields v) :
    ∃ xs, vs = textOperands xs := by
  induction vs with
  | nil => exact ⟨[], rfl⟩
  | cons v vs ih =>
    obtain ⟨xs, rfl⟩ := ih fun w hw => h w (List.mem_cons_of_mem _ hw)
    have hv := h v List.mem_cons_self
    cases v with
    | text x => exact ⟨x :: xs, rfl⟩
    | _ => cases hv

namespace Operator

/-- The arguments of an operator on a list column: none, one text or several texts. -/
inductive OnList : Operator → Argument → Prop
  | null : OnList .null .nothing
  | has (x : String) : OnList .has (.one (.text x))
  | hasAny (xs : List String) : OnList .hasAny (.many (textOperands xs))
  | hasAll (xs : List String) : OnList .hasAll (.many (textOperands xs))
  | hasOnly (xs : List String) : OnList .hasOnly (.many (textOperands xs))
  | equal (xs : List String) : OnList .equal (.many (textOperands xs))

/-- **An accepted operator of a list column comes with texts.** -/
theorem onList_of_fits {t : ColumnType} {o : Operator} {a : Argument} (hlist : t.isList = true)
    (ho : t.accepts o = true) (ha : a.Fits t o) : OnList o a := by
  obtain ⟨-, -, -, -, -, hrule⟩ := ColumnFilter.list_facts hlist
  have hmembers : o.isOnMembers = true := by
    cases t with
    | plain k =>
      cases k with
      | uuidList | dictList => cases o <;> first | rfl | cases ho
      | _ => cases hlist
    | _ => cases hlist
  cases a with
  | nothing =>
    cases ha
    exact .null
  | one v =>
    obtain ⟨hnull, htakes, r, hr, hv⟩ := ha
    cases o with
    | has =>
      rw [hrule .has rfl, Option.some.injEq] at hr
      subst hr
      have hone : ∀ w ∈ [v], Rule.uuid.Yields w := by simpa using hv
      obtain ⟨xs, hxs⟩ := Rule.exists_textOperands hone
      match xs, hxs with
      | [x], hxs =>
        obtain ⟨rfl, -⟩ := List.cons.inj hxs
        exact .has x
    | null => exact absurd rfl hnull
    | equal => simp [ColumnType.takesList, hlist] at htakes
    | hasAny | hasAll | hasOnly => cases htakes
    | _ => cases hmembers
  | many vs =>
    obtain ⟨hnull, htakes, -, r, hr, hvs⟩ := ha
    have huuid : o.isTextual = false → ∃ xs, vs = textOperands xs := by
      intro htextual
      rw [hrule o htextual, Option.some.injEq] at hr
      subst hr
      exact Rule.exists_textOperands hvs
    cases o with
    | hasAny | hasAll | hasOnly | equal =>
      obtain ⟨xs, rfl⟩ := huuid rfl
      constructor
    | null => exact absurd rfl hnull
    | has => simp [ColumnType.takesList, takesList] at htakes
    | _ => cases hmembers

/-! ## Clauses -/

section Rows

variable {store : Store} {env : Env} {t : ColumnType} {o : Operator} {a : Argument} {m : Members}

/-- **What an operator asks of the members of a row** is its relation of sets, and that no operand is repeated where
they are counted. -/
theorem holds_clause_iff (ha : OnList o a) (hm : m.value.source = m.table.name)
    (hthere : ∀ v ∈ m.values store env, v ≠ .null) :
    (o.clause t (.members m) a).holds store env = true ↔
      o.Relates (m.valueSet store env) a ∧ (o.isCounting = true → a.operands.Nodup) := by
  have honly : ∀ xs, (∀ v ∈ m.values store env, v ≠ .null → ∃ x ∈ xs, v = .text x) ↔
      m.valueSet store env ⊆ Operand.valueSet (textOperands xs) := by
    intro xs
    refine ⟨fun h v hv => ?_, fun h v hv _ => Operand.mem_valueSet_textOperands.1 (h hv)⟩
    exact Operand.mem_valueSet_textOperands.2 (h v hv (hthere v hv))
  have hall : ∀ xs : List String, (∀ x ∈ xs, .text x ∈ m.values store env) ↔
      Operand.valueSet (textOperands xs) ⊆ m.valueSet store env := by
    intro xs
    constructor
    · intro h v hv
      obtain ⟨x, hx, rfl⟩ := Operand.mem_valueSet_textOperands.1 hv
      exact h x hx
    · exact fun h x hx => h (Operand.mem_valueSet_textOperands.2 ⟨x, hx, rfl⟩)
  cases ha with
  | null =>
    rw [holds_null, Relates, Set.eq_empty_iff_forall_notMem, List.eq_nil_iff_forall_not_mem]
    exact (and_iff_left nofun).symm
  | has x =>
    rw [holds_has store env hm]
    exact (and_iff_left nofun).symm
  | hasAny xs =>
    rw [holds_hasAny store env hm, and_iff_left nofun, Relates]
    constructor
    · rintro ⟨x, hx, hv⟩
      exact ⟨.text x, hv, Operand.mem_valueSet_textOperands.2 ⟨x, hx, rfl⟩⟩
    · rintro ⟨v, hv, hmem⟩
      obtain ⟨x, hx, rfl⟩ := Operand.mem_valueSet_textOperands.1 hmem
      exact ⟨x, hx, hv⟩
  | hasOnly xs =>
    rw [holds_hasOnly store env hm, and_iff_left nofun, Relates, honly]
  | hasAll xs =>
    rw [holds_hasAll_iff store env hm, Relates, ← hall, and_comm]
    exact and_congr_right fun _ => by simp [isCounting, Argument.operands, ColumnFilter.nodup_textOperands]
  | equal xs =>
    rw [holds_equalList_eq, Bool.and_eq_true, holds_hasOnly store env hm, holds_hasAll_iff store env hm, honly, hall,
      Relates, Set.Subset.antisymm_iff, and_comm (a := xs.Nodup), ← and_assoc]
    exact and_congr_right fun _ => by simp [isCounting, Argument.operands, ColumnFilter.nodup_textOperands]

end Rows

end Operator

/-! ## Filters on list columns -/

namespace Entity

theorem isFilled_of_mem : ∀ e ∈ all, ∀ c ∈ e.config.columns, ∀ m ∈ c.scalar.lists, m.isFilled = true := by
  decide +kernel

def facilityMembers : Members :=
  { value := ⟨"member_facilities", "facility_id"⟩, table := named .members "member_facilities",
    child := ⟨"member_facilities", "user_id"⟩, parent := user "id" }

def facilitiesColumn : ColumnDef :=
  (users.config.column? "facilities").get (by decide +kernel)

theorem isList_facilitiesColumn : facilitiesColumn.type.isList = true := by
  decide +kernel

theorem source_facilitiesColumn : facilitiesColumn.source = .members facilityMembers := by
  decide +kernel

/-- A filter for users with all of some facilities. -/
def withFacilities (facilities : List String) : Fields :=
  [("type", .str "column"), ("column", .str "facilities"), ("op", .str Operator.hasAll.symbol),
    ("val", .arr (facilities.map .str))]

/-- The row of a member of staff in the sample data. -/
def staffEnv : Env :=
  [("users", (sampleStore.byId? TableDef.users.name (Sample.staffUserId 0)).getD [])]

/-- What a filter for users with all of some facilities is read as. -/
theorem readColumnFilter_withFacilities {facilities : List String} (hne : facilities ≠ [])
    (huuid : ∀ x ∈ facilities, isUuid x = true) :
    FilterNode.readColumnFilter users.config (withFacilities facilities) =
      .ok (.ok (.column facilitiesColumn .hasAll (.many (textOperands facilities)) false)) := by
  have htakes : ∀ j ∈ facilities.map Json.str, Rule.uuid.Takes j := by
    intro j hj
    obtain ⟨x, hx, rfl⟩ := List.mem_map.1 hj
    exact ⟨_, ColumnFilter.read_uuid.2 ⟨huuid x hx, rfl⟩⟩
  obtain ⟨-, -, -, -, haccepts, hrule⟩ := ColumnFilter.list_facts isList_facilitiesColumn
  refine FilterNode.readColumnFilter_eq_ok.2 ⟨"facilities", facilitiesColumn, Operator.hasAll.symbol, .hasAll, _, rfl,
    (Option.some_get _).symm, rfl, Operator.ofSymbol?_symbol _, haccepts _ rfl, ?_, rfl⟩
  rw [← ColumnFilter.operands_uuid huuid]
  have hnull : Operator.hasAll ≠ .null := nofun
  exact FilterNode.readArgument_many hnull (hrule _ rfl) rfl (by simpa using hne) htakes _ rfl

end Entity

namespace FilterNode

/-- **A filter on a list column is a relation of sets**: its condition holds in a row iff the members of the row
are so related to the operands and no operand that is counted is repeated, and the inverted condition holds iff
that is not so. -/
theorem holds_listFilter_iff {config : EntityConfig} {fields : Fields} {c : ColumnDef} {o : Operator} {a : Argument}
    {inverse : Bool} (hread : readColumnFilter config fields = .ok (.ok (.column c o a inverse)))
    (hlist : c.type.isList = true) {m : Members} (hsource : c.source = .members m) (hm : m.isFilled = true)
    {store : Store} (hstore : store.Filled) (env : Env) :
    let asked := o.Relates (m.valueSet store env) a ∧ (o.isCounting = true → a.operands.Nodup)
    ((o.clause c.type c.source a).holds store env = true ↔ asked) ∧
      ((o.inverseClause c.type c.source a).holds store env = true ↔ ¬ asked) := by
  obtain ⟨_, c', _, o', a', -, -, -, -, ho, ha, hf⟩ := readColumnFilter_eq_ok.1 hread
  obtain ⟨rfl, rfl, rfl, -⟩ := FilterNode.column.inj hf
  have hsourceName : m.value.source = m.table.name := by
    rw [Members.isFilled, Bool.and_eq_true] at hm
    exact Members.source_of_isHeld hm.1
  have hthere : ∀ v ∈ m.values store env, v ≠ .null := fun v hv => Members.ne_null_of_mem_values hm hstore hv
  have hasked := @Operator.holds_clause_iff store env c.type o a m
    (Operator.onList_of_fits hlist ho (fits_of_readArgument ha)) hsourceName hthere
  rw [hsource]
  refine ⟨hasked, ?_⟩
  have hinverse : (o.inverseClause c.type (.members m) a).holds store env =
      !(o.clause c.type (.members m) a).holds store env :=
    Clause.holds_negate store env (Operator.isSome_truth_membersClause store env m)
  rw [hinverse, Bool.not_eq_true', ← Bool.not_eq_true, hasked]

/-- A member of staff is asked for the facility. -/
theorem holds_listFilter_iff_oneFacility :
    let asked := Operator.hasAll.Relates (Entity.facilityMembers.valueSet Entity.sampleStore Entity.staffEnv)
      (.many (textOperands [Sample.facility])) ∧
        (Operator.hasAll.isCounting = true → (Argument.many (textOperands [Sample.facility])).operands.Nodup)
    ((Operator.hasAll.clause Entity.facilitiesColumn.type Entity.facilitiesColumn.source
        (.many (textOperands [Sample.facility]))).holds Entity.sampleStore Entity.staffEnv = true ↔ asked) ∧
      ((Operator.hasAll.inverseClause Entity.facilitiesColumn.type Entity.facilitiesColumn.source
        (.many (textOperands [Sample.facility]))).holds Entity.sampleStore Entity.staffEnv = true ↔ ¬ asked) :=
  holds_listFilter_iff (Entity.readColumnFilter_withFacilities (by simp) (by decide)) Entity.isList_facilitiesColumn
    Entity.source_facilitiesColumn (by decide +kernel) (by decide +kernel) Entity.staffEnv

/-- A member of staff has the facility, and is not found when it is asked for twice. -/
theorem not_holds_repeatedFacility :
    readColumnFilter Entity.users.config (Entity.withFacilities [Sample.facility, Sample.facility]) =
      .ok (.ok (.column Entity.facilitiesColumn .hasAll (.many (textOperands [Sample.facility, Sample.facility]))
        false)) ∧
      Operator.hasAll.Relates (Entity.facilityMembers.valueSet Entity.sampleStore Entity.staffEnv)
        (.many (textOperands [Sample.facility, Sample.facility])) ∧
      (Operator.hasAll.clause Entity.facilitiesColumn.type Entity.facilitiesColumn.source
        (.many (textOperands [Sample.facility, Sample.facility]))).holds Entity.sampleStore Entity.staffEnv =
      false := by
  refine ⟨Entity.readColumnFilter_withFacilities (by simp) (by decide), ?_, by decide +kernel⟩
  have hmember : Value.text Sample.facility ∈ Entity.facilityMembers.values Entity.sampleStore Entity.staffEnv := by
    decide +kernel
  intro v hv
  obtain ⟨x, hx, rfl⟩ := Operand.mem_valueSet_textOperands.1 hv
  obtain rfl : x = Sample.facility := by simpa using hx
  exact hmember

end FilterNode

end TableQuery
