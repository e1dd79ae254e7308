import TableQuery.Proofs.Sql.Members
import TableQuery.Proofs.Sql.Rows
import TableQuery.Store.Table

/-!
# The data of a facility

Members, meetings and client groups belong to the facility that they name, attendants and memberships in groups
to that of the meeting or the group that they are part of, and all other rows to no facility in particular
(`TableDef.ownership`). The part of a store for a facility leaves out what belongs to others
(`Sql.Store.partOf`): two stores with the same part differ in data of other facilities only.

A row that is joined to rows of a facility is one of that facility if its table is guarded, which means that the
conditions lead to the row that it belongs to (`Sql.Ref.guards`, `Sql.Store.grants_of_guards`).
-/

set_option autoImplicit false

namespace TableQuery

open Sql (Condition Env Members Ref Row Store Table Value compareTruth)

/-! ## Whose rows they are -/

/-- To whom the rows of a table belong. -/
inductive Ownership where
  | shared
  /-- To the facility that a row names. -/
  | facility
  /-- To the facility of the row of another table that a column identifies. -/
  | part (link owner : String)
  deriving DecidableEq

/-- To whom the rows of a table belong. -/
def TableDef.ownership (table : String) : Ownership :=
  if table = members.name ∨ table = meetings.name ∨ table = clientGroups.name then .facility
  else if table = meetingAttendants.name then .part "meeting_id" meetings.name
  else if table = clientGroupMembers.name then .part "client_group_id" clientGroups.name
  else .shared

namespace Sql

def Row.cell (row : Row) (column : String) : Value := (row.lookup column).getD .null

/-- Whether values are known to be equal. -/
def Value.isSame (a b : Value) : Bool := compareTruth .eq a b == some true

/-- Whether a row names a facility as its own. -/
def Row.isOf (facility : String) (row : Row) : Bool := Row.cell row "facility_id" == .text facility

namespace Store

/-- Whether a facility may see a row of a table: nobody else owns it. -/
def grants (store : Store) (facility table : String) (row : Row) : Bool :=
  match TableDef.ownership table with
  | .shared => true
  | .facility => Row.isOf facility row
  | .part link owner => (store.rows owner).any fun o =>
      Row.isOf facility o && (Row.cell row link).isSame (Row.cell o "id")

/-- The rows of a store that are wanted. -/
def restrict (wanted : String → Row → Bool) (store : Store) : Store :=
  ⟨TableDef.all.map fun t => (t.name, (store.rows t.name).filter (wanted t.name))⟩

/-- The part of a store that a facility may see. -/
def partOf (facility : String) (store : Store) : Store := store.restrict (store.grants facility)

theorem rows_restrict {wanted : String → Row → Bool} {store : Store} {table : String}
    (h : (TableDef.find? table).isSome) :
    (store.restrict wanted).rows table = (store.rows table).filter (wanted table) := by
  have hlookup : ∀ ts : List TableDef, (ts.find? (·.name == table)).isSome →
      (ts.map fun t => (t.name, (store.rows t.name).filter (wanted t.name))).lookup table =
        some ((store.rows table).filter (wanted table)) := by
    intro ts hts
    induction ts with
    | nil => cases hts
    | cons t ts ih =>
      rw [List.map_cons, List.lookup_cons]
      by_cases ht : t.name = table
      · rw [ht, beq_self_eq_true]
      · rw [beq_eq_false_iff_ne.2 (Ne.symm ht)]
        exact ih (by simpa [List.find?_cons, ht] using hts)
  rw [rows, restrict, hlookup TableDef.all h, Option.getD_some]

end Store

/-! ## Groups of clients -/

namespace Store

/-- The groups that a user is a member of, whichever facility they belong to. -/
def groupsOf (store : Store) (user : Value) : List Value :=
  ((store.rows TableDef.clientGroupMembers.name).filter fun row => (Row.cell row "user_id").isSame user).map
    fun row => Row.cell row "client_group_id"

def isClient (store : Store) (facility : String) (user : Row) : Bool :=
  (store.rows TableDef.members.name).any fun m =>
    Row.isOf facility m && (Row.cell m "user_id").isSame (Row.cell user "id") &&
      (store.rows TableDef.clients.name).any fun c => (Row.cell c "id").isSame (Row.cell m "client_id")

/-- The clients of a facility are members of the same groups in two stores. -/
def SameGroups (facility : String) (store store' : Store) : Prop :=
  ∀ user ∈ store.rows TableDef.users.name, store.isClient facility user = true →
    store.groupsOf (Row.cell user "id") = store'.groupsOf (Row.cell user "id")

instance (facility : String) (store store' : Store) : Decidable (SameGroups facility store store') :=
  inferInstanceAs (Decidable (∀ user ∈ store.rows TableDef.users.name, store.isClient facility user = true →
    store.groupsOf (Row.cell user "id") = store'.groupsOf (Row.cell user "id")))

end Store

/-! ## What leads to the owner -/

/-- Whether conditions under which rows of a table are read lead to the facility of the row that `scope` is a
column of, which is a row of the table `home`. -/
def Ref.guards (scope : Ref) (home : String) (t : Table) (on : List Condition) : Bool :=
  match TableDef.ownership t.table with
  | .shared => true
  | .facility => scope == ⟨t.name, "facility_id"⟩
  | .part link owner => owner == home && on.contains (.sameAs ⟨t.name, link⟩ ⟨scope.source, "id"⟩)

/-- The part of a joined row that `scope` is a column of is a row of a facility. -/
def Env.IsOf (store : Store) (facility : String) (scope : Ref) (home : String) (env : Env) : Prop :=
  ∃ o ∈ store.rows home, env.lookup scope.source = some o ∧ Row.isOf facility o = true

section Rows

variable {store : Store} {facility : String} {scope : Ref} {home : String} {env : Env}

theorem Env.read_eq_cell {r : Ref} {row : Row} (h : env.lookup r.source = some row) :
    env.read r = Row.cell row r.column := by
  rw [Env.read, h, Option.bind_some, Row.cell]

/-- **A guarded row beside a row of a facility is one of the facility.** -/
theorem Store.grants_of_guards {t : Table} {on : List Condition} {row : Row}
    (henv : env.IsOf store facility scope home)
    (hg : scope.guards home t on = true) (hrow : env.lookup t.name = some row)
    (hon : ∀ l r, .sameAs l r ∈ on → (Condition.sameAs l r).truth env = some true) :
    store.grants facility t.table row = true := by
  obtain ⟨o, ho, hlookup, hof⟩ := henv
  unfold Ref.guards at hg
  unfold Store.grants
  cases hown : TableDef.ownership t.table with
  | shared => rfl
  | facility =>
    -- The row is the one that the scope is a column of.
    rw [hown] at hg
    rw [beq_iff_eq.1 hg] at hlookup
    rw [Option.some.inj (hrow.symm.trans hlookup)]
    exact hof
  | part link owner =>
    rw [hown] at hg
    simp only [Bool.and_eq_true, beq_iff_eq, List.contains_iff_mem] at hg
    obtain ⟨rfl, hmem⟩ := hg
    have hsame := hon _ _ hmem
    rw [Condition.truth, Env.read_eq_cell hrow, Env.read_eq_cell (r := ⟨scope.source, "id"⟩) hlookup] at hsame
    refine List.any_eq_true.2 ⟨o, ho, ?_⟩
    rw [hof, Bool.true_and, Value.isSame, hsame]
    rfl

/-- **A guarded list has the same members in the part of a facility**, in rows of the facility. -/
theorem Members.values_partOf {m : Members} (henv : env.IsOf store facility scope home)
    (hknown : (TableDef.find? m.table.table).isSome) (hname : scope.source ≠ m.table.name)
    (hg : scope.guards home m.table [.sameAs m.child m.parent] = true) :
    m.values (store.partOf facility) env = m.values store env := by
  have hgrants : ∀ row,
      Condition.allHold ((m.table.name, row) :: env) (.sameAs m.child m.parent :: m.criteria) = true →
      store.grants facility m.table.table row = true := by
    intro row hon
    have henv' : Env.IsOf store facility scope home ((m.table.name, row) :: env) := by
      obtain ⟨o, ho, hlookup, hof⟩ := henv
      refine ⟨o, ho, ?_, hof⟩
      rw [List.lookup_cons, beq_eq_false_iff_ne.2 hname]
      exact hlookup
    refine Store.grants_of_guards henv' hg List.lookup_cons_self fun l r hmem => ?_
    rw [List.mem_singleton.1 hmem]
    exact beq_iff_eq.1 (List.all_eq_true.1 hon _ List.mem_cons_self)
  rw [values, values, Store.partOf, Store.rows_restrict hknown, List.filter_filter]
  refine congrArg (List.map _) (List.filter_congr fun row _ => ?_)
  cases hon : Condition.allHold ((m.table.name, row) :: env) (.sameAs m.child m.parent :: m.criteria) with
  | false => rfl
  | true => rw [hgrants row hon, Bool.and_true]

theorem Members.values_nil {m : Members} (h : m.parent.source ≠ m.table.name) : m.values store [] = [] := by
  rw [values, List.map_eq_nil_iff, List.filter_eq_nil_iff]
  intro row _ hon
  have hparent : Env.read [(m.table.name, row)] m.parent = .null := by
    rw [Env.read, List.lookup_cons, beq_eq_false_iff_ne.2 h]
    rfl
  exact (ne_null_of_compareTruth (beq_iff_eq.1 (List.all_eq_true.1 hon _ List.mem_cons_self))).2 hparent

end Rows

end Sql

end TableQuery
