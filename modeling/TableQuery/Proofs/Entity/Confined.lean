import TableQuery.Proofs.Entity.Registry
import TableQuery.Proofs.Sql.Lists
import TableQuery.Proofs.Store.Tenant

/-!
# Entities that keep to a facility

The tables that an entity with a scope joins are guarded by its scope, and so are its lists and custom filters,
with one exception: the groups of a client are looked up by the user alone (`Entity.Confined`,
`Entity.confined_of_mem`).
-/

set_option autoImplicit false

namespace TableQuery

open Sql (Env Members Ref Store Table)

/-- Whether the members of a list belong to the facility of the row that they are members of. -/
def Sql.Members.isGuarded (scope : Ref) (home : String) (m : Members) : Bool :=
  (TableDef.find? m.table.table).isSome && scope.source != m.table.name && m.parent.source != m.table.name &&
    scope.guards home m.table [.sameAs m.child m.parent]

namespace Entity

/-- The table that the scope is a column of. -/
def home (e : Entity) (scope : Ref) : String :=
  ((e.tables.find? (·.name == scope.source)).map (·.table)).getD ""

def clientGroups : Members :=
  { value := ⟨"group_members", "client_group_id"⟩, table := named .clientGroupMembers "group_members",
    child := ⟨"group_members", "user_id"⟩, parent := user "id" }

/-- What an entity reads is guarded by its scope, the groups of clients aside. -/
structure Confined (e : Entity) (scope : Ref) : Prop where
  known : ∀ t ∈ e.tables, (TableDef.find? t.table).isSome
  column : scope.column = "facility_id"
  home : ∀ t ∈ e.tables, t.name = scope.source → t.table = e.home scope
  base : scope.guards (e.home scope) e.base [] = true
  joins : ∀ j ∈ e.config.joins, scope.guards (e.home scope) j.from j.on = true
  lists : ∀ c ∈ e.config.columns, ∀ m ∈ c.scalar.lists,
    m.isGuarded scope (e.home scope) = true ∨ c.name = "groups" ∧ m = clientGroups
  customFilters : ∀ d ∈ e.config.customFilters, d.rows.isGuarded scope (e.home scope) = true
  /-- Groups are those of clients. -/
  groups : ∀ c ∈ e.config.columns, clientGroups ∈ c.scalar.lists →
    scope = memberScope ∧ e.base = named .users "users" ∧
    ∀ j ∈ [membersJoin, clientJoin], JoinDefs.named? e.config.joins j.name = some j

/-- **Every entity with a scope keeps to it**, the groups of clients aside. -/
theorem confined_of_mem : ∀ e ∈ all, ∀ scope ∈ e.scope, e.Confined scope := by
  have htables : ∀ e ∈ all, ∀ scope ∈ e.scope, scope.column = "facility_id" ∧
      scope.guards (e.home scope) e.base [] = true ∧
      (∀ t ∈ e.tables, (TableDef.find? t.table).isSome ∧ (t.name = scope.source → t.table = e.home scope)) := by
    decide +kernel
  have hjoins : ∀ e ∈ all, ∀ scope ∈ e.scope, ∀ j ∈ e.config.joins,
      scope.guards (e.home scope) j.from j.on = true := by decide +kernel
  have hlists : ∀ e ∈ all, ∀ scope ∈ e.scope, ∀ c ∈ e.config.columns,
      (∀ m ∈ c.scalar.lists, m.isGuarded scope (e.home scope) = true ∨ c.name = "groups" ∧ m = clientGroups) ∧
        (clientGroups ∈ c.scalar.lists → scope = memberScope ∧ e.base = named .users "users" ∧
          ∀ j ∈ [membersJoin, clientJoin], JoinDefs.named? e.config.joins j.name = some j) := by decide +kernel
  have hcustom : ∀ e ∈ all, ∀ scope ∈ e.scope, ∀ d ∈ e.config.customFilters,
      d.rows.isGuarded scope (e.home scope) = true := by decide +kernel
  exact fun e he scope hscope =>
    { known := fun t ht => ((htables e he scope hscope).2.2 t ht).1
      column := (htables e he scope hscope).1
      home := fun t ht => ((htables e he scope hscope).2.2 t ht).2
      base := (htables e he scope hscope).2.1
      joins := hjoins e he scope hscope
      lists := fun c hc => (hlists e he scope hscope c hc).1
      customFilters := hcustom e he scope hscope
      groups := fun c hc => (hlists e he scope hscope c hc).2 }

end Entity

theorem Sql.Members.values_clientGroups (store : Store) (env : Env) :
    Entity.clientGroups.values store env = store.groupsOf (env.read (Entity.user "id")) := by
  rw [values, Store.groupsOf]
  refine congrArg (List.map _) (List.filter_congr fun row _ => ?_)
  rw [Condition.allHold, List.all_cons]
  exact Bool.and_true _

end TableQuery
