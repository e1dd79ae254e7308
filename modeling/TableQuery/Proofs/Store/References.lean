import TableQuery.Proofs.Sql.Order
import TableQuery.Proofs.Store.Tenant
import TableQuery.Proofs.Store.Typed

/-!
# Rows that refer to users

A meeting names the user who entered it, and an attendant the user who attends. In a store with integrity the users
are there and no two rows of a table have the same key (`Store.Integral`), so that a join of a user on such a column
looks up one row (`Store.looksUp_user`).
-/

set_option autoImplicit false

namespace TableQuery

open Sql (Condition Env Join Ref Row Store Table Value compareTruth)

/-! ## Equal values -/

namespace Sql.Value

variable {a b c : Value}

theorem isSame_iff : a.isSame b = true ↔ a ≠ .null ∧ b ≠ .null ∧ a.compare b = .eq := by
  cases a <;> cases b <;> simp [isSame, compareTruth, compare?, Comparison.holds]

theorem isSame_trans (ha : a ≠ .real .nan) (hb : b ≠ .real .nan) (hc : c ≠ .real .nan) (hab : a.isSame b = true)
    (hcb : c.isSame b = true) : a.isSame c = true := by
  obtain ⟨hanull, -, hab⟩ := isSame_iff.1 hab
  obtain ⟨hcnull, -, hcb⟩ := isSame_iff.1 hcb
  rw [compare_eq_order ha hb] at hab
  rw [compare_eq_order hc hb] at hcb
  have hbc : b.order c = .eq := by rw [← order_swap, hcb]; rfl
  have hac : a.order c = .eq := Std.TransCmp.eq_trans hab hbc
  exact isSame_iff.2 ⟨hanull, hcnull, (compare_eq_order ha hc).trans hac⟩

end Sql.Value

/-! ## Integrity -/

/-- The stored columns that refer to users, by table and column. -/
def TableDef.userReferences : List Ref :=
  [⟨meetings.name, "created_by_id"⟩, ⟨meetingAttendants.name, "user_id"⟩]

namespace Sql.Store

variable {store : Store}

/-- A store with integrity: keys are unique, and users that are referred to are there. -/
structure Integral (store : Store) : Prop where
  unique : ∀ t ∈ TableDef.all,
    (store.rows t.name).Pairwise fun a b => (Row.cell a "id").isSame (Row.cell b "id") = false
  present : ∀ ref ∈ TableDef.userReferences, ∀ row ∈ store.rows ref.source,
    ∃ user ∈ store.rows TableDef.users.name, (Row.cell user "id").isSame (Row.cell row ref.column) = true

instance (store : Store) : Decidable store.Integral :=
  decidable_of_iff ((∀ t ∈ TableDef.all,
      (store.rows t.name).Pairwise fun a b => (Row.cell a "id").isSame (Row.cell b "id") = false) ∧
    ∀ ref ∈ TableDef.userReferences, ∀ row ∈ store.rows ref.source,
      ∃ user ∈ store.rows TableDef.users.name, (Row.cell user "id").isSame (Row.cell row ref.column) = true)
    ⟨fun ⟨unique, present⟩ => ⟨unique, present⟩, fun h => ⟨h.unique, h.present⟩⟩

/-- A cell of a column that its table has is no undefined number. -/
theorem Defined.cell (h : store.Defined) {t : TableDef} (ht : t ∈ TableDef.all) {row : Row}
    (hrow : row ∈ store.rows t.name) {column : String} (hc : column ∈ t.columnNames) :
    Row.cell row column ≠ .real .nan := by
  obtain ⟨c, hmem, rfl⟩ := List.mem_map.1 hc
  exact h t ht row hrow c hmem

def usersOf (store : Store) (key : Value) : List Row :=
  (store.rows TableDef.users.name).filter fun user => (Row.cell user "id").isSame key

/-- **The user that a row refers to is one and only one.** -/
theorem exists_user (hdefined : store.Defined) (h : store.Integral) {ref : Ref} (href : ref ∈ TableDef.userReferences)
    {row : Row} (hrow : row ∈ store.rows ref.source) : ∃ user, store.usersOf (Row.cell row ref.column) = [user] := by
  have hkey : ∀ user ∈ store.rows TableDef.users.name, Row.cell user "id" ≠ .real .nan := fun user huser =>
    hdefined.cell (t := TableDef.users) (by simp [TableDef.all]) huser (by decide)
  have hlink : Row.cell row ref.column ≠ .real .nan := by
    have hcolumns : ∀ ref ∈ TableDef.userReferences,
        ∃ t ∈ TableDef.all, t.name = ref.source ∧ ref.column ∈ t.columnNames := by decide
    obtain ⟨t, ht, hname, hcolumn⟩ := hcolumns ref href
    exact hdefined.cell ht (hname ▸ hrow) hcolumn
  have hunique : (store.usersOf (Row.cell row ref.column)).Pairwise
      fun a b => (Row.cell a "id").isSame (Row.cell b "id") = false :=
    (h.unique TableDef.users (by simp [TableDef.all])).filter _
  obtain ⟨user, huser, hsame⟩ := h.present ref href row hrow
  have hmem : user ∈ store.usersOf (Row.cell row ref.column) := List.mem_filter.2 ⟨huser, hsame⟩
  match hfound : store.usersOf (Row.cell row ref.column) with
  | [] =>
    rw [hfound] at hmem
    cases hmem
  | [only] => exact ⟨only, rfl⟩
  | first :: second :: _ =>
    -- Both are the user that is referred to, so that they have one key.
    have hfirst := List.mem_filter.1 (hfound ▸ List.mem_cons_self)
    have hsecond := List.mem_filter.1 (hfound ▸ List.mem_cons_of_mem _ List.mem_cons_self)
    have hboth := Value.isSame_trans (hkey first hfirst.1) hlink (hkey second hsecond.1) hfirst.2 hsecond.2
    rw [hfound, List.pairwise_cons] at hunique
    rw [hunique.1 second List.mem_cons_self] at hboth
    cases hboth

/-- **A join of the user that a row refers to looks up one row.** -/
theorem looksUp_user (hdefined : store.Defined) (h : store.Integral) {j : Join} {t : Table} {column : String}
    (hon : j.on = [.sameAs ⟨j.table.name, "id"⟩ ⟨t.name, column⟩]) (htable : j.table.table = TableDef.users.name)
    (href : ⟨t.table, column⟩ ∈ TableDef.userReferences) {env : Env} {row : Row} (hrow : row ∈ store.rows t.table)
    (hlookup : env.lookup t.name = some row) (hnew : j.table.name ∉ env.map (·.1)) : j.LooksUp store env := by
  have hholds : ∀ (more : Env) (user : Row), j.table.name ∉ more.map (·.1) →
      Condition.allHold (env ++ more ++ [(j.table.name, user)]) j.on =
        (Row.cell user "id").isSame (Row.cell row column) := by
    intro more user hmore
    have hfree : (env ++ more).lookup j.table.name = none := by
      rw [List.lookup_eq_none_iff]
      intro p hp
      rw [bne_iff_ne]
      rintro hname
      rcases List.mem_append.1 hp with hp | hp
      · exact hnew (hname ▸ List.mem_map_of_mem hp)
      · exact hmore (hname ▸ List.mem_map_of_mem hp)
    have huser : (env ++ more ++ [(j.table.name, user)]).lookup j.table.name = some user := by
      rw [List.lookup_append, hfree, Option.none_or, List.lookup_cons_self]
    have hlink : (env ++ more ++ [(j.table.name, user)]).lookup t.name = some row := by
      rw [List.append_assoc, List.lookup_append, hlookup, Option.some_or]
    rw [hon, Condition.allHold, List.all_cons, List.all_nil, Bool.and_true, Condition.truth,
      Env.read_eq_cell huser, Env.read_eq_cell hlink]
    rfl
  obtain ⟨user, huser⟩ := exists_user hdefined h href hrow
  have hpartners : ∀ more : Env, j.table.name ∉ more.map (·.1) → j.partners store (env ++ more) = [user] := by
    intro more hmore
    rw [Join.partners, htable, ← huser]
    exact List.filter_congr fun user _ => hholds more user hmore
  intro more hmore
  have hhere : j.partners store env = [user] := by
    have hnone := hpartners [] List.not_mem_nil
    rwa [List.append_nil] at hnone
  rw [hpartners more hmore, Join.partner, hhere]
  rfl

end Sql.Store

end TableQuery
