import Mathlib.Data.List.Nodup
import TableQuery.Proofs.Outcomes
import TableQuery.Proofs.Store.Scope
import TableQuery.Store.Table

/-!
# Cells that may not be missing

In a store that keeps the rules of its tables no required cell is missing (`Store.Filled`). Adding a row keeps this,
for a row that lacks a required cell is refused (`Store.Filled.insert`), and so does adding any number of rows
(`Store.inserts_induct`). A list that is held by its table and shows a required column of it has no missing members
(`Members.ne_null_of_mem_values`).
-/

set_option autoImplicit false

namespace TableQuery.Sql

namespace Store

variable {store : Store}

/-! ## Rows of a table -/

/-- What a key stands for in a list whose values are changed. -/
theorem lookup_change {α : Type} (f : String → α → α) (key : String) :
    ∀ entries : List (String × α),
      (entries.map fun p => (p.1, f p.1 p.2)).lookup key = (entries.lookup key).map (f key)
  | [] => rfl
  | (k, a) :: entries => by
    simp only [List.map_cons, List.lookup_cons]
    by_cases hk : key = k
    · subst hk
      simp
    · simp only [beq_eq_false_iff_ne.2 hk]
      exact lookup_change f key entries

theorem rows_append (store : Store) (table : String) (rows : List Row) (name : String) :
    (store.append table rows).rows name = if name = table then store.rows table ++ rows else store.rows name := by
  unfold append
  split
  next hany =>
    have hchange : (store.tables.map fun p => if p.1 == table then (table, p.2 ++ rows) else p) =
        store.tables.map fun p => (p.1, if p.1 = table then p.2 ++ rows else p.2) := by
      refine List.map_congr_left fun p _ => ?_
      by_cases hp : p.1 = table
      · simp [hp]
      · simp [hp]
    obtain ⟨p, hp, hname⟩ := List.any_eq_true.1 hany
    have hthere : (store.tables.lookup table).isSome := by
      rw [← Option.not_isNone, Bool.not_eq_true', ← Bool.not_eq_true, Option.isNone_iff_eq_none,
        List.lookup_eq_none_iff]
      intro hnone
      have hne := hnone p hp
      rw [beq_iff_eq] at hname
      simp [hname] at hne
    obtain ⟨old, hold⟩ := Option.isSome_iff_exists.1 hthere
    rw [Store.rows, hchange, lookup_change (fun n rs => if n = table then rs ++ rows else rs)]
    by_cases hk : name = table
    · subst hk
      simp [Store.rows, hold]
    · simp [Store.rows, hk]
  next hany =>
    have hnone : store.tables.lookup table = none := by
      rw [List.lookup_eq_none_iff]
      intro p hp
      simpa using fun h : table = p.1 => hany (List.any_eq_true.2 ⟨p, hp, beq_iff_eq.2 h.symm⟩)
    by_cases hk : name = table
    · subst hk
      simp [Store.rows, List.lookup_append, hnone]
    · simp [Store.rows, List.lookup_append, List.lookup_cons, hk, beq_eq_false_iff_ne.2 hk]

/-- A row that is added is in stored form, and keeps the rules for the columns of its table. -/
theorem insert_eq_ok {t : TableDef} {fields : Fields} {store' : Store} (h : store.insert t fields = .ok store') :
    ∃ given row, t.row given = .ok row ∧ t.columns.all (store.admits t row) = true ∧
      store' = store.append t.name [row] := by
  unfold insert at h
  dsimp only at h
  obtain ⟨row, hrow, h⟩ := bind_eq_ok.1 h
  split at h
  next hadmits => exact ⟨_, row, hrow, hadmits, (Except.ok.inj h).symm⟩
  next => cases h

theorem eq_of_tableName {t t' : TableDef} (ht : t ∈ TableDef.all) (ht' : t' ∈ TableDef.all) (h : t.name = t'.name) :
    t = t' :=
  List.inj_on_of_nodup_map (by decide : (TableDef.all.map (·.name)).Nodup) ht ht' h

/-- What holds of every row of every table holds so after a row is added, if it holds of the new row. -/
theorem forall_rows_insert {P : TableDef → Row → Prop} (h : ∀ t ∈ TableDef.all, ∀ row ∈ store.rows t.name, P t row)
    {t : TableDef} (ht : t ∈ TableDef.all) {fields : Fields} {store' : Store}
    (hinsert : store.insert t fields = .ok store')
    (hnew : ∀ given row, t.row given = .ok row → t.columns.all (store.admits t row) = true → P t row) :
    ∀ t' ∈ TableDef.all, ∀ row ∈ store'.rows t'.name, P t' row := by
  obtain ⟨given, row, hrow, hadmits, rfl⟩ := insert_eq_ok hinsert
  intro t' ht' row' hrow'
  rw [rows_append] at hrow'
  split at hrow'
  next hname =>
    obtain rfl := eq_of_tableName ht' ht hname
    rcases List.mem_append.1 hrow' with hold | hadded
    · exact h t' ht' row' hold
    · obtain rfl := List.mem_singleton.1 hadded
      exact hnew given row' hrow hadmits
  next => exact h t' ht' row' hrow'

/-- **What adding a row keeps, adding any number of rows keeps.** -/
theorem inserts_induct {P : Store → Prop}
    (step : ∀ {t : TableDef} {fields : Fields} {store store' : Store}, t ∈ TableDef.all →
      store.insert t fields = .ok store' → P store → P store')
    {rows : List (TableDef × Fields)} (hrows : ∀ p ∈ rows, p.1 ∈ TableDef.all) :
    ∀ {store store' : Store}, P store →
      rows.foldlM (fun store p => store.insert p.1 p.2) store = .ok store' → P store' := by
  induction rows with
  | nil =>
    intro store store' h hfold
    cases hfold
    exact h
  | cons p rows ih =>
    intro store store' h hfold
    rw [List.foldlM_cons] at hfold
    obtain ⟨next, hinsert, hrest⟩ := bind_eq_ok.1 hfold
    exact ih (fun q hq => hrows q (List.mem_cons_of_mem _ hq)) (step (hrows p List.mem_cons_self) hinsert h) hrest

/-! ## Required cells -/

/-- No required cell is missing. -/
def Filled (store : Store) : Prop :=
  ∀ t ∈ TableDef.all, ∀ row ∈ store.rows t.name, ∀ c ∈ t.columns, c.required = true →
    (row.lookup c.name).getD .null ≠ .null

instance (store : Store) : Decidable store.Filled :=
  inferInstanceAs (Decidable (∀ t ∈ TableDef.all, ∀ row ∈ store.rows t.name, ∀ c ∈ t.columns, c.required = true →
    (row.lookup c.name).getD .null ≠ .null))

theorem filled_empty : Filled {} := by
  intro t _ row hrow
  cases hrow

/-- **A row that is added lacks no required cell.** -/
theorem Filled.insert (h : store.Filled) {t : TableDef} (ht : t ∈ TableDef.all) {fields : Fields} {store' : Store}
    (hinsert : store.insert t fields = .ok store') : store'.Filled := by
  refine forall_rows_insert h ht hinsert fun _ row _ hadmits c hc hrequired => ?_
  have hadmit := List.all_eq_true.1 hadmits c hc
  simp only [admits, hrequired, Bool.and_eq_true, Bool.not_eq_true', Bool.true_and, beq_eq_false_iff_ne] at hadmit
  exact hadmit.1.1

end Store

/-! ## Members of lists -/

namespace Members

/-- The list shows a required column of the table that holds it. -/
def isFilled (m : Members) : Bool :=
  m.isHeld && (TableDef.find? m.table.table).any fun t => t.columns.any fun c => c.name == m.value.column && c.required

variable {m : Members} {store : Store} {env : Env}

theorem source_of_isHeld (h : m.isHeld = true) : m.value.source = m.table.name := by
  rw [isHeld, Bool.and_eq_true, Bool.and_eq_true] at h
  obtain ⟨t, ht, htable⟩ := List.any_eq_true.1 h.1.1
  obtain rfl := List.mem_singleton.1 ht
  exact (beq_iff_eq.1 (Bool.and_eq_true_iff.1 htable).1).symm

/-- **No member of a list of required cells is missing.** -/
theorem ne_null_of_mem_values (hm : m.isFilled = true) (hstore : store.Filled) {v : Value}
    (hv : v ∈ m.values store env) : v ≠ .null := by
  rw [isFilled, Bool.and_eq_true] at hm
  obtain ⟨hheld, hrequired⟩ := hm
  obtain ⟨t, htable, hcolumns⟩ := Option.any_eq_true _ _ |>.1 hrequired
  obtain ⟨c, hc, hcolumn⟩ := List.any_eq_true.1 hcolumns
  rw [Bool.and_eq_true, beq_iff_eq] at hcolumn
  have ht : t ∈ TableDef.all := List.mem_of_find?_eq_some htable
  have hname : t.name = m.table.table := by simpa using List.find?_some htable
  obtain ⟨row, hrow, rfl⟩ := List.mem_map.1 hv
  have hrow : row ∈ store.rows t.name := hname ▸ (List.mem_filter.1 hrow).1
  rw [Env.read, source_of_isHeld hheld, List.lookup_cons_self, Option.bind_some, ← hcolumn.1]
  exact hstore t ht row hrow c hc hcolumn.2

end Members

end TableQuery.Sql
