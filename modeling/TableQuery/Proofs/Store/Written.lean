import TableQuery.Proofs.Calendar.Written
import TableQuery.Proofs.Store.Filled
import TableQuery.Proofs.Store.Typed

/-!
# Dates and points in time under their own text

A date is stored under its text, and a point in time under its text with six digits of fraction (`Store.Written`).
Adding a row keeps this (`Store.Written.insert`).
-/

set_option autoImplicit false

namespace TableQuery

open Sql (Row Value)

/-- A date or a point in time stands in a column for such under the text in which it is stored. -/
def StoredKind.writes : StoredKind → Value → Bool
  | date, .text s => (Iso.date? s).any fun d => d.toText = s
  | moment, .text s => (Iso.stamp? s).any fun x => x.offset = none && x.moment.toStored = s
  | _, _ => true

namespace StoredKind

variable {k : StoredKind} {v : Value} {s : String}

theorem writes_date (d : Date) : date.writes (.text d.toText) = true := by
  rw [writes, Iso.date?_toText, Option.any_some, decide_eq_true rfl]

theorem writes_moment (m : Moment) : moment.writes (.text m.toStored) = true := by
  rw [writes, Iso.stamp?_toStored, Option.any_some, decide_eq_true rfl, decide_eq_true rfl]
  rfl

theorem exists_moment_of_writes (h : moment.writes (.text s) = true) : ∃ m : Moment, s = m.toStored := by
  obtain ⟨x, -, hx⟩ := (Option.any_eq_true _ _).1 h
  rw [Bool.and_eq_true, decide_eq_true_eq, decide_eq_true_eq] at hx
  exact ⟨x.moment, hx.2.symm⟩

/-- **What the store makes of a value is in the form in which it is stored.** -/
theorem writes_of_store {j : Json} (h : k.store j = .ok v) : k.writes v = true := by
  by_cases hdate : k = .date
  · subst hdate
    cases j with
    | null => cases h; rfl
    | str s =>
      rw [store] at h
      cases hread : Iso.date? s with
      | none => rw [hread] at h; cases h
      | some d =>
        rw [hread] at h
        cases h
        exact writes_date d
    | _ => cases h
  by_cases hmoment : k = .moment
  · subst hmoment
    cases j with
    | null => cases h; rfl
    | str s =>
      rw [store] at h
      cases hread : Iso.stamp? s with
      | none => rw [hread] at h; cases h
      | some x =>
        rw [hread] at h
        cases h
        exact writes_moment x.moment
    | _ => cases h
  cases k with
  | date => exact absurd rfl hdate
  | moment => exact absurd rfl hmoment
  | _ => rfl

end StoredKind

namespace Sql

theorem computable_writes : Computable fun k v => k.writes v = true where
  ofBool _ := rfl
  ofNat _ := rfl
  ofText _ := rfl
  null k := by cases k <;> rfl

namespace Store

variable {store : Store}

/-- Dates and points in time are stored under their own texts. -/
def Written (store : Store) : Prop := store.Cells fun k v => k.writes v = true

instance (store : Store) : Decidable store.Written :=
  inferInstanceAs (Decidable (∀ t ∈ TableDef.all, ∀ row ∈ store.rows t.name, ∀ c ∈ t.columns,
    c.kind.writes ((row.lookup c.name).getD .null) = true))

theorem writes_of_row {t : TableDef} (ht : t ∈ TableDef.all) {fields : Fields} {row : Row}
    (h : t.row fields = .ok row) : ∀ c ∈ t.columns, c.kind.writes ((row.lookup c.name).getD .null) = true := by
  have hinitial : ∀ t ∈ TableDef.all, ∀ c ∈ t.columns, c.kind.writes c.initial = true := by decide +kernel
  have hnames : ∀ t ∈ TableDef.all, (t.columns.map (·.name)).Nodup := by decide +kernel
  intro c hc
  cases hlookup : row.lookup c.name with
  | none => exact computable_writes.null c.kind
  | some v =>
    obtain ⟨before, after, rfl, -⟩ := List.lookup_eq_some_iff.1 hlookup
    obtain ⟨c', hc', hcell⟩ := exists_of_mem_mapM h (List.mem_append_right _ List.mem_cons_self)
    dsimp only at hcell
    split at hcell
    next =>
      obtain ⟨v', hv', hcell⟩ := bind_eq_ok.1 hcell
      obtain ⟨hname, rfl⟩ := Prod.mk.inj (Except.ok.inj hcell)
      obtain rfl : c' = c := List.inj_on_of_nodup_map (hnames t ht) hc' hc hname
      exact StoredKind.writes_of_store hv'
    next =>
      obtain ⟨hname, rfl⟩ := Prod.mk.inj (Except.ok.inj hcell)
      obtain rfl : c' = c := List.inj_on_of_nodup_map (hnames t ht) hc' hc hname
      exact hinitial t ht c' hc'

/-- **A row that is added has dates and points in time under their own texts.** -/
theorem Written.insert (h : store.Written) {t : TableDef} (ht : t ∈ TableDef.all) {fields : Fields} {store' : Store}
    (hinsert : store.insert t fields = .ok store') : store'.Written :=
  forall_rows_insert h ht hinsert fun _ _ hrow _ => writes_of_row ht hrow

end Store

end Sql

end TableQuery
