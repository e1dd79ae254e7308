import TableQuery.Proofs.Sql.Rows
import TableQuery.Service.Engine

/-!
# Stores whose cells match their columns

A stored column holds values of its kind, or nothing (`StoredKind.holds`, `Store.Typed`). What the cells of a store
have in common, the values that a query computes from them have as well (`Scalar.value_of_cells`). A column of a
type can show all that a stored column of a suitable kind holds (`ColumnType.render_succeeds`).
-/

set_option autoImplicit false

namespace TableQuery

open Sql (Env Ref Row Scalar Scope Store Table Value)

/-! ## Values of a kind -/

/-- A value that a stored column of a kind can hold. Numbers are finite there, dates and points in time can be
read. -/
def StoredKind.holds : StoredKind → Value → Bool
  | _, .null | text, .text _ | int, .int _ => true
  | real, .real x => x.isFinite
  | bool, .int n => n = 0 || n = 1
  | date, .text s => (Iso.date? s).isSome
  | moment, .text s => ((Iso.stamp? s).bind (·.utc?)).isSome
  | _, _ => false

/-- A column of a type can show what stored columns of a kind hold. -/
def ColumnType.shows (t : ColumnType) (k : StoredKind) : Bool :=
  match t.kind with
  | .moment => k = .moment
  | .int | .count => k = .int || k = .real
  | .list | .object => false
  | _ => true

namespace Cell

variable {t : ColumnType} {v : Value}

theorem isMissing_ofValue (h : v ≠ .null) : (ofValue t v).isMissing = false := by
  cases v with
  | null => exact absurd rfl h
  | int n | real x => rfl
  | text s =>
    rw [ofValue]
    split
    · cases Iso.date? s <;> rfl
    · cases Iso.stamp? s <;> rfl
    · rfl

theorem sortValues_texts (texts : List String) : ∃ js, sortValues (texts.map .str) = .ok js := by
  have hless : ((texts.map Json.str).all fun a => (texts.map Json.str).all fun b => (a.less? b).isSome) = true := by
    simp only [List.all_eq_true, List.mem_map]
    rintro _ ⟨s, -, rfl⟩ _ ⟨t, -, rfl⟩
    rw [Json.less?, Option.isSome_some]
  by_cases hfew : (texts.map Json.str).length < 2
  · exact ⟨_, if_pos hfew⟩
  · exact ⟨_, (if_neg hfew).trans (if_pos hless)⟩

theorem renderMoment_succeeds (ht : t.kind = .moment) (h : v ≠ .null) (hv : StoredKind.moment.holds v = true) :
    ∃ s, (ofValue t v).renderMoment = .ok s := by
  cases v with
  | null => exact absurd rfl h
  | int n | real x => cases hv
  | text s =>
    rw [StoredKind.holds, Option.isSome_iff_exists] at hv
    obtain ⟨m, hm⟩ := hv
    obtain ⟨stamp, hstamp, hutc⟩ := Option.bind_eq_some_iff.1 hm
    refine ⟨m.toSeconds ++ "Z", ?_⟩
    simp only [ofValue, ht, hstamp, Option.map_some, Option.getD_some, renderMoment, renderMoment.finish, hutc]
    rfl

theorem renderInt_succeeds (h : v ≠ .null) (hv : StoredKind.int.holds v = true ∨ StoredKind.real.holds v = true) :
    ∃ n, (ofValue t v).renderInt = .ok n := by
  cases v with
  | null => exact absurd rfl h
  | int n => exact ⟨n, rfl⟩
  | real x =>
    cases x with
    | finite s u => exact ⟨_, rfl⟩
    | infinite s | nan => rcases hv with hv | hv <;> cases hv
  | text s => rcases hv with hv | hv <;> cases hv

theorem renderMembers_succeeds (ht : t.isList = true) : ∃ js, (ofValue t v).renderMembers = .ok js := by
  cases v with
  | null | int n | real x => exact sortValues_texts _
  | text s =>
    rw [ofValue]
    split
    · simp_all [ColumnType.isList, Kind.isList]
    · simp_all [ColumnType.isList, Kind.isList]
    · exact sortValues_texts _

end Cell

/-- **A column shows every value that a stored column of a suitable kind holds.** -/
theorem ColumnType.render_succeeds {t : ColumnType} {k : StoredKind} {v : Value} (ht : t.shows k = true)
    (hv : k.holds v = true) : ∃ j, t.render (.ofValue t v) = .ok j := by
  by_cases hnull : v = .null
  · rw [hnull]
    exact ⟨_, rfl⟩
  rw [render, Cell.isMissing_ofValue hnull, if_neg Bool.false_ne_true]
  unfold shows at ht
  cases hkind : t.kind with
  | moment =>
    rw [hkind] at ht
    obtain rfl : k = .moment := of_decide_eq_true ht
    obtain ⟨s, hs⟩ := Cell.renderMoment_succeeds hkind hnull hv
    exact ⟨.str s, by rw [Kind.render, hs]; rfl⟩
  | int | count =>
    rw [hkind, Bool.or_eq_true, decide_eq_true_eq, decide_eq_true_eq] at ht
    have hnumber : StoredKind.int.holds v = true ∨ StoredKind.real.holds v = true := by
      rcases ht with rfl | rfl
      · exact Or.inl hv
      · exact Or.inr hv
    obtain ⟨n, hn⟩ := Cell.renderInt_succeeds hnull hnumber
    exact ⟨.int n, by rw [Kind.render, hn]; rfl⟩
  | uuidList | dictList =>
    obtain ⟨js, hjs⟩ := @Cell.renderMembers_succeeds t v (by rw [isList, hkind]; rfl)
    exact ⟨.arr js, by rw [Kind.render, hjs]; rfl⟩
  | list | object =>
    rw [hkind] at ht
    cases ht
  | bool | date | string | text | uuid | dict => exact ⟨_, rfl⟩

/-! ## Stores -/

namespace Sql.Store

/-- The cells of a store have something in common, column by column. -/
def Cells (P : StoredKind → Value → Prop) (store : Store) : Prop :=
  ∀ t ∈ TableDef.all, ∀ row ∈ store.rows t.name, ∀ c ∈ t.columns, P c.kind ((row.lookup c.name).getD .null)

/-- Every cell is empty or of the kind of its column. -/
def Typed (store : Store) : Prop := store.Cells fun k v => k.holds v = true

/-- No cell is an undefined number, which the store does not keep. -/
def Defined (store : Store) : Prop := store.Cells fun _ v => v ≠ .real .nan

instance (store : Store) : Decidable store.Typed :=
  inferInstanceAs (Decidable (∀ t ∈ TableDef.all, ∀ row ∈ store.rows t.name, ∀ c ∈ t.columns,
    c.kind.holds ((row.lookup c.name).getD .null) = true))

theorem Typed.defined {store : Store} (h : store.Typed) : store.Defined := by
  intro t ht row hrow c hc hnan
  have hholds := h t ht row hrow c hc
  dsimp only at hholds
  rw [hnan] at hholds
  cases hkind : c.kind <;> rw [hkind] at hholds <;> cases hholds

end Sql.Store

namespace Sql

/-- The kind of the values of a scalar over some tables. -/
def Scalar.kind? (tables : Scope) : Scalar → Option StoredKind
  | column r => do
    let t ← tables.find? (·.name == r.source)
    let d ← TableDef.find? t.table
    let c ← d.columns.find? (·.name == r.column)
    return c.kind
  | nullTest _ _ => some .bool
  | rowCount => some .int
  | joined _ => some .text

/-- What cells have in common that holds of missing and of computed values as well. -/
structure Computable (P : StoredKind → Value → Prop) : Prop where
  ofBool : ∀ b, P .bool (.ofBool b)
  ofNat : ∀ n : Nat, P .int (.int n)
  ofText : ∀ s, P .text (.text s)
  null : ∀ k, P k .null

theorem computable_holds : Computable fun k v => k.holds v = true where
  ofBool b := by cases b <;> rfl
  ofNat _ := rfl
  ofText _ := rfl
  null k := by cases k <;> rfl

theorem computable_defined : Computable fun _ v => v ≠ .real .nan where
  ofBool b := by cases b <;> nofun
  ofNat _ := nofun
  ofText _ := nofun
  null _ := nofun

/-- **What cells have in common holds of the values that are computed from a row.** -/
theorem Scalar.value_of_cells {P : StoredKind → Value → Prop} (hP : Computable P) {store : Store}
    (hstore : store.Cells P) {tables : Scope} {s : Scalar} {k : StoredKind} (hkind : s.kind? tables = some k)
    {env : Env}
    (hrows : ∀ t ∈ tables, ∀ row ∈ env.lookup t.name, row ∈ store.rows t.table) (size : Nat) :
    P k (s.value store env size) := by
  cases s with
  | column r =>
    simp only [kind?, Option.bind_eq_bind, Option.bind_eq_some_iff, pure, Option.some.injEq] at hkind
    obtain ⟨t, ht, d, hd, c, hc, rfl⟩ := hkind
    have hsource : t.name = r.source := by simpa using List.find?_some ht
    have hname : d.name = t.table := by simpa using List.find?_some hd
    have hcolumn : c.name = r.column := by simpa using List.find?_some hc
    rw [value, Env.read, ← hsource, ← hcolumn]
    cases hlookup : env.lookup t.name with
    | none => exact hP.null c.kind
    | some row =>
      have hrow : row ∈ store.rows d.name := hname ▸ hrows t (List.mem_of_find?_eq_some ht) row hlookup
      exact hstore d (List.mem_of_find?_eq_some hd) row hrow c (List.mem_of_find?_eq_some hc)
  | nullTest r n =>
    cases hkind
    exact hP.ofBool _
  | rowCount =>
    cases hkind
    exact hP.ofNat size
  | joined m =>
    cases hkind
    unfold value Members.joinedValue
    dsimp only
    split
    · exact hP.null .text
    · exact hP.ofText _

end Sql

end TableQuery
