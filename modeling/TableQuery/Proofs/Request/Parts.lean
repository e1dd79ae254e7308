import TableQuery.Proofs.Request.Acceptance

/-!
# The parts of a check

When a paging is allowed (`Request.pagingErrors_eq_nil`), when columns are selected without complaint, which happens
name by name (`Request.Selects`), and when rows can be sorted by columns (`Request.checkSort_eq_ok`).
-/

set_option autoImplicit false

namespace TableQuery.Request

variable {config : EntityConfig} {distinct : Bool} {maxPageSize : Json} {p : Paging}

/-! ## Paging -/

theorem isPageSize_int {bound size : Int} :
    isPageSize (.int bound) size = .ok (decide (1 ≤ size ∧ size ≤ bound)) := by
  have hunit : (0 : Int) < Number.Double.unit := by decide +kernel
  have hless : (Number.Numeric.int bound).less (.int size) = !decide (size ≤ bound) := by
    rw [Number.Numeric.less, ← decide_not]
    exact decide_eq_decide.2 ((Int.mul_lt_mul_right hunit).trans Int.not_le.symm)
  unfold isPageSize
  split
  next hsize => simp [Int.not_le.2 hsize]
  next hsize => simp [Json.number?, hless, Int.not_lt.1 hsize]

theorem one_le_of_isPageSize {size : Int} (h : isPageSize maxPageSize size = .ok true) : 1 ≤ size := by
  unfold isPageSize at h
  split at h
  next => cases h
  next hsize => exact Int.not_lt.1 hsize

theorem pagingErrors_eq_nil : pagingErrors maxPageSize p = .ok [] ↔
    isPageSize maxPageSize p.size = .ok true ∧ (∀ n ∈ p.number, 1 ≤ n) ∧ ∀ n ∈ p.offset, 0 ≤ n := by
  simp only [pagingErrors, bind_eq_ok, pure, Except.pure, Except.ok.injEq, List.append_eq_nil_iff]
  constructor
  · rintro ⟨fits, hfits, ⟨hsize, hnumber⟩, hoffset⟩
    cases fits with
    | false => cases hsize
    | true =>
      refine ⟨hfits, fun n hn => ?_, fun n hn => ?_⟩
      · simpa [Option.mem_def.1 hn] using hnumber
      · simpa [Option.mem_def.1 hn] using hoffset
  · rintro ⟨hsize, hnumber, hoffset⟩
    refine ⟨true, hsize, ⟨rfl, ?_⟩, ?_⟩
    · cases hn : p.number with
      | none => rfl
      | some n => simp [hnumber n hn]
    · cases hn : p.offset with
      | none => rfl
      | some n => simp [hoffset n hn]

theorem bounds_of_pagingErrors (h : pagingErrors maxPageSize p = .ok []) : 1 ≤ p.size ∧ 0 ≤ p.start := by
  obtain ⟨hfits, hnumber, hoffset⟩ := pagingErrors_eq_nil.1 h
  have hsize := one_le_of_isPageSize hfits
  refine ⟨hsize, ?_⟩
  unfold Paging.start
  cases hn : p.number with
  | none =>
    cases ho : p.offset with
    | none => exact Int.le_refl 0
    | some offset => exact hoffset offset ho
  | some n => exact Int.mul_nonneg (Int.sub_nonneg_of_le (hnumber n hn)) (Int.le_trans (by decide) hsize)

theorem pagingErrors_number {size n : Int} (hsize : 1 ≤ size) (hn : 1 ≤ n) :
    pagingErrors maxPageSize { size, number := some n } =
      pagingErrors maxPageSize { size, offset := some ((n - 1) * size) } := by
  have hnumber : ¬ n < 1 := Int.not_lt.2 hn
  have hoffset : ¬ (n - 1) * size < 0 :=
    Int.not_lt.2 (Int.mul_nonneg (Int.sub_nonneg_of_le hn) (Int.le_trans (by decide) hsize))
  simp [pagingErrors, hnumber, hoffset]

/-! ## Selections without complaint -/

/-- A column may be selected: the count only if the rows must be different, and no list then. -/
structure Selectable (distinct : Bool) (c : ColumnDef) : Prop where
  count : c.isData = false → distinct = true
  noList : distinct = true → c.type.isList = false

theorem columnComplaint?_eq_none {before : List ColumnDef} {c : ColumnDef} :
    columnComplaint? distinct before c = none ↔ (∀ k ∈ before, k.name ≠ c.name) ∧ Selectable distinct c := by
  have hbefore : before.any (·.name == c.name) = false ↔ ∀ k ∈ before, k.name ≠ c.name := by simp
  rw [← hbefore, columnComplaint?]
  cases before.any (·.name == c.name) with
  | true => simp
  | false =>
    have hselectable : Selectable distinct c ↔
        (c.isData = false → distinct = true) ∧ (distinct = true → c.type.isList = false) :=
      ⟨fun h => ⟨h.count, h.noList⟩, fun h => ⟨h.1, h.2⟩⟩
    rw [hselectable]
    cases c.isData <;> cases distinct <;> cases c.type.isList <;> simp

/-- Columns that are selected by their names after others, each without complaint. -/
inductive Selects (config : EntityConfig) (distinct : Bool) : List ColumnDef → List String → List ColumnDef → Prop
  | nil (before : List ColumnDef) : Selects config distinct before [] before
  | cons {before after : List ColumnDef} {name : String} {names : List String} {c : ColumnDef} :
      config.column? name = some c → columnComplaint? distinct before c = none →
        Selects config distinct (before ++ [c]) names after → Selects config distinct before (name :: names) after

/-- One more column is selected without complaint, or there is something wrong. -/
theorem Selection.add_cases (config : EntityConfig) (distinct : Bool) (s : Selection) (entry : String × Nat) :
    (∃ c, config.column? entry.1 = some c ∧ columnComplaint? distinct s.columns c = none ∧
      s.add config distinct entry = { s with columns := s.columns ++ [c] }) ∨
    (s.add config distinct entry).errors ≠ [] := by
  unfold Selection.add
  dsimp only
  split
  · exact Or.inr (by simp)
  next c hc =>
    split
    · exact Or.inr (by simp)
    next hnone => exact Or.inl ⟨c, hc, hnone, rfl⟩

/-- Where nothing is wrong in the end, everything is selected without complaint. -/
theorem selects_of_foldl {entries : List (String × Nat)} {s : Selection}
    (h : (entries.foldl (Selection.add config distinct) s).errors = []) :
    s.errors = [] ∧ Selects config distinct s.columns (entries.map (·.1))
      (entries.foldl (Selection.add config distinct) s).columns := by
  induction entries generalizing s with
  | nil => exact ⟨h, .nil s.columns⟩
  | cons entry entries ih =>
    rw [List.foldl_cons] at h ⊢
    obtain ⟨hnone, hselects⟩ := ih h
    rcases Selection.add_cases config distinct s entry with ⟨c, hc, hfine, hadd⟩ | hwrong
    · rw [hadd] at hnone hselects
      rw [hadd]
      exact ⟨hnone, .cons hc hfine hselects⟩
    · exact absurd hnone hwrong

/-- What is selected without complaint is the selection of the names. -/
theorem foldl_of_selects {names : List String} {before after : List ColumnDef}
    (h : Selects config distinct before names after) : ∀ (entries : List (String × Nat)) (s : Selection),
      entries.map (·.1) = names → s.columns = before →
        entries.foldl (Selection.add config distinct) s = { s with columns := after } := by
  induction h with
  | nil before =>
    rintro entries s hnames rfl
    rw [List.map_eq_nil_iff.1 hnames]
    rfl
  | @cons before after name names c hc hfine _ ih =>
    rintro entries s hnames rfl
    obtain ⟨entry, entries, rfl, rfl, rfl⟩ := List.map_eq_cons_iff.1 hnames
    have hadd : s.add config distinct entry = { s with columns := s.columns ++ [c] } := by
      unfold Selection.add
      simp only [hc, hfine]
    rw [List.foldl_cons, hadd]
    exact ih entries { s with columns := s.columns ++ [c] } rfl rfl

theorem selects_ofNames {names : List String} (h : (Selection.ofNames config distinct names).errors = []) :
    Selects config distinct [] names (Selection.ofNames config distinct names).columns := by
  have hselects := (selects_of_foldl h).2
  rwa [List.zipIdx_map_fst] at hselects

theorem ofNames_of_selects {names : List String} {after : List ColumnDef}
    (h : Selects config distinct [] names after) : Selection.ofNames config distinct names = { columns := after } :=
  foldl_of_selects h names.zipIdx {} (List.zipIdx_map_fst ..) rfl

/-! ## Orders without complaint -/

/-- Rows may be sorted by a column: by the count only if the rows must be different, by data that can be sorted, and
only by what is selected if the rows must be different. -/
structure Sortable (distinct : Bool) (selected : List ColumnDef) (c : ColumnDef) : Prop where
  count : c.isData = false → distinct = true
  kind : c.isData = true → c.type.kind.isSortable = true
  selected : distinct = true → ∃ k ∈ selected, k.name = c.name

theorem Sortable.isList {selected : List ColumnDef} {c : ColumnDef} (h : Sortable distinct selected c) :
    c.type.isList = false := by
  have hkind : ∀ k : Kind, k.isSortable = true → k.isList = false := by
    intro k hk
    cases k <;> simp_all [Kind.isSortable, Kind.isList]
  cases hcount : c.isData with
  | true => exact hkind _ (h.kind hcount)
  | false =>
    have htype : c.type = .plain .count := by simpa [ColumnDef.isData] using hcount
    rw [htype]
    rfl

theorem sortComplaint?_eq_none {selected : List ColumnDef} {c : ColumnDef} :
    sortComplaint? distinct selected c = none ↔ Sortable distinct selected c := by
  have hselected : selected.any (·.name == c.name) = true ↔ ∃ k ∈ selected, k.name = c.name := by simp
  have hsortable : Sortable distinct selected c ↔ (c.isData = false → distinct = true) ∧
      (c.isData = true → c.type.kind.isSortable = true) ∧
      (distinct = true → selected.any (·.name == c.name) = true) :=
    ⟨fun h => ⟨h.count, h.kind, fun hd => hselected.2 (h.selected hd)⟩,
      fun h => ⟨h.1, h.2.1, fun hd => hselected.1 (h.2.2 hd)⟩⟩
  rw [hsortable, sortComplaint?]
  cases c.isData <;> cases distinct <;> cases c.type.kind.isSortable <;> cases selected.any (·.name == c.name) <;> simp

/-- An entry is accepted iff rows may be sorted by the column that it names. -/
theorem checkSortItem_eq_ok {selected : List ColumnDef} {item : SortItem} {s : ColumnDef × Bool} :
    checkSortItem config distinct selected item = .ok s ↔
      config.column? item.column = some s.1 ∧ Sortable distinct selected s.1 ∧ s.2 = item.desc := by
  obtain ⟨c, desc⟩ := s
  rw [checkSortItem, Checked.under_eq_ok]
  cases config.column? item.column with
  | none => simp [Checked.fail]
  | some c' =>
    simp only [Option.some.injEq]
    cases hcomplaint : sortComplaint? distinct selected c' with
    | none =>
      rw [sortComplaint?_eq_none] at hcomplaint
      simp only [Except.ok.injEq, Prod.mk.injEq]
      constructor
      · rintro ⟨rfl, rfl⟩
        exact ⟨rfl, hcomplaint, rfl⟩
      · rintro ⟨rfl, -, rfl⟩
        exact ⟨rfl, rfl⟩
    | some complaint =>
      simp only [Checked.fail, reduceCtorEq, false_iff]
      rintro ⟨rfl, hsortable, -⟩
      rw [sortComplaint?_eq_none.2 hsortable] at hcomplaint
      cases hcomplaint

/-- **An order is accepted iff all its entries are.** -/
theorem checkSort_eq_ok {selected : List ColumnDef} {items : List SortItem} {sort : List (ColumnDef × Bool)} :
    checkSort config distinct selected items = .ok sort ↔
      List.Forall₂ (fun item s => config.column? item.column = some s.1 ∧ Sortable distinct selected s.1 ∧
        s.2 = item.desc) items sort := by
  rw [checkSort, Checked.under_eq_ok, Checked.numbered_eq_ok]
  induction items generalizing sort with
  | nil => cases sort <;> simp
  | cons item items ih =>
    cases sort with
    | nil => simp
    | cons s sort =>
      rw [List.map_cons, List.map_cons, List.cons.injEq, checkSortItem_eq_ok, ih, List.forall₂_cons]

end TableQuery.Request
