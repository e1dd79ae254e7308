import TableQuery.Proofs.Filter.Acceptance
import TableQuery.Request.Request

/-!
# What the check of requests lets through

A request that passes its check refers to columns of the configuration only, and its filter fits
(`Request.Accepted`, `Request.accepted_of_check`). `Request.check_eq_ok` has all that a successful check says.
-/

set_option autoImplicit false

namespace TableQuery.Request

variable {config : EntityConfig} {maxPageSize : Json} {d : DataRequest} {r : Request}

/-- A request that fits a configuration. -/
structure Accepted (config : EntityConfig) (r : Request) : Prop where
  select : ∀ c ∈ r.select, c ∈ config.columns
  filter : FilterNode.Accepted config r.filter
  sort : ∀ p ∈ r.sort, p.1 ∈ config.columns

/-- What holds of every column that may be selected holds of what is selected. -/
theorem selection_induct {P : ColumnDef → Prop} {distinct : Bool} {names : List String}
    (h : ∀ before, ∀ c ∈ config.columns, columnComplaint? distinct before c = none → P c) :
    ∀ c ∈ (Selection.ofNames config distinct names).columns, P c := by
  have hadd : ∀ (s : Selection) (entry : String × Nat), (∀ c ∈ s.columns, P c) →
      ∀ c ∈ (s.add config distinct entry).columns, P c := by
    intro s entry hs
    unfold Selection.add
    dsimp only
    split
    · exact hs
    next c hc =>
      split
      · exact hs
      next hnone =>
        intro c' hc'
        rcases List.mem_append.1 hc' with hc' | hc'
        · exact hs c' hc'
        · rw [List.mem_singleton.1 hc']
          exact h s.columns c (FilterNode.column?_mem hc) hnone
  have hfold : ∀ (entries : List (String × Nat)) (s : Selection), (∀ c ∈ s.columns, P c) →
      ∀ c ∈ (entries.foldl (Selection.add config distinct) s).columns, P c := by
    intro entries
    induction entries with
    | nil => exact fun s hs => hs
    | cons entry entries ih => exact fun s hs => ih _ (hadd s entry hs)
  exact hfold _ {} (by simp)

theorem mem_columns_of_selection {distinct : Bool} {names : List String} :
    ∀ c ∈ (Selection.ofNames config distinct names).columns, c ∈ config.columns :=
  selection_induct fun _ _ hc _ => hc

theorem isData_of_selection {names : List String} :
    ∀ c ∈ (Selection.ofNames config false names).columns, c.isData = true := by
  refine selection_induct fun before c _ hnone => ?_
  unfold columnComplaint? at hnone
  split at hnone
  · cases hnone
  · simpa using hnone

/-- A request is sorted by columns of the configuration. -/
theorem mem_columns_of_sort {distinct : Bool} {selected : List ColumnDef} {items : List SortItem}
    {sort : List (ColumnDef × Bool)} (h : checkSort config distinct selected items = .ok sort) :
    ∀ p ∈ sort, p.1 ∈ config.columns := by
  intro p hp
  rw [checkSort, Checked.under_eq_ok, Checked.numbered_eq_ok] at h
  have hmem : (Except.ok p : Checked (ColumnDef × Bool)) ∈ items.map (checkSortItem config distinct selected) :=
    h ▸ List.mem_map_of_mem hp
  obtain ⟨item, -, hitem⟩ := List.mem_map.1 hmem
  rw [checkSortItem, Checked.under_eq_ok] at hitem
  split at hitem
  · cases hitem
  next c hc =>
    split at hitem
    · cases hitem
    · cases hitem
      exact FilterNode.column?_mem hc

theorem conclude_of_told {α : Type} (found : Option α) {told : List FieldError} (h : told ≠ []) :
    Reporting.conclude found told = .error told := by
  unfold Reporting.conclude
  split
  · exact absurd rfl h
  · rfl

/-- What is concluded from what has been found and told is what the checks of the parts give together. -/
theorem conclude_eq_both {α β γ : Type} {a : Checked α} {b : Checked β} {found : Option β} (hb : b.Explained)
    (hfound : ∀ y, b = .ok y → found = some y) (own between : List FieldError) (make : α → β → γ) :
    Reporting.conclude (do return make (← a.toOption) (← found)) (own ++ a.errors ++ between ++ b.errors) =
      ((a.both (b.after between)).after own).map fun p => make p.1 p.2 := by
  cases b with
  | ok y =>
    rw [hfound y rfl]
    cases a <;> cases own <;> cases between <;>
      simp [Reporting.conclude, Except.toOption, Checked.errors, Checked.after, Checked.both, Except.map]
  | error es =>
    have hes : es ≠ [] := hb es rfl
    rw [conclude_of_told _ (by simp [Checked.errors, hes])]
    cases a <;> simp [Checked.errors, Checked.after, Checked.both, Except.map]

/-- **The check of a request puts together what its parts are checked as**, each by itself. -/
theorem check_eq (config : EntityConfig) (maxPageSize : Json) (d : DataRequest) :
    check config maxPageSize d = (do
      let selection := Selection.ofNames config d.distinct d.columns
      let sort := checkSort config d.distinct selection.columns d.sort
      let paging ← pagingErrors maxPageSize d.paging
      let filter ← FilterNode.ofJson config d.filter
      return ((sort.both ((filter.placed "filter").after paging)).after selection.errors).map fun (sort, filter) =>
        { select := selection.columns, filter, sort, size := d.paging.size, offset := d.paging.start,
          distinct := d.distinct }) := by
  unfold check
  dsimp only
  cases pagingErrors maxPageSize d.paging with
  | error fault => rfl
  | ok paging =>
    have hfinds := FilterNode.finds_readAt config d.filter "filter"
    cases hfilter : FilterNode.ofJson config d.filter with
    | error fault =>
      rw [hfilter] at hfinds
      simp only [bind, Except.bind]
      rw [hfinds]
    | ok filter =>
      rw [hfilter] at hfinds
      obtain ⟨found, hrun, hfound⟩ := hfinds
      simp only [bind, Except.bind]
      rw [hrun, ← Checked.errors_placed]
      have hexplained := (FilterNode.explained_ofJson hfilter).placed "filter"
      exact congrArg Except.ok <| conclude_eq_both hexplained (fun f hf => hfound f (Checked.placed_eq_ok.1 hf)) _ _ _

/-- **A request passes its check iff all its parts do.** -/
theorem check_eq_ok : check config maxPageSize d = .ok (.ok r) ↔
    (Selection.ofNames config d.distinct d.columns).errors = [] ∧ pagingErrors maxPageSize d.paging = .ok [] ∧
      ∃ sort f,
        checkSort config d.distinct (Selection.ofNames config d.distinct d.columns).columns d.sort = .ok sort ∧
        FilterNode.ofJson config d.filter = .ok (.ok f) ∧
        r = { select := (Selection.ofNames config d.distinct d.columns).columns, filter := f, sort,
              size := d.paging.size, offset := d.paging.start, distinct := d.distinct } := by
  simp only [check_eq, bind_eq_ok, pure, Except.pure, Except.ok.injEq, map_eq_ok, Checked.after_eq_ok,
    Checked.both_eq_ok, Checked.placed_eq_ok]
  constructor
  · rintro ⟨paging, hpaging, c, hfilter, ⟨sort, f⟩, ⟨herrors, hsort, rfl, rfl⟩, rfl⟩
    exact ⟨herrors, hpaging, sort, f, hsort, hfilter, rfl⟩
  · rintro ⟨herrors, hpaging, sort, f, hsort, hfilter, rfl⟩
    exact ⟨[], hpaging, .ok f, hfilter, (sort, f), ⟨herrors, hsort, rfl, rfl⟩, rfl⟩

theorem distinct_of_check (h : check config maxPageSize d = .ok (.ok r)) : r.distinct = d.distinct := by
  obtain ⟨-, -, sort, f, -, -, rfl⟩ := check_eq_ok.1 h
  rfl

theorem isData_of_check (h : check config maxPageSize d = .ok (.ok r)) (hd : d.distinct = false) :
    ∀ c ∈ r.select, c.isData = true := by
  obtain ⟨-, -, sort, f, -, -, rfl⟩ := check_eq_ok.1 h
  rw [hd]
  exact isData_of_selection

/-- The request that a request of the right shape makes, if it passes its check. -/
def checked? (config : EntityConfig) (maxPageSize : Json) (d : DataRequest) : Option Request :=
  match check config maxPageSize d with
  | .ok (.ok r) => some r
  | _ => none

theorem checked?_eq_some : checked? config maxPageSize d = some r ↔ check config maxPageSize d = .ok (.ok r) := by
  unfold checked?
  split
  next h => simp [h]
  next hne =>
    constructor
    · intro h
      cases h
    · exact fun h => (hne _ h).elim

/-- A request of the right shape passes its check, with a result of which something can be decided. -/
theorem exists_check {P : Request → Prop} [DecidablePred P]
    (h : (checked? config maxPageSize d).any (fun r => decide (P r)) = true) :
    ∃ r, check config maxPageSize d = .ok (.ok r) ∧ P r := by
  obtain ⟨r, hr, hP⟩ := (Option.any_eq_true _ _).1 h
  exact ⟨r, checked?_eq_some.1 hr, of_decide_eq_true hP⟩

theorem ofJson_eq_ok {payload : Json} : ofJson config maxPageSize payload = .ok (.ok r) ↔
    ∃ d, DataRequest.read false payload = .ok d ∧ check config maxPageSize d = .ok (.ok r) := by
  rw [ofJson]
  cases DataRequest.read false payload with
  | error es => simp
  | ok d => simp

/-- A payload makes a request of which something can be decided. -/
theorem exists_ofJson {P : Request → Prop} [DecidablePred P] {payload : Json}
    (h : (match ofJson config maxPageSize payload with
      | .ok (.ok r) => decide (P r)
      | _ => false) = true) :
    ∃ r, ofJson config maxPageSize payload = .ok (.ok r) ∧ P r := by
  split at h
  next r hr => exact ⟨r, hr, of_decide_eq_true h⟩
  next => cases h

/-- **A request that passes its check fits the configuration.** -/
theorem accepted_of_check (h : check config maxPageSize d = .ok (.ok r)) : r.Accepted config := by
  obtain ⟨-, -, sort, f, hsort, hfilter, rfl⟩ := check_eq_ok.1 h
  exact ⟨mem_columns_of_selection, FilterNode.accepted_of_ofJson hfilter, mem_columns_of_sort hsort⟩

end TableQuery.Request
