import TableQuery.Proofs.Entity.Registry
import TableQuery.Proofs.Request.Parts
import TableQuery.Proofs.Request.Totals

/-!
# Requests without the count

A distinct request that passes its check still passes it without `distinct`, once the count is left out of its
columns and of its sort (`Request.check_withoutCount`). It goes through the same rows then, because the count is read
from no table (`Request.rowsIn_withoutCount`).
-/

set_option autoImplicit false

namespace TableQuery

open Sql (Store)

theorem Entity.counts_of_mem : ∀ e ∈ Entity.all, ∀ c ∈ e.config.columns,
    (c.isData = false ↔ c.name = countColumn) ∧ (c.isData = false → c.join = none) := by
  decide +kernel

def DataRequest.withoutCount (d : DataRequest) : DataRequest :=
  { d with
    columns := d.columns.filter (· != countColumn), sort := d.sort.filter (·.column != countColumn), distinct := false }

namespace Request

def withoutCount (r : Request) : Request :=
  { r with select := r.select.filter (·.isData), sort := r.sort.filter (·.1.isData), distinct := false }

variable {config : EntityConfig} {distinct : Bool} {maxPageSize : Json} {d : DataRequest} {r : Request}

/-! ## The count left out -/

section WithoutCount

variable (hcounts : ∀ c ∈ config.columns, c.isData = false ↔ c.name = countColumn)

include hcounts

theorem isData_of_column? {name : String} {c : ColumnDef} (hc : config.column? name = some c) :
    c.isData = (name != countColumn) := by
  have hname : c.name = name := by simpa using List.find?_some hc
  have hcount := hcounts c (FilterNode.column?_mem hc)
  rw [hname] at hcount
  rw [Bool.eq_iff_iff, bne_iff_ne, ne_eq, ← hcount, Bool.not_eq_false]

/-- **Without the count a selection has no complaint without `distinct`.** -/
theorem Selects.withoutCount {before after : List ColumnDef} {names : List String}
    (h : Selects config distinct before names after) :
    Selects config false (before.filter (·.isData)) (names.filter (· != countColumn)) (after.filter (·.isData)) := by
  induction h with
  | nil before => exact .nil _
  | @cons before after name names c hc hfine _ ih =>
    have hdata := isData_of_column? hcounts hc
    rw [List.filter_append] at ih
    by_cases hname : name = countColumn
    · have hcount : c.isData = false := by rw [hdata, hname, bne_self_eq_false]
      rw [List.filter_cons_of_neg (by simp [hname])]
      rwa [List.filter_cons_of_neg (by simp [hcount]), List.filter_nil, List.append_nil] at ih
    · have hcolumn : c.isData = true := by rw [hdata, bne_iff_ne]; exact hname
      rw [List.filter_cons_of_pos (by simp [hname])]
      rw [List.filter_cons_of_pos hcolumn, List.filter_nil] at ih
      refine .cons hc ?_ ih
      -- The name has not been selected before, and the other complaints are about the count or about `distinct`.
      have hnew : (before.filter (·.isData)).any (·.name == c.name) = false := by
        have hbefore : before.any (·.name == c.name) = false := by
          unfold columnComplaint? at hfine
          split at hfine
          · cases hfine
          next hany => exact Bool.eq_false_iff.2 hany
        rw [List.any_eq_false] at hbefore ⊢
        exact fun k hk => hbefore k (List.mem_filter.1 hk).1
      simp [columnComplaint?, hnew, hcolumn]

omit hcounts in
theorem sortComplaint?_withoutCount {selected selected' : List ColumnDef} {c : ColumnDef} (hdata : c.isData = true)
    (h : sortComplaint? distinct selected c = none) : sortComplaint? false selected' c = none := by
  unfold sortComplaint? at h ⊢
  simp only [hdata, Bool.not_true, Bool.false_and, Bool.true_and, Bool.false_eq_true, ↓reduceIte] at h ⊢
  split at h
  · cases h
  next hsortable => rw [if_neg hsortable]

/-- Without the count a sort has no complaint without `distinct`. -/
theorem checkSort_withoutCount {selected selected' : List ColumnDef} {items : List SortItem}
    {sort : List (ColumnDef × Bool)} (h : checkSort config distinct selected items = .ok sort) :
    checkSort config false selected' (items.filter (·.column != countColumn)) = .ok (sort.filter (·.1.isData)) := by
  rw [checkSort, Checked.under_eq_ok, Checked.numbered_eq_ok] at h ⊢
  induction items generalizing sort with
  | nil =>
    rw [List.map_nil, eq_comm, List.map_eq_nil_iff] at h
    rw [h]
    rfl
  | cons item items ih =>
    obtain ⟨p, sort, rfl, hitem, hrest⟩ := List.map_eq_cons_iff.1 h.symm
    have hitems := ih hrest.symm
    rw [eq_comm, checkSortItem, Checked.under_eq_ok] at hitem
    split at hitem
    · cases hitem
    next c hc =>
      have hdata := isData_of_column? hcounts hc
      split at hitem
      · cases hitem
      next hfine =>
        cases hitem
        by_cases hname : item.column = countColumn
        · have hcount : c.isData = false := by rw [hdata, hname, bne_self_eq_false]
          rwa [List.filter_cons_of_neg (by simp [hname]), List.filter_cons_of_neg (by simp [hcount])]
        · have hcolumn : c.isData = true := by rw [hdata, bne_iff_ne]; exact hname
          have hsorted : checkSortItem config false selected' item = .ok (c, item.desc) := by
            rw [checkSortItem, Checked.under_eq_ok]
            simp only [hc, sortComplaint?_withoutCount hcolumn hfine]
          have hkept : ((c, item.desc) :: sort).filter (·.1.isData) = (c, item.desc) :: sort.filter (·.1.isData) :=
            List.filter_cons_of_pos hcolumn
          rw [List.filter_cons_of_pos (by simp [hname]), hkept, List.map_cons, List.map_cons, hsorted, hitems]

/-- **A distinct request passes its check without the count as well.** -/
theorem check_withoutCount (h : check config maxPageSize d = .ok (.ok r)) :
    check config maxPageSize d.withoutCount = .ok (.ok r.withoutCount) := by
  obtain ⟨herrors, hpaging, sort, f, hsort, hfilter, rfl⟩ := check_eq_ok.1 h
  have hnames : Selection.ofNames config d.withoutCount.distinct d.withoutCount.columns =
      { columns := (Selection.ofNames config d.distinct d.columns).columns.filter (·.isData) } :=
    ofNames_of_selects ((selects_ofNames herrors).withoutCount hcounts)
  refine check_eq_ok.2 ⟨?_, hpaging, sort.filter (·.1.isData), f, checkSort_withoutCount hcounts hsort, hfilter, ?_⟩
  · rw [hnames]
  · rw [hnames]
    rfl

end WithoutCount

/-! ## The same rows -/

/-- Columns that need no join may be left out of those whose joins are made. -/
theorem filterMap_join_firstUses {cs : List ColumnDef} (hcs : ∀ c ∈ cs,
    (c.isData = false ↔ c.name = countColumn) ∧ (c.isData = false → c.join = none)) {seen seen' : List String}
    (hseen : ∀ n, n ≠ countColumn → (n ∈ seen ↔ n ∈ seen')) :
    (firstUses seen cs).filterMap (·.join) = (firstUses seen' (cs.filter (·.isData))).filterMap (·.join) := by
  induction cs generalizing seen seen' with
  | nil => rfl
  | cons c cs ih =>
    obtain ⟨⟨hcount, hjoin⟩, hcs⟩ := List.forall_mem_cons.1 hcs
    have hboth : ∀ n, n ≠ countColumn → (n ∈ c.name :: seen ↔ n ∈ c.name :: seen') := fun n hn => by
      rw [List.mem_cons, List.mem_cons, hseen n hn]
    rw [firstUses]
    by_cases hdata : c.isData = true
    · have hname : c.name ≠ countColumn := fun h => by rw [hcount.2 h] at hdata; cases hdata
      have hused : seen.contains c.name = seen'.contains c.name := by
        rw [Bool.eq_iff_iff, List.contains_iff_mem, List.contains_iff_mem]
        exact hseen c.name hname
      rw [List.filter_cons_of_pos hdata, firstUses, hused]
      split
      · exact ih hcs hseen
      · rw [List.filterMap_cons, List.filterMap_cons, ih hcs hboth]
    · have hnone : c.join = none := hjoin (Bool.eq_false_iff.2 hdata)
      rw [List.filter_cons_of_neg hdata]
      split
      · exact ih hcs hseen
      · rw [List.filterMap_cons_none hnone]
        refine ih hcs fun n hn => ?_
        have hother : n ≠ c.name := fun h => hn (h.trans (hcount.1 (Bool.eq_false_iff.2 hdata)))
        rw [List.mem_cons, or_iff_right hother, hseen n hn]

variable {e : Entity} {facility : Option String} {store : Store}

theorem neededJoins_withoutCount (he : e ∈ Entity.all) (hr : r.Accepted e.config) :
    r.withoutCount.neededJoins e.config = r.neededJoins e.config := by
  have hcounts := Entity.counts_of_mem e he
  have hcolumns : ∀ c ∈ r.select ++ r.filter.columns ++ r.sort.map (·.1), c ∈ e.config.columns := by
    refine List.forall_mem_append.2 ⟨List.forall_mem_append.2 ⟨hr.select, hr.filter.mem_columns⟩, ?_⟩
    exact List.forall_mem_map.2 hr.sort
  have hcolumns' : ∀ c ∈ r.withoutCount.select ++ r.withoutCount.filter.columns ++ r.withoutCount.sort.map (·.1),
      c ∈ e.config.columns := by
    refine fun c hc => hcolumns c ?_
    simp only [withoutCount, List.mem_append, List.mem_filter, List.mem_map] at hc ⊢
    rcases hc with (hc | hc) | ⟨p, hp, rfl⟩
    · exact Or.inl (Or.inl hc.1)
    · exact Or.inl (Or.inr hc)
    · exact Or.inr ⟨p, hp.1, rfl⟩
  have hdata : (r.withoutCount.select ++ r.withoutCount.filter.columns ++ r.withoutCount.sort.map (·.1)).filter
      (·.isData) = (r.select ++ r.filter.columns ++ r.sort.map (·.1)).filter (·.isData) := by
    simp only [withoutCount, List.filter_append, List.filter_filter, List.filter_map, Bool.and_self, Function.comp_def]
  have hnone : ∀ n : String, n ≠ countColumn → (n ∈ ([] : List String) ↔ n ∈ ([] : List String)) := fun _ _ => Iff.rfl
  rw [neededJoins, neededJoins, columns, columns,
    filterMap_join_firstUses (fun c hc => hcounts c (hcolumns' c hc)) hnone, hdata,
    ← filterMap_join_firstUses (fun c hc => hcounts c (hcolumns c hc)) hnone]
  rfl

/-- **The request without the count goes through the same rows.** -/
theorem rowsIn_withoutCount (he : e ∈ Entity.all) (hr : r.Accepted e.config) :
    r.withoutCount.rowsIn e facility store = r.rowsIn e facility store := by
  have hjoins : (r.withoutCount.planned e facility).joins = (r.planned e facility).joins := by
    rw [planned, planned, joinNames, joinNames, neededJoins_withoutCount he hr]
    rfl
  rw [← matching_eq_rowsIn, ← matching_eq_rowsIn]
  exact Sql.Query.matching_congr rfl hjoins rfl rfl rfl

end Request

end TableQuery
