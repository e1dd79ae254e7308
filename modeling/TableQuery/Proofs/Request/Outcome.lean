import TableQuery.Entity.Registry
import TableQuery.Proofs.Filter.Faults
import TableQuery.Proofs.Request.Acceptance

/-!
# What becomes of a request

A payload makes a request, or it is refused with complaints, of which there is at least one. The only other outcome is
the fault of a filter that misnames, which is not told as a complaint (`Request.ofJson_outcome`).
-/

set_option autoImplicit false

namespace TableQuery

open Checked (Explained)

/-! ## Requests -/

namespace Request

variable {config : EntityConfig} {maxPageSize : Int} {d : DataRequest}

theorem explained_checkSort (distinct : Bool) (selected : List ColumnDef) (sort : List SortItem) :
    (checkSort config distinct selected sort).Explained := by
  refine (Explained.numbered fun c hc => ?_).under _
  obtain ⟨item, -, rfl⟩ := List.mem_map.1 hc
  refine .under ?_ _
  split
  · exact .fail _
  · split
    · exact .fail _
    · exact .ok _

theorem exists_pagingErrors (p : Paging) : ∃ errors, pagingErrors (.int maxPageSize) p = .ok errors := by
  have hsize : ∃ fits, isPageSize (.int maxPageSize) p.size = .ok fits := by
    unfold isPageSize
    split
    · exact ⟨_, rfl⟩
    · exact ⟨_, rfl⟩
  obtain ⟨fits, hfits⟩ := hsize
  rw [pagingErrors, hfits]
  exact ⟨_, rfl⟩

theorem check_eq_error {fault : Fault} :
    check config (.int maxPageSize) d = .error fault ↔ fault = .wrongKind ∧ d.filter.Misnames := by
  obtain ⟨errors, herrors⟩ := @exists_pagingErrors maxPageSize d.paging
  simp only [check_eq, herrors, bind_eq_error, FilterNode.ofJson_eq_error, reduceCtorEq, Except.ok.injEq, false_or,
    exists_eq_left', pure, Except.pure, and_false, exists_false, or_false]

theorem explained_check {maxPageSize : Json} {c : Checked Request} (h : check config maxPageSize d = .ok c) :
    c.Explained := by
  rw [check_eq] at h
  obtain ⟨paging, -, h⟩ := bind_eq_ok.1 h
  obtain ⟨filter, hfilter, h⟩ := bind_eq_ok.1 h
  cases h
  have hsort := @explained_checkSort config d.distinct (Selection.ofNames config d.distinct d.columns).columns d.sort
  have hfilter := (FilterNode.explained_ofJson hfilter).placed "filter"
  exact ((hsort.both (hfilter.after paging)).after _).map _

/-- **What becomes of a payload.** It ends the reading exactly if it has the shape of a request whose filter
misnames, and with one fault only. Every other payload makes a request or is refused with at least one
complaint. -/
theorem ofJson_outcome (config : EntityConfig) (maxPageSize : Int) (payload : Json) :
    (∀ fault, ofJson config (.int maxPageSize) payload = .error fault ↔
      fault = .wrongKind ∧ ∃ d, DataRequest.read false payload = .ok d ∧ d.filter.Misnames) ∧
      ∀ c, ofJson config (.int maxPageSize) payload = .ok c →
        (∃ r, c = .ok r) ∨ ∃ errors, errors ≠ [] ∧ c = .error errors := by
  have hshape : (DataRequest.read false payload).Explained := DataRequest.explained_read payload
  have houtcome : ∀ c : Checked Request, c.Explained →
      (∃ r, c = .ok r) ∨ ∃ errors, errors ≠ [] ∧ c = .error errors := by
    intro c hc
    cases c with
    | ok r => exact Or.inl ⟨r, rfl⟩
    | error es => exact Or.inr ⟨es, hc es rfl, rfl⟩
  rw [ofJson]
  cases hread : DataRequest.read false payload with
  | error es =>
    refine ⟨fun fault => by simp, fun c hc => ?_⟩
    cases hc
    exact houtcome _ fun es' hes => hshape es' (hread.trans (congrArg Except.error (Except.error.inj hes)))
  | ok d =>
    refine ⟨fun fault => ?_, fun c hc => houtcome c (explained_check hc)⟩
    simp only [check_eq_error, Except.ok.injEq, exists_eq_left']

/-- A request for meetings with a list in the place of the type of its filter. -/
def listTyped : Json :=
  .obj [("columns", .arr [.obj [("column", .str "id"), ("type", .str "column")]]),
    ("filter", .obj [("type", .arr [])]),
    ("paging", .obj [("number", .int 1), ("size", .int 10)])]

/-- The request is neither made nor refused with complaints. -/
theorem not_outcome_listTyped :
    ¬ ((∃ r, ofJson Entity.meetings.config (.int 1000) listTyped = .ok (.ok r)) ∨
      ∃ errors, errors ≠ [] ∧ ofJson Entity.meetings.config (.int 1000) listTyped = .ok (.error errors)) := by
  have hfault : (match ofJson Entity.meetings.config (.int 1000) listTyped with
      | .error f => decide (f = .wrongKind)
      | .ok _ => false) = true := by decide +kernel
  rintro (⟨r, hr⟩ | ⟨errors, -, herrors⟩)
  · rw [hr] at hfault
    cases hfault
  · rw [herrors] at hfault
    cases hfault

end Request

end TableQuery
