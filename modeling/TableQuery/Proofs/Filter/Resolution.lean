import TableQuery.Proofs.Filter.Parts
import TableQuery.Proofs.Store.Scope

/-!
# Filters name columns in scope

An operator asks nothing of a column that the column does not name itself, apart from the values of its members.
So the clause of an accepted filter is in scope where its columns and the lists of its custom filters are
(`FilterNode.resolves_clause`).
-/

set_option autoImplicit false

namespace TableQuery

open Sql (Clause Condition Members Ref Scalar Scope Source)

/-! ## Operators -/

namespace ColumnType

variable {t : ColumnType} {s : Scalar} {scope : Scope}

theorem resolves_equalityTerm : (t.equalityTerm s).resolves scope = s.resolves scope := by
  unfold equalityTerm
  split <;> rfl

theorem resolves_textTerm : (t.textTerm s).resolves scope = s.resolves scope := by
  unfold textTerm
  split <;> rfl

end ColumnType

namespace Operator

variable {o : Operator} {t : ColumnType} {a : Argument} {scope : Scope}

theorem resolves_valueClause {s : Scalar} : (o.valueClause t s a).resolves scope = s.resolves scope := by
  cases a with
  | nothing => rfl
  | many vs => exact ColumnType.resolves_equalityTerm
  | one v =>
    rw [valueClause]
    split
    · unfold textClause
      split <;> exact ColumnType.resolves_textTerm
    · split
      · split
        · rfl
        · exact ColumnType.resolves_equalityTerm
      · rfl

section Members

variable {m : Members} (hm : m.isHeld = true) (hparent : scope.has m.parent = true)

include hm hparent

theorem resolves_where {c : Condition} (hc : c.refs = [m.value]) : (m.where_ c).resolves scope = true :=
  Members.resolves_of_isHeld (Members.isHeld_where_value hm hc) hparent

theorem resolves_membersClause : (o.membersClause m a).resolves scope = true := by
  have honly : ∀ vs, (onlyMembers m vs).resolves scope = true := by
    intro vs
    rw [onlyMembers, Clause.resolves_negate]
    exact resolves_where hm hparent rfl
  have hall : ∀ vs, (allMembers m vs).resolves scope = true := fun vs => resolves_where hm hparent rfl
  cases a with
  | nothing => exact Members.resolves_of_isHeld hm hparent
  | one v => exact resolves_where hm hparent rfl
  | many vs =>
    unfold membersClause
    dsimp only
    split
    · exact resolves_where hm hparent rfl
    · exact hall vs
    · exact honly vs
    · exact Clause.resolves_conj (List.forall_mem_cons.2 ⟨honly vs, List.forall_mem_singleton.2 (hall vs)⟩)

end Members

variable {source : Source} (hrefs : ∀ r ∈ source.scalar.refs, scope.has r = true)
  (hlists : ∀ m ∈ source.scalar.lists, m.isHeld = true)

include hrefs hlists

/-- **What an operator asks of a column in scope is in scope.** -/
theorem resolves_clause : (o.clause t source a).resolves scope = true := by
  cases source with
  | value s => exact resolves_valueClause.trans (Scalar.resolves_of_refs hrefs hlists)
  | members m =>
    exact resolves_membersClause (hlists m (List.mem_singleton_self m)) (hrefs _ (List.mem_singleton_self _))

theorem resolves_inverseClause : (o.inverseClause t source a).resolves scope = true := by
  have hopposite : (o.clause t source a).negate.resolves scope = true := by
    rw [Clause.resolves_negate]
    exact resolves_clause hrefs hlists
  cases source with
  | members m => exact hopposite
  | value s =>
    rw [inverseClause]
    split
    · refine Clause.resolves_disj (List.forall_mem_cons.2 ⟨hopposite, List.forall_mem_singleton.2 ?_⟩)
      exact Scalar.resolves_of_refs hrefs hlists
    · exact hopposite

end Operator

/-! ## Filters -/

/-- The table of a search has what the search looks at. -/
def MemberSearch.isHeld (s : MemberSearch) : Bool :=
  s.rows.isHeld && Scope.has [s.rows.table] s.member && Scope.has [s.rows.table] s.memberKind

theorem MemberSearch.resolves_clause {s : MemberSearch} {scope : Scope} (h : s.isHeld = true)
    (hparent : scope.has s.rows.parent = true) (p : CustomParams) : (s.clause p).resolves scope = true := by
  rw [isHeld, Bool.and_eq_true, Bool.and_eq_true] at h
  obtain ⟨⟨hrows, hmember⟩, hkind⟩ := h
  have hfound : (s.rows.where_ (.among s.member (p.wanted.map .text) false)).isHeld = true :=
    Members.isHeld_where hrows (List.forall_mem_singleton.2 hmember)
  rw [clause, Clause.resolves]
  cases p.kind with
  | none => exact Members.resolves_of_isHeld hfound hparent
  | some k =>
    have hboth := Members.isHeld_where (c := .equals s.memberKind (.text k)) hfound (List.forall_mem_singleton.2 hkind)
    exact Members.resolves_of_isHeld hboth hparent

namespace FilterNode

/-- **The clause of a filter is in scope if its columns and custom filters are.** -/
theorem resolves_clause {config : EntityConfig} {f : FilterNode} {scope : Scope} (h : Accepted config f)
    (hrefs : ∀ c ∈ f.columns, ∀ r ∈ c.scalar.refs, scope.has r = true)
    (hlists : ∀ c ∈ config.columns, ∀ m ∈ c.scalar.lists, m.isHeld = true)
    (hcustom : ∀ d ∈ config.customFilters, d.joins ⊆ f.joins →
      d.isSearch = true ∧ d.isHeld = true ∧ scope.has d.rows.parent = true) :
    ∀ invert : Bool, (f.clause invert).resolves scope = true := by
  refine clause_induct (P := fun c => c.resolves scope = true) h (fun _ => rfl) (fun _ => Clause.resolves_conj)
    (fun _ => Clause.resolves_disj) ?_ ?_ ?_
  · intro c hc hmem o a _ _
    exact ⟨Operator.resolves_clause (hrefs c hc) (hlists c hmem),
      Operator.resolves_inverseClause (hrefs c hc) (hlists c hmem)⟩
  · intro d hd hjoins p _
    obtain ⟨hsearch, hheld, hparent⟩ := hcustom d hd hjoins
    rw [Clause.resolves_negate, CustomFilterDef.compile_of_isSearch hsearch]
    exact ⟨d.resolves_clause hheld hparent p, d.resolves_clause hheld hparent p⟩
  · intro c hc w _
    rw [Clause.resolves_negate]
    have hscalar := Scalar.resolves_of_refs (hrefs c hc) (hlists c (h.mem_columns c hc))
    exact ⟨hscalar, hscalar⟩

end FilterNode

end TableQuery
