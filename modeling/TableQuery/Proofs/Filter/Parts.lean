import TableQuery.Proofs.Filter.Inversion
import TableQuery.Proofs.Sql.Parts

/-!
# What holds of the clause of a filter

The clause of a filter is made of the clauses of its tests, its custom filters and its words. What holds of these,
and of their opposites, and passes on to conjunctions and disjunctions, holds of the whole clause
(`FilterNode.clause_induct`).
-/

set_option autoImplicit false

namespace TableQuery.FilterNode

open Sql (Clause)

/-! ## Parts -/

mutual

def customParams : FilterNode → List CustomParams
  | op _ fs _ => customParamsOfAll fs
  | custom _ p _ => [p]
  | _ => []

def customParamsOfAll : List FilterNode → List CustomParams
  | [] => []
  | f :: fs => customParams f ++ customParamsOfAll fs

end

mutual

def words : FilterNode → List String
  | op _ fs _ => wordsOfAll fs
  | global ws _ _ => ws
  | _ => []

def wordsOfAll : List FilterNode → List String
  | [] => []
  | f :: fs => words f ++ wordsOfAll fs

end

theorem customParams_op {all inverse : Bool} {fs : List FilterNode} {p : CustomParams} :
    p ∈ (op all fs inverse).customParams ↔ ∃ f ∈ fs, p ∈ f.customParams := by
  rw [customParams]
  induction fs with
  | nil => simp [customParamsOfAll]
  | cons f fs ih => simp [customParamsOfAll, ih]

theorem words_op {all inverse : Bool} {fs : List FilterNode} {w : String} :
    w ∈ (op all fs inverse).words ↔ ∃ f ∈ fs, w ∈ f.words := by
  rw [words]
  induction fs with
  | nil => simp [wordsOfAll]
  | cons f fs ih => simp [wordsOfAll, ih]

/-! ## Clauses -/

variable {P : Clause → Prop} {ws : List String} {cs : List ColumnDef}

/-- What holds of the clauses of words holds of that of a search for them. -/
theorem searchClause_induct (const : ∀ b, P (.const b)) (conj : ∀ cs, (∀ c ∈ cs, P c) → P (.conj cs))
    (disj : ∀ cs, (∀ c ∈ cs, P c) → P (.disj cs)) (word : ∀ c ∈ cs, ∀ w ∈ ws, P (wordClause w c)) :
    P (searchClause ws cs) := by
  unfold searchClause
  split
  · exact const true
  · split
    · exact const false
    · refine conj _ fun c hc => ?_
      obtain ⟨w, hw, rfl⟩ := List.mem_map.1 hc
      refine disj _ fun c hc => ?_
      obtain ⟨column, hcolumn, rfl⟩ := List.mem_map.1 hc
      exact word column hcolumn w hw

/-- What holds of the opposite clauses of words holds of the opposite of a search for them. -/
theorem inverseSearchClause_induct (const : ∀ b, P (.const b)) (conj : ∀ cs, (∀ c ∈ cs, P c) → P (.conj cs))
    (disj : ∀ cs, (∀ c ∈ cs, P c) → P (.disj cs)) (word : ∀ c ∈ cs, ∀ w ∈ ws, P (wordClause w c).negate) :
    P (inverseSearchClause ws cs) := by
  unfold inverseSearchClause
  split
  · exact const false
  · split
    · exact const true
    · refine disj _ fun c hc => ?_
      obtain ⟨w, hw, rfl⟩ := List.mem_map.1 hc
      refine conj _ fun c hc => ?_
      obtain ⟨column, hcolumn, rfl⟩ := List.mem_map.1 hc
      exact word column hcolumn w hw

/-- **What holds of the clause of an accepted filter, and of its opposite**: what holds of the clauses of the
tests, the custom filters and the words in it, and passes on to conjunctions and disjunctions. -/
theorem clause_induct {config : EntityConfig} {f : FilterNode} (h : Accepted config f)
    (const : ∀ b, P (.const b)) (conj : ∀ cs, (∀ c ∈ cs, P c) → P (.conj cs))
    (disj : ∀ cs, (∀ c ∈ cs, P c) → P (.disj cs))
    (column : ∀ c ∈ f.columns, c ∈ config.columns → ∀ (o : Operator) (a : Argument), ⟨c, o, a⟩ ∈ f.tests →
      a.Fits c.type o → P (o.clause c.type c.source a) ∧ P (o.inverseClause c.type c.source a))
    (custom : ∀ d ∈ config.customFilters, d.joins ⊆ f.joins → ∀ p ∈ f.customParams,
      P (d.compile p) ∧ P (d.compile p).negate)
    (word : ∀ c ∈ f.columns, ∀ w ∈ f.words, P (wordClause w c) ∧ P (wordClause w c).negate) :
    ∀ invert : Bool, P (f.clause invert) := by
  induction h with
  | const value => exact fun _ => const _
  | @op all fs inverse _ _ ih =>
    have hparts : ∀ (invert : Bool), ∀ c ∈ clauses invert fs, P c := by
      intro invert c hc
      rw [clauses_eq_map] at hc
      obtain ⟨f, hf, rfl⟩ := List.mem_map.1 hc
      have hcolumns : f.columns ⊆ (FilterNode.op all fs inverse).columns := by
        intro c hc
        rw [columns, mem_columnsOfAll]
        exact ⟨f, hf, hc⟩
      have hjoins : f.joins ⊆ (FilterNode.op all fs inverse).joins := by
        intro n hn
        rw [joins, mem_joinsOfAll]
        exact ⟨f, hf, hn⟩
      exact ih f hf (fun c hc hmem o a ht => column c (hcolumns hc) hmem o a (tests_op.2 ⟨f, hf, ht⟩))
        (fun d hd hd' p hp => custom d hd (List.Subset.trans hd' hjoins) p (customParams_op.2 ⟨f, hf, hp⟩))
        (fun c hc w hw => word c (hcolumns hc) w (words_op.2 ⟨f, hf, hw⟩)) invert
    intro invert
    rw [clause]
    split
    · exact conj _ (hparts _)
    · exact disj _ (hparts _)
  | @column c o a inverse hmem _ hfits =>
    intro invert
    obtain ⟨hclause, hinverse⟩ := column c (List.mem_singleton_self c) hmem o a (List.mem_singleton_self _) hfits
    rw [clause]
    split
    · exact hinverse
    · exact hclause
  | @custom d params inverse hmem =>
    intro invert
    obtain ⟨hclause, hopposite⟩ := custom d hmem (List.Subset.refl _) params (List.mem_singleton_self _)
    rw [clause]
    split
    · exact hopposite
    · exact hclause
  | global ws inverse =>
    intro invert
    rw [clause]
    split
    · exact inverseSearchClause_induct const conj disj fun c hc w hw => (word c hc w hw).2
    · exact searchClause_induct const conj disj fun c hc w hw => (word c hc w hw).1

end TableQuery.FilterNode
