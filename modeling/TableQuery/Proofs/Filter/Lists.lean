import TableQuery.Proofs.Entity.Registry
import TableQuery.Proofs.Filter.Parts
import TableQuery.Proofs.Sql.Lists
import TableQuery.Proofs.Sql.Members

/-!
# The lists that a filter looks at

The clause of a filter looks at the lists of its columns, of which it may pick members by their values, and at
those of its custom filters (`FilterNode.hasList_clause`). Where two stores have the same members in these lists,
they have the same in all lists of the clause, or of its opposite (`FilterNode.sameLists_clause`).
-/

set_option autoImplicit false

namespace TableQuery

open Sql (Clause Condition Env Members Ref SameLists Scalar Source Store Value)

/-! ## Conditions on a single column -/

/-- The condition is about the value of a column and nothing else. -/
def Sql.Condition.IsOn (r : Ref) (c : Condition) : Prop :=
  ∃ p : Value → Bool, ∀ env : Env, (c.truth env == some true) = p (env.read r)

theorem Sql.Condition.isOn_equals (r : Ref) (v : Operand) : (Condition.equals r v).IsOn r := by
  cases v with
  | null => exact ⟨fun x => some (x == .null) == some true, fun env => rfl⟩
  | bool _ | int _ | real _ | text _ | date _ | moment _ | structured =>
    exact ⟨fun x => Sql.compareTruth .eq x (.ofOperand _) == some true, fun env => rfl⟩

theorem Sql.Condition.isOn_among (r : Ref) (vs : List Operand) (n : Bool) : (Condition.among r vs n).IsOn r :=
  ⟨fun x => Sql.amongTruth x vs n == some true, fun _ => rfl⟩

/-- A list is the given one, or has those of its members that satisfy a condition on their values. -/
def Sql.Members.Picks (m m' : Members) : Prop :=
  m' = m ∨ ∃ c : Condition, c.IsOn m.value ∧ m' = m.where_ c

/-- What is picked from the same members is the same. -/
theorem Sql.Members.Picks.values_eq {m m' : Members} (h : m.Picks m') (hm : m.value.source = m.table.name)
    {store store' : Store} {env : Env} (hsame : m.values store env = m.values store' env) :
    m'.values store env = m'.values store' env := by
  rcases h with rfl | ⟨c, ⟨p, hp⟩, rfl⟩
  · exact hsame
  · rw [Members.values_where store env hm hp, Members.values_where store' env hm hp, hsame]

/-! ## Operators -/

namespace ColumnType

variable {t : ColumnType} {s : Scalar}

theorem lists_equalityTerm : (t.equalityTerm s).lists = s.lists := by
  unfold equalityTerm
  split <;> rfl

theorem lists_textTerm : (t.textTerm s).lists = s.lists := by
  unfold textTerm
  split <;> rfl

end ColumnType

namespace Operator

variable {o : Operator} {t : ColumnType} {a : Argument}

theorem lists_valueClause {s : Scalar} : (o.valueClause t s a).lists = s.lists := by
  cases a with
  | nothing => rfl
  | many vs => exact ColumnType.lists_equalityTerm
  | one v =>
    rw [valueClause]
    split
    · unfold textClause
      split <;> exact ColumnType.lists_textTerm
    · split
      · split
        · rfl
        · exact ColumnType.lists_equalityTerm
      · rfl

theorem lists_onlyMembers {m m' : Members} {vs : List Operand} (h : m' ∈ (onlyMembers m vs).lists) :
    m.Picks m' := by
  rw [onlyMembers, Clause.lists_negate, Clause.lists, List.mem_singleton] at h
  exact Or.inr ⟨_, Condition.isOn_among _ _ _, h⟩

theorem lists_allMembers {m m' : Members} {vs : List Operand} (h : m' ∈ (allMembers m vs).lists) : m.Picks m' := by
  rw [allMembers, Clause.lists, List.mem_singleton] at h
  exact Or.inr ⟨_, Condition.isOn_among _ _ _, h⟩

theorem lists_membersClause {m m' : Members} (h : m' ∈ (o.membersClause m a).lists) : m.Picks m' := by
  cases a with
  | nothing =>
    rw [membersClause, Clause.lists_negate, Clause.lists, List.mem_singleton] at h
    exact Or.inl h
  | one v =>
    rw [membersClause, Clause.lists, List.mem_singleton] at h
    exact Or.inr ⟨_, Condition.isOn_equals _ _, h⟩
  | many vs =>
    unfold membersClause at h
    dsimp only at h
    split at h
    · rw [Clause.lists, List.mem_singleton] at h
      exact Or.inr ⟨_, Condition.isOn_among _ _ _, h⟩
    · exact lists_allMembers h
    · exact lists_onlyMembers h
    · obtain ⟨c, hc, hm⟩ := Clause.mem_lists_conj h
      simp only [List.mem_cons, List.not_mem_nil, or_false] at hc
      rcases hc with rfl | rfl
      · exact lists_onlyMembers hm
      · exact lists_allMembers hm

theorem lists_clause {source : Source} {m' : Members} (h : m' ∈ (o.clause t source a).lists) :
    ∃ m ∈ source.scalar.lists, m.Picks m' := by
  cases source with
  | value s =>
    rw [clause, lists_valueClause] at h
    exact ⟨m', h, Or.inl rfl⟩
  | members m => exact ⟨m, List.mem_singleton_self m, lists_membersClause h⟩

theorem lists_inverseClause {source : Source} {m' : Members} (h : m' ∈ (o.inverseClause t source a).lists) :
    ∃ m ∈ source.scalar.lists, m.Picks m' := by
  have hopposite : m' ∈ (o.clause t source a).negate.lists → ∃ m ∈ source.scalar.lists, m.Picks m' := fun h =>
    lists_clause (Clause.lists_negate _ ▸ h)
  cases source with
  | members m => exact hopposite h
  | value s =>
    rw [inverseClause] at h
    split at h
    · obtain ⟨c, hc, hm⟩ := Clause.mem_lists_disj h
      rcases List.mem_cons.1 hc with rfl | hc
      · exact hopposite hm
      · rw [List.mem_singleton.1 hc] at hm
        exact ⟨m', hm, Or.inl rfl⟩
    · exact hopposite h

section Rows

variable {store store' : Store} {env : Env} {source : Source}

theorem sameLists_clause (hsuits : source.suits t = true) (h : SameLists store store' env source.scalar.lists) :
    SameLists store store' env (o.clause t source a).lists := by
  intro m hm
  cases source with
  | value s =>
    rw [clause, lists_valueClause] at hm
    exact h m hm
  | members list =>
    simp only [Source.suits, Bool.and_eq_true, beq_iff_eq] at hsuits
    exact (lists_membersClause hm).values_eq hsuits.2 (h list (List.mem_singleton_self list))

theorem sameLists_inverseClause (hsuits : source.suits t = true)
    (h : SameLists store store' env source.scalar.lists) :
    SameLists store store' env (o.inverseClause t source a).lists := by
  have hopposite : SameLists store store' env (o.clause t source a).negate.lists := by
    rw [Clause.lists_negate]
    exact sameLists_clause hsuits h
  cases source with
  | members list => exact hopposite
  | value s =>
    rw [inverseClause]
    split
    · intro m hm
      obtain ⟨c, hc, hm⟩ := Clause.mem_lists_disj hm
      simp only [List.mem_cons, List.not_mem_nil, or_false] at hc
      rcases hc with rfl | rfl
      · exact hopposite m hm
      · exact h m hm
    · exact hopposite

end Rows

end Operator

/-! ## Filters -/

theorem MemberSearch.lists_clause (s : MemberSearch) (p : CustomParams) :
    ∃ cs, (s.clause p).lists = [{ s.rows with criteria := s.rows.criteria ++ cs }] := by
  rw [clause, Clause.lists]
  cases p.kind with
  | none => exact ⟨_, rfl⟩
  | some k =>
    refine ⟨[.among s.member (p.wanted.map .text) false, .equals s.memberKind (.text k)], ?_⟩
    simp only [Members.where_, List.append_assoc, List.cons_append, List.nil_append]

namespace FilterNode

/-- A list is that of a column of a filter or of a custom filter, with more criteria. -/
def HasList (config : EntityConfig) (f : FilterNode) (m' : Members) : Prop :=
  ∃ m, ((∃ c ∈ f.columns, m ∈ c.scalar.lists) ∨ ∃ d ∈ config.customFilters, m = d.rows) ∧
    ∃ cs, m' = { m with criteria := m.criteria ++ cs }

theorem HasList.of_picks {config : EntityConfig} {f : FilterNode} {c : ColumnDef} {m m' : Members}
    (hc : c ∈ f.columns) (hm : m ∈ c.scalar.lists) (h : m.Picks m') : HasList config f m' := by
  refine ⟨m, Or.inl ⟨c, hc, hm⟩, ?_⟩
  rcases h with rfl | ⟨c, -, rfl⟩
  · exact ⟨[], by rw [List.append_nil]⟩
  · exact ⟨[c], rfl⟩

/-- **The clause of a filter looks at lists of the filter only.** -/
theorem hasList_clause {config : EntityConfig} {f : FilterNode} (h : Accepted config f)
    (hsearch : ∀ d ∈ config.customFilters, d.isSearch = true) :
    ∀ invert : Bool, ∀ m ∈ (f.clause invert).lists, HasList config f m := by
  refine clause_induct (P := fun c => ∀ m ∈ c.lists, HasList config f m) h (fun _ => nofun) ?_ ?_ ?_ ?_ ?_
  · intro cs hcs m hm
    obtain ⟨c, hc, hm⟩ := Clause.mem_lists_conj hm
    exact hcs c hc m hm
  · intro cs hcs m hm
    obtain ⟨c, hc, hm⟩ := Clause.mem_lists_disj hm
    exact hcs c hc m hm
  · intro c hc _ o a _ _
    constructor <;> intro m hm
    · obtain ⟨m₀, hmem, hpicks⟩ := Operator.lists_clause hm
      exact .of_picks hc hmem hpicks
    · obtain ⟨m₀, hmem, hpicks⟩ := Operator.lists_inverseClause hm
      exact .of_picks hc hmem hpicks
  · intro d hd _ p _
    obtain ⟨cs, hlists⟩ := d.lists_clause p
    rw [Clause.lists_negate, CustomFilterDef.compile_of_isSearch (hsearch d hd), hlists]
    have hrows : HasList config f { d.rows with criteria := d.rows.criteria ++ cs } :=
      ⟨d.rows, Or.inr ⟨d, hd, rfl⟩, cs, rfl⟩
    exact ⟨List.forall_mem_singleton.2 hrows, List.forall_mem_singleton.2 hrows⟩
  · intro c hc w _
    rw [Clause.lists_negate]
    have hcolumn : ∀ m ∈ c.scalar.lists, HasList config f m := fun m hm => .of_picks hc hm (Or.inl rfl)
    exact ⟨hcolumn, hcolumn⟩

/-- **Stores with the same members in the lists of a filter have the same in those of its clause.** -/
theorem sameLists_clause {config : EntityConfig} {f : FilterNode} {store store' : Store} {env : Env}
    (h : Accepted config f) (hsuits : ∀ c ∈ config.columns, c.source.suits c.type = true)
    (hcolumns : ∀ c ∈ f.columns, SameLists store store' env c.scalar.lists)
    (hcustom : ∀ d ∈ config.customFilters, d.isSearch = true ∧ ∀ cs,
      SameLists store store' env [{ d.rows with criteria := d.rows.criteria ++ cs }]) :
    ∀ invert : Bool, SameLists store store' env (f.clause invert).lists := by
  refine clause_induct (P := fun c => SameLists store store' env c.lists) h (fun _ => nofun) ?_ ?_ ?_ ?_ ?_
  · intro cs hcs m hm
    obtain ⟨c, hc, hm⟩ := Clause.mem_lists_conj hm
    exact hcs c hc m hm
  · intro cs hcs m hm
    obtain ⟨c, hc, hm⟩ := Clause.mem_lists_disj hm
    exact hcs c hc m hm
  · intro c hc hmem o a _ _
    exact ⟨Operator.sameLists_clause (hsuits c hmem) (hcolumns c hc),
      Operator.sameLists_inverseClause (hsuits c hmem) (hcolumns c hc)⟩
  · intro d hd _ p _
    obtain ⟨hsearch, hrows⟩ := hcustom d hd
    obtain ⟨cs, hlists⟩ := d.lists_clause p
    rw [Clause.lists_negate, CustomFilterDef.compile_of_isSearch hsearch, hlists]
    exact ⟨hrows cs, hrows cs⟩
  · intro c hc w _
    rw [Clause.lists_negate]
    exact ⟨hcolumns c hc, hcolumns c hc⟩

end FilterNode

end TableQuery
