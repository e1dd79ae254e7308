import TableQuery.Proofs.Filter.Parts
import TableQuery.Proofs.Filter.Tests
import TableQuery.Proofs.Sql.Patterns
import TableQuery.Proofs.Text.Halves

/-!
# What a filter binds

A filter binds the operands of its tests, the parameters of its custom filters and the words that it searches for
(`FilterNode.operands`), some of them as like patterns (`FilterNode.patterns`). If the store takes these, and the filter
has no regular expressions, it takes the clause of the filter (`FilterNode.isTaken_clause`).
-/

set_option autoImplicit false

namespace TableQuery

open Sql (Clause Condition Members Scalar Source)

/-! ## Clauses that the store takes -/

namespace Sql

/-- The operands in the criteria of a list fit the store. -/
def Members.fitsStore (m : Members) : Bool := m.criteria.all Condition.fitsStore

theorem Members.fitsStore_where {m : Members} {c : Condition} (hm : m.fitsStore = true) (hc : c.fitsStore = true) :
    (m.where_ c).fitsStore = true := by
  rw [fitsStore, where_, List.all_append, List.all_cons, List.all_nil, hc]
  exact Bool.and_eq_true_iff.2 ⟨hm, rfl⟩

namespace Clause

variable {c : Clause} {cs : List Clause}

/-- The store takes a clause: its patterns can be used, and its operands fit. -/
structure IsTaken (c : Clause) : Prop where
  usable : c.isUsable = true
  fits : c.fitsStore = true

theorem IsTaken.negate (h : c.IsTaken) : c.negate.IsTaken := by
  cases c <;> exact ⟨h.usable, h.fits⟩

theorem isTaken_and (h : ∀ c ∈ cs, c.IsTaken) : (and cs).IsTaken :=
  ⟨areUsable_iff.2 fun c hc => (h c hc).usable, fitStore_iff.2 fun c hc => (h c hc).fits⟩

theorem isTaken_or (h : ∀ c ∈ cs, c.IsTaken) : (or cs).IsTaken :=
  ⟨areUsable_iff.2 fun c hc => (h c hc).usable, fitStore_iff.2 fun c hc => (h c hc).fits⟩

theorem isTaken_conj (h : ∀ c ∈ cs, c.IsTaken) : (conj cs).IsTaken :=
  conj_induct (fun _ => ⟨rfl, rfl⟩) (fun _ => isTaken_and) h

theorem isTaken_disj (h : ∀ c ∈ cs, c.IsTaken) : (disj cs).IsTaken :=
  disj_induct (fun _ => ⟨rfl, rfl⟩) (fun _ => isTaken_or) h

theorem isTaken_anyMember {m : Members} (h : m.fitsStore = true) : (anyMember m).IsTaken := ⟨rfl, h⟩

theorem isTaken_memberCount {m : Members} (h : m.fitsStore = true) (count : Nat) (negated : Bool) :
    (memberCount m count negated).IsTaken := ⟨rfl, h⟩

end Clause

end Sql

/-! ## Operators -/

namespace ColumnType

theorem fitsStore_equalityOperand {t : ColumnType} {v : Operand} (h : v.fitsStore = true) :
    (t.equalityOperand v).fitsStore = true := by
  unfold equalityOperand
  split
  next s _ =>
    rw [Operand.fitsStore, Bool.not_eq_true'] at h ⊢
    exact Text.hasHalf_lower h
  next => exact h

end ColumnType

namespace Operator

variable {o : Operator} {t : ColumnType} {a : Argument} {v : Operand}

/-- The like patterns that an operator makes of the operands of an argument. -/
def patterns (o : Operator) (a : Argument) : List Operand :=
  a.operands.filterMap fun v => (o.pattern? v).map (·.1)

theorem fitsStore_pattern {pattern : Operand} {escaped : Bool} (h : v.fitsStore = true)
    (hpattern : o.pattern? v = some (pattern, escaped)) : pattern.fitsStore = true := by
  have hescaped : ∀ s, (Operand.text s).fitsStore = true → Text.hasHalf (Sql.escapeLike s) = false := by
    intro s hs
    rw [Operand.fitsStore, Bool.not_eq_true'] at hs
    exact Text.hasHalf_escapeLike hs
  unfold pattern? at hpattern
  split at hpattern <;> cases hpattern
  case h_4 => exact h
  all_goals
    rw [Operand.fitsStore, Bool.not_eq_true']
    simp only [Text.hasHalf_append, hescaped _ h, Bool.or_false]
    decide

theorem exists_pattern (ho : o.isTextual = true) (hregexp : o ≠ .regexp) (s : String) :
    ∃ p, o.pattern? (.text s) = some p := by
  cases o <;> first
    | exact absurd rfl hregexp
    | exact ⟨_, rfl⟩
    | cases ho

/-- The store takes what an operator asks of a value. -/
theorem isTaken_valueClause {s : Scalar} (hfits : a.Fits t o) (hregexp : o ≠ .regexp)
    (hoperands : ∀ v ∈ a.operands, v.fitsStore = true) (hpatterns : ∀ p ∈ o.patterns a, Sql.isOverlong p = false) :
    (o.valueClause t s a).IsTaken := by
  cases a with
  | nothing => exact ⟨rfl, rfl⟩
  | many vs =>
    refine ⟨rfl, List.all_eq_true.2 fun w hw => ?_⟩
    obtain ⟨v, hv, rfl⟩ := List.mem_map.1 hw
    exact ColumnType.fitsStore_equalityOperand (hoperands v hv)
  | one v =>
    have hv : v.fitsStore = true := hoperands v List.mem_cons_self
    rw [valueClause]
    split
    next htextual =>
      obtain ⟨x, rfl⟩ := text_of_isTextual htextual hfits
      obtain ⟨⟨pattern, escaped⟩, hpattern⟩ := exists_pattern htextual hregexp x
      have hmem : pattern ∈ o.patterns (.one (.text x)) :=
        List.mem_filterMap.2 ⟨_, List.mem_cons_self, by rw [hpattern]; rfl⟩
      rw [textClause, hpattern]
      refine ⟨?_, fitsStore_pattern hv hpattern⟩
      rw [Clause.isUsable, hpatterns pattern hmem]
      rfl
    next =>
      split
      · split
        · exact ⟨rfl, hv⟩
        · exact ⟨rfl, ColumnType.fitsStore_equalityOperand hv⟩
      · exact ⟨rfl, rfl⟩

theorem isTaken_membersClause {m : Members} (hm : m.fitsStore = true)
    (hoperands : ∀ v ∈ a.operands, v.fitsStore = true) : (o.membersClause m a).IsTaken := by
  have hamong : ∀ vs, (∀ v ∈ vs, v.fitsStore = true) → ∀ negated,
      (m.where_ (.among m.value vs negated)).fitsStore = true := fun vs hvs _ =>
    Members.fitsStore_where hm (List.all_eq_true.2 hvs)
  have honly : ∀ vs, (∀ v ∈ vs, v.fitsStore = true) → (onlyMembers m vs).IsTaken := fun vs hvs =>
    (Clause.isTaken_anyMember (hamong vs hvs true)).negate
  have hall : ∀ vs, (∀ v ∈ vs, v.fitsStore = true) → (allMembers m vs).IsTaken := fun vs hvs =>
    Clause.isTaken_memberCount (hamong vs hvs false) _ _
  cases a with
  | nothing => exact (Clause.isTaken_anyMember hm).negate
  | one v => exact Clause.isTaken_anyMember (Members.fitsStore_where hm (hoperands v List.mem_cons_self))
  | many vs =>
    unfold membersClause
    dsimp only
    split
    · exact Clause.isTaken_anyMember (hamong vs hoperands false)
    · exact hall vs hoperands
    · exact honly vs hoperands
    · exact Clause.isTaken_conj
        (List.forall_mem_cons.2 ⟨honly vs hoperands, List.forall_mem_singleton.2 (hall vs hoperands)⟩)

variable {source : Source} (hlists : ∀ m ∈ source.scalar.lists, m.fitsStore = true) (hfits : a.Fits t o)
  (hregexp : o ≠ .regexp) (hoperands : ∀ v ∈ a.operands, v.fitsStore = true)
  (hpatterns : ∀ p ∈ o.patterns a, Sql.isOverlong p = false)

include hlists hfits hregexp hoperands hpatterns

/-- **The store takes what an operator asks of a column**, if it takes the operands and the patterns made of them. -/
theorem isTaken_clause : (o.clause t source a).IsTaken := by
  cases source with
  | value s => exact isTaken_valueClause hfits hregexp hoperands hpatterns
  | members m => exact isTaken_membersClause (hlists m (List.mem_singleton_self m)) hoperands

theorem isTaken_inverseClause : (o.inverseClause t source a).IsTaken := by
  have hopposite := (isTaken_clause hlists hfits hregexp hoperands hpatterns).negate
  cases source with
  | members m => exact hopposite
  | value s =>
    rw [inverseClause]
    split
    · exact Clause.isTaken_disj (List.forall_mem_cons.2 ⟨hopposite, List.forall_mem_singleton.2 ⟨rfl, rfl⟩⟩)
    · exact hopposite

end Operator

/-! ## Operands -/

namespace Operand

def isInRange : Operand → Bool
  | .int n => Sql.Value.fitsStore n
  | _ => true

/-- A text has no lone half of a surrogate pair. -/
def isEncodable : Operand → Bool
  | .text s => !Text.hasHalf s
  | _ => true

theorem fitsStore_of {v : Operand} (hne : v ≠ .structured) (hrange : v.isInRange = true)
    (hencodable : v.isEncodable = true) : v.fitsStore = true := by
  cases v with
  | structured => exact absurd rfl hne
  | int n => exact hrange
  | text s => exact hencodable
  | null | bool | real | date | moment => rfl

end Operand

theorem Rule.Yields.ne_structured {r : Rule} {v : Operand} (h : r.Yields v) : v ≠ .structured := by
  rintro rfl
  exact h.ne_null rfl

theorem Argument.Fits.ne_structured {t : ColumnType} {o : Operator} {a : Argument} (h : a.Fits t o) :
    ∀ v ∈ a.operands, v ≠ .structured := by
  cases a with
  | nothing => nofun
  | one v =>
    obtain ⟨-, -, r, -, hv⟩ := h
    exact List.forall_mem_singleton.2 hv.ne_structured
  | many vs =>
    obtain ⟨-, -, -, r, -, hvs⟩ := h
    exact fun v hv => (hvs v hv).ne_structured

/-! ## Filters -/

/-- The values that a search for members binds. -/
def CustomParams.operands (p : CustomParams) : List Operand :=
  p.wanted.map .text ++ (p.kind.map Operand.text).toList

theorem MemberSearch.isTaken_clause {s : MemberSearch} {p : CustomParams} (hrows : s.rows.fitsStore = true)
    (hoperands : ∀ v ∈ p.operands, v.fitsStore = true) : (s.clause p).IsTaken := by
  have hwanted : (s.rows.where_ (.among s.member (p.wanted.map .text) false)).fitsStore = true :=
    Members.fitsStore_where hrows (List.all_eq_true.2 fun v hv => hoperands v (List.mem_append_left _ hv))
  rw [clause]
  cases hkind : p.kind with
  | none => exact Clause.isTaken_anyMember hwanted
  | some k =>
    refine Clause.isTaken_anyMember (Members.fitsStore_where hwanted (hoperands (.text k) (List.mem_append_right _ ?_)))
    rw [hkind]
    exact List.mem_singleton_self _

namespace FilterNode

/-- The values that a filter binds. -/
def operands (f : FilterNode) : List Operand :=
  f.tests.flatMap (·.argument.operands) ++ f.customParams.flatMap (·.operands) ++ f.words.map .text

/-- The like patterns that a filter binds. -/
def patterns (f : FilterNode) : List Operand :=
  f.tests.flatMap (fun t => t.operator.patterns t.argument) ++
    f.words.flatMap fun w => Operator.contains.patterns (.one (.text w))

variable {f : FilterNode} {v : Operand}

theorem mem_operands_of_test {t : ColumnTest} (ht : t ∈ f.tests) (hv : v ∈ t.argument.operands) : v ∈ f.operands :=
  List.mem_append_left _ (List.mem_append_left _ (List.mem_flatMap.2 ⟨t, ht, hv⟩))

theorem mem_operands_of_params {p : CustomParams} (hp : p ∈ f.customParams) (hv : v ∈ p.operands) : v ∈ f.operands :=
  List.mem_append_left _ (List.mem_append_right _ (List.mem_flatMap.2 ⟨p, hp, hv⟩))

theorem mem_operands_of_word {w : String} (hw : w ∈ f.words) : .text w ∈ f.operands :=
  List.mem_append_right _ (List.mem_map_of_mem hw)

theorem Accepted.fits_of_mem_tests {config : EntityConfig} (h : Accepted config f) :
    ∀ t ∈ f.tests, t.argument.Fits t.column.type t.operator := by
  induction h with
  | const value | custom params inverse _ | global words inverse => simp [tests]
  | op all inverse _ _ ih =>
    intro t ht
    obtain ⟨f, hf, ht⟩ := tests_op.1 ht
    exact ih f hf t ht
  | column inverse _ _ hfits => exact List.forall_mem_singleton.2 hfits

/-- **What an accepted filter binds fits the store** if its integers are in range and its texts can be encoded. -/
theorem Accepted.fitsStore_of_mem_operands {config : EntityConfig} (h : Accepted config f)
    (hrange : ∀ v ∈ f.operands, v.isInRange = true) (hencodable : ∀ v ∈ f.operands, v.isEncodable = true) :
    ∀ v ∈ f.operands, v.fitsStore = true := by
  intro v hv
  refine Operand.fitsStore_of ?_ (hrange v hv) (hencodable v hv)
  simp only [operands, CustomParams.operands, List.mem_append, List.mem_flatMap, List.mem_map, Option.mem_toList,
    Option.map_eq_some_iff] at hv
  rcases hv with (⟨t, ht, hv⟩ | ⟨p, -, ⟨s, -, rfl⟩ | ⟨s, -, rfl⟩⟩) | ⟨w, -, rfl⟩
  · exact (h.fits_of_mem_tests t ht).ne_structured v hv
  · rintro ⟨⟩
  · rintro ⟨⟩
  · rintro ⟨⟩

/-- **The store takes the clause of a filter** without regular expressions if it takes what the filter binds. -/
theorem isTaken_clause {config : EntityConfig} (h : Accepted config f)
    (hlists : ∀ c ∈ config.columns, ∀ m ∈ c.scalar.lists, m.fitsStore = true)
    (hcustom : ∀ d ∈ config.customFilters, d.isSearch = true ∧ d.rows.fitsStore = true)
    (hregexp : ∀ t ∈ f.tests, t.operator ≠ .regexp) (hoperands : ∀ v ∈ f.operands, v.fitsStore = true)
    (hpatterns : ∀ p ∈ f.patterns, Sql.isOverlong p = false) : ∀ invert : Bool, (f.clause invert).IsTaken := by
  refine clause_induct (P := Clause.IsTaken) h (fun _ => ⟨rfl, rfl⟩) (fun _ => Clause.isTaken_conj)
    (fun _ => Clause.isTaken_disj) ?_ ?_ ?_
  · intro c _ hmem o a ht hfits
    have hvalues : ∀ v ∈ a.operands, v.fitsStore = true := fun v hv => hoperands v (mem_operands_of_test ht hv)
    have hlike : ∀ p ∈ o.patterns a, Sql.isOverlong p = false := fun p hp =>
      hpatterns p (List.mem_append_left _ (List.mem_flatMap.2 ⟨_, ht, hp⟩))
    exact ⟨Operator.isTaken_clause (hlists c hmem) hfits (hregexp _ ht) hvalues hlike,
      Operator.isTaken_inverseClause (hlists c hmem) hfits (hregexp _ ht) hvalues hlike⟩
  · intro d hd _ p hp
    obtain ⟨hsearch, hrows⟩ := hcustom d hd
    have htaken := MemberSearch.isTaken_clause hrows fun v hv => hoperands v (mem_operands_of_params hp hv)
    rw [CustomFilterDef.compile_of_isSearch hsearch]
    exact ⟨htaken, htaken.negate⟩
  · intro c _ w hw
    have htaken : (wordClause w c).IsTaken := by
      refine ⟨?_, Operator.fitsStore_pattern (o := .contains) (hoperands _ (mem_operands_of_word hw)) rfl⟩
      rw [wordClause, Clause.isUsable, hpatterns _ (List.mem_append_right _ (List.mem_flatMap.2 ⟨w, hw, ?_⟩))]
      · rfl
      · exact List.mem_singleton_self _
    exact ⟨htaken, htaken.negate⟩

end FilterNode

end TableQuery
