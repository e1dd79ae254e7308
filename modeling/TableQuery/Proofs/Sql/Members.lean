import Mathlib.Data.List.Nodup
import Mathlib.Data.List.Perm.Subperm
import TableQuery.Proofs.Sql.Truth

/-!
# Lists of members and sets of texts

What is asked of the members of a list, in terms of the texts that are among them: one text is a member
(`Members.holds_someEqual`), some of given texts is (`Members.holds_someAmong`), no member is anything else
(`Members.holds_onlyAmong`), all given texts are members (`Members.holds_allAmong_iff`). The last is asked by
counting, which is right for texts that differ from each other and fails if one of them is repeated.
-/

set_option autoImplicit false

namespace TableQuery.Sql

/-! ## Comparing with texts -/

theorem Value.compare_text {v : Value} {x : String} : v.compare (.text x) = .eq ↔ v = .text x := by
  cases v with
  | text s => simp [Value.compare]
  | null | int n | real d => simp [Value.compare, Value.num?, Value.rank]; try decide

theorem compareTruth_text {v : Value} {x : String} : compareTruth .eq v (.text x) = some true ↔ v = .text x := by
  cases v with
  | null => simp [compareTruth, Value.compare?]
  | text s => simp [compareTruth, Value.compare?, Comparison.holds, Value.compare]
  | int n | real d =>
    simp [compareTruth, Value.compare?, Comparison.holds, Value.compare, Value.num?, Value.rank]
    try decide

def textOperands (xs : List String) : List Operand := xs.map .text

theorem any_compare_textOperands {v : Value} {xs : List String} :
    (textOperands xs).any (fun o => v.compare (.ofOperand o) == .eq) = true ↔ ∃ x ∈ xs, v = .text x := by
  simp only [textOperands, List.any_map, List.any_eq_true, Function.comp_apply, Value.ofOperand, beq_iff_eq,
    Value.compare_text]

theorem amongTruth_textOperands {v : Value} {xs : List String} (n : Bool) :
    amongTruth v (textOperands xs) n = some true ↔ v ≠ .null ∧ ((∃ x ∈ xs, v = .text x) ↔ n = false) := by
  have hnull : (textOperands xs).any (fun o => Value.ofOperand o == .null) = false := by
    simp [textOperands, Value.ofOperand]
  by_cases hv : v = .null
  · simp [hv, amongTruth]
  · have hamong : amongTruth v (textOperands xs) n =
        if (textOperands xs).any fun o => v.compare (.ofOperand o) == .eq then some !n else some n := by
      unfold amongTruth
      split
      · exact absurd rfl hv
      · rw [hnull]
        rfl
    rw [hamong]
    split
    next h => cases n <;> simp [hv, any_compare_textOperands.1 h]
    next h => cases n <;> simp [hv, mt any_compare_textOperands.2 h]

namespace Members

section Rows

variable (store : Store) (env : Env) {m : Members}

/-! ## Members with a condition -/

/-- A condition on the value of a member keeps the members whose values satisfy it. -/
theorem values_where (hm : m.value.source = m.table.name) {c : Condition} {p : Value → Bool}
    (hc : ∀ env : Env, (c.truth env == some true) = p (env.read m.value)) :
    (m.where_ c).values store env = (m.values store env).filter p := by
  have hread : ∀ (row : Row) (rest : Env), Env.read ((m.table.name, row) :: rest) m.value =
      ((row.lookup m.value.column).getD .null) := by
    intro row rest
    rw [Env.read, hm, List.lookup_cons_self, Option.bind_some]
  rw [values, values, List.filter_map, List.filter_filter]
  refine congrArg (List.map _) (List.filter_congr fun row _ => ?_)
  show Condition.allHold ((m.table.name, row) :: env) (.sameAs m.child m.parent :: m.criteria ++ [c]) =
    (p (Env.read [(m.table.name, row)] m.value) &&
      Condition.allHold ((m.table.name, row) :: env) (.sameAs m.child m.parent :: m.criteria))
  simp only [Condition.allHold, List.all_append, List.all_cons, List.all_nil, Bool.and_true, hc, hread]
  exact Bool.and_comm _ _

theorem values_where_equals (hm : m.value.source = m.table.name) (x : String) :
    (m.where_ (.equals m.value (.text x))).values store env = (m.values store env).filter (· == .text x) := by
  refine values_where store env hm fun env => ?_
  rw [Bool.eq_iff_iff, beq_iff_eq, beq_iff_eq]
  exact compareTruth_text

theorem values_where_among (hm : m.value.source = m.table.name) (xs : List String) (n : Bool) :
    (m.where_ (.among m.value (textOperands xs) n)).values store env = (m.values store env).filter
      fun v => decide (v ≠ .null ∧ ((∃ x ∈ xs, v = .text x) ↔ n = false)) := by
  refine values_where store env hm fun env => ?_
  rw [Bool.eq_iff_iff, beq_iff_eq, decide_eq_true_iff]
  exact amongTruth_textOperands n

/-! ## What is asked of members -/

theorem holds_any : (Clause.anyMember m).holds store env = true ↔ ∃ v, v ∈ m.values store env := by
  rw [Clause.holds, Clause.truth]
  cases m.values store env with
  | nil => simp
  | cons v vs => simp

/-- Some member is a text. -/
theorem holds_someEqual (hm : m.value.source = m.table.name) (x : String) :
    (Clause.anyMember (m.where_ (.equals m.value (.text x)))).holds store env = true ↔
      .text x ∈ m.values store env := by
  simp only [holds_any, values_where_equals store env hm, List.mem_filter, beq_iff_eq, exists_eq_right]

/-- Some member is one of some texts. -/
theorem holds_someAmong (hm : m.value.source = m.table.name) (xs : List String) :
    (Clause.anyMember (m.where_ (.among m.value (textOperands xs) false))).holds store env = true ↔
      ∃ x ∈ xs, .text x ∈ m.values store env := by
  simp only [holds_any, values_where_among store env hm, List.mem_filter, decide_eq_true_iff, iff_true]
  constructor
  · rintro ⟨v, hv, -, x, hx, rfl⟩
    exact ⟨x, hx, hv⟩
  · rintro ⟨x, hx, hv⟩
    exact ⟨.text x, hv, by simp, x, hx, rfl⟩

/-- Every member that is there is one of some texts. -/
theorem holds_onlyAmong (hm : m.value.source = m.table.name) (xs : List String) :
    (Clause.anyMember (m.where_ (.among m.value (textOperands xs) true))).negate.holds store env = true ↔
      ∀ v ∈ m.values store env, v ≠ .null → ∃ x ∈ xs, v = .text x := by
  rw [Clause.holds_negate store env rfl, Bool.not_eq_true', ← Bool.not_eq_true]
  simp only [holds_any, values_where_among store env hm, List.mem_filter, decide_eq_true_iff, reduceCtorEq,
    iff_false, not_exists, not_and]
  constructor
  · intro h v hv hnull
    by_contra hx
    exact h v hv hnull fun x hx' heq => hx ⟨x, hx', heq⟩
  · intro h v hv hnull hx
    obtain ⟨x, hx', heq⟩ := h v hv hnull
    exact hx x hx' heq

/-! ## Counting members -/

/-- What is seen along a list of texts, after texts that have been seen before. -/
theorem foldl_different {values : List Value} (hvalues : ∀ v ∈ values, ∃ x, v = .text x) :
    ∀ seen : List Value, seen.Nodup →
      let result := values.foldl (fun seen v => if seen.any (·.compare v == .eq) then seen else seen ++ [v]) seen
      result.Nodup ∧ ∀ v, v ∈ result ↔ v ∈ seen ∨ v ∈ values := by
  induction values with
  | nil => exact fun seen hseen => ⟨hseen, fun v => by simp⟩
  | cons v values ih =>
    intro seen hseen
    obtain ⟨x, rfl⟩ := hvalues v List.mem_cons_self
    have ih := ih fun w hw => hvalues w (List.mem_cons_of_mem _ hw)
    have hany : (seen.any (·.compare (.text x) == .eq)) = true ↔ .text x ∈ seen := by
      simp [List.any_eq_true, Value.compare_text]
    dsimp only at ih ⊢
    rw [List.foldl_cons]
    split
    next h =>
      obtain ⟨hnodup, hmem⟩ := ih seen hseen
      refine ⟨hnodup, fun w => ?_⟩
      rw [hmem, List.mem_cons]
      constructor
      · exact fun h => h.imp_right Or.inr
      · rintro (hw | rfl | hw)
        · exact Or.inl hw
        · exact Or.inl (hany.1 h)
        · exact Or.inr hw
    next h =>
      have hseen' : (seen ++ [Value.text x]).Nodup := by
        rw [List.nodup_append]
        refine ⟨hseen, List.nodup_singleton _, fun w hw w' hw' => ?_⟩
        rw [List.mem_singleton.1 hw']
        rintro rfl
        exact h (hany.2 hw)
      obtain ⟨hnodup, hmem⟩ := ih _ hseen'
      refine ⟨hnodup, fun w => ?_⟩
      rw [hmem, List.mem_append, List.mem_singleton, List.mem_cons, or_assoc]

/-- The different members among some texts are those texts that are members, each of them once. -/
theorem mem_different (hm : m.value.source = m.table.name) (xs : List String) :
    ((m.where_ (.among m.value (textOperands xs) false)).different store env).Nodup ∧
      ∀ v, v ∈ (m.where_ (.among m.value (textOperands xs) false)).different store env ↔
        ∃ x ∈ xs, v = .text x ∧ v ∈ m.values store env := by
  have hvalues : ∀ v,
      v ∈ ((m.where_ (.among m.value (textOperands xs) false)).values store env).filter (· != .null) ↔
      ∃ x ∈ xs, v = .text x ∧ v ∈ m.values store env := by
    intro v
    simp only [values_where_among store env hm, List.mem_filter, decide_eq_true_iff, iff_true, bne_iff_ne]
    constructor
    · rintro ⟨⟨hv, -, x, hx, rfl⟩, -⟩
      exact ⟨x, hx, rfl, hv⟩
    · rintro ⟨x, hx, rfl, hv⟩
      exact ⟨⟨hv, by simp, x, hx, rfl⟩, by simp⟩
  obtain ⟨hnodup, hmem⟩ := foldl_different (fun v hv => (hvalues v).1 hv |>.imp fun x h => h.2.1) [] List.nodup_nil
  refine ⟨hnodup, fun v => ?_⟩
  rw [different, hmem, hvalues]
  simp

/-- The different members among some texts are as many as the texts iff no text is repeated and all of them are
members. -/
theorem length_different (hm : m.value.source = m.table.name) (xs : List String) :
    ((m.where_ (.among m.value (textOperands xs) false)).different store env).length = xs.length ↔
      xs.Nodup ∧ ∀ x ∈ xs, .text x ∈ m.values store env := by
  obtain ⟨hnodup, hmem⟩ := mem_different store env hm xs
  have hsub : (m.where_ (.among m.value (textOperands xs) false)).different store env ⊆ xs.map .text := by
    intro v hv
    obtain ⟨x, hx, rfl, -⟩ := (hmem v).1 hv
    exact List.mem_map_of_mem hx
  have hsubperm := List.subperm_of_subset hnodup hsub
  constructor
  · intro hlength
    have hperm := hsubperm.perm_of_length_le (by rw [List.length_map]; omega)
    refine ⟨(hperm.nodup_iff.1 hnodup).of_map _, fun x hx => ?_⟩
    obtain ⟨x', -, -, hv⟩ := (hmem (.text x)).1 (hperm.mem_iff.2 (List.mem_map_of_mem hx))
    exact hv
  · rintro ⟨hxs, hall⟩
    have hmap : (xs.map Value.text).Nodup := List.Nodup.map (fun _ _ h => Value.text.inj h) hxs
    have hsup : xs.map Value.text ⊆ (m.where_ (.among m.value (textOperands xs) false)).different store env := by
      intro v hv
      obtain ⟨x, hx, rfl⟩ := List.mem_map.1 hv
      exact (hmem _).2 ⟨x, hx, rfl, hall x hx⟩
    have hle := hsubperm.length_le
    have hge := (List.subperm_of_subset hmap hsup).length_le
    rw [List.length_map] at hle hge
    omega

/-- **Counting finds all of some texts among the members iff they are there and no text is repeated.** -/
theorem holds_allAmong_iff (hm : m.value.source = m.table.name) (xs : List String) :
    (Clause.memberCount (m.where_ (.among m.value (textOperands xs) false)) xs.length false).holds store env = true ↔
      xs.Nodup ∧ ∀ x ∈ xs, .text x ∈ m.values store env := by
  rw [Clause.holds, Clause.truth, beq_iff_eq, Option.some.injEq, Bool.bne_false, beq_iff_eq]
  exact length_different store env hm xs

end Rows

end Members

end TableQuery.Sql
