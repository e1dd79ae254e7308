import Mathlib.Data.List.Induction
import TableQuery.Json.Basic

/-!
# Values under names

A name stands in a map once, where it was put first, and what is found under it is its value (`NameMap.Over`).
-/

set_option autoImplicit false

namespace TableQuery

namespace Json

theorem same_str {s : String} {j : Json} : (Json.str s).same j = true ↔ j = .str s := by
  cases j with
  | str t => simpa [Json.same] using eq_comm
  | _ => simp [Json.same, Json.number?]

theorem isIn_str {names : List String} {j : Json} : j.isIn (names.map .str) = true ↔ ∃ n ∈ names, j = .str n := by
  simp only [Json.isIn, List.any_eq_true, List.mem_map, exists_exists_and_eq_and, Json.same_str]

end Json

namespace NameMap

variable {m : NameMap} {names : List String} {name v : Json} {p : Json × Json}

theorem keys_set (m : NameMap) (name v : Json) : (m.set name v).map (·.1) = m.map (·.1) ∨
    (∀ p ∈ m, p.1.same name = false) ∧ (m.set name v).map (·.1) = m.map (·.1) ++ [name] := by
  unfold set
  split
  · refine Or.inl ?_
    rw [List.map_map]
    refine List.map_congr_left fun p _ => ?_
    rw [Function.comp_apply]
    split <;> rfl
  next hnew =>
    refine Or.inr ⟨fun p hp => ?_, by rw [List.map_append, List.map_singleton]⟩
    rw [Bool.not_eq_true, List.any_eq_false] at hnew
    exact Bool.eq_false_iff.2 (hnew p hp)

/-- What is in a map after a value was set has been there, or has the value and stands under the name or the same one.
-/
theorem mem_or_set_of_mem_set (h : p ∈ m.set name v) : p ∈ m ∨ p.2 = v ∧ (p.1 = name ∨ p.1.same name = true) := by
  unfold set at h
  split at h
  · obtain ⟨q, hq, rfl⟩ := List.mem_map.1 h
    split
    next hsame => exact Or.inr ⟨rfl, Or.inr hsame⟩
    next => exact Or.inl hq
  · rcases List.mem_append.1 h with h | h
    · exact Or.inl h
    · rw [List.mem_singleton.1 h]
      exact Or.inr ⟨rfl, Or.inl rfl⟩

theorem mem_or_eq_of_mem_set (h : p ∈ m.set name v) : p ∈ m ∨ p.2 = v :=
  (mem_or_set_of_mem_set h).imp_right And.left

theorem exists_mem_set (m : NameMap) (name v : Json) : ∃ p ∈ m.set name v, p.2 = v := by
  unfold set
  split
  next hold =>
    obtain ⟨q, hq, hsame⟩ := List.any_eq_true.1 hold
    exact ⟨_, List.mem_map_of_mem hq, by rw [if_pos hsame]⟩
  next => exact ⟨(name, v), by simp, rfl⟩

/-- No name stands in a map twice. -/
def Distinct (m : NameMap) : Prop := (m.map (·.1)).Pairwise fun a b => a.same b = false

namespace Distinct

theorem nil : Distinct [] := List.Pairwise.nil

theorem set (h : m.Distinct) (name v : Json) : (m.set name v).Distinct := by
  unfold Distinct at h ⊢
  rcases keys_set m name v with hkeys | ⟨hnew, hkeys⟩
  · exact hkeys ▸ h
  · rw [hkeys, List.pairwise_append]
    refine ⟨h, List.pairwise_singleton _ _, fun a ha b hb => ?_⟩
    obtain ⟨p, hp, rfl⟩ := List.mem_map.1 ha
    rw [List.mem_singleton.1 hb]
    exact hnew p hp

/-- **What is found under a name** that is the same as itself is its value. -/
theorem get?_of_mem (h : m.Distinct) (hp : p ∈ m) (hself : p.1.same p.1 = true) : m.get? p.1 = some p.2 := by
  induction m with
  | nil => cases hp
  | cons q m ih =>
    obtain ⟨hfirst, hrest⟩ := List.pairwise_cons.1 h
    rcases List.mem_cons.1 hp with rfl | hp
    · unfold get?
      rw [List.find?_cons_of_pos (by exact hself), Option.map_some]
    · have hother : q.1.same p.1 = false := hfirst p.1 (List.mem_map_of_mem hp)
      unfold get?
      rw [List.find?_cons_of_neg (by simp [hother])]
      exact ih hrest hp

end Distinct

/-- A map under names among the given ones, of which none stands in it twice. -/
structure Over (names : List String) (m : NameMap) : Prop where
  known : ∀ k ∈ m.map (·.1), ∃ n ∈ names, k = .str n
  distinct : (m.map (·.1)).Pairwise fun a b => a.same b = false

namespace Over

theorem nil (names : List String) : Over names [] := ⟨by simp, .nil⟩

theorem set (h : m.Over names) {n : String} (hn : n ∈ names) (v : Json) : (m.set (.str n) v).Over names := by
  have hdistinct : m.Distinct := h.distinct
  refine ⟨?_, hdistinct.set (.str n) v⟩
  rcases keys_set m (.str n) v with hkeys | ⟨-, hkeys⟩
  · exact hkeys ▸ h.known
  · rw [hkeys]
    intro k hk
    rcases List.mem_append.1 hk with hk | hk
    · exact h.known k hk
    · exact ⟨n, hn, List.mem_singleton.1 hk⟩

theorem setAll (h : m.Over names) {fields : Fields} (hfields : ∀ p ∈ fields, p.1 ∈ names) :
    Over names (fields.foldl (fun m p => m.set (.str p.1) p.2) m) :=
  List.foldlRecOn fields _ h fun _ hm p hp => hm.set (hfields p hp) p.2

/-- **What is found under a name** is its value. -/
theorem get?_of_mem (h : m.Over names) (hp : p ∈ m) : m.get? p.1 = some p.2 := by
  have hdistinct : m.Distinct := h.distinct
  obtain ⟨n, -, hn⟩ := h.known p.1 (List.mem_map_of_mem hp)
  exact hdistinct.get?_of_mem hp (by rw [hn, Json.same_str])

end Over

/-! ## One value under all names -/

theorem over_constant (names : List String) (v : Json) : (constant (names.map .str) v).Over names := by
  rw [constant, List.foldl_map]
  exact List.foldlRecOn names _ (.nil names) fun m hm n hn => hm.set hn v

theorem eq_of_mem_constant {names : List Json} (h : p ∈ constant names v) : p.2 = v := by
  have hall : ∀ p ∈ constant names v, p.2 = v := by
    refine List.foldlRecOn (motive := fun m : NameMap => ∀ p ∈ m, p.2 = v) names _ (fun p hp => by cases hp) ?_
    exact fun m hm name _ p hp => (mem_or_eq_of_mem_set hp).elim (hm p) id
  exact hall p h

theorem exists_mem_constant {names : List Json} (h : names ≠ []) : ∃ p ∈ constant names v, p.2 = v := by
  obtain ⟨names, name, rfl⟩ := (List.eq_nil_or_concat names).resolve_left h
  rw [constant, List.concat_eq_append, List.foldl_append, List.foldl_cons, List.foldl_nil]
  exact exists_mem_set _ name v

end NameMap

end TableQuery
