import TableQuery.Proofs.Outcomes
import TableQuery.Proofs.Store.Typed
import TableQuery.Proofs.Text.Trimmed

/-!
# What is shown of a list

The members of a list leave the store as one text, which is cut into members again and put in order. A list column
shows each member as often as it is there, in increasing order (`Members.render_joinedValue`): without repetitions iff
no member is repeated (`pairwise_lt_iff_nodup`).
-/

set_option autoImplicit false

namespace TableQuery

open Sql (Env Members Store Value)

/-! ## Texts in order -/

theorem pairwise_lt_iff_nodup {texts : List String} (h : texts.Pairwise (· ≤ ·)) :
    texts.Pairwise (· < ·) ↔ texts.Nodup := by
  refine ⟨fun hlt => hlt.imp fun hlt hsame => ?_, fun hnodup => (h.and hnodup).imp fun ⟨hle, hne⟩ => ?_⟩
  · rw [hsame] at hlt
    exact String.lt_irrefl _ hlt
  · rw [← Decidable.not_not (p := _ < _), String.not_lt]
    exact fun hge => hne (String.le_antisymm hle hge)

/-- **Texts that are put in order** are the same texts in increasing order. -/
theorem Cell.sortValues_eq_ok {texts : List String} {js : List Json} (h : sortValues (texts.map .str) = .ok js) :
    ∃ sorted : List String, js = sorted.map .str ∧ sorted.Perm texts ∧ sorted.Pairwise (· ≤ ·) := by
  unfold sortValues at h
  split at h
  next hfew =>
    cases h
    rw [List.length_map] at hfew
    refine ⟨texts, rfl, .refl texts, ?_⟩
    match texts, hfew with
    | [], _ => exact .nil
    | [t], _ => exact List.pairwise_singleton _ t
  next =>
    split at h
    next =>
      cases h
      refine ⟨texts.mergeSort fun a b => !decide (b < a), ?_, List.mergeSort_perm _ _, ?_⟩
      · refine (List.map_mergeSort fun a _ b _ => ?_).symm
        rw [Json.less?]
        cases decide (b < a) <;> rfl
      · refine (List.pairwise_mergeSort (fun a b c hab hbc => ?_) (fun a b => ?_) texts).imp fun hle => ?_
        · simp only [Bool.not_eq_true', decide_eq_false_iff_not, String.not_lt] at hab hbc ⊢
          exact String.le_trans hab hbc
        · simp only [Bool.or_eq_true, Bool.not_eq_true', decide_eq_false_iff_not, String.not_lt]
          exact String.le_total a b
        · simpa only [Bool.not_eq_true', decide_eq_false_iff_not, String.not_lt] using hle
    next => cases h

/-! ## Members -/

theorem ColumnType.render_text_of_isList {t : ColumnType} (ht : t.isList = true) (s : String) :
    t.render (.ofValue t (.text s)) = (Cell.sortValues ((Text.fields (· == ',') s).map .str)).map .arr := by
  have hkind : t.kind = .uuidList ∨ t.kind = .dictList := by
    rw [isList] at ht
    cases hkind : t.kind <;> simp_all [Kind.isList]
  rcases hkind with hkind | hkind <;> rw [render, Cell.ofValue, hkind] <;> rfl

namespace Sql.Members

def texts (store : Store) (env : Env) (m : Members) : List String :=
  (m.values store env).filterMap Value.toText?

theorem texts_eq_nil_iff {store : Store} {env : Env} {m : Members} (h : ∀ v ∈ m.values store env, v ≠ .null) :
    m.texts store env = [] ↔ m.values store env = [] := by
  rw [texts, List.filterMap_eq_nil_iff, List.eq_nil_iff_forall_not_mem]
  refine forall₂_congr fun v hv => iff_of_false (fun hnone => h v hv ?_) not_false
  cases v <;> first | rfl | cases hnone

/-- **A list column shows the members of a row in increasing order**, each as often as it is there. -/
theorem render_joinedValue {store : Store} {env : Env} {m : Members} {t : ColumnType} (ht : t.isList = true)
    (htexts : ∀ x ∈ m.texts store env, x ≠ "" ∧ ',' ∉ x.toList) {j : Json}
    (h : t.render (.ofValue t (m.joinedValue store env)) = .ok j) :
    ∃ sorted : List String, j = .arr (sorted.map .str) ∧ sorted.Perm (m.texts store env) ∧ sorted.Pairwise (· ≤ ·) := by
  have hjoined : m.joinedValue store env =
      if (m.texts store env).isEmpty then .null else .text (",".intercalate (m.texts store env)) := rfl
  rw [hjoined] at h
  split at h
  next hnone =>
    have hempty : j = .arr [] := by
      have hrender : (Except.ok (if t.isList then .arr [] else .null) : Except Fault Json) = .ok j := h
      rw [ht] at hrender
      exact (Except.ok.inj hrender).symm
    exact ⟨[], hempty, by rw [List.isEmpty_iff.1 hnone], .nil⟩
  next hsome =>
    have hne : m.texts store env ≠ [] := fun hnil => hsome (by rw [hnil]; rfl)
    rw [ColumnType.render_text_of_isList ht, Text.fields_intercalate hne htexts] at h
    obtain ⟨js, hjs, rfl⟩ := map_eq_ok.1 h
    obtain ⟨sorted, rfl, hperm, horder⟩ := Cell.sortValues_eq_ok hjs
    exact ⟨sorted, rfl, hperm, horder⟩

end Sql.Members

end TableQuery
