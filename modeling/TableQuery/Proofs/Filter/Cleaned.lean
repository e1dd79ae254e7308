import TableQuery.Filter.Reduction
import TableQuery.Proofs.Column.Operands
import TableQuery.Proofs.Json.Fields

/-!
# Lists of values, cleaned

Reduction leaves out of a list the values that came before and the texts that no row can have. Of values that a
rule takes every other one is kept, once (`ColumnFilter.mem_cleaned`, `ColumnFilter.nodup_cleaned`).
-/

set_option autoImplicit false

namespace TableQuery.ColumnFilter

/-! ## Repetitions -/

section Repetitions

variable {r : Rule}

theorem any_same_iff {seen : List Json} {v : Json} (hseen : ∀ k ∈ seen, r.Takes k) (hv : r.Takes v) :
    seen.any (·.same v) = true ↔ v ∈ seen := by
  rw [List.any_eq_true]
  constructor
  · rintro ⟨k, hk, hsame⟩
    rwa [← (Rule.same_iff (hseen k hk) hv).1 hsame]
  · exact fun hmem => ⟨v, hmem, (Rule.same_iff hv hv).2 rfl⟩

/-- The values that are not left out are those that did not come before, each once. -/
theorem unique_spec {values : List Json} (hvalues : ∀ j ∈ values, r.Takes j) :
    ∀ seen : List Json, (∀ k ∈ seen, r.Takes k) →
      (unique seen values).Nodup ∧ ∀ j, j ∈ unique seen values ↔ j ∈ values ∧ j ∉ seen := by
  induction values with
  | nil => exact fun seen _ => ⟨List.nodup_nil, fun j => by simp [unique]⟩
  | cons v values ih =>
    intro seen hseen
    have hv := hvalues v List.mem_cons_self
    have ih := ih fun j hj => hvalues j (List.mem_cons_of_mem _ hj)
    rw [unique]
    split
    next h =>
      obtain ⟨hnodup, hmem⟩ := ih seen hseen
      have hold := (any_same_iff hseen hv).1 h
      refine ⟨hnodup, fun j => ?_⟩
      rw [hmem, List.mem_cons]
      constructor
      · exact fun ⟨hj, hnew⟩ => ⟨Or.inr hj, hnew⟩
      · rintro ⟨rfl | hj, hnew⟩
        · exact absurd hold hnew
        · exact ⟨hj, hnew⟩
    next h =>
      have hseen' : ∀ k ∈ seen ++ [v], r.Takes k := by
        intro k hk
        rcases List.mem_append.1 hk with hk | hk
        · exact hseen k hk
        · rwa [List.mem_singleton.1 hk]
      obtain ⟨hnodup, hmem⟩ := ih _ hseen'
      have hnew := mt (any_same_iff hseen hv).2 h
      constructor
      · refine List.nodup_cons.2 ⟨fun hin => ?_, hnodup⟩
        exact ((hmem v).1 hin).2 (by simp)
      · intro j
        rw [List.mem_cons, List.mem_cons, hmem, List.mem_append, List.mem_singleton, not_or]
        constructor
        · rintro (rfl | ⟨hj, hnew', -⟩)
          · exact ⟨Or.inl rfl, hnew⟩
          · exact ⟨Or.inr hj, hnew'⟩
        · rintro ⟨hj, hnew'⟩
          by_cases hjv : j = v
          · exact Or.inl hjv
          · exact Or.inr ⟨hj.resolve_left hjv, hnew', hjv⟩

theorem mem_unique {values : List Json} (hvalues : ∀ j ∈ values, r.Takes j) {j : Json} :
    j ∈ unique [] values ↔ j ∈ values := by
  rw [(unique_spec hvalues [] (by simp)).2]
  simp

theorem nodup_unique {values : List Json} (hvalues : ∀ j ∈ values, r.Takes j) : (unique [] values).Nodup :=
  (unique_spec hvalues [] (by simp)).1

end Repetitions

/-! ## Texts that no row has -/

theorem exists_texts {values : List Json} (h : ∀ j ∈ values, ∃ s, j = .str s) :
    ∃ texts : List String, values = texts.map .str := by
  induction values with
  | nil => exact ⟨[], rfl⟩
  | cons j values ih =>
    obtain ⟨s, rfl⟩ := h j List.mem_cons_self
    obtain ⟨texts, rfl⟩ := ih fun k hk => h k (List.mem_cons_of_mem _ hk)
    exact ⟨s :: texts, rfl⟩

theorem mapM_str? (texts : List String) : (texts.map Json.str).mapM Json.str? = some texts := by
  induction texts with
  | nil => rfl
  | cons s texts ih => simp [List.mapM_cons, Json.str?, ih]

theorem mapM_str?_eq_some {values : List Json} : ∀ {texts : List String},
    values.mapM Json.str? = some texts ↔ values = texts.map .str := by
  induction values with
  | nil => simp [@eq_comm _ []]
  | cons j values ih =>
    intro texts
    constructor
    · intro h
      rw [List.mapM_cons] at h
      obtain ⟨text, hj, h⟩ := Option.bind_eq_some_iff.1 h
      obtain ⟨rest, hrest, h⟩ := Option.bind_eq_some_iff.1 h
      rw [← Option.some.inj h, List.map_cons, ← ih.1 hrest, Json.str?_eq_some.1 hj]
    · rintro h
      rw [h, mapM_str?]

theorem unique_subset {values : List Json} : ∀ seen, unique seen values ⊆ values := by
  induction values with
  | nil => simp [unique]
  | cons v values ih =>
    intro seen
    rw [unique]
    split
    · exact List.Subset.trans (ih seen) (List.subset_cons_self v values)
    · exact List.cons_subset_cons v (ih _)

theorem cleaned_subset (values : List Json) : (cleaned values).1 ⊆ values := by
  rw [cleaned]
  split
  next texts htexts =>
    refine List.Subset.trans ?_ (unique_subset [])
    rw [mapM_str?_eq_some.1 htexts]
    exact List.map_subset _ (List.filter_subset_self texts)
  next => exact unique_subset []

/-! ## Lists that are cleaned already -/

/-- No value that is kept is the same as one that came before it. -/
theorem pairwise_unique (values : List Json) : ∀ seen,
    (unique seen values).Pairwise (fun v w => v.same w = false) ∧
      ∀ k ∈ seen, ∀ v ∈ unique seen values, k.same v = false := by
  induction values with
  | nil => exact fun seen => ⟨.nil, by simp [unique]⟩
  | cons v values ih =>
    intro seen
    rw [unique]
    split
    · exact ih seen
    next hnew =>
      obtain ⟨hpairwise, hseen⟩ := ih (seen ++ [v])
      rw [List.forall_mem_append, List.forall_mem_singleton] at hseen
      rw [List.any_eq_true, not_exists] at hnew
      refine ⟨.cons hseen.2 hpairwise, fun k hk w hw => ?_⟩
      rcases List.mem_cons.1 hw with rfl | hw
      · exact Bool.eq_false_iff.2 fun hsame => hnew k ⟨hk, hsame⟩
      · exact hseen.1 k hk w hw

theorem unique_eq_self {values : List Json} (hvalues : values.Pairwise fun v w => v.same w = false) :
    ∀ seen : List Json, (∀ k ∈ seen, ∀ v ∈ values, k.same v = false) → unique seen values = values := by
  induction hvalues with
  | nil => exact fun seen _ => rfl
  | @cons v values hv _ ih =>
    intro seen hseen
    have hnew : seen.any (·.same v) = false := by
      rw [List.any_eq_false]
      exact fun k hk => by simp [hseen k hk v List.mem_cons_self]
    rw [unique, hnew, if_neg (by simp), ih]
    rw [List.forall_mem_append, List.forall_mem_singleton]
    exact ⟨fun k hk w hw => hseen k hk w (List.mem_cons_of_mem _ hw), hv⟩

/-- **A list that has been cleaned is clean.** -/
theorem cleaned_cleaned (values : List Json) : cleaned (cleaned values).1 = ((cleaned values).1, false) := by
  have hunique := (pairwise_unique values []).1
  cases htexts : (unique [] values).mapM Json.str? with
  | none =>
    have hcleaned : cleaned values = (unique [] values, false) := by rw [cleaned, htexts]
    have hself := unique_eq_self hunique [] (by simp)
    rw [hcleaned, cleaned, hself, htexts]
  | some texts =>
    have hcleaned : cleaned values = ((texts.filter isClean).map .str, !texts.all isClean) := by rw [cleaned, htexts]
    rw [mapM_str?_eq_some.1 htexts] at hunique
    -- Texts that are left out of different texts leave different ones.
    have hkept := hunique.sublist ((List.filter_sublist (p := isClean)).map Json.str)
    have hself := unique_eq_self hkept [] (by simp)
    rw [hcleaned, cleaned, hself, mapM_str?]
    simp

theorem nodup_and_clean_of_cleaned {values : List Json} {texts : List String}
    (h : (cleaned values).1 = texts.map .str) : texts.Nodup ∧ ∀ t ∈ texts, isClean t = true := by
  have hclean := cleaned_cleaned values
  obtain ⟨kept, hkept⟩ : ∃ kept : List String, unique [] (texts.map Json.str) = kept.map .str := by
    refine exists_texts fun j hj => ?_
    obtain ⟨t, -, rfl⟩ := List.mem_map.1 (unique_subset [] hj)
    exact ⟨t, rfl⟩
  have hunique := (pairwise_unique (texts.map Json.str) []).1
  rw [hkept, List.pairwise_map] at hunique
  rw [h, cleaned, hkept, mapM_str?, Prod.mk.injEq] at hclean
  obtain ⟨hsame, hall⟩ := hclean
  have hall : ∀ t ∈ kept, isClean t = true := by simpa using hall
  rw [List.filter_eq_self.2 hall] at hsame
  rw [← List.map_injective_iff.2 (fun _ _ h => Json.str.inj h) hsame]
  refine ⟨hunique.imp fun {t u} hne heq => ?_, hall⟩
  rw [heq, Json.same, beq_self_eq_true] at hne
  cases hne

variable {r : Rule} {values : List Json}

/-- The different values of a list, of which the texts that no row has are left out. -/
theorem cleaned_eq (hvalues : ∀ j ∈ values, r.Takes j) :
    cleaned values = ((unique [] values).filter fun j => (j.str?.map isClean).getD true,
      (unique [] values).any fun j => !(j.str?.map isClean).getD true) := by
  have hunique : ∀ j ∈ unique [] values, r.Takes j := fun j hj => hvalues j ((mem_unique hvalues).1 hj)
  rw [cleaned]
  cases hr : r.takesTexts with
  | true =>
    obtain ⟨texts, htexts⟩ := exists_texts fun j hj => Rule.exists_text_of_takes (hunique j hj) hr
    rw [htexts, mapM_str?]
    simp [List.filter_map, Function.comp_def, Json.str?, List.not_all_eq_any_not]
  | false =>
    have hnone : ∀ j ∈ unique [] values, (j.str?.map isClean).getD true = true := by
      intro j hj
      have hj := Rule.ne_text_of_takes (hunique j hj) hr
      cases j <;> first | rfl | exact absurd rfl (hj _)
    have hfilter : (unique [] values).filter (fun j => (j.str?.map isClean).getD true) = unique [] values :=
      List.filter_eq_self.2 hnone
    have hany : ((unique [] values).any fun j => !(j.str?.map isClean).getD true) = false := by
      rw [List.any_eq_false]
      intro j hj
      simp [hnone j hj]
    rw [hfilter, hany]
    split
    next texts htexts =>
      -- Only a list without values can be one of texts.
      cases hlist : unique [] values with
      | nil =>
        rw [hlist] at htexts
        cases htexts
        rfl
      | cons j rest =>
        have hj := Rule.ne_text_of_takes (hunique j (by rw [hlist]; exact List.mem_cons_self)) hr
        rw [hlist, List.mapM_cons] at htexts
        cases j <;> first | cases htexts | exact absurd rfl (hj _)
    next => rfl

/-- **What is kept of a list** are its values, except for the texts that no row has. -/
theorem mem_cleaned (hvalues : ∀ j ∈ values, r.Takes j) {j : Json} :
    j ∈ (cleaned values).1 ↔ j ∈ values ∧ ∀ s, j = .str s → isClean s = true := by
  rw [cleaned_eq hvalues, List.mem_filter, mem_unique hvalues]
  refine and_congr_right fun _ => ?_
  cases j <;> simp [Json.str?]

theorem nodup_cleaned (hvalues : ∀ j ∈ values, r.Takes j) : (cleaned values).1.Nodup := by
  rw [cleaned_eq hvalues]
  exact (nodup_unique hvalues).filter _

theorem dropped_cleaned (hvalues : ∀ j ∈ values, r.Takes j) :
    (cleaned values).2 = true ↔ ∃ s, .str s ∈ values ∧ isClean s = false := by
  rw [cleaned_eq hvalues, List.any_eq_true]
  constructor
  · rintro ⟨j, hj, hdirty⟩
    rw [mem_unique hvalues] at hj
    cases j with
    | str s => exact ⟨s, hj, by simpa [Json.str?] using hdirty⟩
    | _ => simp [Json.str?] at hdirty
  · rintro ⟨s, hs, hdirty⟩
    exact ⟨.str s, (mem_unique hvalues).2 hs, by simp [Json.str?, hdirty]⟩

end TableQuery.ColumnFilter
