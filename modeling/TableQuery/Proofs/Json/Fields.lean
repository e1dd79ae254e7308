import TableQuery.Json.Basic

/-!
# Fields of objects

What is found under a key after another field was set or erased, and after the fields that matter were selected.
-/

set_option autoImplicit false

namespace TableQuery

/-- What is found in a list of named values is in the list. -/
theorem mem_of_lookup_eq_some {α : Type} :
    ∀ {l : List (String × α)} {k : String} {a : α}, l.lookup k = some a → (k, a) ∈ l
  | [], _, _, h => by cases h
  | (k', b) :: l, k, a, h => by
    rw [List.lookup_cons] at h
    split at h
    next hk =>
      rw [← beq_iff_eq.1 hk, ← Option.some.inj h]
      exact List.mem_cons_self
    next => exact List.mem_cons_of_mem _ (mem_of_lookup_eq_some h)

/-- What is in a list under a name that stands there once is found under it. -/
theorem lookup_of_mem {α : Type} : ∀ {l : List (String × α)}, (l.map (·.1)).Nodup → ∀ p ∈ l, l.lookup p.1 = some p.2
  | [], _, p, hp => by cases hp
  | (k, a) :: l, h, p, hp => by
    rw [List.map_cons, List.nodup_cons] at h
    rcases List.mem_cons.1 hp with rfl | hp
    · exact List.lookup_cons_self
    · have hne : (p.1 == k) = false := by
        rw [beq_eq_false_iff_ne]
        intro heq
        exact h.1 (heq ▸ List.mem_map.2 ⟨p, hp, rfl⟩)
      rw [List.lookup_cons, hne]
      exact lookup_of_mem h.2 p hp

theorem Json.str?_eq_some {j : Json} {s : String} : j.str? = some s ↔ j = .str s := by
  cases j <;> simp [Json.str?]

theorem Json.isText_iff {j : Json} {s : String} : j.isText s = true ↔ j = .str s := by
  cases j <;> simp [Json.isText]

namespace Fields

variable {fields : Fields} {key k : String} {v : Json}

theorem lookup_erase_self : (fields.erase key).lookup key = none := by
  rw [List.lookup_eq_none_iff]
  intro p hp
  obtain ⟨-, hne⟩ := List.mem_filter.1 hp
  exact bne_iff_ne.2 (Ne.symm (bne_iff_ne.1 hne))

theorem lookup_erase_ne (h : k ≠ key) : (fields.erase key).lookup k = fields.lookup k := by
  induction fields with
  | nil => rfl
  | cons p rest ih =>
    obtain ⟨k', v⟩ := p
    by_cases hk : k' = key
    · have hk' : (k == k') = false := beq_eq_false_iff_ne.2 (hk ▸ h)
      rw [erase, List.filter_cons_of_neg (by simp [hk]), List.lookup_cons, hk']
      exact ih
    · rw [erase, List.filter_cons_of_pos (by simpa using hk), List.lookup_cons, List.lookup_cons]
      split
      · rfl
      · exact ih

theorem lookup_map_replace (k : String) : (fields.map fun p => if p.1 == key then (key, v) else p).lookup k =
    if k = key then (fields.lookup k).map fun _ => v else fields.lookup k := by
  induction fields with
  | nil => simp
  | cons p rest ih =>
    obtain ⟨k', w⟩ := p
    by_cases hk : k' = key <;> by_cases hkk : k = k' <;> simp_all [List.lookup_cons, beq_eq_false_iff_ne.2]

theorem lookup_isSome_iff : (fields.lookup key).isSome = fields.any (·.1 == key) := by
  induction fields with
  | nil => rfl
  | cons p rest ih =>
    obtain ⟨k', w⟩ := p
    by_cases hk : k' = key
    · simp [hk]
    · have hk' : (key == k') = false := beq_eq_false_iff_ne.2 (Ne.symm hk)
      have hk'' : (k' == key) = false := beq_eq_false_iff_ne.2 hk
      rw [List.lookup_cons, hk', List.any_cons, hk'', Bool.false_or]
      exact ih

theorem lookup_set_self : (fields.set key v).lookup key = some v := by
  unfold set
  split
  next h =>
    rw [← lookup_isSome_iff] at h
    obtain ⟨w, hw⟩ := Option.isSome_iff_exists.1 h
    rw [lookup_map_replace, if_pos rfl, hw]
    rfl
  next h =>
    rw [← lookup_isSome_iff, Bool.not_eq_true, Option.isSome_eq_false_iff, Option.isNone_iff_eq_none] at h
    rw [List.lookup_append, h, Option.none_or, List.lookup_cons_self]

theorem lookup_set_ne (h : k ≠ key) : (fields.set key v).lookup k = fields.lookup k := by
  unfold set
  split
  · rw [lookup_map_replace, if_neg h]
  · have hk : (k == key) = false := beq_eq_false_iff_ne.2 h
    rw [List.lookup_append, List.lookup_cons, hk, List.lookup_nil, Option.or_none]

theorem erase_map_replace :
    erase (fields.map fun p => if p.1 == key then (key, v) else p) key = fields.erase key := by
  induction fields with
  | nil => rfl
  | cons p rest ih =>
    rw [List.map_cons]
    by_cases hk : p.1 = key
    · rw [erase, erase, List.filter_cons_of_neg (by simp [hk]), List.filter_cons_of_neg (by simp [hk])]
      exact ih
    · rw [erase, erase, if_neg (by simpa using hk), List.filter_cons_of_pos (by simpa using hk),
        List.filter_cons_of_pos (by simpa using hk)]
      exact congrArg (p :: ·) ih

theorem erase_set : (fields.set key v).erase key = fields.erase key := by
  unfold set
  split
  · exact erase_map_replace
  · rw [erase, List.filter_append, List.filter_cons_of_neg (by simp), List.filter_nil, List.append_nil]
    rfl

theorem erase_erase : (fields.erase key).erase key = fields.erase key := by
  rw [erase, erase, List.filter_filter]
  simp

theorem erase_of_lookup (h : fields.lookup k = none) : fields.erase k = fields := by
  rw [List.lookup_eq_none_iff] at h
  apply List.filter_eq_self.2
  intro p hp
  rw [bne_iff_ne]
  exact (bne_iff_ne.1 (h p hp)).symm

theorem value_erase_ne (h : k ≠ key) : (fields.erase key).value k = fields.value k := by
  rw [value, value, lookup_erase_ne h]

theorem lookup_select {keys : List String} (h : k ∈ keys) : (fields.select keys).lookup k = fields.lookup k := by
  induction keys with
  | nil => cases h
  | cons k' keys ih =>
    rw [select, List.filterMap_cons]
    by_cases hk : k = k'
    · subst hk
      cases hv : fields.lookup k with
      | some v => simp
      | none =>
        -- Nothing is found further on either.
        rw [Option.map_none, List.lookup_eq_none_iff]
        intro p hp
        obtain ⟨k', -, hk'⟩ := List.mem_filterMap.1 hp
        obtain ⟨w, hw, rfl⟩ := Option.map_eq_some_iff.1 hk'
        rw [bne_iff_ne]
        rintro rfl
        rw [hv] at hw
        cases hw
    · have ih := ih ((List.mem_cons.1 h).resolve_left hk)
      have hk' : (k == k') = false := beq_eq_false_iff_ne.2 hk
      cases fields.lookup k' with
      | none => exact ih
      | some v =>
        rw [Option.map_some, List.lookup_cons, hk']
        exact ih

theorem mem_keys_select {keys : List String} (h : k ∈ (fields.select keys).keys) : k ∈ keys := by
  obtain ⟨p, hp, rfl⟩ := List.mem_map.1 h
  obtain ⟨k', hk', heq⟩ := List.mem_filterMap.1 hp
  obtain ⟨v, -, rfl⟩ := Option.map_eq_some_iff.1 heq
  exact hk'

theorem lookup_select_of_notMem {keys : List String} (h : k ∉ keys) : (fields.select keys).lookup k = none := by
  rw [List.lookup_eq_none_iff]
  intro p hp
  rw [bne_iff_ne]
  rintro rfl
  exact h (mem_keys_select (List.mem_map_of_mem hp))

theorem select_congr {fields' : Fields} {keys : List String} (h : ∀ k ∈ keys, fields'.lookup k = fields.lookup k) :
    fields'.select keys = fields.select keys := by
  induction keys with
  | nil => rfl
  | cons k keys ih =>
    rw [List.forall_mem_cons] at h
    have ih := ih h.2
    unfold select at ih ⊢
    rw [List.filterMap_cons, List.filterMap_cons, h.1, ih]

theorem mem_keys_erase (h : k ∈ (fields.erase key).keys) : k ∈ fields.keys := by
  obtain ⟨p, hp, rfl⟩ := List.mem_map.1 h
  exact List.mem_map_of_mem (List.mem_filter.1 hp).1

theorem value_select {keys : List String} (h : k ∈ keys) : (fields.select keys).value k = fields.value k := by
  rw [value, value, lookup_select h]

end Fields

end TableQuery
