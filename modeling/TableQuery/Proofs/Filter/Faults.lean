import TableQuery.Proofs.Filter.Acceptance

/-!
# Filters that end their reading

A list or an object that stands for the type of a filter, for a column or for a custom filter ends the reading of
filters (`FilterNode.name`). `Json.Misnames` says where such a value must stand: in the filter itself, or in a part
of it, whatever else is wrong with the operations around that part. These are the only filters whose reading ends,
and it always ends with the same fault (`FilterNode.ofJson_eq_error`).
-/

set_option autoImplicit false

namespace TableQuery

/-- A filter in which a list or an object stands for a name that is looked up. -/
inductive Json.Misnames : Json → Prop
  | type {fields : Fields} : (fields.value "type").isContainer = true → Misnames (.obj fields)
  | column {fields : Fields} : fields.value "type" = .str "column" → (fields.value "column").isContainer = true →
      Misnames (.obj fields)
  | custom {fields : Fields} : fields.value "type" = .str "custom" →
      (fields.value "customFilter").isContainer = true → Misnames (.obj fields)
  | part {fields : Fields} {items : List Json} {j : Json} : fields.value "type" = .str "op" →
      fields.lookup "val" = some (.arr items) → j ∈ items → Misnames j → Misnames (.obj fields)

/-- A list or an object stands for a name in the filter itself, or in one of its parts. -/
theorem Json.misnames_obj {fields : Fields} {kind : String} (htype : fields.value "type" = .str kind) :
    Misnames (.obj fields) ↔
      kind = "column" ∧ (fields.value "column").isContainer = true ∨
        kind = "custom" ∧ (fields.value "customFilter").isContainer = true ∨
        kind = "op" ∧ ∃ items, fields.lookup "val" = some (.arr items) ∧ ∃ j ∈ items, Misnames j := by
  constructor
  · intro h
    cases h with
    | type h =>
      rw [htype] at h
      cases h
    | column h hcolumn =>
      rw [htype, Json.str.injEq] at h
      exact Or.inl ⟨h, hcolumn⟩
    | custom h hcustom =>
      rw [htype, Json.str.injEq] at h
      exact Or.inr (Or.inl ⟨h, hcustom⟩)
    | part h hval hj hmisnames =>
      rw [htype, Json.str.injEq] at h
      exact Or.inr (Or.inr ⟨h, _, hval, _, hj, hmisnames⟩)
  · rintro (⟨rfl, h⟩ | ⟨rfl, h⟩ | ⟨rfl, items, hval, j, hj, h⟩)
    · exact .column htype h
    · exact .custom htype h
    · exact .part htype hval hj h

namespace FilterNode

variable {config : EntityConfig} {fields : Fields} {fault : Fault}

theorem name_eq_error {j : Json} : name j = .error fault ↔ fault = .wrongKind ∧ j.isContainer = true := by
  rw [name]
  cases j.isContainer with
  | false => simp
  | true => simp only [↓reduceIte, Except.error.injEq, and_true, eq_comm]

theorem readColumnFilter_eq_error :
    readColumnFilter config fields = .error fault ↔
      fault = .wrongKind ∧ (fields.value "column").isContainer = true := by
  rw [readColumnFilter, bind_eq_error, name_eq_error]
  constructor
  · rintro (h | ⟨columnName, -, h⟩)
    · exact h
    · split at h
      · cases h
      · dsimp only at h
        split at h <;> cases h
  · exact Or.inl

theorem readCustomFilter_eq_error :
    readCustomFilter config fields = .error fault ↔
      fault = .wrongKind ∧ (fields.value "customFilter").isContainer = true := by
  rw [readCustomFilter, bind_eq_error, name_eq_error]
  constructor
  · rintro (h | ⟨filterName, -, h⟩)
    · exact h
    · split at h <;> cases h
  · exact Or.inl

/-- The reading of filters ends if that of one of them does. -/
theorem ofItems_eq_error {js : List Json}
    (h : ∀ j ∈ js, ∀ f, ofJson config j = .error f ↔ f = .wrongKind ∧ j.Misnames) :
    ofItems config js = .error fault ↔ fault = .wrongKind ∧ ∃ j ∈ js, j.Misnames := by
  induction js with
  | nil => simp [ofItems]
  | cons j js ih =>
    have hfirst := h j List.mem_cons_self
    have ih := ih fun k hk => h k (List.mem_cons_of_mem _ hk)
    rw [ofItems]
    cases hj : ofJson config j with
    | error f =>
      obtain ⟨rfl, hmisnames⟩ := (hfirst f).1 hj
      constructor
      · intro hfault
        cases hfault
        exact ⟨rfl, j, List.mem_cons_self, hmisnames⟩
      · rintro ⟨rfl, -⟩
        rfl
    | ok c =>
      have hnot : ¬ j.Misnames := fun hmisnames => by
        rw [(hfirst _).2 ⟨rfl, hmisnames⟩] at hj
        cases hj
      simp only [map_eq_error, ih, List.mem_cons, exists_eq_or_imp, hnot, false_or]

/-- The reading of an operation ends if that of one of its parts does, whatever the operation is. -/
theorem partsOf_eq_error
    (h : ∀ items, fields.lookup "val" = some (.arr items) → ∀ j ∈ items, ∀ f,
      ofJson config j = .error f ↔ f = .wrongKind ∧ j.Misnames) :
    partsOf config fields = .error fault ↔
      fault = .wrongKind ∧ ∃ items, fields.lookup "val" = some (.arr items) ∧ ∃ j ∈ items, j.Misnames := by
  rw [partsOf_eq_lookup]
  split
  next hval => simp [hval]
  next items _ hval =>
    simp only [map_eq_error, ofItems_eq_error (h items hval), hval, Option.some.injEq, Json.arr.injEq,
      exists_eq_left']
  next hnot =>
    constructor
    · intro hfault
      cases hfault
    · rintro ⟨-, items, hval, -⟩
      exact (hnot items hval).elim

/-- **The reading of a filter ends iff the filter misnames**, and then for one reason only. -/
theorem ofJson_eq_error {j : Json} :
    ofJson config j = .error fault ↔ fault = .wrongKind ∧ j.Misnames := by
  induction j using Json.filter_induct generalizing fault with
  | other j hj =>
    have hnot : ¬ j.Misnames := by
      intro h
      cases h <;> cases hj
    cases j with
    | obj fields => cases hj
    | _ => simp [ofJson, hnot]
  | obj fields ih =>
    have ih := fun items hval j hj f => @ih items hval j hj f
    rw [ofJson]
    cases htype : Fields.value fields "type" with
    | arr items =>
      have hmisnames : (Json.obj fields).Misnames := .type (by rw [htype]; rfl)
      simp [name, Json.isContainer, hmisnames, eq_comm]
    | obj inner =>
      have hmisnames : (Json.obj fields).Misnames := .type (by rw [htype]; rfl)
      simp [name, Json.isContainer, hmisnames, eq_comm]
    | str kind =>
      have hname : name (.str kind) = .ok (.str kind) := rfl
      rw [Json.misnames_obj htype, hname]
      simp only [Json.str?, Option.bind_some]
      by_cases hop : kind = "op"
      · subst hop
        simp [knownFields, ofKind, map_eq_error, partsOf_eq_error ih]
      by_cases hcolumn : kind = "column"
      · subst hcolumn
        simp [knownFields, ofKind, List.lookup_cons, map_eq_error, readColumnFilter_eq_error]
      by_cases hcustom : kind = "custom"
      · subst hcustom
        simp [knownFields, ofKind, List.lookup_cons, map_eq_error, readCustomFilter_eq_error]
      -- What is left are searches and filters of no known type, which name nothing.
      simp only [hop, hcolumn, hcustom, false_and, or_self, and_false, iff_false]
      split
      · simp
      next kind' known hkind =>
        obtain ⟨known', -, heq⟩ := Option.map_eq_some_iff.1 hkind
        obtain ⟨rfl, -⟩ := Prod.mk.inj heq
        simp [ofKind, hop, hcolumn, hcustom, Except.map]
    | _ =>
      have hnot : ¬ (Json.obj fields).Misnames := by
        intro h
        cases h <;> simp_all [Json.isContainer]
      simp [name, Json.isContainer, Json.str?, hnot]

end FilterNode

end TableQuery
