import TableQuery.Proofs.Filter.Reading

/-!
# What the reader of filters lets through

A filter that is read without complaints fits its configuration (`FilterNode.Accepted`): its columns are columns
of the configuration, each with an operator that its type accepts and an argument that the rule for that
operator yields (`Argument.Fits`), its custom filters are those of the configuration, and no operation in it is
empty. The main statement is `FilterNode.accepted_of_ofJson`.
-/

set_option autoImplicit false

namespace TableQuery

/-! ## Arguments -/

/-- The arguments that an operator takes on columns of a type. -/
def Argument.Fits (t : ColumnType) (o : Operator) : Argument → Prop
  | .nothing => o = .null
  | .one v => o ≠ .null ∧ t.takesList o = false ∧ ∃ r, t.rule? o = some r ∧ r.Yields v
  | .many vs => o ≠ .null ∧ t.takesList o = true ∧ vs ≠ [] ∧ ∃ r, t.rule? o = some r ∧ ∀ v ∈ vs, r.Yields v

namespace FilterNode

/-- **An argument that is read** is none, one operand or a list of them, as the operator takes it. -/
theorem readArgument_eq_ok {t : ColumnType} {o : Operator} {fields : Fields} {a : Argument} :
    readArgument t o fields = .ok a ↔
      o = .null ∧ fields.lookup "val" = none ∧ a = .nothing ∨
      o ≠ .null ∧ ∃ j r, fields.lookup "val" = some j ∧ t.rule? o = some r ∧
        (t.takesList o = false ∧ (∃ v, r.read j = .ok v ∧ a = .one v) ∨
          t.takesList o = true ∧ ∃ values, j = .arr values ∧ values ≠ [] ∧ (∀ k ∈ values, r.Takes k) ∧
            a = .many (r.operands values)) := by
  unfold readArgument
  cases hval : fields.lookup "val" with
  | none =>
    by_cases ho : o = .null
    · simp only [ho, ↓reduceIte, Except.ok.injEq, true_and, ne_eq, not_true_eq_false, false_and, or_false]
      exact eq_comm
    · simp [ho]
  | some j =>
    by_cases ho : o = .null
    · simp [ho]
    cases hr : t.rule? o with
    | none => simp [ho]
    | some r =>
      simp only [ho, ↓reduceIte, Checked.under_eq_ok, false_and, ne_eq, not_false_eq_true, true_and,
        Option.some.injEq, exists_and_left, exists_eq_left', false_or]
      cases hlist : t.takesList o with
      | false =>
        simp only [Bool.false_eq_true, ↓reduceIte, map_eq_ok, readOperand_eq_ok, true_and, false_and, or_false]
        exact exists_congr fun v => and_congr_right fun _ => eq_comm
      | true =>
        simp only [↓reduceIte, Bool.true_eq_false, false_and, true_and, false_or]
        match j with
        | .arr [] => simp [Checked.fail]
        | .arr (v :: vs) =>
          simp only [map_eq_ok, Checked.numbered_eq_ok, Json.arr.injEq, exists_eq_left', reduceCtorEq,
            not_false_eq_true, true_and]
          rw [exists_congr fun ws => and_congr_left fun _ => map_readOperand_eq_ok]
          constructor
          · rintro ⟨_, ⟨htakes, rfl⟩, rfl⟩
            exact ⟨htakes, rfl⟩
          · rintro ⟨htakes, rfl⟩
            exact ⟨_, ⟨htakes, rfl⟩, rfl⟩
        | .null | .bool _ | .num _ | .str _ | .obj _ => simp [Checked.fail]

theorem fits_of_readArgument {t : ColumnType} {o : Operator} {fields : Fields} {a : Argument}
    (h : readArgument t o fields = .ok a) : a.Fits t o := by
  rcases readArgument_eq_ok.1 h with ⟨ho, -, rfl⟩ | ⟨ho, j, r, -, hr, harg⟩
  · exact ho
  · rcases harg with ⟨hlist, v, hv, rfl⟩ | ⟨hlist, values, -, hne, htakes, rfl⟩
    · exact ⟨ho, hlist, r, hr, Rule.yields_of_read hv⟩
    · refine ⟨ho, hlist, ?_, r, hr, fun v hv => ?_⟩
      · obtain ⟨k, hk⟩ := List.exists_mem_of_ne_nil _ hne
        obtain ⟨v, hv⟩ := htakes k hk
        exact List.ne_nil_of_mem (Rule.mem_operands.2 ⟨k, hk, hv⟩)
      · obtain ⟨k, -, hv⟩ := Rule.mem_operands.1 hv
        exact Rule.yields_of_read hv

/-! ## Filters -/

/-- A filter that fits a configuration. -/
inductive Accepted (config : EntityConfig) : FilterNode → Prop
  | const (value : Bool) : Accepted config (.const value)
  | op (all : Bool) {fs : List FilterNode} (inverse : Bool) : fs ≠ [] → (∀ f ∈ fs, Accepted config f) →
      Accepted config (.op all fs inverse)
  | column {c : ColumnDef} {o : Operator} {a : Argument} (inverse : Bool) : c ∈ config.columns →
      c.type.accepts o = true → a.Fits c.type o → Accepted config (.column c o a inverse)
  | custom {d : CustomFilterDef} (params : CustomParams) (inverse : Bool) : d ∈ config.customFilters →
      Accepted config (.custom d params inverse)
  | global (words : List String) (inverse : Bool) :
      Accepted config (.global words (config.searchable.filter (·.isData)) inverse)

variable {config : EntityConfig}

theorem ofKind_eq_ok {known : List String} {fields : Fields} {read : Except Fault (Checked FilterNode)}
    {f : FilterNode} : ofKind known fields read = .ok (.ok f) ↔
      Reader.strangers known .unexpectedField fields ++ inversionErrors fields = [] ∧ read = .ok (.ok f) := by
  cases read with
  | error e => simp [ofKind, Except.map]
  | ok c => simp only [ofKind, Except.map, Except.ok.injEq, Checked.after_eq_ok]

theorem name_eq_ok {j k : Json} : name j = .ok k ↔ j.isContainer = false ∧ j = k := by
  unfold name
  split <;> simp_all

/-- A filter on a column that is read, with all that has been found out about it. -/
theorem readColumnFilter_eq_ok {fields : Fields} {f : FilterNode} :
    readColumnFilter config fields = .ok (.ok f) ↔
      ∃ columnName c symbol o a, fields.value "column" = .str columnName ∧ config.column? columnName = some c ∧
        fields.value "op" = .str symbol ∧ Operator.ofSymbol? symbol = some o ∧ c.type.accepts o = true ∧
        readArgument c.type o fields = .ok a ∧ f = .column c o a (inversion fields) := by
  constructor
  · intro h
    unfold readColumnFilter at h
    obtain ⟨columnName, hname, h⟩ := bind_eq_ok.1 h
    obtain ⟨-, rfl⟩ := name_eq_ok.1 hname
    split at h
    · cases h
    next c hc =>
      obtain ⟨s, hs, hc⟩ := Option.bind_eq_some_iff.1 hc
      dsimp only at h
      split at h
      · cases h
      next o ho =>
        obtain ⟨ho, hacc⟩ := Option.filter_eq_some_iff.1 ho
        obtain ⟨symbol, hsymbol, ho⟩ := Option.bind_eq_some_iff.1 ho
        obtain ⟨a, ha, rfl⟩ := map_eq_ok.1 (Except.ok.inj h)
        exact ⟨s, c, symbol, o, a, Json.str?_eq_some.1 hs, hc, Json.str?_eq_some.1 hsymbol, ho, hacc, ha, rfl⟩
  · rintro ⟨s, c, symbol, o, a, hs, hc, hsymbol, ho, hacc, ha, rfl⟩
    simp [readColumnFilter, name, Json.isContainer, Json.str?, hs, hc, hsymbol, ho, hacc, ha, Option.filter, bind,
      Except.bind, pure, Except.pure, Except.map]

/-- A custom filter that is read is one of the configuration. -/
theorem readCustomFilter_eq_ok {fields : Fields} {f : FilterNode} :
    readCustomFilter config fields = .ok (.ok f) ↔
      ∃ filterName d p, fields.value "customFilter" = .str filterName ∧ config.customFilter? filterName = some d ∧
        d.readParams ((fields.lookup "params").getD (.obj [])) = .ok p ∧ f = .custom d p (inversion fields) := by
  constructor
  · intro h
    unfold readCustomFilter at h
    obtain ⟨filterName, hname, h⟩ := bind_eq_ok.1 h
    obtain ⟨-, rfl⟩ := name_eq_ok.1 hname
    split at h
    · cases h
    next d hd =>
      obtain ⟨s, hs, hd⟩ := Option.bind_eq_some_iff.1 hd
      obtain ⟨p, hp, rfl⟩ := map_eq_ok.1 (Except.ok.inj h)
      exact ⟨s, d, p, Json.str?_eq_some.1 hs, hd, Checked.under_eq_ok.1 hp, rfl⟩
  · rintro ⟨s, d, p, hs, hd, hp, rfl⟩
    have hp' : Checked.under ["params"] _ = .ok p := Checked.under_eq_ok.2 hp
    simp [readCustomFilter, name, Json.isContainer, Json.str?, hs, hd, hp', bind, Except.bind, pure, Except.pure,
      Except.map]

/-- A search that is read goes through the searchable columns. -/
theorem readGlobalFilter_eq_ok {fields : Fields} {f : FilterNode} :
    readGlobalFilter config fields = .ok f ↔
      (fields.value "op").isText Operator.contains.symbol = true ∧ ∃ s, fields.value "val" = .str s ∧
        f = .global (Text.words s) (config.searchable.filter (·.isData)) (inversion fields) := by
  unfold readGlobalFilter
  cases hop : (fields.value "op").isText Operator.contains.symbol with
  | false => simp
  | true =>
    cases hval : fields.value "val" <;> simp [eq_comm]

/-- The fields of a filter object are known ones, and its inversion flag is a truth value. -/
def Tidy (kind : String) (fields : Fields) : Prop :=
  ∃ known, knownFields.lookup kind = some known ∧
    Reader.strangers known .unexpectedField fields ++ inversionErrors fields = []

/-- A filter object that is read is of one of four kinds. -/
theorem ofJson_obj_eq_ok {fields : Fields} {f : FilterNode} :
    ofJson config (.obj fields) = .ok (.ok f) ↔ ∃ kind, fields.value "type" = .str kind ∧ Tidy kind fields ∧
      (kind = "op" ∧ (partsOf config fields).map (readOperation fields) = .ok (.ok f) ∨
        kind = "column" ∧ readColumnFilter config fields = .ok (.ok f) ∨
        kind = "custom" ∧ readCustomFilter config fields = .ok (.ok f) ∨
        kind = "global" ∧ readGlobalFilter config fields = .ok f) := by
  rw [ofJson]
  cases htype : Fields.value fields "type" with
  | str kind =>
    simp only [name, Json.isContainer, Json.str?, Option.bind_some, Bool.false_eq_true, ↓reduceIte]
    by_cases hop : kind = "op"
    · subst hop; simp [knownFields, ofKind_eq_ok, Tidy, List.lookup_cons]
    by_cases hcol : kind = "column"
    · subst hcol; simp [knownFields, ofKind_eq_ok, Tidy, List.lookup_cons]
    by_cases hcustom : kind = "custom"
    · subst hcustom; simp [knownFields, ofKind_eq_ok, Tidy, List.lookup_cons]
    by_cases hglobal : kind = "global"
    · subst hglobal; simp [knownFields, ofKind_eq_ok, Tidy, List.lookup_cons]
    have hnone : knownFields.lookup kind = none := by
      simp [knownFields, List.lookup_cons, beq_eq_false_iff_ne.2 hop, beq_eq_false_iff_ne.2 hcol,
        beq_eq_false_iff_ne.2 hcustom, beq_eq_false_iff_ne.2 hglobal]
    simp [hnone, hop, hcol, hcustom, hglobal]
  | _ => simp [name, Json.isContainer, Json.str?]

theorem column?_mem {columnName : String} {c : ColumnDef} (h : config.column? columnName = some c) :
    c ∈ config.columns :=
  List.mem_reverse.1 (List.mem_of_find?_eq_some h)

theorem customFilter?_mem {filterName : String} {d : CustomFilterDef}
    (h : config.customFilter? filterName = some d) :
    d ∈ config.customFilters := by
  simpa using List.mem_of_find?_eq_some h

/-- A filter object without parts that is read fits. -/
theorem accepted_of_leaf {fields : Fields} {f : FilterNode}
    (h : readColumnFilter config fields = .ok (.ok f) ∨ readCustomFilter config fields = .ok (.ok f) ∨
      readGlobalFilter config fields = .ok f) : Accepted config f := by
  rcases h with h | h | h
  · obtain ⟨_, c, _, o, a, -, hc, -, -, hacc, ha, rfl⟩ := readColumnFilter_eq_ok.1 h
    exact .column _ (column?_mem hc) hacc (fits_of_readArgument ha)
  · obtain ⟨_, d, p, -, hd, -, rfl⟩ := readCustomFilter_eq_ok.1 h
    exact .custom _ _ (customFilter?_mem hd)
  · obtain ⟨-, _, -, rfl⟩ := readGlobalFilter_eq_ok.1 h
    exact .global _ _

/-- **An operation is read iff all its parts are**, of which there is at least one. -/
theorem readParts_eq_ok {fields : Fields} {f : FilterNode} :
    (partsOf config fields).map (readOperation fields) = .ok (.ok f) ↔
      ∃ all items fs, operation? (fields.value "op") = some all ∧ fields.lookup "val" = some (.arr items) ∧
        items ≠ [] ∧ items.map (ofJson config) = fs.map (fun g => .ok (.ok g)) ∧
        f = .op all fs (inversion fields) := by
  constructor
  · intro h
    cases hp : partsOf config fields with
    | error e => rw [hp] at h; cases h
    | ok cs =>
      rw [hp] at h
      obtain ⟨all, fs, hop, rfl, rfl⟩ := readOperation_eq_ok.1 (Except.ok.inj h)
      obtain ⟨items, hval, hne, hitems⟩ := partsOf_eq_ok.1 hp
      exact ⟨all, items, fs, hop, hval, hne, by rw [ofItems_eq_ok.1 hitems, List.map_map]; rfl, rfl⟩
  · rintro ⟨all, items, fs, hop, hval, hne, hitems, rfl⟩
    have hp : partsOf config fields = .ok (some (fs.map .ok)) :=
      partsOf_eq_ok.2 ⟨items, hval, hne, ofItems_eq_ok.2 (by rw [hitems, List.map_map]; rfl)⟩
    rw [hp]
    exact congrArg Except.ok (readOperation_eq_ok.2 ⟨all, fs, hop, rfl, rfl⟩)

/-- **A filter that is read without complaints fits its configuration.** -/
theorem accepted_of_ofJson {j : Json} : ∀ {f : FilterNode}, ofJson config j = .ok (.ok f) → Accepted config f := by
  induction j using Json.filter_induct with
  | other j hj =>
    intro f h
    cases j with
    | str s =>
      rw [ofJson] at h
      split at h
      · cases h; exact .const true
      · split at h
        · cases h; exact .const false
        · cases h
    | obj fields => cases hj
    | _ => simp [ofJson, Checked.fail] at h
  | obj fields ih =>
    intro f h
    obtain ⟨kind, -, -, ⟨-, h⟩ | h⟩ := ofJson_obj_eq_ok.1 h
    · obtain ⟨all, items, fs, -, hval, hne, hitems, rfl⟩ := readParts_eq_ok.1 h
      refine .op all _ ?_ fun f hf => ?_
      · rintro rfl
        exact hne (List.map_eq_nil_iff.1 hitems)
      · obtain ⟨j, hj, hjf⟩ := List.mem_map.1 (hitems ▸ List.mem_map_of_mem hf)
        exact ih items hval j hj hjf
    · exact accepted_of_leaf (h.imp And.right (Or.imp And.right And.right))

end FilterNode

end TableQuery
