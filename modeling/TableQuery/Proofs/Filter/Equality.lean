import TableQuery.Proofs.Filter.Search

/-!
# Equality with and without regard to case

A text column is compared with an operand as it is, or with both of them folded. The operand is folded by `Text.lower`
and the column by `Text.foldAscii`, so that a value need not be equal to itself: it is iff lower case changes nothing in
it but ASCII letters (`FilterNode.holds_equal_of_exact`).
-/

set_option autoImplicit false

namespace TableQuery

open Sql (Clause Env Scalar Store Value)

/-! ## Operators -/

section Rows

variable {store : Store} {env : Env} {t : ColumnType} {s : Scalar} {x : String}

theorem ColumnType.equals_text_iff (ht : t.kind = .string) {y : String} (hx : s.value store env 1 = .text x) :
    t.Equals store env s (.text y) ↔ Text.foldAscii x = Text.lower y := by
  have hoperand : t.equalityOperand (.text y) = .text (Text.lower y) := by
    unfold equalityOperand
    simp only [ht]
  have hvalue : (t.equalityTerm s).value store env = .text (Text.foldAscii x) := by
    rw [equalityTerm, if_pos ht, Sql.Term.value, hx]
    rfl
  rw [Equals, hoperand, hvalue, Value.ofOperand, Sql.compareTruth_text, Value.text.injEq]

theorem Argument.Fits.exists_text {o : Operator} {a : Argument} (h : a.Fits t o) (ht : t.kind = .string)
    (ho : o.needsTrimmed = true) (htextual : o.isTextual = false) : ∀ v ∈ a.operands, ∃ y, v = .text y := by
  have hrule : t.rule? o = some .trimmed := by
    rw [ColumnType.rule?, htextual, ht]
    simp [ho]
  have hyields : ∀ v ∈ a.operands, Rule.trimmed.Yields v := by
    cases a with
    | nothing => exact List.forall_mem_nil _
    | one v =>
      obtain ⟨-, -, r, hr, hv⟩ := h
      obtain rfl : r = .trimmed := Option.some.inj (hr.symm.trans hrule)
      exact List.forall_mem_singleton.2 hv
    | many vs =>
      obtain ⟨-, -, -, r, hr, hvs⟩ := h
      obtain rfl : r = .trimmed := Option.some.inj (hr.symm.trans hrule)
      exact hvs
  intro v hv
  cases v with
  | text y => exact ⟨y, rfl⟩
  | _ => cases hyields _ hv

namespace Operator

theorem holds_exact : (Operator.exact.clause t (.value s) (.one (.text x))).holds store env = true ↔
    s.value store env 1 = .text x := by
  have hthere : Operand.text x ≠ .null := nofun
  rw [clause_comparison rfl hthere, Clause.holds, Clause.truth, beq_iff_eq]
  exact Sql.compareTruth_text

end Operator

end Rows

/-! ## Filters -/

namespace Entity

/-- What a filter for users with exactly some name is read as. -/
theorem readColumnFilter_nameExact {name : String} (h : Text.isTrimmed name = true) :
    FilterNode.readColumnFilter users.config (whereName .exact (.str name)) =
      .ok (.ok (.column nameColumn .exact (.one (.text name)) false)) :=
  have hread : Rule.trimmed.read (.str name) = .ok (.text name) := if_pos h
  readColumnFilter_whereName (by decide) (FilterNode.readArgument_one (by decide) (by decide) (by decide) hread _ rfl)

end Entity

namespace FilterNode

/-- A filter is read with another operator that takes the same operands. -/
theorem readColumnFilter_setOperator {config : EntityConfig} {fields : Fields} {c : ColumnDef} {o o' : Operator}
    {v : Operand} {inverse : Bool}
    (hread : readColumnFilter config fields = .ok (.ok (.column c o (.one v) inverse))) (hnull : o' ≠ .null)
    (haccepts : c.type.accepts o' = true) (hrule : c.type.rule? o' = c.type.rule? o)
    (hlist : c.type.takesList o' = false) :
    readColumnFilter config (fields.set "op" (.str o'.symbol)) = .ok (.ok (.column c o' (.one v) inverse)) := by
  obtain ⟨name, c', symbol, _, a, hname, hc, -, -, -, ha, hf⟩ := readColumnFilter_eq_ok.1 hread
  obtain ⟨rfl, rfl, rfl, rfl⟩ := FilterNode.column.inj hf
  have hlookup : ∀ k ≠ "op", (fields.set "op" (.str o'.symbol)).lookup k = fields.lookup k := fun k hk =>
    Fields.lookup_set_ne hk
  have harg : readArgument c.type o' (fields.set "op" (.str o'.symbol)) = .ok (.one v) := by
    obtain ⟨-, -, h⟩ | ⟨-, j, r, hj, hr, ⟨-, w, hw, h⟩ | ⟨-, _, -, -, -, h⟩⟩ := readArgument_eq_ok.1 ha
    · cases h
    · obtain rfl := Argument.one.inj h
      exact readArgument_one hnull (hrule.trans hr) hlist hw _ ((hlookup "val" (by decide)).trans hj)
    · cases h
  refine readColumnFilter_eq_ok.2 ⟨name, c, o'.symbol, o', .one v, ?_, hc, ?_, Operator.ofSymbol?_symbol o', haccepts,
    harg, ?_⟩
  · rwa [Fields.value, hlookup "column" (by decide)]
  · rw [Fields.value, Fields.lookup_set_self]
    rfl
  · rw [inversion, inversion, hlookup "inv" (by decide)]

/-- **Equality without regard to case is not always coarser than exact equality.** A value that is exactly an operand
is equal to it iff lower case changes nothing in it but ASCII letters, and one of a list with the operand iff the lower
case form of some member is its folded form. -/
theorem holds_equal_of_exact {config : EntityConfig} {fields : Fields} {c : ColumnDef} {v : Operand} {inverse : Bool}
    (hread : readColumnFilter config fields = .ok (.ok (.column c .exact (.one v) inverse)))
    (hkind : c.type.kind = .string) {s : Scalar} (hsource : c.source = .value s) {store : Store} {env : Env}
    (hexact : (Operator.exact.clause c.type c.source (.one v)).holds store env = true) :
    ∃ x, v = .text x ∧ s.value store env 1 = .text x ∧
      readColumnFilter config (fields.set "op" (.str Operator.equal.symbol)) =
        .ok (.ok (.column c .equal (.one v) inverse)) ∧
      ((Operator.equal.clause c.type c.source (.one v)).holds store env = true ↔
        Text.foldsAlike x = true) ∧
      ∀ {fields' : Fields} {vs : List Operand} {inverse' : Bool},
        readColumnFilter config fields' = .ok (.ok (.column c .oneOf (.many vs) inverse')) → v ∈ vs →
        ((Operator.oneOf.clause c.type c.source (.many vs)).holds store env = true ↔
          ∃ y, .text y ∈ vs ∧ Text.lower y = Text.foldAscii x) ∧
        (Text.foldsAlike x = true →
          (Operator.oneOf.clause c.type c.source (.many vs)).holds store env = true) := by
  obtain ⟨name, c', symbol, o', a', hname, hc, hsymbol, -, haccepts, ha, hf⟩ := readColumnFilter_eq_ok.1 hread
  obtain ⟨rfl, rfl, rfl, rfl⟩ := FilterNode.column.inj hf
  have hfits := fits_of_readArgument ha
  obtain ⟨x, rfl⟩ := hfits.exists_text hkind rfl rfl v List.mem_cons_self
  rw [hsource] at hexact ⊢
  have hx := Operator.holds_exact.1 hexact
  have halike : Text.foldAscii x = Text.lower x ↔ Text.foldsAlike x = true := by
    rw [eq_comm, Text.lower_eq_foldAscii_iff]
  have hne : Operand.text x ≠ .null := nofun
  refine ⟨x, rfl, hx, ?_, ?_, ?_⟩
  · refine readColumnFilter_setOperator hread nofun ?_ ?_ ?_
    · simp [ColumnType.accepts, hkind, Kind.accepts]
    · simp [ColumnType.rule?, hkind, Operator.isTextual, Operator.needsTrimmed]
    · simp [ColumnType.takesList, ColumnType.isList, hkind, Operator.takesList, Kind.isList]
  · rw [Operator.holds_equal store env hne, ColumnType.equals_text_iff hkind hx, halike]
  · intro fields' vs inverse' hread' hmem
    obtain ⟨_, _, _, _, _, -, -, -, -, -, ha', hf'⟩ := readColumnFilter_eq_ok.1 hread'
    obtain ⟨rfl, rfl, rfl, rfl⟩ := FilterNode.column.inj hf'
    have htexts := (fits_of_readArgument ha').exists_text hkind rfl rfl
    rw [Operator.holds_oneOf store env]
    constructor
    · constructor
      · rintro ⟨w, hw, hequals⟩
        obtain ⟨y, rfl⟩ := htexts w hw
        exact ⟨y, hw, ((ColumnType.equals_text_iff hkind hx).1 hequals).symm⟩
      · rintro ⟨y, hy, hfolded⟩
        exact ⟨.text y, hy, (ColumnType.equals_text_iff hkind hx).2 hfolded.symm⟩
    · exact fun h => ⟨.text x, hmem, (ColumnType.equals_text_iff hkind hx).2 (halike.2 h)⟩

/-- A name in ASCII letters is equal to itself, alone and in a list. -/
theorem holds_equal_of_exact_asciiName :
    (Operator.equal.clause Entity.nameColumn.type Entity.nameColumn.source (.one (.text "Anna"))).holds {}
      (Entity.namedEnv "Anna") = true ∧
    (Operator.oneOf.clause Entity.nameColumn.type Entity.nameColumn.source (.many [.text "Ewa", .text "Anna"])).holds {}
      (Entity.namedEnv "Anna") = true := by
  have hexact : (Operator.exact.clause Entity.nameColumn.type Entity.nameColumn.source (.one (.text "Anna"))).holds {}
      (Entity.namedEnv "Anna") = true := by
    decide +kernel
  have htakes : ∀ j ∈ [Json.str "Ewa", .str "Anna"], Rule.trimmed.Takes j :=
    List.forall_mem_cons.2 ⟨⟨.text "Ewa", rfl⟩, List.forall_mem_singleton.2 ⟨.text "Anna", rfl⟩⟩
  have hne : [Json.str "Ewa", .str "Anna"] ≠ [] := by simp
  have hlist : readColumnFilter Entity.users.config (Entity.whereName .oneOf (.arr [.str "Ewa", .str "Anna"])) =
      .ok (.ok (.column Entity.nameColumn .oneOf (.many [.text "Ewa", .text "Anna"]) false)) :=
    Entity.readColumnFilter_whereName (by decide)
      (readArgument_many (o := .oneOf) (by decide) (by decide) (by decide) hne htakes _ rfl)
  obtain ⟨x, hx, -, -, hequal, honeOf⟩ := holds_equal_of_exact (Entity.readColumnFilter_nameExact (by decide))
    (by decide) Entity.source_nameColumn hexact
  obtain rfl := Operand.text.inj hx
  exact ⟨hequal.2 (by decide), (honeOf hlist (by simp)).2 (by decide)⟩

/-- A name with a letter beyond ASCII is exactly itself, and neither equal to itself nor in a list with it. -/
theorem not_holds_equal_accentedName :
    readColumnFilter Entity.users.config (Entity.whereName .exact (.str "Ć")) =
      .ok (.ok (.column Entity.nameColumn .exact (.one (.text "Ć")) false)) ∧
    (Operator.exact.clause Entity.nameColumn.type Entity.nameColumn.source (.one (.text "Ć"))).holds {}
      (Entity.namedEnv "Ć") = true ∧
    (Operator.equal.clause Entity.nameColumn.type Entity.nameColumn.source (.one (.text "Ć"))).holds {}
      (Entity.namedEnv "Ć") = false ∧
    (Operator.oneOf.clause Entity.nameColumn.type Entity.nameColumn.source (.many [.text "Ć"])).holds {}
      (Entity.namedEnv "Ć") = false :=
  ⟨Entity.readColumnFilter_nameExact (by decide), by decide +kernel, by decide +kernel, by decide +kernel⟩

end FilterNode

end TableQuery
