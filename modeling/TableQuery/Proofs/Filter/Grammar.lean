import TableQuery.Proofs.Entity.Schema
import TableQuery.Proofs.Filter.Written
import TableQuery.Proofs.Request.Written

/-!
# The grammar of filters

Which filters can be written for a configuration, and which tree each of them stands for (`EntityConfig.Derives`): the
two constants, operations on at least one filter, and filters on columns, of the server and for texts, each with the
fields of its kind. The reader accepts exactly these, and reads each as its tree (`FilterNode.ofJson_eq_ok_iff`).
-/

set_option autoImplicit false

namespace TableQuery

/-! ## What may be written -/

/-- The fields of a filter object: they name its kind, all of them are known for that kind, and the flag of its
inversion is a truth value if there is one. -/
structure Fields.Heads (fields : Fields) (kind : String) (known : List String) (inverse : Bool) : Prop where
  kind : fields.lookup "type" = some (.str kind)
  known : ∀ k ∈ fields.keys, k ∈ known
  inverse : fields.lookup "inv" = none ∧ inverse = false ∨ fields.lookup "inv" = some (.bool inverse)

/-- What may be written as the value of an operator on columns of a type: nothing for `null`, and else one operand or a
list of at least one, as the operator takes it, each of which the rule for it lets through. -/
inductive Argument.Derives (t : ColumnType) (o : Operator) : Option Json → Argument → Prop
  | nothing : o = .null → Derives t o none .nothing
  | one {r : Rule} {j : Json} {v : Operand} : o ≠ .null → t.takesList o = false → t.rule? o = some r →
      r.read j = .ok v → Derives t o (some j) (.one v)
  | many {r : Rule} {items : List Json} {vs : List Operand} : o ≠ .null → t.takesList o = true → t.rule? o = some r →
      items ≠ [] → List.Forall₂ (fun j v => r.read j = .ok v) items vs → Derives t o (some (.arr items)) (.many vs)

/-- What may be written as the parameters of a search for members: at least one text that is looked for, and the kind of
a member unless that does not matter. -/
structure MemberSearch.Derives (search : MemberSearch) (params : Fields) (p : CustomParams) : Prop where
  known : ∀ k ∈ params.keys, k ∈ [search.wantedKey, search.kindKey]
  wanted : params.lookup search.wantedKey = some (.arr (p.wanted.map .str)) ∧ p.wanted ≠ []
  kind : (params.lookup search.kindKey = none ∨ params.lookup search.kindKey = some .null) ∧ p.kind = none ∨
    ∃ k, params.lookup search.kindKey = some (.str k) ∧ p.kind = some k
  others : p.others = []

/-- **The grammar of filters**: what may be written for a configuration, and the tree that it stands for. -/
inductive EntityConfig.Derives (config : EntityConfig) : Json → FilterNode → Prop
  | const (value : Bool) : Derives config (.str (constText value)) (.const value)
  | op {fields : Fields} {inverse all : Bool} {items : List Json} {fs : List FilterNode} :
      fields.Heads "op" ["type", "op", "val", "inv"] inverse →
      fields.lookup "op" = some (.str (operationSymbol all)) → fields.lookup "val" = some (.arr items) → items ≠ [] →
      List.Forall₂ (Derives config) items fs → Derives config (.obj fields) (.op all fs inverse)
  | column {fields : Fields} {inverse : Bool} {c : ColumnDef} {o : Operator} {a : Argument} :
      fields.Heads "column" ["type", "column", "op", "val", "inv"] inverse →
      c ∈ config.columns → fields.lookup "column" = some (.str c.name) →
      c.type.accepts o = true → fields.lookup "op" = some (.str o.symbol) →
      Argument.Derives c.type o (fields.lookup "val") a → Derives config (.obj fields) (.column c o a inverse)
  | custom {fields : Fields} {inverse : Bool} {name : String} {d : CustomFilterDef} {p : CustomParams} :
      fields.Heads "custom" ["type", "customFilter", "params", "inv"] inverse →
      fields.lookup "customFilter" = some (.str name) → config.customFilter? name = some d →
      d.readParams ((fields.lookup "params").getD (.obj [])) = .ok p →
      Derives config (.obj fields) (.custom d p inverse)
  | global {fields : Fields} {inverse : Bool} {text : String} :
      fields.Heads "global" ["type", "op", "val", "inv"] inverse →
      fields.lookup "op" = some (.str Operator.contains.symbol) → fields.lookup "val" = some (.str text) →
      Derives config (.obj fields) (.global (Text.words text) (config.searchable.filter (·.isData)) inverse)

/-! ## The parts of a filter -/

theorem Fields.value_eq_str {fields : Fields} {key s : String} :
    fields.value key = .str s ↔ fields.lookup key = some (.str s) := by
  rw [Fields.value]
  cases fields.lookup key <;> simp

theorem Operator.eq_symbol_of_ofSymbol? {s : String} {o : Operator} (h : ofSymbol? s = some o) : s = o.symbol := by
  have hsymbol := List.find?_some h
  exact (beq_iff_eq.1 hsymbol).symm

/-- The fields of an object of a kind are known for it, and tell the inversion. -/
theorem Fields.heads_iff {fields : Fields} {kind : String} {known : List String} {inverse : Bool} :
    fields.Heads kind known inverse ↔ fields.value "type" = .str kind ∧
      Reader.strangers known .unexpectedField fields ++ FilterNode.inversionErrors fields = [] ∧
      inverse = FilterNode.inversion fields := by
  rw [List.append_eq_nil_iff, FilterNode.strangers_eq_nil, FilterNode.inversionErrors_eq_nil, FilterNode.inversion,
    Fields.value_eq_str]
  constructor
  · rintro ⟨hkind, hknown, ⟨hnone, rfl⟩ | hsome⟩
    · exact ⟨hkind, ⟨hknown, Or.inl hnone⟩, by rw [hnone]⟩
    · exact ⟨hkind, ⟨hknown, Or.inr ⟨inverse, hsome⟩⟩, by rw [hsome]⟩
  · rintro ⟨hkind, ⟨hknown, hnone | ⟨b, hsome⟩⟩, rfl⟩
    · exact ⟨hkind, hknown, Or.inl ⟨hnone, by rw [hnone]⟩⟩
    · exact ⟨hkind, hknown, Or.inr (by rw [hsome])⟩

theorem Rule.forall₂_read_iff {r : Rule} {items : List Json} {vs : List Operand} :
    List.Forall₂ (fun j v => r.read j = .ok v) items vs ↔ (∀ j ∈ items, r.Takes j) ∧ vs = r.operands items := by
  rw [← FilterNode.map_readOperand_eq_ok]
  induction items generalizing vs with
  | nil => cases vs <;> simp
  | cons j items ih =>
    cases vs with
    | nil => simp
    | cons v vs =>
      rw [List.forall₂_cons, ih, List.map_cons, List.map_cons, List.cons.injEq, FilterNode.readOperand_eq_ok]

namespace MemberSearch

theorem list_text_eq_ok {j : Json} {wanted : List String} :
    Reader.list Reader.text true j = .ok wanted ↔ j = .arr (wanted.map .str) ∧ wanted ≠ [] := by
  have htext : ∀ {item : Json} {s : String}, Reader.text item = .ok s ↔ item = .str s := by
    intro item s
    cases item <;> simp [Reader.text, Checked.fail]
  have hitems : ∀ {items : List Json} {wanted : List String},
      items.map Reader.text = wanted.map .ok ↔ items = wanted.map .str := by
    intro items
    induction items with
    | nil => simp [eq_comm]
    | cons item items ih =>
      intro wanted
      cases wanted with
      | nil => simp
      | cons s wanted => simp [htext, ih]
  cases j with
  | arr items =>
    rw [Reader.list, Json.arr.injEq, ← hitems, ← Checked.numbered_eq_ok]
    cases items with
    | nil => cases wanted <;> simp [Checked.fail, Checked.numbered, Checked.all]
    | cons item items =>
      rw [if_neg (by simp), iff_self_and, Checked.numbered_eq_ok]
      rintro h rfl
      cases h
  | _ => simp [Reader.list, Checked.fail]

theorem nullable_text_eq_ok {j : Json} {kind : Option String} :
    Reader.nullable Reader.text j = .ok kind ↔ j = .null ∧ kind = none ∨ ∃ k, j = .str k ∧ kind = some k := by
  cases j <;> simp [Reader.nullable, Reader.text, Checked.fail, Except.map, eq_comm]

theorem optional_text_eq_ok {fields : Fields} {key : String} {kind : Option String} :
    Reader.optional fields key none (Reader.nullable Reader.text) = .ok kind ↔
      (fields.lookup key = none ∨ fields.lookup key = some .null) ∧ kind = none ∨
        ∃ k, fields.lookup key = some (.str k) ∧ kind = some k := by
  rw [Reader.optional_eq_ok]
  cases fields.lookup key <;> simp [nullable_text_eq_ok]

variable {search : MemberSearch} {p : CustomParams}

theorem readParams_obj_eq_ok {fields : Fields} : search.readParams (.obj fields) = .ok p ↔ search.Derives fields p := by
  rw [readParams, Reader.record, Reader.closed_eq_ok]
  constructor
  · rintro ⟨hknown, h⟩
    obtain ⟨⟨wanted, kind⟩, hboth, rfl⟩ := map_eq_ok.1 h
    obtain ⟨hwanted, hkind⟩ := Checked.both_eq_ok.1 hboth
    obtain ⟨j, hj, hread⟩ := Reader.required_eq_ok.1 hwanted
    obtain ⟨rfl, hne⟩ := list_text_eq_ok.1 hread
    exact ⟨hknown, ⟨hj, hne⟩, optional_text_eq_ok.1 hkind, rfl⟩
  · obtain ⟨wanted, kind, others⟩ := p
    rintro ⟨hknown, ⟨hwanted, hne⟩, hkind, hothers⟩
    cases hothers
    refine ⟨hknown, map_eq_ok.2 ⟨(wanted, kind), Checked.both_eq_ok.2 ⟨?_, optional_text_eq_ok.2 hkind⟩, rfl⟩⟩
    exact Reader.required_eq_ok.2 ⟨_, hwanted, list_text_eq_ok.2 ⟨rfl, hne⟩⟩

/-- **Parameters of a search are read iff they may be written.** Missing ones are none at all, and then nothing is
looked for. -/
theorem readParams_eq_ok {params : Option Json} : search.readParams (params.getD (.obj [])) = .ok p ↔
    ∃ fields, params = some (.obj fields) ∧ search.Derives fields p := by
  have hnothing : ¬ search.Derives [] p := fun h => by cases h.wanted.1
  cases params with
  | none =>
    rw [Option.getD_none, readParams_obj_eq_ok]
    exact iff_of_false hnothing (by simp)
  | some j =>
    rw [Option.getD_some]
    cases j with
    | obj fields => simp [readParams_obj_eq_ok]
    | _ => simp [readParams, Reader.record, Checked.fail]

end MemberSearch

namespace FilterNode

/-- **An argument is read iff it may be written.** -/
theorem readArgument_eq_ok_iff {t : ColumnType} {o : Operator} {fields : Fields} {a : Argument} :
    readArgument t o fields = .ok a ↔ Argument.Derives t o (fields.lookup "val") a := by
  rw [readArgument_eq_ok]
  constructor
  · rintro (⟨ho, hval, rfl⟩ | ⟨ho, j, r, hval, hr, hargument⟩)
    · exact hval ▸ .nothing ho
    · rcases hargument with ⟨hone, v, hv, rfl⟩ | ⟨hmany, items, rfl, hne, htakes, rfl⟩
      · exact hval ▸ .one ho hone hr hv
      · exact hval ▸ .many ho hmany hr hne (Rule.forall₂_read_iff.2 ⟨htakes, rfl⟩)
  · generalize hval : fields.lookup "val" = value
    rintro (ho | ⟨ho, hone, hr, hv⟩ | ⟨ho, hmany, hr, hne, hvs⟩)
    · exact Or.inl ⟨ho, rfl, rfl⟩
    · exact Or.inr ⟨ho, _, _, rfl, hr, Or.inl ⟨hone, _, hv, rfl⟩⟩
    · obtain ⟨htakes, rfl⟩ := Rule.forall₂_read_iff.1 hvs
      exact Or.inr ⟨ho, _, _, rfl, hr, Or.inr ⟨hmany, _, rfl, hne, htakes, rfl⟩⟩

/-! ## Filters -/

theorem operation?_operationSymbol (all : Bool) : operation? (.str (operationSymbol all)) = some all := by
  cases all <;> rfl

variable {config : EntityConfig}

/-- The fields of an object of some kind are those that an object of this kind may have. -/
theorem heads_iff_tidy {fields : Fields} {kind : String} {known : List String} {inverse : Bool}
    (hknown : knownFields.lookup kind = some known) : fields.Heads kind known inverse ↔
      (fields.value "type" = .str kind ∧ Tidy kind fields) ∧ inverse = inversion fields := by
  rw [Fields.heads_iff, Tidy, hknown, and_assoc]
  simp

/-- Filters are read iff they are derived, if this is so for each of them. -/
theorem forall₂_iff_of_items {items : List Json}
    (h : ∀ j ∈ items, ∀ {f : FilterNode}, ofJson config j = .ok (.ok f) ↔ config.Derives j f) :
    ∀ {fs : List FilterNode}, items.map (ofJson config) = fs.map (fun f => .ok (.ok f)) ↔
      List.Forall₂ config.Derives items fs := by
  induction items with
  | nil =>
    intro fs
    cases fs <;> simp
  | cons j items ih =>
    obtain ⟨hj, hitems⟩ := List.forall_mem_cons.1 h
    intro fs
    cases fs with
    | nil => simp
    | cons f fs => rw [List.map_cons, List.map_cons, List.cons.injEq, hj, ih hitems, List.forall₂_cons]

/-- **The reader accepts exactly the grammar**, and reads each filter as the tree that it stands for. -/
theorem ofJson_eq_ok_iff (hnames : (config.columns.map (·.name)).Nodup) {j : Json} :
    ∀ {f : FilterNode}, ofJson config j = .ok (.ok f) ↔ config.Derives j f := by
  induction j using Json.filter_induct with
  | other j hj =>
    intro f
    constructor
    · intro h
      cases j with
      | str s =>
        rw [ofJson] at h
        split at h
        next hs =>
          cases h
          exact beq_iff_eq.1 hs ▸ .const true
        next =>
          split at h
          next hs =>
            cases h
            exact beq_iff_eq.1 hs ▸ .const false
          next => cases h
      | obj fields => cases hj
      | _ => simp [ofJson, Checked.fail] at h
    · intro h
      cases h with
      | const value => cases value <;> rfl
      | _ => cases hj
  | obj fields ih =>
    intro f
    rw [ofJson_obj_eq_ok]
    constructor
    · rintro ⟨kind, htype, htidy, ⟨rfl, h⟩ | ⟨rfl, h⟩ | ⟨rfl, h⟩ | ⟨rfl, h⟩⟩
      · obtain ⟨all, items, fs, hop, hval, hne, hitems, rfl⟩ := readParts_eq_ok.1 h
        exact .op ((heads_iff_tidy rfl).2 ⟨⟨htype, htidy⟩, rfl⟩) (Fields.value_eq_str.1 (eq_of_operation? hop)) hval hne
          ((forall₂_iff_of_items (ih items hval)).1 hitems)
      · obtain ⟨name, c, symbol, o, a, hname, hc, hsymbol, ho, haccepts, ha, rfl⟩ := readColumnFilter_eq_ok.1 h
        obtain rfl := Operator.eq_symbol_of_ofSymbol? ho
        obtain rfl : c.name = name := by simpa using List.find?_some hc
        exact .column ((heads_iff_tidy rfl).2 ⟨⟨htype, htidy⟩, rfl⟩) (column?_mem hc) (Fields.value_eq_str.1 hname)
          haccepts
          (Fields.value_eq_str.1 hsymbol) (readArgument_eq_ok_iff.1 ha)
      · obtain ⟨name, d, p, hname, hd, hp, rfl⟩ := readCustomFilter_eq_ok.1 h
        exact .custom ((heads_iff_tidy rfl).2 ⟨⟨htype, htidy⟩, rfl⟩) (Fields.value_eq_str.1 hname) hd hp
      · obtain ⟨hop, text, hval, rfl⟩ := readGlobalFilter_eq_ok.1 h
        exact .global ((heads_iff_tidy rfl).2 ⟨⟨htype, htidy⟩, rfl⟩) (Fields.value_eq_str.1 (Json.isText_iff.1 hop))
          (Fields.value_eq_str.1 hval)
    · intro h
      cases h with
      | @op _ inverse all items fs hheads hop hval hne hitems =>
        obtain ⟨⟨htype, htidy⟩, rfl⟩ := (heads_iff_tidy rfl).1 hheads
        refine ⟨_, htype, htidy, Or.inl ⟨rfl, readParts_eq_ok.2 ⟨all, items, fs, ?_, hval, hne, ?_, rfl⟩⟩⟩
        · rw [Fields.value_eq_str.2 hop, operation?_operationSymbol]
        · exact (forall₂_iff_of_items (ih items hval)).2 hitems
      | @column _ inverse c o a hheads hc hname haccepts hop ha =>
        obtain ⟨⟨htype, htidy⟩, rfl⟩ := (heads_iff_tidy rfl).1 hheads
        refine ⟨_, htype, htidy, Or.inr (Or.inl ⟨rfl, readColumnFilter_eq_ok.2 ?_⟩)⟩
        exact ⟨c.name, c, o.symbol, o, a, Fields.value_eq_str.2 hname, EntityConfig.column?_of_mem hnames hc,
          Fields.value_eq_str.2 hop, Operator.ofSymbol?_symbol o, haccepts, readArgument_eq_ok_iff.2 ha, rfl⟩
      | @custom _ inverse name d p hheads hname hd hp =>
        obtain ⟨⟨htype, htidy⟩, rfl⟩ := (heads_iff_tidy rfl).1 hheads
        refine ⟨_, htype, htidy, Or.inr (Or.inr (Or.inl ⟨rfl, readCustomFilter_eq_ok.2 ?_⟩))⟩
        exact ⟨name, d, p, Fields.value_eq_str.2 hname, hd, hp, rfl⟩
      | @global _ inverse text hheads hop hval =>
        obtain ⟨⟨htype, htidy⟩, rfl⟩ := (heads_iff_tidy rfl).1 hheads
        refine ⟨_, htype, htidy, Or.inr (Or.inr (Or.inr ⟨rfl, readGlobalFilter_eq_ok.2 ?_⟩))⟩
        exact ⟨Json.isText_iff.2 (Fields.value_eq_str.2 hop), text, Fields.value_eq_str.2 hval, rfl⟩

end FilterNode

end TableQuery
