import TableQuery.Proofs.Filter.LeafReduction

/-!
# Filters that clients compose

Clients compose filters with more freedom than the server grants: they write constants as objects, operations on
nothing, texts that are empty or untrimmed and lists that are empty or repeat themselves, and they keep fields of
their own in a filter (`EntityConfig.Composes`). Reduction turns what they write into the language of the server:
with the schema of a configuration whose column names are unique it succeeds on every such filter and makes one
that is accepted (`EntityConfig.exists_reduced`). Configurations that extensions make have unique names
(`EntityConfig.reduceFilter_accepted`).

A column filter may be changed into one with another operator, without an operand, or for missing values. Each of
these has to be accepted for the type of the column; `ColumnFilter.reduceOn_isRead` goes through them.
-/

set_option autoImplicit false

namespace TableQuery

/-! ## What clients write -/

/-- The values in a list of operands: all of them operands, or all of them texts, which may also be blank or
untrimmed. -/
def Rule.MayList (r : Rule) (values : List Json) : Prop :=
  (∀ j ∈ values, r.Takes j) ∨
    ∀ j ∈ values, ∃ s, j = .str s ∧ (r.Takes j ∨ (Text.trim s).isEmpty = true ∨ Text.isTrimmed s = false)

/-- The values that a client writes for an operator on columns of a type. -/
inductive ColumnType.Writes (t : ColumnType) (o : Operator) : Json → Prop
  | operand {r : Rule} {j : Json} : t.takesList o = false → t.rule? o = some r → r.Takes j → t.Writes o j
  | empty : t.takesList o = false → t.Writes o (.str "")
  | untrimmed {s : String} : o = .equal ∨ o = .exact ∨ o = .has → Text.isTrimmed s = false → t.Writes o (.str s)
  | list {r : Rule} {values : List Json} : t.takesList o = true → t.rule? o = some r → r.MayList values →
      t.Writes o (.arr values)

/-- A column filter as clients compose it: it asks for missing values, in whatever column, or gives an operator
that the column accepts a value that clients write for it. -/
def ColumnFilter.Composed (config : EntityConfig) (fields : Fields) : Prop :=
  ∃ name c o, fields.value "column" = .str name ∧ config.column? name = some c ∧
    fields.value "op" = .str (Operator.symbol o) ∧
      (o = .null ∧ fields.lookup "val" = none ∨
        o ≠ .null ∧ c.type.accepts o = true ∧ ∃ j, fields.lookup "val" = some j ∧ c.type.Writes o j)

/-- A filter without parts as clients compose it. Custom filters and searches are those that the server knows. -/
def Draft.Composed (config : EntityConfig) : LeafProperty := fun kind fields =>
  Typed kind fields ∧ fields.TellsInversion ∧
    match kind with
    | .column => ColumnFilter.Composed config fields
    | .custom => ∃ n, FilterNode.readCustomFilter config fields = .ok (.ok n)
    | .global => ∃ n, FilterNode.readGlobalFilter config fields = .ok n

/-- A filter as clients compose it. Fields that are not mentioned may have any values. -/
inductive EntityConfig.Composes (config : EntityConfig) : Json → Prop
  | const (value : Bool) : Composes config (.str (constText value))
  | constNode {fields : Fields} (value : Bool) : fields.value "type" = .str "const" →
      fields.value "val" = .str (constText value) → fields.TellsInversion → Composes config (.obj fields)
  | op {fields : Fields} (all : Bool) {items : List Json} : fields.value "type" = .str "op" →
      fields.value "op" = .str (operationSymbol all) → fields.lookup "val" = some (.arr items) →
        fields.TellsInversion → (∀ j ∈ items, Composes config j) → Composes config (.obj fields)
  | leaf (kind : LeafKind) {fields : Fields} : Draft.Composed config kind fields → Composes config (.obj fields)

/-! ## Filters without parts that are accepted -/

/-- A leaf that says of what kind it is and is read without complaints. -/
def Draft.Accepted (config : EntityConfig) : LeafProperty :=
  fun kind fields => Typed kind fields ∧ ∃ n, FilterNode.ofJson config (.obj fields) = .ok (.ok n)

/-- A filter without parts that is read without complaints. -/
def Simple.IsRead (config : EntityConfig) (r : Simple) : Prop :=
  ∃ n, FilterNode.ofJson config r.toDraft.toJson = .ok (.ok n)

namespace Simple.IsRead

variable {config : EntityConfig} {r : Simple}

theorem const (value : Bool) : (Simple.const value).IsRead config := by
  refine ⟨.const value, ?_⟩
  cases value <;> rfl

theorem invertedIf (h : r.IsRead config) (invert : Bool) : (r.invertedIf invert).IsRead config := by
  cases r with
  | const value => exact .const _
  | leaf kind fields =>
    cases invert with
    | false => exact h
    | true =>
      obtain ⟨n, hn⟩ := h
      exact ⟨n.inverted, FilterNode.ofJson_inverted hn⟩

theorem stripped (htype : r.toDraft.LeavesIn Draft.Typed) (h : r.IsRead config) : r.stripped.IsRead config := by
  cases r with
  | const value => exact h
  | leaf kind fields =>
    obtain ⟨n, hn⟩ := h
    exact ⟨n, FilterNode.ofJson_stripped (Draft.leavesIn_toDraft_leaf.1 htype) hn⟩

end Simple.IsRead

/-! ## Column filters -/

namespace ColumnFilter

variable {config : EntityConfig} {name : String} {c : ColumnDef} {o : Operator} {r : Rule} {values : List Json}

/-- **What is kept of a list** that clients write are operands: texts that are not are left out. -/
theorem takes_cleaned_of_mayList (h : r.MayList values) : ∀ j ∈ (cleaned values).1, r.Takes j := by
  rcases h with htakes | htexts
  · exact takes_cleaned htakes
  have hstrings : ∀ j ∈ values, Rule.string.Takes j := by
    intro j hj
    obtain ⟨s, rfl, -⟩ := htexts j hj
    exact ⟨.text s, rfl⟩
  intro j hj
  obtain ⟨hj, hclean⟩ := (mem_cleaned hstrings).1 hj
  obtain ⟨s, rfl, htakes | hblank | huntrimmed⟩ := htexts j hj
  · exact htakes
  · -- A blank text that is trimmed is empty, and so not clean.
    have hclean := hclean s rfl
    rw [isClean, Bool.and_eq_true, bne_iff_ne, Text.isTrimmed_iff] at hclean
    obtain ⟨hne, htrim⟩ := hclean
    rw [htrim, String.isEmpty_iff] at hblank
    exact absurd hblank hne
  · have hclean := hclean s rfl
    rw [isClean, huntrimmed, Bool.and_false] at hclean
    cases hclean

theorem accepts_null (t : ColumnType) : t.accepts .null = t.isNullable := by
  simp [ColumnType.accepts, Kind.accepts_null]

section Made

variable (hc : config.column? name = some c)

include hc

theorem nullFilter_isRead : (nullFilter c.schemaFields (.str name)).IsRead config := by
  rw [nullFilter, c.isNullable_schemaFields]
  split
  next hnullable =>
    have hacc : c.type.accepts .null = true := by rw [accepts_null, hnullable]
    have hargument : ∀ fields : Fields, fields.lookup "val" = none →
        FilterNode.readArgument c.type .null fields = .ok .nothing :=
      fun fields hval => FilterNode.readArgument_eq_ok.2 (Or.inl ⟨rfl, hval, rfl⟩)
    have hread := ofJson_make hc hacc hargument
    exact ⟨_, hread⟩
  next => exact .const false

theorem make_one_isRead (hacc : c.type.accepts o = true) (ho : o ≠ .null) (hr : c.type.rule? o = some r)
    (hlist : c.type.takesList o = false) {j : Json} (hj : r.Takes j) :
    (make (.str name) o.symbol (some j)).IsRead config := by
  obtain ⟨v, hv⟩ := hj
  exact ⟨_, ofJson_make hc hacc (FilterNode.readArgument_one ho hr hlist hv)⟩

theorem make_many_isRead (hacc : c.type.accepts o = true) (ho : o ≠ .null) (hr : c.type.rule? o = some r)
    (hlist : c.type.takesList o = true) (hne : values ≠ []) (htakes : ∀ j ∈ values, r.Takes j) :
    (make (.str name) o.symbol (some (.arr values))).IsRead config :=
  ⟨_, ofJson_make hc hacc (FilterNode.readArgument_many ho hr hlist hne htakes)⟩

/-- An empty text is taken for something by every operator that takes one value. -/
theorem reduceEmpty_isRead {fields : Fields} (hname : fields.value "column" = .str name)
    (hop : fields.value "op" = .str o.symbol) (ho : o ≠ .null) (hlist : o.takesList = false) :
    ∃ out, reduceEmpty c.schemaFields fields = some out ∧ out.IsRead config := by
  have hmissing := nullFilter_isRead hc
  rw [reduceEmpty, hname]
  simp only [hasOp_eq hop]
  cases o with
  | null => exact absurd rfl ho
  | oneOf | hasAll | hasAny | hasOnly => cases hlist
  | equal | exact | like | atMost => exact ⟨_, rfl, hmissing⟩
  | greater => exact ⟨_, rfl, hmissing.invertedIf true⟩
  | atLeast | startsWith | endsWith | contains | regexp => exact ⟨_, rfl, .const true⟩
  | less | has => exact ⟨_, rfl, .const false⟩

end Made

/-- A list of one value is written as that value, if nothing else is known of the values. -/
theorem isRead_shortened {values : List Json} {value : Bool} {one many : String} :
    (∀ v ∈ values, (make (.str name) one (some v)).IsRead config) →
      (values ≠ [] → (make (.str name) many (some (.arr values))).IsRead config) →
        Simple.IsRead config (match values with
          | [] => .const value
          | [v] => make (.str name) one (some v)
          | vs => make (.str name) many (some (.arr vs))) := by
  intro hone hmany
  match values with
  | [] => exact .const value
  | [v] => exact hone v List.mem_cons_self
  | v :: v' :: vs => exact hmany (List.cons_ne_nil _ _)

/-- **A list that clients write is reduced** to a filter that is accepted. -/
theorem reduceList_isRead (hc : config.column? name = some c) {fields : Fields}
    (hname : fields.value "column" = .str name) (hop : fields.value "op" = .str o.symbol)
    (hacc : c.type.accepts o = true) (ho : o ≠ .null) (hr : c.type.rule? o = some r)
    (hlist : c.type.takesList o = true) (hvalues : r.MayList values) :
    ∃ out, reduceList c.schemaFields fields values = some out ∧ out.IsRead config := by
  have hkept := takes_cleaned_of_mayList hvalues
  have hmissing := nullFilter_isRead hc
  have hmany : (cleaned values).1 ≠ [] →
      (make (.str name) o.symbol (some (.arr (cleaned values).1))).IsRead config :=
    fun hne => make_many_isRead hc hacc ho hr hlist hne hkept
  rcases many_facts hacc hlist with ⟨rfl, hnot⟩ | ⟨hmembers, hrelation⟩
  · obtain ⟨-, -, -, hacc', hr', -⟩ := oneOf_facts hacc hr
    have hlist' : c.type.takesList .equal = false := by
      simp [ColumnType.takesList, Operator.takesList, hnot]
    have hone : ∀ v ∈ (cleaned values).1, (make (.str name) Operator.equal.symbol (some v)).IsRead config :=
      fun v hv => make_one_isRead hc hacc' (by decide) hr' hlist' (hkept v hv)
    refine ⟨_, reduceList_eq_oneOf hop, ?_⟩
    rw [hname]
    exact isRead_shortened hone hmany
  -- The columns with lists: a single member is asked for by an operator of its own.
  obtain ⟨-, hhas, -, -, -, hrule⟩ := list_facts hmembers
  have hrhas : c.type.rule? .has = some r := by
    have htextual : o.isTextual = false := by rcases hrelation with rfl | rfl | rfl | rfl <;> rfl
    rw [hrule .has rfl, ← hrule o htextual, hr]
  have hone : ∀ v ∈ (cleaned values).1, (make (.str name) Operator.has.symbol (some v)).IsRead config :=
    fun v hv => make_one_isRead hc hhas (by decide) hrhas rfl (hkept v hv)
  rcases hrelation with rfl | rfl | rfl | rfl
  · refine ⟨_, reduceList_eq_hasAll hop, ?_⟩
    rw [hname]
    split
    · exact .const false
    · exact isRead_shortened hone hmany
  · refine ⟨_, reduceList_eq_hasAny hop, ?_⟩
    rw [hname]
    exact isRead_shortened hone hmany
  · refine ⟨_, reduceList_eq_hasOnly hop, ?_⟩
    rw [hname]
    split
    next => exact hmissing
    next hne => exact hmany (by simpa using hne)
  · refine ⟨_, reduceList_eq_equal hop, ?_⟩
    rw [hname]
    split
    · exact .const false
    split
    next => exact hmissing
    next hne => exact hmany (by simpa using hne)

/-- **A value that clients write is reduced**: the filter on the column becomes one that is accepted, or it is left
as it is and its value is an operand. -/
theorem reduceOn_isRead (hc : config.column? name = some c) {fields : Fields}
    (hname : fields.value "column" = .str name) (hop : fields.value "op" = .str o.symbol)
    (hacc : c.type.accepts o = true) (ho : o ≠ .null) {j : Json} (hval : fields.lookup "val" = some j)
    (hj : c.type.Writes o j) :
    ∃ out, reduceOn c.schemaFields fields = .ok out ∧ (∀ r ∈ out, r.IsRead config) ∧
      (out = none → ∃ a, FilterNode.readArgument c.type o fields = .ok a) := by
  have hnull : ¬ hasOp fields ["null"] = true := by
    rw [hasOp_eq hop]
    cases o <;> first | exact absurd rfl ho | decide
  have hvalue : fields.value "val" = j := by rw [Fields.value, hval, Option.getD_some]
  have hempty : j = .str "" → c.type.takesList o = false →
      ∃ out, reduceOn c.schemaFields fields = .ok (some out) ∧ out.IsRead config := by
    rintro rfl hlist
    obtain ⟨out, hout, hread⟩ := reduceEmpty_isRead hc hname hop ho (Bool.or_eq_false_iff.1 hlist).1
    refine ⟨out, ?_, hread⟩
    rw [reduceOn, if_neg hnull, hvalue]
    dsimp only
    rw [if_pos (by simp), hout]
  have hchanged : ∀ out : Simple, reduceOn c.schemaFields fields = .ok (some out) → out.IsRead config →
      ∃ out, reduceOn c.schemaFields fields = .ok out ∧ (∀ r ∈ out, r.IsRead config) ∧
        (out = none → ∃ a, FilterNode.readArgument c.type o fields = .ok a) := by
    intro out hout hread
    refine ⟨some out, hout, fun r hr => ?_, fun hnone => absurd hnone (Option.some_ne_none _)⟩
    obtain rfl := Option.mem_some_iff.1 hr
    exact hread
  cases hj with
  | @operand r j hlist hr htakes =>
    by_cases hj : j = .str ""
    · obtain ⟨out, hout, hread⟩ := hempty hj hlist
      exact hchanged out hout hread
    obtain ⟨v, hv⟩ := htakes
    have hargument := FilterNode.readArgument_one ho hr hlist hv fields hval
    cases j with
    | arr values => cases r <;> cases hv
    | str x =>
      have hx : (x == "") = false := by simpa using hj
      by_cases huntrimmed : (hasOp fields ["=", "==", "has"] && !Text.isTrimmed x) = true
      · refine hchanged (.const false) ?_ (.const false)
        rw [reduceOn, if_neg hnull, hvalue]
        simp [hx, huntrimmed]
      · refine ⟨none, ?_, by simp, fun _ => ⟨_, hargument⟩⟩
        rw [reduceOn, if_neg hnull, hvalue]
        simp [hx, huntrimmed]
    | _ =>
      refine ⟨none, ?_, by simp, fun _ => ⟨_, hargument⟩⟩
      rw [reduceOn, if_neg hnull, hvalue]
  | empty hlist =>
    obtain ⟨out, hout, hread⟩ := hempty rfl hlist
    exact hchanged out hout hread
  | @untrimmed s hop' hs =>
    have hne : (s == "") = false := by
      rw [beq_eq_false_iff_ne]
      rintro rfl
      exact absurd hs (by decide)
    have hamong : hasOp fields ["=", "==", "has"] = true := by
      rw [hasOp_eq hop]
      rcases hop' with rfl | rfl | rfl <;> decide
    refine hchanged (.const false) ?_ (.const false)
    rw [reduceOn, if_neg hnull, hvalue]
    simp [hne, hamong, hs]
  | @list r values hlist hr hvalues =>
    obtain ⟨out, hout, hread⟩ := reduceList_isRead hc hname hop hacc ho hr hlist hvalues
    refine hchanged out ?_ hread
    rw [reduceOn, if_neg hnull, hvalue]
    dsimp only
    rw [hout]

end ColumnFilter

/-! ## Filters without parts -/

section Leaves

variable {config : EntityConfig} {s : ColumnSchemas} {kind : LeafKind} {fields : Fields}

theorem Draft.isRead_stripped (htype : Draft.Typed kind fields) (hinv : fields.TellsInversion) {n : FilterNode}
    (h : FilterNode.readLeaf config fields kind = .ok (.ok n)) : (Simple.leaf kind fields).stripped.IsRead config :=
  ⟨n, FilterNode.ofJson_stripped_of_readLeaf htype (FilterNode.inversionErrors_eq_nil_iff_tells.2 hinv) h⟩

theorem Draft.composed_of_accepted (h : Draft.Accepted config kind fields) : Draft.Composed config kind fields := by
  obtain ⟨htype, n, hn⟩ := h
  obtain ⟨htidy, hleaf⟩ := (FilterNode.ofJson_typed htype).1 hn
  refine ⟨htype, FilterNode.inversionErrors_eq_nil_iff_tells.1 (FilterNode.tidy_iff.1 htidy).2, ?_⟩
  cases kind with
  | custom => exact ⟨n, hleaf⟩
  | global => exact ⟨n, Except.ok.inj hleaf⟩
  | column =>
    obtain ⟨name, c, symbol, o, a, hname, hc, hop, ho, hacc, ha, -⟩ := FilterNode.readColumnFilter_eq_ok.1 hleaf
    have hsymbol : symbol = o.symbol := by
      have hfound := List.find?_some ho
      exact (beq_iff_eq.1 hfound).symm
    refine ⟨name, c, o, hname, hc, by rw [hop, hsymbol], ?_⟩
    rcases FilterNode.readArgument_eq_ok.1 ha with ⟨rfl, hval, -⟩ | ⟨hne, j, r, hval, hr, hargument⟩
    · exact Or.inl ⟨rfl, hval⟩
    refine Or.inr ⟨hne, hacc, j, hval, ?_⟩
    rcases hargument with ⟨hlist, v, hv, -⟩ | ⟨hlist, values, rfl, -, htakes, -⟩
    · exact .operand hlist hr ⟨v, hv⟩
    · exact .list hlist hr (Or.inl htakes)

variable (hs : config.clientColumns = .ok s) (hnames : (config.columns.map (·.name)).Nodup)

include hs hnames

/-- A column filter that clients compose is reduced to a filter that is accepted. -/
theorem ColumnFilter.reduce_isRead (htype : Draft.Typed .column fields) (hinv : fields.TellsInversion)
    (h : ColumnFilter.Composed config fields) :
    ∃ r, ColumnFilter.reduce s fields = .ok r ∧ r.stripped.IsRead config := by
  obtain ⟨name, c, o, hname, hc, hop, hvalue⟩ := h
  have hreduce : ∀ {out : Option Simple}, reduceOn c.schemaFields fields = .ok out →
      ColumnFilter.reduce s fields = .ok (out.elim (.leaf .column fields) (Simple.invertedIf fields.isInverted)) := by
    intro out hout
    refine ColumnFilter.reduce_eq_ok.2 ⟨?_, _, out, ?_, hout, rfl⟩ <;> rw [hname]
    · rfl
    · exact EntityConfig.find?_clientColumns hs hnames hc
  have hleft : c.type.accepts o = true → ∀ {a : Argument}, FilterNode.readArgument c.type o fields = .ok a →
      (Simple.leaf .column fields).stripped.IsRead config := by
    intro hacc a ha
    refine Draft.isRead_stripped htype hinv (n := .column c o a (FilterNode.inversion fields)) ?_
    exact FilterNode.readColumnFilter_eq_ok.2
      ⟨name, c, o.symbol, o, a, hname, hc, hop, Operator.ofSymbol?_symbol o, hacc, ha, rfl⟩
  rcases hvalue with ⟨rfl, hval⟩ | ⟨ho, hacc, j, hval, hj⟩
  · have hnull : hasOp fields ["null"] = true := by
      rw [hasOp_eq hop]
      decide
    have hon : reduceOn c.schemaFields fields =
        .ok (if c.type.isNullable = true then none else some (.const false)) := by
      rw [reduceOn, if_pos hnull, c.isNullable_schemaFields]
    refine ⟨_, hreduce hon, ?_⟩
    by_cases hnullable : c.type.isNullable = true
    · rw [if_pos hnullable]
      exact hleft (by rw [accepts_null, hnullable])
        (FilterNode.readArgument_eq_ok.2 (Or.inl ⟨rfl, hval, rfl⟩))
    · rw [if_neg hnullable]
      exact .const _
  · obtain ⟨out, hon, hread, hargument⟩ := reduceOn_isRead hc hname hop hacc ho hval hj
    refine ⟨_, hreduce hon, ?_⟩
    cases out with
    | none =>
      obtain ⟨a, ha⟩ := hargument rfl
      exact hleft hacc ha
    | some r =>
      have hinverted := (hread r rfl).invertedIf fields.isInverted
      exact hinverted.stripped (Draft.typed_invertedIf (Draft.typed_reduceOn hon) _)

/-- **A filter without parts that clients compose is reduced** to a filter that is accepted. -/
theorem reduceLeaf_isRead (h : Draft.Composed config kind fields) :
    ∃ r, reduceLeaf s kind fields = .ok r ∧ r.IsRead config := by
  obtain ⟨htype, hinv, h⟩ := h
  cases kind with
  | column =>
    obtain ⟨r, hr, hread⟩ := ColumnFilter.reduce_isRead hs hnames htype hinv h
    exact ⟨r.stripped, map_eq_ok.2 ⟨r, hr, rfl⟩, hread⟩
  | custom =>
    obtain ⟨n, hn⟩ := h
    exact ⟨_, rfl, Draft.isRead_stripped htype hinv (n := n) hn⟩
  | global =>
    obtain ⟨n, hn⟩ := h
    obtain ⟨-, text, htext, -⟩ := FilterNode.readGlobalFilter_eq_ok.1 hn
    refine ⟨_, map_eq_ok.2 ⟨_, by rw [reduceGlobal, htext], rfl⟩, ?_⟩
    split
    · exact .const _
    · exact Draft.isRead_stripped htype hinv (n := n) (congrArg Except.ok hn)

theorem Draft.reducesTo_accepted : Draft.ReducesTo s (Draft.Composed config) (Draft.Accepted config) where
  reduced := by
    intro kind fields kind' fields' h hreduce
    obtain ⟨r, hr, hread⟩ := reduceLeaf_isRead hs hnames h
    rw [hreduce] at hr
    cases hr
    exact ⟨Draft.closed_typed.reduced h.1 hreduce, hread⟩
  inverted := by
    rintro kind fields ⟨htype, n, hn⟩
    exact ⟨(Draft.closed_typed (s := s)).inverted htype, n.inverted, FilterNode.ofJson_inverted hn⟩
  again := Draft.composed_of_accepted

end Leaves

/-! ## Filters -/

namespace EntityConfig

variable {config : EntityConfig}

theorem Composes.whole {j : Json} (h : config.Composes j) :
    (Draft.ofJson j).Whole ∧ (Draft.ofJson j).LeavesIn (Draft.Composed config) := by
  have hconst : ∀ value, (Draft.const value).Whole ∧ (Draft.const value).LeavesIn (Draft.Composed config) :=
    fun value => ⟨.const value, by simp [Draft.LeavesIn, Draft.leaves]⟩
  induction h with
  | const value => cases value <;> exact hconst _
  | @constNode fields value htype hval =>
    have hdraft : Draft.ofJson (.obj fields) = .const (value != fields.isInverted) := by
      rw [Draft.ofJson]
      simp only [show Fields.value fields "type" = .str "const" from htype]
      rw [if_pos (by decide), Draft.ofConst, hval]
      cases value <;> rfl
    rw [hdraft]
    exact hconst _
  | @op fields all items htype hop hval _ _ ih =>
    have hsymbol : FilterNode.operation? (fields.value "op") = some all := by
      rw [hop]
      cases all <;> rfl
    rw [Draft.ofJson_op htype hsymbol hval]
    constructor
    · refine .op all _ fun d hd => ?_
      obtain ⟨j, hj, rfl⟩ := List.mem_map.1 hd
      exact (ih j hj).1
    · refine Draft.leavesIn_op.2 fun d hd => ?_
      obtain ⟨j, hj, rfl⟩ := List.mem_map.1 hd
      exact (ih j hj).2
  | @leaf kind fields h =>
    rw [Draft.ofJson_leaf h.1]
    refine ⟨.leaf kind fields, fun l hl => ?_⟩
    rw [Draft.leaves, List.mem_singleton] at hl
    rw [hl]
    exact h

theorem exists_reduced (hnames : (config.columns.map (·.name)).Nodup) {j : Json} (h : config.Composes j) :
    ∃ s g f, config.clientColumns = .ok s ∧ reduceFilter s j = .ok g ∧ FilterNode.ofJson config g = .ok (.ok f) := by
  obtain ⟨s, hs⟩ : ∃ s, config.clientColumns = .ok s := ⟨_, config.clientColumns_eq⟩
  have hreduces := Draft.reducesTo_accepted hs hnames
  have hleaf : ∀ kind fields, Draft.Composed config kind fields → ∃ r, reduceLeaf s kind fields = .ok r := by
    intro kind fields hfields
    obtain ⟨r, hr, -⟩ := reduceLeaf_isRead hs hnames hfields
    exact ⟨r, hr⟩
  obtain ⟨hwhole, hleaves⟩ := h.whole
  obtain ⟨r, hr⟩ := Draft.reduce_whole hreduces hleaf hwhole hleaves
  have hbuilt := Draft.built_reduceTo hreduces hleaves hr
  obtain ⟨f, hf, -⟩ := FilterNode.ofJson_toJson_of_leaves (P := fun _ => True) (fun _ => trivial)
    (fun h => h.2.imp fun n hn => ⟨hn, trivial⟩) (fun _ => trivial) hbuilt
  exact ⟨s, r.toJson, f, hs, map_eq_ok.2 ⟨r, hr, rfl⟩, hf⟩

/-- **Reduction turns the filters of clients into filters of the server.** With the schema of a configuration that
extensions have made every filter that clients compose is reduced, and what it is reduced to is read without
complaints. -/
theorem reduceFilter_accepted {base config : EntityConfig} {extensions : List Extension}
    (hconfig : base.extend extensions = .ok config) {j : Json} (h : config.Composes j) :
    ∃ s g f, config.clientColumns = .ok s ∧ reduceFilter s j = .ok g ∧ FilterNode.ofJson config g = .ok (.ok f) :=
  exists_reduced (columnNames_nodup_of_extend hconfig) h

end EntityConfig

/-- Extensions that make a small configuration of meetings. -/
def meetingColumns : List Extension :=
  [Entity.column "title" .stringNullable (Entity.meeting "notes") true,
    Entity.column "statusDictId" (.plain .dict) (Entity.meeting "status_dict_id") false
      (.str Dictionary.meetingStatus),
    Entity.column "isRemote" (.plain .bool) (Entity.meeting "is_remote"),
    Entity.listColumn "attendants" (Entity.attendants [])]

/-- A filter as clients compose it: with an operation on nothing, a text to compare with that is empty, lists
with values that are blank or repeated, the question for missing values in a column that has none, and a field of
the client's own. -/
def composedMeetings : Json :=
  .obj [("type", .str "op"), ("op", .str "&"), ("label", .str "mine"), ("val", .arr [
    .obj [("type", .str "const"), ("val", .str "never"), ("inv", .bool true)],
    .obj [("type", .str "op"), ("op", .str "|"), ("val", .arr []), ("inv", .bool true)],
    .obj [("type", .str "column"), ("column", .str "title"), ("op", .str ">"), ("val", .str "")],
    .obj [("type", .str "column"), ("column", .str "isRemote"), ("op", .str "null"), ("inv", .bool true)],
    .obj [("type", .str "column"), ("column", .str "attendants"), ("op", .str "has_only"),
      ("val", .arr [.str " ", .str ""])],
    .obj [("type", .str "column"), ("column", .str "statusDictId"), ("op", .str "in"), ("val", .arr
      [.str Dictionary.meetingPlanned, .str " ", .str Dictionary.meetingPlanned]), ("rank", .null)],
    .obj [("type", .str "global"), ("op", .str "%v%"), ("val", .str "remote")]])]

/-- The filter is composed for the columns, so that it is reduced to one that is accepted. -/
theorem EntityConfig.reduceFilter_accepted_composedMeetings :
    ∃ config, EntityConfig.extend {} meetingColumns = .ok config ∧ config.Composes composedMeetings ∧
      ∃ s g f, config.clientColumns = .ok s ∧ reduceFilter s composedMeetings = .ok g ∧
        FilterNode.ofJson config g = .ok (.ok f) := by
  have hconfig : EntityConfig.extend {} meetingColumns = .ok (EntityConfig.extended {} meetingColumns) := rfl
  have hinv : ∀ {fields : Fields} {b : Bool}, fields.lookup "inv" = some (.bool b) → fields.TellsInversion := by
    intro fields b h j hj
    exact ⟨b, Option.some.inj (hj.symm.trans h)⟩
  have hnoinv : ∀ {fields : Fields}, fields.lookup "inv" = none → fields.TellsInversion := by
    intro fields h j hj
    rw [h] at hj
    cases hj
  have hcomposes : (EntityConfig.extended {} meetingColumns).Composes composedMeetings := by
    refine .op true rfl rfl rfl (hnoinv rfl) fun j hj => ?_
    simp only [List.mem_cons, List.not_mem_nil, or_false] at hj
    rcases hj with rfl | rfl | rfl | rfl | rfl | rfl | rfl
    · exact .constNode false rfl rfl (hinv rfl)
    · exact .op false rfl rfl rfl (hinv rfl) (by simp)
    · refine .leaf .column ⟨rfl, hnoinv rfl, "title", _, .greater, rfl, rfl, rfl, Or.inr ?_⟩
      exact ⟨by decide, rfl, _, rfl, .empty rfl⟩
    · exact .leaf .column ⟨rfl, hinv rfl, "isRemote", _, .null, rfl, rfl, rfl, Or.inl ⟨rfl, rfl⟩⟩
    · refine .leaf .column ⟨rfl, hnoinv rfl, "attendants", _, .hasOnly, rfl, rfl, rfl, Or.inr ?_⟩
      refine ⟨by decide, rfl, _, rfl, .list (r := .uuid) rfl rfl (Or.inr fun j hj => ?_)⟩
      simp only [List.mem_cons, List.not_mem_nil, or_false] at hj
      rcases hj with rfl | rfl
      · exact ⟨" ", rfl, Or.inr (Or.inr (by decide))⟩
      · exact ⟨"", rfl, Or.inr (Or.inl (by decide))⟩
    · refine .leaf .column ⟨rfl, hnoinv rfl, "statusDictId", _, .oneOf, rfl, rfl, rfl, Or.inr ?_⟩
      refine ⟨by decide, rfl, _, rfl, .list (r := .uuid) rfl rfl (Or.inr fun j hj => ?_)⟩
      have hplanned : Rule.uuid.Takes (.str Dictionary.meetingPlanned) := ⟨_, rfl⟩
      simp only [List.mem_cons, List.not_mem_nil, or_false] at hj
      rcases hj with rfl | rfl | rfl
      · exact ⟨_, rfl, Or.inl hplanned⟩
      · exact ⟨" ", rfl, Or.inr (Or.inr (by decide))⟩
      · exact ⟨_, rfl, Or.inl hplanned⟩
    · exact .leaf .global ⟨rfl, hnoinv rfl, _, rfl⟩
  exact ⟨_, hconfig, hcomposes, EntityConfig.reduceFilter_accepted hconfig hcomposes⟩

end TableQuery
