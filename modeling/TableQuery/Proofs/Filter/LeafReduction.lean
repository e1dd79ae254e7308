import TableQuery.Proofs.Filter.ColumnReduction
import TableQuery.Proofs.Filter.Soundness

/-!
# Reducing accepted filters without parts

A leaf is readable if it is read without complaints as a filter whose tests are good for some rows
(`Draft.Readable`). The opposite of a readable leaf is readable, and so is what it is reduced to, which always
succeeds and gives a filter that holds in the same of these rows (`reduceLeaf_faithful`).
-/

set_option autoImplicit false

namespace TableQuery

open Sql (Store Env)

/-! ## Good filters -/

namespace FilterNode

variable {config : EntityConfig} {rows : Store → Env → Prop}

theorem tests_inverted (f : FilterNode) : f.inverted.tests = f.tests := by
  cases f <;> rfl

/-- In the rows that suit its tests the columns that a filter tests are there. -/
theorem columnsThere_of_suited (hregular : config.Regular) {f : FilterNode}
    (hf : Accepted config f) (hgood : ∀ t ∈ f.tests, t.Good rows) {store : Store} {env : Env}
    (hrow : rows store env) : f.ColumnsThere store env := by
  intro t ht hnull
  have hcell := ((hgood t ht).suited hrow).1
  have hcolumn := hf.mem_columns _ (hf.column_mem_columns t ht)
  rw [ColumnDef.CellSound] at hcell
  rw [ColumnDef.scalar]
  cases hs : t.column.source with
  | value s =>
    rw [hs] at hcell
    exact hcell.1 hnull
  | members m =>
    -- A list may always be missing.
    have hlist := hregular.suits _ hcolumn
    rw [hs, Sql.Source.suits, Bool.and_eq_true] at hlist
    rw [(ColumnFilter.list_facts hlist.1).1] at hnull
    cases hnull

/-- In the rows that suit its tests a filter holds iff its opposite does not. -/
theorem holds_clause_of_suited (hregular : config.Regular) {f : FilterNode}
    (hf : Accepted config f) (hgood : ∀ t ∈ f.tests, t.Good rows) {store : Store} {env : Env}
    (hrow : rows store env) (invert : Bool) :
    (f.clause invert).holds store env = ((f.clause false).holds store env != invert) :=
  holds_clause store env hf hregular.searches (fun t ht => (hgood t ht).plain.1)
    (columnsThere_of_suited hregular hf hgood hrow) invert

end FilterNode

/-! ## The fields that matter -/

namespace FilterNode

variable {config : EntityConfig} {kind : LeafKind} {fields : Fields} {n : FilterNode}

theorem lookup_knownFields (kind : LeafKind) : knownFields.lookup kind.name = some kind.keys := by
  cases kind <;> rfl

theorem tidy_iff : Tidy kind.name fields ↔ (∀ k ∈ fields.keys, k ∈ kind.keys) ∧ inversionErrors fields = [] := by
  rw [Tidy]
  constructor
  · rintro ⟨known, hknown, herrors⟩
    rw [lookup_knownFields, Option.some.injEq] at hknown
    subst hknown
    rwa [List.append_eq_nil_iff, strangers_eq_nil] at herrors
  · rintro ⟨hkeys, herrors⟩
    exact ⟨_, lookup_knownFields kind, List.append_eq_nil_iff.2 ⟨strangers_eq_nil.2 hkeys, herrors⟩⟩

theorem tidy_of_typed (htype : Draft.Typed kind fields) (h : ofJson config (.obj fields) = .ok (.ok n)) :
    Tidy kind.name fields := by
  obtain ⟨name, hname, htidy, -⟩ := ofJson_obj_eq_ok.1 h
  rw [Draft.Typed, hname, Json.str.injEq] at htype
  rwa [← htype]

theorem inversion_of_isInverted (h : inversionErrors fields = []) {fields' : Fields}
    (h' : inversionErrors fields' = [])
    (heq : fields'.isInverted = fields.isInverted) : inversion fields' = inversion fields := by
  rw [← isInverted_eq_inversion h, ← isInverted_eq_inversion h', heq]

def readLeaf (config : EntityConfig) (fields : Fields) : LeafKind → Except Fault (Checked FilterNode)
  | .column => readColumnFilter config fields
  | .custom => readCustomFilter config fields
  | .global => .ok (readGlobalFilter config fields)

theorem ofJson_typed (htype : Draft.Typed kind fields) :
    ofJson config (.obj fields) = .ok (.ok n) ↔ Tidy kind.name fields ∧ readLeaf config fields kind = .ok (.ok n) := by
  rw [ofJson_obj_eq_ok]
  rw [Draft.Typed] at htype
  cases kind <;> simp [htype, LeafKind.name, readLeaf]

/-- Only the fields of its kind matter in a leaf. -/
theorem readLeaf_congr {fields' : Fields} (hsame : ∀ k ∈ kind.keys, k ≠ "inv" → fields'.lookup k = fields.lookup k)
    (hinv : inversion fields' = inversion fields) :
    readLeaf config fields' kind = readLeaf config fields kind := by
  have hvalue : ∀ k ∈ kind.keys, k ≠ "inv" → fields'.value k = fields.value k := fun k hk hne => by
    rw [Fields.value, Fields.value, hsame k hk hne]
  cases kind with
  | column =>
    have hargument := readArgument_congr (hsame "val" (by decide) (by decide))
    simp only [readLeaf, readColumnFilter, hvalue "column" (by decide) (by decide),
      hvalue "op" (by decide) (by decide), hargument, hinv]
  | custom =>
    simp only [readLeaf, readCustomFilter, hvalue "customFilter" (by decide) (by decide),
      hsame "params" (by decide) (by decide), hinv]
  | global =>
    simp only [readLeaf, readGlobalFilter, hvalue "op" (by decide) (by decide),
      hvalue "val" (by decide) (by decide), hinv]

/-- What the fields of a leaf are read as is what the leaf is read as when the fields that do not matter are left
out. -/
theorem ofJson_stripped_of_readLeaf (htype : Draft.Typed kind fields) (herrors : inversionErrors fields = [])
    (h : readLeaf config fields kind = .ok (.ok n)) :
    ofJson config (.obj (Fields.tidy (fields.select kind.keys))) = .ok (.ok n) := by
  have herrors' : inversionErrors (Fields.tidy (fields.select kind.keys)) = [] := by
    rw [inversionErrors_eq_nil] at herrors ⊢
    rw [Fields.tidy]
    split
    · rwa [Fields.lookup_select (by cases kind <;> decide)]
    · exact Or.inl Fields.lookup_erase_self
  have htidy : Tidy kind.name (Fields.tidy (fields.select kind.keys)) :=
    tidy_iff.2 ⟨fun _ hk => Draft.mem_keys_stripped hk, herrors'⟩
  have htype' : Draft.Typed kind (Fields.tidy (fields.select kind.keys)) := by
    rw [Draft.Typed, Draft.value_stripped (by cases kind <;> decide) (by decide), htype]
  have hinv := inversion_of_isInverted herrors herrors' (Draft.isInverted_stripped kind fields)
  refine (ofJson_typed htype').2 ⟨htidy, ?_⟩
  rw [readLeaf_congr (fun k hk hne => Draft.lookup_stripped hk hne) hinv, h]

theorem ofJson_stripped (htype : Draft.Typed kind fields) (h : ofJson config (.obj fields) = .ok (.ok n)) :
    ofJson config (.obj (Fields.tidy (fields.select kind.keys))) = .ok (.ok n) := by
  obtain ⟨htidy, hread⟩ := (ofJson_typed htype).1 h
  exact ofJson_stripped_of_readLeaf htype (tidy_iff.1 htidy).2 hread

theorem ofJson_erase (htype : Draft.Typed kind fields) (h : ofJson config (.obj fields) = .ok (.ok n)) :
    ofJson config (.obj (fields.erase "inv")) = .ok (.ok (if fields.isInverted then n.inverted else n)) := by
  obtain ⟨hkeys, herrors⟩ := tidy_iff.1 (tidy_of_typed htype h)
  have herased : (fields.erase "inv").lookup "inv" = none := Fields.lookup_erase_self
  have htidy : Tidy kind.name (fields.erase "inv") :=
    tidy_iff.2 ⟨fun k hk => hkeys k (Fields.mem_keys_erase hk), inversionErrors_eq_nil.2 (Or.inl herased)⟩
  have hread := ofJson_congr htype (lookup_knownFields kind) (fun k _ hinv => Fields.lookup_erase_ne hinv) htidy h
  have hfalse : inversion (fields.erase "inv") = false := by rw [inversion, herased]
  obtain ⟨hsame, hopposite⟩ := withInverse_of_ofJson h
  rw [hread, hfalse, isInverted_eq_inversion herrors]
  cases hinv : inversion fields with
  | false => rw [hinv] at hsame; rw [hsame]; rfl
  | true => rw [hinv] at hopposite; exact congrArg (fun n => Except.ok (Except.ok n)) hopposite

end FilterNode

/-! ## Faithful filters -/

namespace Simple.Faithful

variable {config : EntityConfig} {rows : Store → Env → Prop} {n : FilterNode} {r : Simple}

theorem leaf {kind : LeafKind} {fields : Fields} (h : FilterNode.ofJson config (.obj fields) = .ok (.ok n))
    (hgood : ∀ t ∈ n.tests, t.Good rows) : (Simple.leaf kind fields).Faithful config rows n :=
  ⟨n, h, hgood, fun _ _ _ => rfl⟩

/-- The opposite of a faithful filter is faithful to the opposite. -/
theorem inverted (hregular : config.Regular) (hn : n.Accepted config)
    (hgood : ∀ t ∈ n.tests, t.Good rows) (h : r.Faithful config rows n) :
    (r.invertedIf true).Faithful config rows n.inverted := by
  obtain ⟨n', hread, hgood', hholds⟩ := h
  have hn' := FilterNode.accepted_of_ofJson hread
  refine ⟨n'.inverted, ?_, ?_, fun store env hrow => ?_⟩
  · cases r with
    | const value =>
      have hconst : n' = .const value := by
        cases value <;> exact (Except.ok.inj (Except.ok.inj hread)).symm
      rw [hconst]
      cases value <;> rfl
    | leaf kind fields => exact FilterNode.ofJson_inverted hread
  · rwa [FilterNode.tests_inverted]
  · rw [FilterNode.clause_inverted, FilterNode.clause_inverted, Bool.not_false,
      FilterNode.holds_clause_of_suited hregular hn' hgood' hrow,
      FilterNode.holds_clause_of_suited hregular hn hgood hrow, hholds store env hrow]

theorem stripped (htype : r.toDraft.LeavesIn Draft.Typed) (h : r.Faithful config rows n) :
    r.stripped.Faithful config rows n := by
  cases r with
  | const value => exact h
  | leaf kind fields =>
    obtain ⟨n', hread, hgood, hholds⟩ := h
    exact ⟨n', FilterNode.ofJson_stripped (Draft.leavesIn_toDraft_leaf.1 htype) hread, hgood, hholds⟩

end Simple.Faithful

/-! ## Leaves -/

/-- A leaf that says of what kind it is and is read as a filter whose tests are good. -/
def Draft.Readable (config : EntityConfig) (rows : Store → Env → Prop) : LeafProperty :=
  fun kind fields => Draft.Typed kind fields ∧
    ∃ n, FilterNode.ofJson config (.obj fields) = .ok (.ok n) ∧ ∀ t ∈ n.tests, t.Good rows

section Leaves

variable {config : EntityConfig} {rows : Store → Env → Prop} {s : ColumnSchemas} {fields : Fields} {n : FilterNode}

variable (hs : config.clientColumns = .ok s) (hnames : (config.columns.map (·.name)).Nodup)
  (hregular : config.Regular)

include hs hnames hregular in
/-- A column filter, its fields not stripped yet. -/
theorem ColumnFilter.reduce_faithful (htype : Draft.Typed .column fields)
    (hread : FilterNode.ofJson config (.obj fields) = .ok (.ok n)) (hgood : ∀ t ∈ n.tests, t.Good rows) :
    ∃ r, ColumnFilter.reduce s fields = .ok r ∧ r.Faithful config rows n := by
  obtain ⟨htidy, hcolumn⟩ := (FilterNode.ofJson_typed htype).1 hread
  obtain ⟨-, herrors⟩ := FilterNode.tidy_iff.1 htidy
  obtain ⟨name, c, symbol, o, a, hname, hc, hsymbol, ho, hacc, ha, rfl⟩ :=
    FilterNode.readColumnFilter_eq_ok.1 hcolumn
  have hsymbol' : symbol = o.symbol := by
    have hfound := List.find?_some ho
    exact (beq_iff_eq.1 hfound).symm
  rw [hsymbol'] at hsymbol
  have ht : (⟨c, o, a⟩ : ColumnTest).Good rows := hgood _ (by simp [FilterNode.tests])
  have hmem := FilterNode.column?_mem hc
  obtain ⟨out, hout, hfaithful⟩ := reduceOn_faithful hc (hregular.suits c hmem) hname hsymbol hacc ha ht
  have hreduce : ColumnFilter.reduce s fields =
      .ok (out.elim (.leaf .column fields) (Simple.invertedIf fields.isInverted)) := by
    refine ColumnFilter.reduce_eq_ok.2 ⟨?_, _, out, ?_, hout, rfl⟩ <;> rw [hname]
    · rfl
    · exact EntityConfig.find?_clientColumns hs hnames hc
  cases out with
  | none => exact ⟨_, hreduce, .leaf hread hgood⟩
  | some r =>
    refine ⟨_, hreduce, ?_⟩
    have hr := hfaithful r rfl
    rw [Option.elim_some, FilterNode.isInverted_eq_inversion herrors]
    cases hinv : FilterNode.inversion fields with
    | false => rwa [Simple.invertedIf_false]
    | true =>
      have hnode : (ColumnTest.node ⟨c, o, a⟩).Accepted config :=
        .column false hmem hacc (FilterNode.fits_of_readArgument ha)
      exact hr.inverted hregular hnode hgood

/-- A search, its fields not stripped yet. -/
theorem reduceGlobal_faithful (htype : Draft.Typed .global fields)
    (hread : FilterNode.ofJson config (.obj fields) = .ok (.ok n)) :
    ∃ r, reduceGlobal fields = .ok r ∧ r.Faithful config rows n := by
  obtain ⟨htidy, hglobal⟩ := (FilterNode.ofJson_typed htype).1 hread
  obtain ⟨-, herrors⟩ := FilterNode.tidy_iff.1 htidy
  obtain ⟨-, text, htext, rfl⟩ := FilterNode.readGlobalFilter_eq_ok.1 (Except.ok.inj hglobal)
  rw [reduceGlobal, htext]
  refine ⟨_, rfl, ?_⟩
  split
  next hempty =>
    -- A search without words holds in every row, its opposite in none.
    rw [Simple.invertedIf, FilterNode.isInverted_eq_inversion herrors, Text.words_eq_nil hempty]
    refine ColumnFilter.faithful_const fun store env _ => ?_
    cases FilterNode.inversion fields <;> rfl
  next => exact .leaf hread (by simp [FilterNode.tests])

include hs hnames hregular in
/-- **A readable leaf is reduced** to a filter that is faithful to it. -/
theorem reduceLeaf_faithful {kind : LeafKind} (htype : Draft.Typed kind fields)
    (hread : FilterNode.ofJson config (.obj fields) = .ok (.ok n)) (hgood : ∀ t ∈ n.tests, t.Good rows) :
    ∃ r, reduceLeaf s kind fields = .ok r ∧ r.Faithful config rows n := by
  cases kind with
  | column =>
    obtain ⟨r, hr, hfaithful⟩ := ColumnFilter.reduce_faithful hs hnames hregular htype hread hgood
    exact ⟨r.stripped, map_eq_ok.2 ⟨r, hr, rfl⟩, hfaithful.stripped (Draft.typed_reduceColumn htype hr)⟩
  | custom =>
    have hleaf : (Simple.leaf .custom fields).Faithful config rows n := .leaf hread hgood
    exact ⟨_, rfl, hleaf.stripped (Draft.leavesIn_toDraft_leaf.2 htype)⟩
  | global =>
    obtain ⟨r, hr, hfaithful⟩ := reduceGlobal_faithful htype hread
    exact ⟨r.stripped, map_eq_ok.2 ⟨r, hr, rfl⟩, hfaithful.stripped (Draft.typed_reduceGlobal htype hr)⟩

include hs hnames hregular in
theorem Draft.closed_readable : Draft.Closed s (Draft.Readable config rows) where
  inverted := by
    rintro kind fields ⟨htype, n, hread, hgood⟩
    refine ⟨(Draft.closed_typed (s := s)).inverted htype, n.inverted, FilterNode.ofJson_inverted hread, ?_⟩
    rwa [FilterNode.tests_inverted]
  reduced := by
    rintro kind fields kind' fields' ⟨htype, n, hread, hgood⟩ hreduce
    obtain ⟨r, hr, n', hread', hgood', -⟩ := reduceLeaf_faithful hs hnames hregular htype hread hgood
    rw [hreduce] at hr
    cases hr
    exact ⟨Draft.closed_typed.reduced htype hreduce, n', hread', hgood'⟩

end Leaves

end TableQuery
