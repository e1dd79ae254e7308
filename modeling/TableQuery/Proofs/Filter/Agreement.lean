import TableQuery.Proofs.Filter.LeafReduction
import TableQuery.Proofs.Request.Plan

/-!
# Reduced filters and their clauses

A client reduces filters with what the schema of an entity tells it. An accepted filter is always reduced, the
reduced filter is accepted, and its clause holds in the same of the rows that suit the filter
(`Entity.reduceFilter_agrees`). Given such a row, every filter without parts has a truth value (`rowReading`),
which is that of its own reduction; so the statement follows from the soundness of reduction, once accepted
filters have been seen to have the truth values of their clauses (`FilterNode.truth_ofJson`).

Reduction leaves out the empty text where it is one of several operands, so that a row in which the column is the
empty text may satisfy the filter only (`Entity.not_agrees_unnamedOrA`).
-/

set_option autoImplicit false

namespace TableQuery

open Sql (Store Env)

variable {config : EntityConfig} {rows : Store → Env → Prop} {s : ColumnSchemas}

/-! ## Filters as a row sees them -/

/-- Whether a row satisfies a filter as it is written. -/
def rowTruth (config : EntityConfig) (store : Store) (env : Env) (j : Json) : Bool :=
  match FilterNode.ofJson config j with
  | .ok (.ok n) => (n.clause false).holds store env
  | _ => false

/-- The truth values that filters without parts have in a row. -/
def rowReading (config : EntityConfig) (store : Store) (env : Env) : Draft.Reading :=
  fun _ fields => rowTruth config store env (.obj fields)

section Rows

variable {store : Store} {env : Env}

theorem rowTruth_eq {j : Json} {n : FilterNode} (h : FilterNode.ofJson config j = .ok (.ok n)) :
    rowTruth config store env j = (n.clause false).holds store env := by
  rw [rowTruth, h]

variable (hregular : config.Regular) (hrow : rows store env)

include hregular hrow

/-- A readable leaf has the truth value of its clause. -/
theorem truth_leaf {kind : LeafKind} {fields : Fields} {n : FilterNode} (htype : Draft.Typed kind fields)
    (hread : FilterNode.ofJson config (.obj fields) = .ok (.ok n)) (hgood : ∀ t ∈ n.tests, t.Good rows) :
    (Draft.leaf kind fields).truth (rowReading config store env) = (n.clause false).holds store env := by
  rw [Draft.truth, rowReading, rowTruth_eq (FilterNode.ofJson_erase htype hread)]
  cases fields.isInverted with
  | false => simp
  | true =>
    have hflip := FilterNode.holds_clause_of_suited hregular (FilterNode.accepted_of_ofJson hread) hgood hrow true
    rw [if_pos rfl, FilterNode.clause_inverted, Bool.not_false, hflip]
    simp

/-- A filter without parts that is read has the truth value of its clause. -/
theorem truth_toDraft {r : Simple} {n : FilterNode} (htype : r.toDraft.LeavesIn Draft.Typed)
    (hread : FilterNode.ofJson config r.toDraft.toJson = .ok (.ok n)) (hgood : ∀ t ∈ n.tests, t.Good rows) :
    r.toDraft.truth (rowReading config store env) = (n.clause false).holds store env := by
  cases r with
  | const value =>
    have hconst : n = .const value := by
      cases value <;> exact (Except.ok.inj (Except.ok.inj hread)).symm
    rw [hconst]
    cases value <;> rfl
  | leaf kind fields => exact truth_leaf hregular hrow (Draft.leavesIn_toDraft_leaf.1 htype) hread hgood

theorem respects_rowReading (hs : config.clientColumns = .ok s) (hnames : (config.columns.map (·.name)).Nodup) :
    Draft.Reading.Respects s (Draft.Readable config rows) (rowReading config store env) := by
  rintro kind fields r ⟨htype, n, hread, hgood⟩ hr
  obtain ⟨r', hr', n', hread', hgood', hholds⟩ := reduceLeaf_faithful hs hnames hregular htype hread hgood
  rw [hr] at hr'
  cases hr'
  rw [truth_leaf hregular hrow htype hread hgood, truth_toDraft hregular hrow
    (Draft.typed_reduceLeaf htype hr) hread' hgood', hholds store env hrow]

end Rows

/-! ## Accepted filters -/

namespace FilterNode

/-- **Induction on accepted filters as they are written.** -/
theorem ofJson_induct {motive : Json → FilterNode → Prop}
    (const : ∀ value, motive (.str (constText value)) (.const value))
    (leaf : ∀ (kind : LeafKind) (fields : Fields) (n : FilterNode), Draft.Typed kind fields →
      ofJson config (.obj fields) = .ok (.ok n) → motive (.obj fields) n)
    (op : ∀ (fields : Fields) (all : Bool) (items : List Json) (fs : List FilterNode),
      fields.value "type" = .str "op" →
      inversionErrors fields = [] → operation? (fields.value "op") = some all →
      fields.lookup "val" = some (.arr items) →
        items ≠ [] → items.map (ofJson config) = fs.map (fun f => .ok (.ok f)) →
          (∀ j ∈ items, ∃ f ∈ fs, ofJson config j = .ok (.ok f) ∧ motive j f) →
            motive (.obj fields) (.op all fs (inversion fields)))
    {j : Json} : ∀ {n : FilterNode}, ofJson config j = .ok (.ok n) → motive j n := by
  induction j using Json.filter_induct with
  | other j hj =>
    intro n h
    cases j with
    | str s =>
      rw [ofJson] at h
      split at h
      next hs => rw [beq_iff_eq.1 hs]; cases h; exact const true
      next =>
        split at h
        next hs => rw [beq_iff_eq.1 hs]; cases h; exact const false
        next => cases h
    | obj fields => cases hj
    | _ => simp [ofJson, Checked.fail] at h
  | obj fields ih =>
    intro n h
    obtain ⟨kind, htype, ⟨known, -, herrors⟩, hkind⟩ := ofJson_obj_eq_ok.1 h
    rcases hkind with ⟨rfl, hparts⟩ | ⟨rfl, -⟩ | ⟨rfl, -⟩ | ⟨rfl, -⟩
    · obtain ⟨all, items, fs, hop, hval, hne, hitems, rfl⟩ := readParts_eq_ok.1 hparts
      refine op fields all items fs htype (List.append_eq_nil_iff.1 herrors).2 hop hval hne hitems fun j hj => ?_
      have hjread := List.mem_map_of_mem (f := ofJson config) hj
      rw [hitems] at hjread
      obtain ⟨f, hf, hfj⟩ := List.mem_map.1 hjread
      exact ⟨f, hf, hfj.symm, ih items hval j hj hfj.symm⟩
    · exact leaf .column fields n htype h
    · exact leaf .custom fields n htype h
    · exact leaf .global fields n htype h

theorem built_ofJson {j : Json} {n : FilterNode} (h : ofJson config j = .ok (.ok n)) :
    (∀ t ∈ n.tests, t.Good rows) → Draft.Built (Draft.Readable config rows) (Draft.ofJson j) := by
  refine ofJson_induct (motive := fun j n => (∀ t ∈ n.tests, t.Good rows) →
    Draft.Built (Draft.Readable config rows) (Draft.ofJson j)) ?const ?leaf ?op h
  case const =>
    intro value _
    cases value <;> exact .const _
  case leaf =>
    intro kind fields n htype h hgood
    rw [Draft.ofJson_leaf htype]
    exact .leaf ⟨htype, n, h, hgood⟩
  case op =>
    intro fields all items fs htype _ hop hval hne _ ih hgood
    rw [Draft.ofJson_op htype hop hval]
    refine .op all _ (by simpa using hne) fun d hd => ?_
    obtain ⟨j, hj, rfl⟩ := List.mem_map.1 hd
    obtain ⟨f, hf, -, hbuilt⟩ := ih j hj
    exact hbuilt fun t ht => hgood t (tests_op.2 ⟨f, hf, ht⟩)

/-- **An accepted filter has the truth value of its clause** in a row that suits its tests. -/
theorem truth_ofJson (hregular : config.Regular) {store : Store} {env : Env}
    (hrow : rows store env) {j : Json} {n : FilterNode} (h : ofJson config j = .ok (.ok n)) :
    (∀ t ∈ n.tests, t.Good rows) →
      (Draft.ofJson j).truth (rowReading config store env) = (n.clause false).holds store env := by
  refine ofJson_induct (motive := fun j n => (∀ t ∈ n.tests, t.Good rows) →
    (Draft.ofJson j).truth (rowReading config store env) = (n.clause false).holds store env) ?const ?leaf ?op h
  case const =>
    intro value _
    cases value <;> rfl
  case leaf =>
    intro kind fields n htype h hgood
    rw [Draft.ofJson_leaf htype]
    exact truth_leaf hregular hrow htype h hgood
  case op =>
    intro fields all items fs htype herrors hop hval _ hitems ih hgood
    have hparts : ∀ f ∈ fs, ∀ t ∈ f.tests, t.Good rows := fun f hf t ht => hgood t (tests_op.2 ⟨f, hf, ht⟩)
    have hitem : ∀ j ∈ items, (Draft.ofJson j).truth (rowReading config store env) =
      rowTruth config store env j := by
      intro j hj
      obtain ⟨f, hf, hread, htruth⟩ := ih j hj
      rw [htruth (hparts f hf), rowTruth_eq hread]
    -- The items have the truth values of the parts, in the same order.
    have hvalues : items.map (rowTruth config store env) = fs.map fun f => (f.clause false).holds store env := by
      have hmap := congrArg (List.map fun c : Except Fault (Checked FilterNode) => match c with
        | .ok (.ok n) => (n.clause false).holds store env
        | _ => false) hitems
      rw [List.map_map, List.map_map] at hmap
      exact hmap
    have hflip : ∀ f ∈ fs, ∀ invert : Bool,
        (f.clause invert).holds store env = ((f.clause false).holds store env != invert) := by
      intro f hf
      have hmem := List.mem_map_of_mem (f := fun f => (.ok (.ok f) : Except Fault (Checked FilterNode))) hf
      rw [← hitems] at hmem
      obtain ⟨j, -, hread⟩ := List.mem_map.1 hmem
      exact holds_clause_of_suited hregular (accepted_of_ofJson hread) (hparts f hf) hrow
    rw [Draft.ofJson_op htype hop hval, Draft.truth_op, quantify_map, quantify_congr hitem,
      quantify_eq_of_map_eq hvalues,
      isInverted_eq_inversion herrors, holds_op_of_parts store env _ hflip, Bool.false_bne]

theorem ofJson_toJson_of_built {d : Draft} (h : Draft.Built (Draft.Readable config rows) d) :
    ∃ n, ofJson config d.toJson = .ok (.ok n) ∧ ∀ t ∈ n.tests, t.Good rows := by
  refine ofJson_toJson_of_leaves (P := fun n => ∀ t ∈ n.tests, t.Good rows) ?_ And.right ?_ h
  · exact fun value => by simp [tests]
  · intro all fs inverse hfs t ht
    obtain ⟨f, hf, ht⟩ := tests_op.1 ht
    exact hfs f hf t ht

end FilterNode

/-! ## Agreement -/

def FilterNode.Suited (f : FilterNode) (store : Store) (env : Env) : Prop :=
  ∀ t ∈ f.tests, t.Suited store env

instance (f : FilterNode) (store : Store) (env : Env) : Decidable (f.Suited store env) :=
  inferInstanceAs (Decidable (∀ t ∈ f.tests, _))

theorem FilterNode.good_suited {f : FilterNode} (hplain : ∀ t ∈ f.tests, t.Plain) : ∀ t ∈ f.tests, t.Good f.Suited :=
  fun t ht => ⟨hplain t ht, fun hrow => hrow t ht⟩

/-- **The reduced filter is accepted and holds in the same rows.** What a client makes of an accepted filter
with the schema of an entity is accepted, and its clause holds in a row that suits the tests of the filter iff that of
the filter does. -/
theorem Entity.reduceFilter_agrees {e : Entity} (he : e ∈ Entity.all) {j : Json} {f : FilterNode}
    (hf : FilterNode.ofJson e.config j = .ok (.ok f)) (hplain : ∀ t ∈ f.tests, t.Plain) :
    ∃ s g f', e.config.clientColumns = .ok s ∧ reduceFilter s j = .ok g ∧
      FilterNode.ofJson e.config g = .ok (.ok f') ∧
      ∀ store env, f.Suited store env →
        ((f'.clause false).holds store env = true ↔ (f.clause false).holds store env = true) := by
  have hwf := Entity.wellFormed_of_mem e he
  obtain ⟨s, hs⟩ : ∃ s, e.config.clientColumns = .ok s := ⟨_, EntityConfig.clientColumns_eq e.config⟩
  have hgood := FilterNode.good_suited hplain
  have hclosed : Draft.Closed s (Draft.Readable e.config f.Suited) :=
    Draft.closed_readable hs hwf.columnNames hwf.toRegular
  have hbuilt := FilterNode.built_ofJson hf hgood
  obtain ⟨r, hr⟩ := Draft.reduce_succeeds hclosed (d := Draft.ofJson j)
    (fun kind fields ⟨htype, n, hread, hgood⟩ => by
    obtain ⟨r, hr, -⟩ := reduceLeaf_faithful hs hwf.columnNames hwf.toRegular htype hread hgood
    exact ⟨r, hr⟩) hbuilt
  obtain ⟨f', hf', hgood'⟩ := FilterNode.ofJson_toJson_of_built (Draft.built_reduce hclosed hbuilt.leavesIn hr)
  refine ⟨s, r.toJson, f', hs, map_eq_ok.2 ⟨r, hr, rfl⟩, hf', fun store env hrow => ?_⟩
  have htruth := Draft.truth_reduce hclosed (respects_rowReading hwf.toRegular hrow hs hwf.columnNames)
    hbuilt.leavesIn hr
  have hreduced := FilterNode.truth_ofJson hwf.toRegular hrow hf' hgood'
  rw [Draft.ofJson_toJson_of_reduce hr, htruth, FilterNode.truth_ofJson hwf.toRegular hrow hf hgood] at hreduced
  rw [hreduced]

/-- The filter that a value is read as, if there is nothing to complain about. -/
def FilterNode.read? (config : EntityConfig) (j : Json) : Option FilterNode :=
  match ofJson config j with
  | .ok (.ok f) => some f
  | _ => none

theorem FilterNode.read?_eq_some {j : Json} {f : FilterNode} :
    read? config j = some f ↔ ofJson config j = .ok (.ok f) := by
  unfold read?
  split <;> simp_all

/-- A filter for planned meetings that a client does not attend and that are no consultations, written at
length. -/
def plannedMeetings : Json :=
  .obj [("type", .str "op"), ("op", .str "&"), ("val", .arr [
    .obj [("type", .str "global"), ("op", .str "%v%"), ("val", .str " ")],
    .obj [("type", .str "op"), ("op", .str "|"), ("inv", .bool true), ("val", .arr [
      .obj [("type", .str "column"), ("column", .str "attendants"), ("op", .str "has_any"),
        ("val", .arr [.str (Sample.clientUserId 0), .str (Sample.clientUserId 0 ++ "\n")])],
      .obj [("type", .str "column"), ("column", .str "notes"), ("op", .str "/v/"),
      ("val", .str "[Cc]onsultation$")]])],
    .obj [("type", .str "column"), ("column", .str "statusDictId"), ("op", .str "in"),
      ("val", .arr [.str Dictionary.meetingPlanned, .str Dictionary.meetingPlanned])]])]

/-- The filter is reduced, and the same meetings of the sample data satisfy it and what it is reduced to. -/
theorem Entity.reduceFilter_agrees_plannedMeetings :
    ∃ s g f f', Entity.meetings.config.clientColumns = .ok s ∧ reduceFilter s plannedMeetings = .ok g ∧
      FilterNode.ofJson Entity.meetings.config plannedMeetings = .ok (.ok f) ∧
      FilterNode.ofJson Entity.meetings.config g = .ok (.ok f') ∧ ∀ row ∈ Entity.sampleStore.rows "meetings",
        ((f'.clause false).holds Entity.sampleStore [("meetings", row)] = true ↔
          (f.clause false).holds Entity.sampleStore [("meetings", row)] = true) := by
  obtain ⟨f, hf, hall⟩ := (Option.any_eq_true _ _).1
    (show (FilterNode.read? Entity.meetings.config plannedMeetings).any (fun f => decide ((∀ t ∈ f.tests, t.Plain) ∧
      ∀ row ∈ Entity.sampleStore.rows "meetings", f.Suited Entity.sampleStore [("meetings", row)])) = true by
        decide +kernel)
  obtain ⟨hplain, hsound⟩ := of_decide_eq_true hall
  have hread := FilterNode.read?_eq_some.1 hf
  have he : Entity.meetings ∈ Entity.all := by simp [Entity.all]
  obtain ⟨s, g, f', hs, hg, hf', hholds⟩ := Entity.reduceFilter_agrees he hread hplain
  exact ⟨s, g, f, f', hs, hg, hread, hf', fun row hrow => hholds _ _ (hsound row hrow)⟩

/-! ### The empty text among several operands -/

/-- A filter for users without a name or with the name "a". -/
def unnamedOrA : Json :=
  .obj [("type", .str "column"), ("column", .str "name"), ("op", .str "in"), ("val", .arr [.str "", .str "a"])]

/-- The row of a member of staff in the sample data, but for the name, which is the empty text. -/
def unnamedEnv : Env :=
  [("users", ("name", .text "") :: (Entity.sampleStore.byId? TableDef.users.name (Sample.staffUserId 0)).getD [])]

/-- The filter has plain tests of sound cells and the user satisfies it, but not the accepted filter that it is reduced
to, in which the empty text is left out. -/
theorem Entity.not_agrees_unnamedOrA :
    ∃ s g f f', Entity.users.config.clientColumns = .ok s ∧ reduceFilter s unnamedOrA = .ok g ∧
      FilterNode.ofJson Entity.users.config unnamedOrA = .ok (.ok f) ∧
      FilterNode.ofJson Entity.users.config g = .ok (.ok f') ∧
      (∀ t ∈ f.tests, t.Plain ∧ t.column.CellSound Entity.sampleStore unnamedEnv) ∧
      (f.clause false).holds Entity.sampleStore unnamedEnv = true ∧
      (f'.clause false).holds Entity.sampleStore unnamedEnv = false := by
  obtain ⟨f, hf, hall⟩ := (Option.any_eq_true _ _).1
    (show (FilterNode.read? Entity.users.config unnamedOrA).any (fun f => decide (
      (∀ t ∈ f.tests, t.Plain ∧ t.column.CellSound Entity.sampleStore unnamedEnv) ∧
        (f.clause false).holds Entity.sampleStore unnamedEnv = true)) = true by decide +kernel)
  obtain ⟨f', hf', hreduced⟩ := (Option.any_eq_true _ _).1
    (show (FilterNode.read? Entity.users.config (.obj [("type", .str "column"), ("column", .str "name"),
      ("op", .str "="), ("val", .str "a")])).any (fun f =>
        !(f.clause false).holds Entity.sampleStore unnamedEnv) = true by decide +kernel)
  obtain ⟨htests, hholds⟩ := of_decide_eq_true hall
  exact ⟨_, _, f, f', EntityConfig.clientColumns_eq _, by with_unfolding_all rfl, FilterNode.read?_eq_some.1 hf,
    FilterNode.read?_eq_some.1 hf', htests, hholds, by simpa using hreduced⟩

end TableQuery
