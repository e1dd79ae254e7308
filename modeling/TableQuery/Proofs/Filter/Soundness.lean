import TableQuery.Proofs.Filter.Quantifier
import TableQuery.Proofs.Filter.Written

/-!
# Reduction is sound

Given a truth value for each filter without parts, a draft has a truth value (`Draft.truth`). If each leaf that
reduction can meet has the value of its own reduction, then so has the whole filter (`Draft.truth_reduce`), and
the same is true of filters as they are written (`filterTruth_reduceFilter`).
-/

set_option autoImplicit false

namespace TableQuery

namespace Draft

/-! ## Truth -/

/-- A truth value for each filter without parts, its inversion left aside. -/
abbrev Reading := LeafKind → Fields → Bool

mutual

/-- The truth value of a draft. What is bad counts as false. -/
def truth (v : Reading) : Draft → Bool
  | const value => value
  | op all ds inverse => quantify all id (truths v ds) != inverse
  | leaf kind fields => v kind (fields.erase "inv") != fields.isInverted
  | bad _ => false

def truths (v : Reading) : List Draft → List Bool
  | [] => []
  | d :: ds => truth v d :: truths v ds

end

section Truth

variable {s : ColumnSchemas} {P : LeafProperty} {v : Reading}

theorem truths_eq_map (ds : List Draft) : truths v ds = ds.map (truth v) := by
  induction ds with
  | nil => rfl
  | cons d ds ih => rw [truths, ih, List.map_cons]

theorem truth_op (all inverse : Bool) (ds : List Draft) :
    truth v (op all ds inverse) = (quantify all (truth v) ds != inverse) := by
  rw [truth, truths_eq_map, quantify_map]
  rfl

theorem truth_inverted {d : Draft} (h : Built P d) : truth v d.inverted = !truth v d := by
  cases h with
  | const value => rfl
  | leaf h =>
    rw [inverted, truth, truth, Fields.erase_inverted, Fields.isInverted_inverted]
    simp
  | op all inverse _ _ =>
    rw [inverted, truth_op, truth_op]
    simp

theorem truth_invertedIf {d : Draft} (h : Built P d) (invert : Bool) :
    truth v (d.invertedIf invert) = (truth v d != invert) := by
  cases invert with
  | false => simp [invertedIf]
  | true => simp [invertedIf, truth_inverted h]

theorem quantify_of_partOf {all : Bool} {r : Draft} {ds : List Draft} (h : Built P r)
    (hsplit : partOf all r = .splits ds) : quantify all (truth v) ds = truth v r := by
  rcases partOf_eq_splits.1 hsplit with rfl | ⟨es, rfl, rfl⟩
  · rw [truth_op, Bool.bne_false]
  · cases h with
    | op _ _ _ hes =>
      have hdual : quantify ((!all) != true) (fun e => truth v e != true) es =
        (quantify (!all) (truth v) es != true) :=
        quantify_bne true es
      rw [Bool.bne_true, Bool.not_not] at hdual
      rw [truth_op, ← hdual, quantify_map]
      exact quantify_congr fun e he => by rw [truth_inverted (hes e he), Bool.bne_true]

/-- The value of the parts of an operation, none of which is left if one decided. -/
def partsTruth (v : Reading) (all : Bool) : Option (List Draft) → Bool
  | none => !all
  | some ds => quantify all (truth v) ds

theorem truth_assemble (all : Bool) (parts : Option (List Draft)) :
    truth v (assemble all parts) = partsTruth v all parts := by
  match parts with
  | none => rfl
  | some [] => rw [assemble, truth, partsTruth, quantify_nil]
  | some [d] => rw [assemble, partsTruth, quantify_singleton]
  | some (d :: e :: ds) =>
    show truth v (op all (d :: e :: ds) false) = _
    rw [truth_op, partsTruth, Bool.bne_false]

/-- Each leaf with a property has the value of its own reduction. -/
def Reading.Respects (s : ColumnSchemas) (P : LeafProperty) (v : Reading) : Prop :=
  ∀ {kind fields r}, P kind fields → reduceLeaf s kind fields = .ok r →
    truth v r.toDraft = truth v (leaf kind fields)

theorem truth_reduce_and_parts (hP : Closed s P) (hv : Reading.Respects s P v) :
    (∀ d, LeavesIn P d → ∀ r, reduce s d = .ok r → truth v r = truth v d) ∧
      ∀ all ds, (∀ d ∈ ds, LeavesIn P d) → ∀ parts, reducedParts s all ds = .ok parts →
        partsTruth v all parts = quantify all (truth v) ds := by
  refine reduce_induct (s := s) _ _ ?const ?bad ?leaf ?op ?nil ?cons
  case const =>
    intro value _ r hr
    rw [reduce_const] at hr
    cases hr
    rfl
  case bad =>
    intro b _ r hr
    rw [reduce_bad] at hr
    cases hr
  case leaf =>
    intro kind fields hd r hr
    rw [reduce_leaf] at hr
    have hfields : P kind fields := hd (kind, fields) (by simp [leaves])
    cases hleaf : reduceLeaf s kind fields with
    | error e => rw [hleaf] at hr; cases hr
    | ok simple =>
      rw [hleaf] at hr
      cases hr
      exact hv hfields hleaf
  case op =>
    intro all ds inverse ih hd r hr
    rw [reduce_op] at hr
    have hds := leavesIn_op.1 hd
    cases hparts : reducedParts s all ds with
    | error e => rw [hparts] at hr; cases hr
    | ok parts =>
      rw [hparts] at hr
      cases hr
      have hbuilt := built_assemble hP.reducesTo hds hparts
      rw [truth_invertedIf hbuilt, truth_assemble, truth_op, ih hds parts hparts]
  case nil =>
    intro all _ parts hparts
    rw [reducedParts_nil] at hparts
    cases hparts
    rfl
  case cons =>
    intro all d rest ihd ihrest ihsplit hds parts hparts
    have hd := hds d List.mem_cons_self
    have hrest : ∀ e ∈ rest, LeavesIn P e := fun e he => hds e (List.mem_cons_of_mem _ he)
    obtain ⟨r, hr, hstep⟩ := reducedParts_cons_eq_ok.1 hparts
    have hreduced := isReduced_reduce hP.reducesTo hd hr
    have htruth := ihd hd r hr
    rcases hstep with ⟨hpart, rfl⟩ | ⟨hpart, hparts⟩ | ⟨ds, hsplit, hparts⟩ | ⟨-, others, hothers, rfl⟩
    · -- A part that decides has the value that the operation gets.
      rw [partOf_eq_deciding.1 hpart, truth] at htruth
      exact (quantify_cons_of_ne htruth.symm).symm
    · rw [partOf_eq_neutral.1 hpart, truth] at htruth
      rw [ihrest hrest parts hparts, quantify_cons_of_eq htruth.symm]
    · -- The parts that it stands for are put in its place.
      have hparts' := ihsplit r ds hr hsplit (fun e he => ?_) parts hparts
      · rw [hparts', quantify_append (quantify_of_partOf hreduced.built hsplit)]
        exact quantify_cons_congr htruth rfl
      · rcases List.mem_append.1 he with he | he
        · exact (hreduced.of_partOf hP.reducesTo hsplit e he).built.leavesIn
        · exact hrest e he
    · have hothers := ihrest hrest others hothers
      cases others with
      | none => exact (quantify_cons_of_tail_ne hothers.symm).symm
      | some es => exact quantify_cons_congr htruth hothers

/-- **A filter that has been reduced has the truth value that it had**, if every leaf has that of its own
reduction. -/
theorem truth_reduce (hP : Closed s P) (hv : Reading.Respects s P v) {d r : Draft} (hd : d.LeavesIn P)
    (h : reduce s d = .ok r) : truth v r = truth v d :=
  (truth_reduce_and_parts hP hv).1 d hd r h

end Truth

/-! ## Filters as they are written -/

/-- The leaves that the reduction of a draft can meet: its own, their opposites, and what leaves are reduced to. -/
inductive Meets (s : ColumnSchemas) (d : Draft) : LeafProperty
  | own {kind : LeafKind} {fields : Fields} : (kind, fields) ∈ d.leaves → Meets s d kind fields
  | opposite {kind : LeafKind} {fields : Fields} : Meets s d kind fields → Meets s d kind fields.inverted
  | reduced {kind kind' : LeafKind} {fields fields' : Fields} : Meets s d kind fields →
      reduceLeaf s kind fields = .ok (.leaf kind' fields') → Meets s d kind' fields'

theorem closed_meets (s : ColumnSchemas) (d : Draft) : Closed s (Meets s d) where
  inverted := .opposite
  reduced := .reduced

theorem Meets.of_closed {s : ColumnSchemas} {P : LeafProperty} (hP : Closed s P) {d : Draft} (hd : d.LeavesIn P)
    {kind : LeafKind} {fields : Fields} (h : Meets s d kind fields) : P kind fields := by
  induction h with
  | own hl => exact hd _ hl
  | opposite _ ih => exact hP.inverted ih
  | reduced _ hr ih => exact hP.reduced ih hr

end Draft

def filterTruth (v : Draft.Reading) (j : Json) : Bool :=
  (Draft.ofJson j).truth v

/-- **Reduction is sound.** If every leaf that the reduction of a filter can meet has the value of its own
reduction, then so has the filter. -/
theorem filterTruth_reduceFilter {s : ColumnSchemas} {f g : Json} (h : reduceFilter s f = .ok g) {v : Draft.Reading}
    (hv : Draft.Reading.Respects s (Draft.Meets s (Draft.ofJson f)) v) : filterTruth v g = filterTruth v f := by
  obtain ⟨r, hr, rfl⟩ := map_eq_ok.1 h
  rw [filterTruth, filterTruth, Draft.ofJson_toJson_of_reduce hr]
  exact Draft.truth_reduce (Draft.closed_meets s _) hv (fun _ hl => .own hl) hr

/-- The reading under which only the custom filter `own` and searches for nothing are true. -/
def ownReading : Draft.Reading
  | .custom, fields => (fields.value "customFilter").isText "own"
  | .global, fields => ((fields.value "val").str?.map fun s => (Text.trim s).isEmpty).getD false
  | .column, _ => false

theorem respects_ownReading : Draft.Reading.Respects {} (fun _ _ => True) ownReading := by
  intro kind fields r _ hr
  have hstripped : ∀ kind, kind ≠ .column → Draft.truth ownReading (Simple.leaf kind fields).stripped.toDraft =
      Draft.truth ownReading (.leaf kind fields) := by
    intro kind hkind
    rw [Simple.stripped, Simple.toDraft, Draft.truth, Draft.truth, Draft.isInverted_stripped]
    congr 1
    cases kind with
    | column => exact absurd rfl hkind
    | custom =>
      rw [ownReading, ownReading, Fields.value_erase_ne (by decide), Fields.value_erase_ne (by decide),
        Draft.value_stripped (by decide) (by decide)]
    | global =>
      rw [ownReading, ownReading, Fields.value_erase_ne (by decide), Fields.value_erase_ne (by decide),
        Draft.value_stripped (by decide) (by decide)]
  cases kind with
  | column =>
    obtain ⟨r', hr', -⟩ := map_eq_ok.1 hr
    unfold ColumnFilter.reduce at hr'
    dsimp only at hr'
    split at hr'
    · cases hr'
    · cases hr'
  | custom =>
    cases hr
    exact hstripped .custom (by decide)
  | global =>
    obtain ⟨r', hr', rfl⟩ := map_eq_ok.1 hr
    unfold reduceGlobal at hr'
    split at hr'
    next text htext =>
      cases hr'
      split
      next hempty =>
        rw [Draft.truth, ownReading, Fields.value_erase_ne (by decide), htext]
        simp [Simple.invertedIf, Simple.stripped, Simple.toDraft, Draft.truth, Json.str?, hempty]
      next => exact hstripped .global (by decide)
    next => cases hr'

/-- A filter whose reduction takes an inverted disjunction apart, drops an empty search and keeps two custom
filters. -/
def nestedFilter : Json :=
  .obj [("type", .str "op"), ("op", .str "&"), ("val", .arr [
    .obj [("type", .str "global"), ("op", .str "%v%"), ("val", .str " ")],
    .obj [("type", .str "op"), ("op", .str "|"), ("inv", .bool true), ("val", .arr [
      .obj [("type", .str "custom"), ("customFilter", .str "own"), ("inv", .bool true)],
      .obj [("type", .str "const"), ("val", .str "always"), ("inv", .bool true)],
      .obj [("type", .str "custom"), ("customFilter", .str "other"), ("note", .null)]])]])]

/-- Under that reading the filter is true, before and after it has been reduced. -/
theorem filterTruth_reduceFilter_nested : ∃ g, reduceFilter {} nestedFilter = .ok g ∧
    filterTruth ownReading nestedFilter = true ∧ filterTruth ownReading g = true := by
  have hsome : (reduceFilter {} nestedFilter).toOption.isSome = true := by decide +kernel
  have htrue : filterTruth ownReading nestedFilter = true := by decide +kernel
  cases hg : reduceFilter {} nestedFilter with
  | error e =>
    rw [hg] at hsome
    cases hsome
  | ok g =>
    refine ⟨g, rfl, htrue, ?_⟩
    rw [filterTruth_reduceFilter hg fun _ => respects_ownReading trivial, htrue]

end TableQuery
