import TableQuery.Proofs.Filter.Reduces
import TableQuery.Proofs.Outcomes

/-!
# What reduction makes

What reduction makes is a constant or in normal form: its operations have two parts at least, none of which can be taken
apart, and its leaves have every property that the leaves of the filter get by being reduced and that passes to
opposites (`Draft.isReduced_reduce`). So it has no bad parts and no empty operations (`Draft.built_reduceTo`), and its
leaves have every property that those of the filter keep (`Draft.built_reduce`). Reduction of a draft without bad parts
succeeds if that of its leaves does (`Draft.reduce_whole`).
-/

set_option autoImplicit false

namespace TableQuery

/-- A property of filters without parts. -/
abbrev LeafProperty := LeafKind → Fields → Prop

namespace Draft

/-! ## Leaves -/

mutual

def leaves : Draft → List (LeafKind × Fields)
  | op _ ds _ => leavesOfAll ds
  | leaf kind fields => [(kind, fields)]
  | _ => []

def leavesOfAll : List Draft → List (LeafKind × Fields)
  | [] => []
  | d :: ds => leaves d ++ leavesOfAll ds

end

/-- All leaves of a draft have a property. -/
def LeavesIn (P : LeafProperty) (d : Draft) : Prop :=
  ∀ l ∈ d.leaves, P l.1 l.2

theorem mem_leavesOfAll {ds : List Draft} {l : LeafKind × Fields} :
    l ∈ leavesOfAll ds ↔ ∃ d ∈ ds, l ∈ d.leaves := by
  induction ds with
  | nil => simp [leavesOfAll]
  | cons d ds ih => simp [leavesOfAll, ih]

theorem leavesIn_op {P : LeafProperty} {all inverse : Bool} {ds : List Draft} :
    (op all ds inverse).LeavesIn P ↔ ∀ d ∈ ds, d.LeavesIn P := by
  constructor
  · exact fun h d hd l hl => h l (by rw [leaves]; exact mem_leavesOfAll.2 ⟨d, hd, hl⟩)
  · intro h l hl
    rw [leaves, mem_leavesOfAll] at hl
    obtain ⟨d, hd, hl⟩ := hl
    exact h d hd l hl

/-- A draft without bad parts and empty operations, all of whose leaves have a property. -/
inductive Built (P : LeafProperty) : Draft → Prop
  | const (value : Bool) : Built P (const value)
  | leaf {kind : LeafKind} {fields : Fields} : P kind fields → Built P (leaf kind fields)
  | op (all : Bool) {ds : List Draft} (inverse : Bool) : ds ≠ [] → (∀ d ∈ ds, Built P d) →
      Built P (op all ds inverse)

theorem Built.leavesIn {P : LeafProperty} {d : Draft} (h : Built P d) : d.LeavesIn P := by
  induction h with
  | const value => simp [LeavesIn, leaves]
  | leaf h =>
    intro l hl
    rw [leaves, List.mem_singleton] at hl
    rwa [hl]
  | op all inverse _ _ ih => exact leavesIn_op.2 ih

/-- A draft without bad parts. -/
inductive Whole : Draft → Prop
  | const (value : Bool) : Whole (const value)
  | leaf (kind : LeafKind) (fields : Fields) : Whole (leaf kind fields)
  | op (all : Bool) {ds : List Draft} (inverse : Bool) : (∀ d ∈ ds, Whole d) → Whole (op all ds inverse)

theorem Built.whole {P : LeafProperty} {d : Draft} (h : Built P d) : Whole d := by
  induction h with
  | const value => exact .const value
  | leaf h => exact .leaf _ _
  | op all inverse _ _ ih => exact .op all inverse ih

/-- A draft of leaves with a property and of operations with two parts at least, none of which stands for others. -/
inductive Normal (P : LeafProperty) : Draft → Prop
  | leaf {kind : LeafKind} {fields : Fields} : P kind fields → Normal P (leaf kind fields)
  | op (all : Bool) {ds : List Draft} (inverse : Bool) : 2 ≤ ds.length → (∀ d ∈ ds, Normal P d) →
      (∀ d ∈ ds, partOf all d = .stays) → Normal P (op all ds inverse)

/-- A constant, or a draft in normal form. -/
def IsReduced (P : LeafProperty) (d : Draft) : Prop :=
  (∃ value, d = const value) ∨ Normal P d

theorem Normal.built {P : LeafProperty} {d : Draft} (h : Normal P d) : Built P d := by
  induction h with
  | leaf h => exact .leaf h
  | op all inverse hlength _ _ ih =>
    refine .op all inverse ?_ ih
    rintro rfl
    cases hlength

theorem IsReduced.built {P : LeafProperty} {d : Draft} (h : IsReduced P d) : Built P d := by
  rcases h with ⟨value, rfl⟩ | h
  · exact .const value
  · exact h.built

/-- Leaves with a property `P` are reduced to leaves with a property `Q`, which passes to opposites and gives `P`
back. -/
structure ReducesTo (s : ColumnSchemas) (P Q : LeafProperty) : Prop where
  reduced : ∀ {kind fields kind' fields'}, P kind fields → reduceLeaf s kind fields = .ok (.leaf kind' fields') →
    Q kind' fields'
  inverted : ∀ {kind fields}, Q kind fields → Q kind fields.inverted
  again : ∀ {kind fields}, Q kind fields → P kind fields

/-- With a leaf the property has its opposite and the leaf that it is reduced to. -/
structure Closed (s : ColumnSchemas) (P : LeafProperty) : Prop where
  inverted : ∀ {kind fields}, P kind fields → P kind fields.inverted
  reduced : ∀ {kind fields kind' fields'}, P kind fields → reduceLeaf s kind fields = .ok (.leaf kind' fields') →
    P kind' fields'

theorem Closed.reducesTo {s : ColumnSchemas} {P : LeafProperty} (hP : Closed s P) : ReducesTo s P P :=
  ⟨hP.reduced, hP.inverted, id⟩

theorem ReducesTo.and {s : ColumnSchemas} {P P' Q Q' : LeafProperty} (h : ReducesTo s P Q) (h' : ReducesTo s P' Q') :
    ReducesTo s (fun kind fields => P kind fields ∧ P' kind fields)
      (fun kind fields => Q kind fields ∧ Q' kind fields) where
  reduced hP hr := ⟨h.reduced hP.1 hr, h'.reduced hP.2 hr⟩
  inverted hQ := ⟨h.inverted hQ.1, h'.inverted hQ.2⟩
  again hQ := ⟨h.again hQ.1, h'.again hQ.2⟩

theorem LeavesIn.mono {P Q : LeafProperty} (h : ∀ {kind fields}, Q kind fields → P kind fields) {d : Draft}
    (hd : d.LeavesIn Q) : d.LeavesIn P :=
  fun l hl => h (hd l hl)

section Reduction

variable {s : ColumnSchemas} {P Q : LeafProperty} {all : Bool} {d r : Draft} {ds : List Draft}

theorem Normal.inverted (hP : ReducesTo s P Q) (h : Normal Q d) : Normal Q d.inverted := by
  cases h with
  | leaf h => exact .leaf (hP.inverted h)
  | op all inverse hlength hds hstays => exact .op all _ hlength hds hstays

theorem IsReduced.of_partOf (hP : ReducesTo s P Q) (h : IsReduced Q r) (hsplit : partOf all r = .splits ds) :
    ∀ d ∈ ds, Normal Q d := by
  rcases h with ⟨value, rfl⟩ | h
  · rcases partOf_eq_splits.1 hsplit with hop | ⟨es, hop, -⟩ <;> cases hop
  · rcases partOf_eq_splits.1 hsplit with rfl | ⟨es, rfl, rfl⟩
    · cases h with
      | op _ _ _ hds => exact hds
    · cases h with
      | op _ _ _ hes => exact List.forall_mem_map.2 fun e he => (hes e he).inverted hP

theorem IsReduced.invertedIf (hP : ReducesTo s P Q) (h : IsReduced Q d) (invert : Bool) :
    IsReduced Q (d.invertedIf invert) := by
  cases invert with
  | false => exact h
  | true =>
    rcases h with ⟨value, rfl⟩ | h
    · exact Or.inl ⟨!value, rfl⟩
    · exact Or.inr (h.inverted hP)

theorem IsReduced.normal_of_stays (h : IsReduced P d) (hstays : partOf all d = .stays) : Normal P d := by
  rcases h with ⟨value, rfl⟩ | h
  · cases value <;> cases all <;> simp [partOf] at hstays
  · exact h

theorem isReduced_assemble {parts : Option (List Draft)}
    (h : ∀ ds, parts = some ds → ∀ d ∈ ds, Normal P d ∧ partOf all d = .stays) : IsReduced P (assemble all parts) := by
  match parts with
  | none => exact Or.inl ⟨!all, rfl⟩
  | some [] => exact Or.inl ⟨all, rfl⟩
  | some [d] => exact Or.inr (h [d] rfl d List.mem_cons_self).1
  | some (d :: e :: ds) =>
    exact Or.inr (.op all false (by simp) (fun d hd => (h _ rfl d hd).1) fun d hd => (h _ rfl d hd).2)

/-- What becomes of a draft is reduced, and what becomes of the parts of an operation are parts that stay. -/
theorem isReduced_reduce_and_parts (hP : ReducesTo s P Q) :
    (∀ d, LeavesIn P d → ∀ r, reduce s d = .ok r → IsReduced Q r) ∧
      ∀ all ds, (∀ d ∈ ds, LeavesIn P d) → ∀ parts, reducedParts s all ds = .ok parts →
        ∀ es, parts = some es → ∀ e ∈ es, Normal Q e ∧ partOf all e = .stays := by
  refine reduce_induct (s := s) _ _ ?const ?bad ?leaf ?op ?nil ?cons
  case const =>
    intro value _ r hr
    rw [reduce_const] at hr
    cases hr
    exact Or.inl ⟨value, rfl⟩
  case bad =>
    intro b _ r hr
    rw [reduce_bad] at hr
    cases hr
  case leaf =>
    intro kind fields hd r hr
    rw [reduce_leaf] at hr
    have hfields : P kind fields := hd (kind, fields) (by simp [leaves])
    obtain ⟨simple, hsimple, rfl⟩ := map_eq_ok.1 hr
    cases simple with
    | const value => exact Or.inl ⟨value, rfl⟩
    | leaf kind' fields' => exact Or.inr (.leaf (hP.reduced hfields hsimple))
  case op =>
    intro all ds inverse ih hd r hr
    rw [reduce_op] at hr
    obtain ⟨parts, hparts, rfl⟩ := map_eq_ok.1 hr
    exact (isReduced_assemble (ih (leavesIn_op.1 hd) parts hparts)).invertedIf hP inverse
  case nil =>
    intro all _ parts hparts es hes
    rw [reducedParts_nil] at hparts
    cases hparts
    cases hes
    simp
  case cons =>
    intro all d rest ihd ihrest ihsplit hds parts hparts es hes
    obtain ⟨hd, hrest⟩ := List.forall_mem_cons.1 hds
    obtain ⟨r, hr, hstep⟩ := reducedParts_cons_eq_ok.1 hparts
    rcases hstep with ⟨-, rfl⟩ | ⟨-, hparts⟩ | ⟨ds, hsplit, hparts⟩ | ⟨hstays, others, hothers, rfl⟩
    · cases hes
    · exact ihrest hrest parts hparts es hes
    · -- The parts that are put back have been reduced before.
      have hnormal := (ihd hd r hr).of_partOf hP hsplit
      refine ihsplit r ds hr hsplit (List.forall_mem_append.2 ⟨fun e he => ?_, hrest⟩) parts hparts es hes
      exact (hnormal e he).built.leavesIn.mono hP.again
    · obtain ⟨es', rfl, rfl⟩ := Option.map_eq_some_iff.1 hes
      rw [List.forall_mem_cons]
      exact ⟨⟨(ihd hd r hr).normal_of_stays hstays, hstays⟩, ihrest hrest _ hothers es' rfl⟩

/-- **What reduction makes is a constant or in normal form.** -/
theorem isReduced_reduce (hP : ReducesTo s P Q) (hd : d.LeavesIn P) (h : reduce s d = .ok r) : IsReduced Q r :=
  (isReduced_reduce_and_parts hP).1 d hd r h

theorem built_reduceTo (hP : ReducesTo s P Q) (hd : d.LeavesIn P) (h : reduce s d = .ok r) : Built Q r :=
  (isReduced_reduce hP hd h).built

theorem built_assemble (hP : ReducesTo s P Q) {parts : Option (List Draft)}
    (hds : ∀ d ∈ ds, d.LeavesIn P) (h : reducedParts s all ds = .ok parts) : Built Q (assemble all parts) :=
  (isReduced_assemble ((isReduced_reduce_and_parts hP).2 all ds hds parts h)).built

theorem built_reduce (hP : Closed s P) (hd : d.LeavesIn P) (h : reduce s d = .ok r) : Built P r :=
  built_reduceTo hP.reducesTo hd h

/-- Reduction succeeds on drafts without bad parts if it does so on their leaves. -/
theorem reduce_and_parts_succeed (hP : ReducesTo s P Q)
    (hleaf : ∀ kind fields, P kind fields → ∃ r, reduceLeaf s kind fields = .ok r) :
    (∀ d, Whole d → LeavesIn P d → ∃ r, reduce s d = .ok r) ∧
      ∀ all ds, (∀ d ∈ ds, Whole d) → (∀ d ∈ ds, LeavesIn P d) → ∃ parts, reducedParts s all ds = .ok parts := by
  refine reduce_induct (s := s) _ _ ?const ?bad ?leaf ?op ?nil ?cons
  case const => exact fun value _ _ => ⟨_, reduce_const value⟩
  case bad =>
    intro b hd
    cases hd
  case leaf =>
    intro kind fields _ hd
    obtain ⟨r, hr⟩ := hleaf kind fields (hd (kind, fields) (by simp [leaves]))
    exact ⟨r.toDraft, by rw [reduce_leaf, hr]; rfl⟩
  case op =>
    intro all ds inverse ih hwhole hd
    cases hwhole with
    | op _ _ hds =>
      obtain ⟨parts, hparts⟩ := ih hds (leavesIn_op.1 hd)
      exact ⟨_, by rw [reduce_op, hparts]; rfl⟩
  case nil => exact fun all _ _ => ⟨_, reducedParts_nil⟩
  case cons =>
    intro all d rest ihd ihrest ihsplit hwhole hds
    obtain ⟨hd, hrest⟩ := List.forall_mem_cons.1 hds
    obtain ⟨hwhole, hrest'⟩ := List.forall_mem_cons.1 hwhole
    obtain ⟨r, hr⟩ := ihd hwhole hd
    refine exists_reducedParts_cons hr (ihrest hrest' hrest) fun ds hsplit => ?_
    have hnormal := (isReduced_reduce hP hd hr).of_partOf hP hsplit
    exact ihsplit r ds hr hsplit
      (List.forall_mem_append.2 ⟨fun e he => (hnormal e he).built.whole, hrest'⟩)
      (List.forall_mem_append.2 ⟨fun e he => (hnormal e he).built.leavesIn.mono hP.again, hrest⟩)

/-- **A draft without bad parts is reduced** if its leaves are. -/
theorem reduce_whole (hP : ReducesTo s P Q)
    (hleaf : ∀ kind fields, P kind fields → ∃ r, reduceLeaf s kind fields = .ok r) (hd : Whole d)
    (hleaves : d.LeavesIn P) : ∃ r, reduce s d = .ok r :=
  (reduce_and_parts_succeed hP hleaf).1 d hd hleaves

/-- A built draft is reduced if its leaves are. -/
theorem reduce_succeeds (hP : Closed s P)
    (hleaf : ∀ kind fields, P kind fields → ∃ r, reduceLeaf s kind fields = .ok r) (hd : Built P d) :
    ∃ r, reduce s d = .ok r :=
  reduce_whole hP.reducesTo hleaf hd.whole hd.leavesIn

end Reduction

end Draft

end TableQuery
