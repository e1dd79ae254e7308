import TableQuery.Proofs.Filter.Acceptance
import TableQuery.Proofs.Filter.Built
import TableQuery.Proofs.Filter.Opposite
import TableQuery.Proofs.Filter.Shortened

/-!
# Reduced filters as they are written

The fields of a leaf say of what kind it is (`Draft.Typed`). Leaves that are reduced keep to this, so that what
reduction writes is read back as what it made (`Draft.ofJson_toJson_of_reduce`).
-/

set_option autoImplicit false

namespace TableQuery

theorem FilterNode.eq_of_operation? {j : Json} {all : Bool} (h : FilterNode.operation? j = some all) :
    j = .str (operationSymbol all) := by
  unfold FilterNode.operation? at h
  split at h
  next htext =>
    cases h
    exact Json.isText_iff.1 htext
  next =>
    split at h
    next htext =>
      cases h
      exact Json.isText_iff.1 htext
    next => cases h

namespace Draft

/-! ## Drafts and filters as they are written -/

/-- The fields of a leaf say of what kind it is. -/
def Typed : LeafProperty :=
  fun kind fields => fields.value "type" = .str kind.name

theorem partsOf_eq (fields : Fields) : partsOf fields =
    match fields.lookup "val" with
    | some (.arr items) => some (ofItems items)
    | _ => none := by
  induction fields with
  | nil => rfl
  | cons p rest ih =>
    obtain ⟨k, w⟩ := p
    by_cases hk : k = "val"
    · subst hk
      rw [List.lookup_cons_self, partsOf.eq_def]
      cases w <;> rfl
    · have hk' : (k == "val") = false := beq_eq_false_iff_ne.2 hk
      have hk'' : ("val" == k) = false := beq_eq_false_iff_ne.2 (Ne.symm hk)
      rw [List.lookup_cons, hk'', ← ih, partsOf.eq_def]
      simp only [hk', Bool.false_eq_true, ↓reduceIte]

theorem ofItems_eq_map (items : List Json) : ofItems items = items.map ofJson := by
  induction items with
  | nil => rfl
  | cons j js ih => rw [ofItems, ih, List.map_cons]

theorem toItems_eq_map (ds : List Draft) : toItems ds = ds.map toJson := by
  induction ds with
  | nil => rfl
  | cons d ds ih => rw [toItems, ih, List.map_cons]

theorem typed_ofJson (j : Json) : (ofJson j).LeavesIn Typed := by
  induction j using Json.filter_induct with
  | other j hj =>
    cases j with
    | str s =>
      rw [ofJson]
      split
      · simp [LeavesIn, leaves]
      · split <;> simp [LeavesIn, leaves]
    | obj fields => cases hj
    | _ => simp [ofJson, LeavesIn, leaves]
  | obj fields ih =>
    have hleaf : ∀ kind : LeafKind, (fields.value "type").isText kind.name = true →
        (leaf kind fields).LeavesIn Typed := by
      intro kind hkind l hl
      rw [leaves, List.mem_singleton] at hl
      rw [hl]
      exact Json.isText_iff.1 hkind
    rw [ofJson]
    split
    · rw [ofConst]
      split <;> simp [LeavesIn, leaves]
    split
    · unfold ofOperation
      rw [partsOf_eq]
      dsimp only
      split
      · split
        next ds hds =>
          rw [leavesIn_op]
          intro d hd
          split at hds
          next items hitems =>
            rw [← Option.some.inj hds, ofItems_eq_map] at hd
            obtain ⟨j, hj, rfl⟩ := List.mem_map.1 hd
            exact ih items hitems j hj
          next => cases hds
        · simp [LeavesIn, leaves]
      · simp [LeavesIn, leaves]
    split
    next h => exact hleaf .column h
    split
    next h => exact hleaf .custom h
    split
    next h => exact hleaf .global h
    · simp [LeavesIn, leaves]

theorem ofJson_leaf {kind : LeafKind} {fields : Fields} (h : Typed kind fields) :
    ofJson (.obj fields) = leaf kind fields := by
  rw [ofJson]
  rw [show Fields.value fields "type" = .str kind.name from h]
  cases kind <;> rfl

/-- An operation taken apart. -/
theorem ofJson_op {fields : Fields} {all : Bool} {items : List Json} (htype : fields.value "type" = .str "op")
    (hop : FilterNode.operation? (fields.value "op") = some all) (hval : fields.lookup "val" = some (.arr items)) :
    ofJson (.obj fields) = .op all (items.map ofJson) fields.isInverted := by
  have hsymbol := FilterNode.eq_of_operation? hop
  rw [ofJson]
  simp only [show Fields.value fields "type" = .str "op" from htype]
  rw [if_neg (by decide), if_pos (by decide), partsOf_eq, hval]
  unfold ofOperation
  rw [hsymbol, ← ofItems_eq_map]
  cases all <;> rfl

/-- **What is written is read back**: a built draft whose leaves say of what kind they are is the draft of its
own filter. -/
theorem ofJson_toJson {d : Draft} (h : Built Typed d) : ofJson d.toJson = d := by
  induction h with
  | const value => cases value <;> rfl
  | leaf h => rw [toJson, ofJson_leaf h]
  | @op all ds inverse _ _ ih =>
    have hitems : ofItems (toItems ds) = ds := by
      rw [ofItems_eq_map, toItems_eq_map, List.map_map]
      exact List.map_congr_left ih |>.trans (List.map_id ds)
    rw [toJson, ofJson]
    cases inverse <;> cases all <;>
      simp [Fields.value, List.lookup_cons, Json.isText, ofOperation, partsOf, hitems, Fields.isInverted, Json.truthy,
        operationSymbol]

/-! ## What leaves are reduced to -/

section Leaves

variable {s : ColumnSchemas}

theorem leavesIn_toDraft_leaf {P : LeafProperty} {kind : LeafKind} {fields : Fields} :
    (Simple.leaf kind fields).toDraft.LeavesIn P ↔ P kind fields := by
  simp [LeavesIn, Simple.toDraft, leaves]

theorem leavesIn_toDraft_const {P : LeafProperty} (value : Bool) : (Simple.const value).toDraft.LeavesIn P := by
  simp [LeavesIn, Simple.toDraft, leaves]

theorem leavesIn_invertedIf {P : LeafProperty} (hP : ∀ {kind fields}, P kind fields → P kind fields.inverted)
    {r : Simple} (h : r.toDraft.LeavesIn P) (invert : Bool) : (r.invertedIf invert).toDraft.LeavesIn P := by
  cases r with
  | const value => exact leavesIn_toDraft_const _
  | leaf kind fields =>
    rw [leavesIn_toDraft_leaf] at h
    rw [Simple.invertedIf, leavesIn_toDraft_leaf]
    split
    · exact hP h
    · exact h

theorem typed_inverted {kind : LeafKind} {fields : Fields} (h : Typed kind fields) : Typed kind fields.inverted := by
  rw [Typed, Fields.value_inverted_ne (by decide), h]

theorem typed_invertedIf {r : Simple} (h : r.toDraft.LeavesIn Typed) (invert : Bool) :
    (r.invertedIf invert).toDraft.LeavesIn Typed :=
  leavesIn_invertedIf (P := Typed) typed_inverted h invert

theorem lookup_stripped {kind : LeafKind} {fields : Fields} {k : String} (hk : k ∈ kind.keys) (hinv : k ≠ "inv") :
    (Fields.tidy (fields.select kind.keys)).lookup k = fields.lookup k := by
  rw [Fields.tidy]
  split
  · exact Fields.lookup_select hk
  · rw [Fields.lookup_erase_ne hinv, Fields.lookup_select hk]

theorem value_stripped {kind : LeafKind} {fields : Fields} {k : String} (hk : k ∈ kind.keys) (hinv : k ≠ "inv") :
    (Fields.tidy (fields.select kind.keys)).value k = fields.value k := by
  rw [Fields.value, Fields.value, lookup_stripped hk hinv]

theorem mem_keys_stripped {kind : LeafKind} {fields : Fields} {k : String}
    (h : k ∈ Fields.keys (Fields.tidy (fields.select kind.keys))) : k ∈ kind.keys := by
  unfold Fields.tidy at h
  split at h
  · exact Fields.mem_keys_select h
  · exact Fields.mem_keys_select (Fields.mem_keys_erase h)

theorem isInverted_stripped (kind : LeafKind) (fields : Fields) :
    (Fields.tidy (fields.select kind.keys)).isInverted = fields.isInverted := by
  have hselect : Fields.isInverted (fields.select kind.keys) = fields.isInverted := by
    rw [Fields.isInverted, Fields.isInverted, Fields.value_select (by cases kind <;> decide)]
  rw [Fields.tidy]
  split
  · exact hselect
  next h =>
    rw [← hselect, Bool.eq_false_iff.2 h, Fields.isInverted, Fields.value, Fields.lookup_erase_self]
    rfl

theorem typed_stripped {r : Simple} (h : r.toDraft.LeavesIn Typed) : r.stripped.toDraft.LeavesIn Typed := by
  cases r with
  | const value => exact leavesIn_toDraft_const _
  | leaf kind fields =>
    rw [leavesIn_toDraft_leaf] at h
    rw [Simple.stripped, leavesIn_toDraft_leaf, Typed, value_stripped (by cases kind <;> decide) (by decide)]
    exact h

/-- A property of the filters that reduction makes that passes to opposites is one of all that column filters are turned
into. -/
theorem leavesIn_reduceOn {P : LeafProperty} (hP : ∀ {kind fields}, P kind fields → P kind fields.inverted)
    (hmake : ∀ name op value, (ColumnFilter.make name op value).toDraft.LeavesIn P) {column fields : Fields}
    {r : Simple}
    (h : ColumnFilter.reduceOn column fields = .ok (some r)) : r.toDraft.LeavesIn P := by
  have hmissing : (ColumnFilter.nullFilter column (fields.value "column")).toDraft.LeavesIn P := by
    unfold ColumnFilter.nullFilter
    split
    · exact hmake _ _ _
    · exact leavesIn_toDraft_const _
  rcases ColumnFilter.reduceOn_cases h with ⟨value, rfl⟩ | ⟨invert, rfl⟩ | ⟨values, -, hshort⟩
  · exact leavesIn_toDraft_const _
  · exact leavesIn_invertedIf (P := P) hP hmissing invert
  · cases hshort with
    | const value => exact leavesIn_toDraft_const _
    | missing => exact hmissing
    | one _ _ | many _ _ => exact hmake _ _ _

theorem typed_reduceOn {column fields : Fields} {r : Simple}
    (h : ColumnFilter.reduceOn column fields = .ok (some r)) : r.toDraft.LeavesIn Typed :=
  leavesIn_reduceOn (P := Typed) typed_inverted (fun _ _ _ => leavesIn_toDraft_leaf.2 rfl) h

theorem typed_reduceColumn {fields : Fields} {r : Simple} (hf : Typed .column fields)
    (h : ColumnFilter.reduce s fields = .ok r) : r.toDraft.LeavesIn Typed := by
  obtain ⟨-, column, out, -, hon, rfl⟩ := ColumnFilter.reduce_eq_ok.1 h
  cases out with
  | none => exact leavesIn_toDraft_leaf.2 hf
  | some r => exact typed_invertedIf (typed_reduceOn hon) _

theorem typed_reduceGlobal {fields : Fields} {r : Simple} (hf : Typed .global fields)
    (h : reduceGlobal fields = .ok r) : r.toDraft.LeavesIn Typed := by
  unfold reduceGlobal at h
  split at h
  · cases h
    split
    · exact typed_invertedIf (leavesIn_toDraft_const true) _
    · exact leavesIn_toDraft_leaf.2 hf
  · cases h

theorem typed_reduceLeaf {kind : LeafKind} {fields : Fields} {r : Simple} (hf : Typed kind fields)
    (h : reduceLeaf s kind fields = .ok r) : r.toDraft.LeavesIn Typed := by
  cases kind with
  | column =>
    obtain ⟨r', hr', rfl⟩ := map_eq_ok.1 h
    exact typed_stripped (typed_reduceColumn hf hr')
  | custom =>
    cases h
    exact typed_stripped (leavesIn_toDraft_leaf.2 hf)
  | global =>
    obtain ⟨r', hr', rfl⟩ := map_eq_ok.1 h
    exact typed_stripped (typed_reduceGlobal hf hr')

theorem closed_typed : Closed s Typed where
  inverted := typed_inverted
  reduced h hr := leavesIn_toDraft_leaf.1 (typed_reduceLeaf h hr)

/-- **A reduced filter is read back as what reduction made.** -/
theorem ofJson_toJson_of_reduce {j : Json} {r : Draft} (h : reduce s (ofJson j) = .ok r) : ofJson r.toJson = r :=
  ofJson_toJson (built_reduce closed_typed (typed_ofJson j) h)

end Leaves

end Draft

/-! ## Reading what is written -/

namespace FilterNode

variable {config : EntityConfig} {P : FilterNode → Prop}

theorem exists_parts {ds : List Draft} (h : ∀ d ∈ ds, ∃ n, ofJson config d.toJson = .ok (.ok n) ∧ P n) :
    ∃ fs : List FilterNode, (ds.map Draft.toJson).map (ofJson config) = fs.map (fun f => .ok (.ok f)) ∧
      ∀ f ∈ fs, P f := by
  induction ds with
  | nil => exact ⟨[], rfl, by simp⟩
  | cons d ds ih =>
    obtain ⟨f, hf, hfirst⟩ := h d List.mem_cons_self
    obtain ⟨fs, hfs, hrest⟩ := ih fun e he => h e (List.mem_cons_of_mem _ he)
    refine ⟨f :: fs, ?_, fun f' hf' => ?_⟩
    · rw [List.map_cons, List.map_cons, List.map_cons, hf, hfs]
    · rcases List.mem_cons.1 hf' with rfl | hf'
      · exact hfirst
      · exact hrest f' hf'

/-- **A built draft is written as a filter that is read** if its leaves are, with every property of those that
constants have and that operations get from their parts. -/
theorem ofJson_toJson_of_leaves {Q : LeafProperty} (hconst : ∀ value, P (.const value))
    (hleaf : ∀ {kind fields}, Q kind fields → ∃ n, ofJson config (.obj fields) = .ok (.ok n) ∧ P n)
    (hop : ∀ {all fs inverse}, (∀ f ∈ fs, P f) → P (.op all fs inverse)) {d : Draft} (h : Draft.Built Q d) :
    ∃ n, ofJson config d.toJson = .ok (.ok n) ∧ P n := by
  induction h with
  | const value =>
    refine ⟨.const value, ?_, hconst value⟩
    cases value <;> rfl
  | leaf h => exact hleaf h
  | @op all ds inverse hne _ ih =>
    obtain ⟨fs, hfs, hparts⟩ := exists_parts ih
    refine ⟨.op all fs inverse, ofJson_obj_eq_ok.2 ⟨"op", rfl, ?_, Or.inl ⟨rfl, ?_⟩⟩, hop hparts⟩
    · refine ⟨_, rfl, List.append_eq_nil_iff.2 ⟨strangers_eq_nil.2 ?_, ?_⟩⟩
      · cases inverse <;> simp [Fields.keys]
      · cases inverse <;> rfl
    · refine readParts_eq_ok.2 ⟨all, (ds.map Draft.toJson), fs, ?_, ?_, by simpa using hne, hfs, ?_⟩
      · cases all <;> rfl
      · rw [Draft.toItems_eq_map]
        rfl
      · cases inverse <;> rfl

end FilterNode

end TableQuery
