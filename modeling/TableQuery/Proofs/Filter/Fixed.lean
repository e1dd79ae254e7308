import TableQuery.Proofs.Filter.Flags

/-!
# Leaves that are left as they are

What a leaf is reduced to is left as it is when it is reduced again (`Draft.fixed_reduceLeaf`), where no list of values
contains a list (`Draft.Flat`). Without that condition it need not be: a list with one member becomes that member, which
is a list to be reduced, and not every operator takes one.
-/

set_option autoImplicit false

namespace TableQuery.Draft

variable {s : ColumnSchemas} {kind : LeafKind} {fields fields' : Fields} {r : Simple}

/-- No list of values of a column filter contains a list. -/
def Flat : LeafProperty := fun kind fields =>
  kind = .column → ∀ values, fields.value "val" = .arr values → ∀ j ∈ values, ∀ items, j ≠ .arr items

theorem flat_iff {kind : LeafKind} {fields : Fields} :
    Flat kind fields ↔ (kind = .column → ∀ j ∈ (fields.value "val").items?.getD [], j.items? = none) := by
  refine imp_congr_right fun _ => ⟨fun h j hj => ?_, fun h values hvalues j hj items hitems => ?_⟩
  · cases hval : fields.value "val" with
    | arr values =>
      rw [hval] at hj
      cases j with
      | arr items => exact absurd rfl (h values hval _ hj items)
      | _ => rfl
    | _ =>
      rw [hval] at hj
      cases hj
  · have hscalar : j.items? = none := h j (by rw [hvalues]; exact hj)
    rw [hitems] at hscalar
    cases hscalar

instance (kind : LeafKind) (fields : Fields) : Decidable (Flat kind fields) :=
  decidable_of_iff _ flat_iff.symm

theorem Flat.congr (h : Flat kind fields) (hval : fields'.value "val" = fields.value "val") : Flat kind fields' :=
  fun hkind values hvalues => h hkind values (hval ▸ hvalues)

/-- A flat leaf that reduction leaves as it is. -/
def Fixed (s : ColumnSchemas) : LeafProperty := fun kind fields =>
  Flat kind fields ∧ reduceLeaf s kind fields = .ok (.leaf kind fields)

theorem Fixed.inverted (h : Fixed s kind fields) : Fixed s kind fields.inverted := by
  refine ⟨h.1.congr (Fields.value_inverted_ne (by decide)), ?_⟩
  have hagree := agree_reduceLeaf_inverted s kind fields
  rw [h.2] at hagree
  obtain ⟨r, hr, rfl⟩ := hagree.exists_of_ok
  exact hr

theorem fixed_invertedIf (h : r.toDraft.LeavesIn (Fixed s)) (invert : Bool) :
    (r.invertedIf invert).toDraft.LeavesIn (Fixed s) :=
  leavesIn_invertedIf (P := Fixed s) Fixed.inverted h invert

theorem stripped_reduceLeaf (h : reduceLeaf s kind fields = .ok r) : r.stripped = r := by
  cases kind with
  | column | global =>
    obtain ⟨r', -, rfl⟩ := map_eq_ok.1 h
    exact r'.stripped_stripped
  | custom =>
    cases h
    exact Simple.stripped_stripped _

theorem stripped_of_fixed (h : r.toDraft.LeavesIn (Fixed s)) : r.stripped = r := by
  cases r with
  | const value => rfl
  | leaf kind fields => exact stripped_reduceLeaf (leavesIn_toDraft_leaf.1 h).2

/-! ## What column filters are turned into -/

section Made

variable {column : Fields} {name : Json} (hscalar : name.isContainer = false) (hfind : s.find? name = some column)

include hscalar hfind

/-- A filter on a known column is left as it is if the filter on that column is, or is turned into itself. -/
theorem fixed_make {op : String} {value : Option Json}
    (hflat : ∀ values, value = some (.arr values) → ∀ j ∈ values, ∀ items, j ≠ .arr items)
    (hon : ∀ fields : Fields, fields.value "column" = name → fields.value "op" = .str op →
      fields.value "val" = value.getD .null → ∃ out, ColumnFilter.reduceOn column fields = .ok out ∧
        ∀ r, out = some r → r = ColumnFilter.make name op value) :
    (ColumnFilter.make name op value).toDraft.LeavesIn (Fixed s) := by
  obtain ⟨fields, hmake, hplain, hstripped, hname, hop, hval⟩ : ∃ fields : Fields,
      ColumnFilter.make name op value = .leaf .column fields ∧ fields.isInverted = false ∧
        (Simple.leaf .column fields).stripped = .leaf .column fields ∧ fields.value "column" = name ∧
          fields.value "op" = .str op ∧ fields.value "val" = value.getD .null :=
    ⟨_, rfl, by cases value <;> rfl, by cases value <;> rfl, rfl, rfl, by cases value <;> rfl⟩
  obtain ⟨out, hout, hself⟩ := hon fields hname hop hval
  rw [hmake] at hself ⊢
  refine leavesIn_toDraft_leaf.2
    ⟨fun _ values hvalues => hflat values ?_, map_eq_ok.2 ⟨.leaf .column fields, ?_, hstripped⟩⟩
  · rw [hval] at hvalues
    cases value with
    | none => cases hvalues
    | some v => rw [← hvalues, Option.getD_some]
  · rw [← hname] at hscalar hfind
    refine ColumnFilter.reduce_eq_ok.2 ⟨hscalar, column, out, hfind, hout, ?_⟩
    cases out with
    | none => rfl
    | some r => rw [hself r rfl, Option.elim_some, hplain, Simple.invertedIf_false]

theorem fixed_nullFilter : (ColumnFilter.nullFilter column name).toDraft.LeavesIn (Fixed s) := by
  unfold ColumnFilter.nullFilter
  split
  next hnullable =>
    refine fixed_make hscalar hfind (by simp) fun fields _ hop _ => ⟨none, ?_, nofun⟩
    have hnull : ColumnFilter.hasOp fields ["null"] = true := by rw [ColumnFilter.hasOp, hop]; rfl
    exact ColumnFilter.reduceOn_eq_none.2 (Or.inl ⟨hnull, hnullable⟩)
  next => exact leavesIn_toDraft_const _

theorem fixed_shortened {values : List Json} (hvalues : ∀ j ∈ values, ∀ items, j ≠ .arr items)
    (h : ColumnFilter.Shortened column name values r) : r.toDraft.LeavesIn (Fixed s) := by
  have hkept : ∀ j ∈ (ColumnFilter.cleaned values).1, ∀ items, j ≠ .arr items :=
    fun j hj => hvalues j (ColumnFilter.cleaned_subset values hj)
  cases h with
  | const value => exact leavesIn_toDraft_const _
  | missing => exact fixed_nullFilter hscalar hfind
  | @one op v hop hv =>
    rw [hv, List.forall_mem_singleton] at hkept
    refine fixed_make hscalar hfind (fun items hitems => absurd (Option.some.inj hitems) (hkept items)) ?_
    refine fun fields _ hfields hval => ⟨none, ColumnFilter.reduceOn_eq_none.2 (Or.inr ?_), nofun⟩
    rw [hval, Option.getD_some]
    have hnull : ColumnFilter.hasOp fields ["null"] = false := by
      rw [ColumnFilter.hasOp, hfields]
      rcases List.mem_pair.1 hop with rfl | rfl <;> rfl
    refine ⟨hnull, hkept, fun text htext => ?_⟩
    rw [htext] at hv
    have htexts : (ColumnFilter.cleaned values).1 = [text].map .str := hv
    have hclean := (ColumnFilter.nodup_and_clean_of_cleaned htexts).2 text (by simp)
    rw [ColumnFilter.isClean, Bool.and_eq_true, bne_iff_ne] at hclean
    exact ⟨hclean.1, fun _ => hclean.2⟩
  | @many op hop hlength =>
    refine fixed_make hscalar hfind (fun items hitems => ?_) fun fields hname hfields hval => ?_
    · cases hitems
      exact hkept
    · refine ⟨_, ?_, fun r hr => (Option.some.inj hr).symm⟩
      rw [← hname]
      exact ColumnFilter.reduceOn_of_cleaned hfields hop hval (ColumnFilter.cleaned_cleaned values) hlength

end Made

/-! ## Leaves -/

theorem reduceLeaf_stripped (h : reduceLeaf s kind fields = .ok r) :
    reduceLeaf s kind (Fields.tidy (fields.select kind.keys)) = .ok r := by
  have hsame :
      (Simple.leaf kind (Fields.tidy (fields.select kind.keys))).stripped = (Simple.leaf kind fields).stripped :=
    congrArg (Simple.leaf kind) (kind.stripped_stripped fields)
  have hflag := isInverted_stripped kind fields
  cases kind with
  | column =>
    have hvalue : ∀ k ∈ ["column", "op", "val"],
        (Fields.tidy (fields.select LeafKind.column.keys)).value k = fields.value k := by
      intro k hk
      simp only [List.mem_cons, List.not_mem_nil, or_false] at hk
      rcases hk with rfl | rfl | rfl <;> exact value_stripped (by decide) (by decide)
    obtain ⟨r', hr', rfl⟩ := map_eq_ok.1 h
    obtain ⟨hscalar, column, out, hfind, hon, rfl⟩ := ColumnFilter.reduce_eq_ok.1 hr'
    rw [← hvalue "column" (by simp)] at hscalar hfind
    rw [← ColumnFilter.reduceOn_congr hvalue] at hon
    refine map_eq_ok.2 ⟨_, ColumnFilter.reduce_eq_ok.2 ⟨hscalar, column, out, hfind, hon, rfl⟩, ?_⟩
    cases out with
    | none => exact hsame
    | some r => rw [Option.elim_some, Option.elim_some, hflag]
  | custom =>
    cases h
    exact congrArg Except.ok hsame
  | global =>
    obtain ⟨r', hr', rfl⟩ := map_eq_ok.1 h
    unfold reduceGlobal at hr'
    rw [reduceLeaf, reduceGlobal, value_stripped (by decide) (by decide), hflag]
    split at hr'
    next text htext =>
      cases hr'
      refine map_eq_ok.2 ⟨_, rfl, ?_⟩
      split
      · rfl
      · exact hsame
    next => cases hr'

/-- **What a flat leaf is reduced to is left as it is.** -/
theorem fixed_reduceLeaf (hflat : Flat kind fields) (h : reduceLeaf s kind fields = .ok r) :
    r.toDraft.LeavesIn (Fixed s) := by
  have hown (hr : r = (Simple.leaf kind fields).stripped) : r.toDraft.LeavesIn (Fixed s) := by
    have hstripped := reduceLeaf_stripped h
    rw [hr] at hstripped ⊢
    refine leavesIn_toDraft_leaf.2 ⟨fun hkind => ?_, hstripped⟩
    subst hkind
    exact hflat.congr (value_stripped (by decide) (by decide)) rfl
  cases kind with
  | column =>
    obtain ⟨r', hr', rfl⟩ := map_eq_ok.1 h
    obtain ⟨hscalar, column, out, hfind, hon, rfl⟩ := ColumnFilter.reduce_eq_ok.1 hr'
    cases out with
    | none => exact hown rfl
    | some out =>
      have hout : out.toDraft.LeavesIn (Fixed s) := by
        rcases ColumnFilter.reduceOn_cases hon with ⟨value, rfl⟩ | ⟨invert, rfl⟩ | ⟨values, hvalues, hshort⟩
        · exact leavesIn_toDraft_const _
        · exact fixed_invertedIf (fixed_nullFilter hscalar hfind) invert
        · exact fixed_shortened hscalar hfind (hflat rfl values hvalues) hshort
      have hfixed := fixed_invertedIf hout fields.isInverted
      rw [Option.elim_some, stripped_of_fixed hfixed]
      exact hfixed
  | custom => exact hown (Except.ok.inj h).symm
  | global =>
    obtain ⟨r', hr', rfl⟩ := map_eq_ok.1 h
    unfold reduceGlobal at hr'
    split at hr'
    · cases hr'
      split
      · exact leavesIn_toDraft_const _
      next hwords =>
        rw [if_neg hwords] at hown
        exact hown rfl
    · cases hr'

theorem reducesTo_fixed (s : ColumnSchemas) : ReducesTo s Flat (Fixed s) where
  reduced hflat h := leavesIn_toDraft_leaf.1 (fixed_reduceLeaf hflat h)
  inverted := Fixed.inverted
  again h := h.1

end TableQuery.Draft
