import TableQuery.Proofs.Filter.Fixed

/-!
# The normal form of filters

What reduction makes is a constant or in normal form (`Draft.isReduced_reduce`). A draft in normal form whose leaves are
left as they are is reduced to itself, so that reduction is idempotent (`reduceFilter_idempotent`). What a filter in
normal form looks like when it is written is told by `IsNormalFilter` (`reduceFilter_normal`).
-/

set_option autoImplicit false

namespace TableQuery

namespace Draft

variable {s : ColumnSchemas} {all : Bool} {d r : Draft} {ds : List Draft}

/-! ## Reduction of what is in normal form -/

theorem reducedParts_of_stays (h : ∀ d ∈ ds, reduce s d = .ok d ∧ partOf all d = .stays) :
    reducedParts s all ds = .ok (some ds) := by
  induction ds with
  | nil => exact reducedParts_nil
  | cons d ds ih =>
    obtain ⟨⟨hd, hstays⟩, hds⟩ := List.forall_mem_cons.1 h
    exact reducedParts_cons_eq_ok.2 ⟨d, hd, Or.inr (Or.inr (Or.inr ⟨hstays, some ds, ih hds, rfl⟩))⟩

/-- **A draft in normal form is left as it is** if its leaves are. -/
theorem Normal.reduce_eq (h : Normal (Fixed s) d) : reduce s d = .ok d := by
  induction h with
  | leaf h =>
    rw [reduce_leaf, h.2]
    rfl
  | @op all ds inverse hlength _ hstays ih =>
    rw [reduce_op, reducedParts_of_stays fun d hd => ⟨ih d hd, hstays d hd⟩]
    match ds with
    | d :: e :: ds => cases inverse <;> rfl

theorem IsReduced.reduce_eq (h : IsReduced (Fixed s) d) : reduce s d = .ok d := by
  rcases h with ⟨value, rfl⟩ | h
  · exact reduce_const value
  · exact h.reduce_eq

theorem reduce_reduce (hflat : d.LeavesIn Flat) (h : reduce s d = .ok r) : reduce s r = .ok r :=
  (isReduced_reduce (reducesTo_fixed s) hflat h).reduce_eq

end Draft

section Idempotence

variable {s : ColumnSchemas} {f g : Json}

/-- **Reduction is idempotent** where no list of values contains a list: what a filter is reduced to is reduced to
itself. -/
theorem reduceFilter_idempotent (hflat : (Draft.ofJson f).LeavesIn Draft.Flat) (h : reduceFilter s f = .ok g) :
    reduceFilter s g = .ok g := by
  obtain ⟨r, hr, rfl⟩ := map_eq_ok.1 h
  rw [reduceFilter, Draft.ofJson_toJson_of_reduce hr, Draft.reduce_reduce hflat hr]
  rfl

/-- A filter with a constant that is turned round, an empty list, values that are repeated or that no row has, parts
that can be put in place of their operation, and fields that do not matter. -/
def untidyPeople : Json :=
  .obj [("type", .str "op"), ("op", .str "&"), ("open", .bool true), ("val", .arr [
    .obj [("type", .str "const"), ("val", .str "never"), ("inv", .bool true)],
    .obj [("type", .str "op"), ("op", .str "|"), ("inv", .bool true), ("val", .arr [
      .obj [("type", .str "column"), ("column", .str "name"), ("op", .str "in"), ("val", .arr [])],
      .obj [("type", .str "column"), ("column", .str "name"), ("op", .str "in"), ("inv", .int 1),
        ("val", .arr [.str "Ann", .str " Bob", .str "Ann"])],
      .obj [("type", .str "column"), ("column", .str "tags"), ("op", .str "has_all"), ("inv", .bool false),
        ("val", .arr [.str "a", .str "b", .str "a"]), ("state", .null)]])],
    .obj [("type", .str "op"), ("op", .str "&"), ("val", .arr [
      .obj [("type", .str "column"), ("column", .str "status"), ("op", .str "="), ("val", .str ""),
        ("inv", .bool true)],
      .obj [("type", .str "global"), ("op", .str "%v%"), ("val", .str " ")]])]])]

/-- The filter for people called Ann without two tags who have a status. -/
def tidyPeople : Json :=
  .obj [("type", .str "op"), ("op", .str "&"), ("val", .arr [
    .obj [("type", .str "column"), ("column", .str "name"), ("op", .str "="), ("val", .str "Ann")],
    .obj [("type", .str "column"), ("column", .str "tags"), ("op", .str "has_all"), ("val", .arr [.str "a", .str "b"]),
      ("inv", .bool true)],
    .obj [("type", .str "column"), ("column", .str "status"), ("op", .str "null"), ("inv", .bool true)]])]

theorem reduceFilter_untidyPeople : reduceFilter peopleColumns untidyPeople = .ok tidyPeople := by
  with_unfolding_all rfl

theorem flat_untidyPeople : (Draft.ofJson untidyPeople).LeavesIn Draft.Flat := by
  have hflat : ∀ l ∈ (Draft.ofJson untidyPeople).leaves, Draft.Flat l.1 l.2 := by decide +kernel
  exact hflat

/-- The tidy filter is reduced to itself. -/
theorem reduceFilter_idempotent_untidyPeople :
    (Draft.ofJson untidyPeople).LeavesIn Draft.Flat ∧ reduceFilter peopleColumns untidyPeople = .ok tidyPeople ∧
      reduceFilter peopleColumns tidyPeople = .ok tidyPeople :=
  ⟨flat_untidyPeople, reduceFilter_untidyPeople, reduceFilter_idempotent flat_untidyPeople reduceFilter_untidyPeople⟩

end Idempotence

/-! ## Filters in normal form, as they are written -/

/-- The fields of a filter of some type: none but those that matter in that type, and a flag only if it is set. -/
structure Fields.IsStripped (type : String) (keys : List String) (fields : Fields) : Prop where
  type : fields.value "type" = .str type
  keys : ∀ k ∈ fields.keys, k ∈ keys
  flag : ∀ v, fields.lookup "inv" = some v → v.truthy = true

/-- The operator and the value of a filter on a column in normal form. -/
structure ColumnFilter.IsNormal (column fields : Fields) : Prop where
  nullable : fields.value "op" = .str "null" → isNullable column = true
  nonempty : fields.value "op" ≠ .str "null" → fields.value "val" ≠ .str "" ∧ fields.value "val" ≠ .arr []
  trimmed : ∀ op ∈ ["=", "==", "has"], fields.value "op" = .str op → ∀ text, fields.value "val" = .str text →
    Text.isTrimmed text = true
  texts : fields.value "op" ≠ .str "null" → ∀ texts : List String, fields.value "val" = .arr (texts.map .str) →
    texts.Nodup ∧ (∀ t ∈ texts, t ≠ "" ∧ Text.isTrimmed t = true) ∧
      ∃ op ∈ listSymbols, fields.value "op" = .str op ∧ leastValues op ≤ texts.length

/-- A filter in an operation that can be replaced by the filters in it, or by their opposites: the same operation, or
the dual one inverted. -/
def DissolvesIn (all : Bool) (f : Json) : Prop :=
  ∃ fields : Fields, f = .obj fields ∧ fields.value "type" = .str "op" ∧
    (fields.value "op" = .str (operationSymbol all) ∧ fields.isInverted = false ∨
      fields.value "op" = .str (operationSymbol !all) ∧ fields.isInverted = true)

/-- A filter in normal form. -/
inductive IsNormalFilter (s : ColumnSchemas) : Json → Prop
  | operation {all : Bool} {fields : Fields} {filters : List Json} :
      fields.IsStripped "op" ["type", "op", "val", "inv"] → fields.value "op" = .str (operationSymbol all) →
        fields.value "val" = .arr filters → 2 ≤ filters.length → (∀ f ∈ filters, IsNormalFilter s f) →
          (∀ f ∈ filters, ¬ DissolvesIn all f) → IsNormalFilter s (.obj fields)
  | column {fields column : Fields} : fields.IsStripped "column" LeafKind.column.keys →
      s.find? (fields.value "column") = some column → ColumnFilter.IsNormal column fields →
        IsNormalFilter s (.obj fields)
  | custom {fields : Fields} : fields.IsStripped "custom" LeafKind.custom.keys → IsNormalFilter s (.obj fields)
  | global {fields : Fields} {text : String} : fields.IsStripped "global" LeafKind.global.keys →
      fields.value "val" = .str text → (Text.trim text).isEmpty = false → IsNormalFilter s (.obj fields)

/-! ### Leaves -/

namespace ColumnFilter

variable {s : ColumnSchemas} {column fields : Fields} {name : Json}

/-- A leaf has the fields of what it was turned into from, but for its flag. -/
theorem exists_of_stripped_invertedIf {kind : LeafKind} {r : Simple} {invert : Bool}
    (h : (r.invertedIf invert).stripped = .leaf kind fields) : ∃ fields' : Fields, r = .leaf kind fields' ∧
      ∀ k ∈ kind.keys, k ≠ "inv" → fields.value k = fields'.value k := by
  cases r with
  | const value => cases h
  | leaf kind' fields' =>
    obtain ⟨rfl, rfl⟩ := Simple.leaf.inj h
    refine ⟨fields', rfl, fun k hk hinv => ?_⟩
    rw [Draft.value_stripped hk hinv]
    cases invert with
    | false => rfl
    | true => exact Fields.value_inverted_ne hinv

/-- The operator and the value of a filter that was made, or of its opposite. -/
theorem value_of_make {op : String} {value : Option Json} {invert : Bool}
    (h : (make name op value).invertedIf invert = .leaf .column fields) :
    fields.value "op" = .str op ∧ fields.value "val" = value.getD .null := by
  obtain ⟨-, rfl⟩ := Simple.leaf.inj h
  cases invert <;> cases value <;> exact ⟨rfl, rfl⟩

/-- A filter for missing values is in normal form where there can be some. -/
theorem IsNormal.of_null (hop : fields.value "op" = .str "null") (hnullable : isNullable column = true) :
    IsNormal column fields where
  nullable _ := hnullable
  nonempty hne := absurd hop hne
  trimmed := by
    rintro op hsymbol heq
    rw [hop, Json.str.injEq] at heq
    subst heq
    simp at hsymbol
  texts hne := absurd hop hne

theorem hasOp_null : hasOp fields ["null"] = true ↔ fields.value "op" = .str "null" := by
  rw [hasOp, List.any_cons, List.any_nil, Bool.or_false, Json.isText_iff]

theorem isNormal_of_reduceOn (h : reduceOn column fields = .ok none) : IsNormal column fields := by
  rcases reduceOn_eq_none.1 h with ⟨hnull, hnullable⟩ | ⟨hnull, hlist, htext⟩
  · exact .of_null (hasOp_null.1 hnull) hnullable
  · have hne : fields.value "op" ≠ .str "null" := fun hop => by rw [hasOp_null.2 hop] at hnull; cases hnull
    refine ⟨fun hop => absurd hop hne, fun _ => ⟨fun hval => (htext _ hval).1 rfl, hlist _⟩, ?_, ?_⟩
    · intro op hsymbol hop text hval
      exact (htext text hval).2 (List.any_eq_true.2 ⟨op, hsymbol, by rw [hop, Json.isText_iff]⟩)
    · exact fun _ texts hval => absurd hval (hlist _)

/-- A list that has been cleaned is in normal form. -/
theorem isNormal_of_many {op : String} {values : List Json} (hsymbol : op ∈ listSymbols)
    (hlength : leastValues op ≤ (cleaned values).1.length) (hop : fields.value "op" = .str op)
    (hval : fields.value "val" = .arr (cleaned values).1) : IsNormal column fields := by
  have hnull : op ≠ "null" := by rintro rfl; simp [listSymbols] at hsymbol
  refine ⟨fun heq => ?_, fun _ => ⟨?_, ?_⟩, fun _ _ _ text htext => ?_, fun _ texts htexts => ?_⟩
  · rw [hop, Json.str.injEq] at heq
    exact absurd heq hnull
  · simp [hval]
  · rw [hval]
    intro hempty
    rw [Json.arr.inj hempty, leastValues] at hlength
    split at hlength <;> cases hlength
  · rw [hval] at htext
    cases htext
  · rw [hval, Json.arr.injEq] at htexts
    obtain ⟨hnodup, hclean⟩ := nodup_and_clean_of_cleaned htexts
    rw [htexts, List.length_map] at hlength
    refine ⟨hnodup, fun t ht => ?_, op, hsymbol, hop, hlength⟩
    simpa [isClean] using hclean t ht

theorem isNormal_of_fixed (h : Draft.Fixed s .column fields) :
    ∃ column, s.find? (fields.value "column") = some column ∧ IsNormal column fields := by
  obtain ⟨r, hr, hself⟩ := map_eq_ok.1 h.2
  obtain ⟨-, column, out, hfind, hon, rfl⟩ := reduce_eq_ok.1 hr
  refine ⟨column, hfind, ?_⟩
  cases out with
  | none => exact isNormal_of_reduceOn hon
  | some r =>
    obtain ⟨fields', rfl, hsame⟩ := exists_of_stripped_invertedIf hself
    have hop := hsame "op" (by decide) (by decide)
    have hval := hsame "val" (by decide) (by decide)
    have hmissing {invert : Bool}
        (h : .leaf .column fields' = (nullFilter column (fields.value "column")).invertedIf invert) :
        IsNormal column fields := by
      unfold nullFilter at h
      split at h
      next hnullable => exact .of_null (hop.trans (value_of_make h.symm).1) hnullable
      next => cases h
    rcases reduceOn_cases hon with ⟨value, hr⟩ | ⟨invert, hr⟩ | ⟨values, hvalues, hshort⟩
    · cases hr
    · exact hmissing hr
    · generalize hr : Simple.leaf .column fields' = r at hshort
      cases hshort with
      | const value => cases hr
      | missing => exact hmissing (hr.trans (Simple.invertedIf_false _).symm)
      | @one op v _ hone =>
        -- A list without lists is not one of its values.
        have hv := (value_of_make ((Simple.invertedIf_false _).trans hr.symm)).2
        have hmem : v ∈ values := cleaned_subset values (by simp [hone])
        rw [← hval, hvalues] at hv
        exact absurd hv.symm (h.1 rfl values hvalues v hmem values)
      | many hsymbol hlength =>
        obtain ⟨hop', hval'⟩ := value_of_make ((Simple.invertedIf_false _).trans hr.symm)
        exact isNormal_of_many hsymbol hlength (hop.trans hop') (hval.trans hval')

end ColumnFilter

namespace Draft

variable {s : ColumnSchemas} {kind : LeafKind} {fields : Fields} {d : Draft}

theorem isStripped_of_fixed (htype : Typed kind fields) (h : Fixed s kind fields) :
    fields.IsStripped kind.name kind.keys := by
  have hself : Fields.tidy (fields.select kind.keys) = fields :=
    (Simple.leaf.inj (stripped_of_fixed (leavesIn_toDraft_leaf.2 h))).2
  refine ⟨htype, fun k hk => ?_, fun v hv => ?_⟩
  · rw [← hself] at hk
    exact mem_keys_stripped hk
  · rw [Fields.tidy] at hself
    split at hself
    next hflag =>
      rw [hself, Fields.isInverted, Fields.value, hv] at hflag
      exact hflag
    next =>
      rw [← hself, Fields.lookup_erase_self] at hv
      cases hv

theorem isNormalFilter_of_fixed (htype : Typed kind fields) (h : Fixed s kind fields) :
    IsNormalFilter s (.obj fields) := by
  have hstripped := isStripped_of_fixed htype h
  cases kind with
  | column =>
    obtain ⟨column, hfind, hnormal⟩ := ColumnFilter.isNormal_of_fixed h
    exact .column hstripped hfind hnormal
  | custom => exact .custom hstripped
  | global =>
    obtain ⟨r, hr, hself⟩ := map_eq_ok.1 h.2
    unfold reduceGlobal at hr
    split at hr
    next text hval =>
      cases hr
      split at hself
      · cases hself
      next hwords => exact .global hstripped hval (Bool.eq_false_iff.2 hwords)
    next => cases hr

theorem not_dissolvesIn_toJson {P : LeafProperty} (hP : ∀ {kind fields}, P kind fields → Typed kind fields)
    (h : Normal P d) {all : Bool} (hstays : partOf all d = .stays) : ¬ DissolvesIn all d.toJson := by
  rintro ⟨fields, hd, htype, hop⟩
  cases h with
  | @leaf kind fields' hleaf =>
    cases hd
    have hkind := (hP hleaf).symm.trans htype
    cases kind <;> simp [LeafKind.name] at hkind
  | op inner inverse _ _ _ =>
    obtain rfl := Json.obj.inj hd
    cases all <;> cases inner <;> cases inverse <;>
      simp [partOf, Fields.value, List.lookup_cons, Fields.isInverted, Json.truthy, operationSymbol] at hstays hop

/-- **A draft in normal form is written as a filter in normal form**. -/
theorem Normal.isNormalFilter (h : Normal (fun kind fields => Fixed s kind fields ∧ Typed kind fields) d) :
    IsNormalFilter s d.toJson := by
  induction h with
  | leaf h => exact isNormalFilter_of_fixed h.2 h.1
  | @op all ds inverse hlength hds hstays ih =>
    have hfields : toJson (Draft.op all ds inverse) = .obj ([("type", .str "op"), ("op", .str (operationSymbol all)),
        ("val", .arr (ds.map toJson))] ++ if inverse then [("inv", .bool true)] else []) := by
      rw [toJson, toItems_eq_map]
    rw [hfields]
    refine .operation ?_ (by cases inverse <;> rfl) (by cases inverse <;> rfl) (by rwa [List.length_map]) ?_ ?_
    · refine ⟨by cases inverse <;> rfl, ?_, ?_⟩
      · cases inverse <;> simp [Fields.keys]
      · cases inverse <;> simp [List.lookup_cons, Json.truthy]
    · exact List.forall_mem_map.2 ih
    · exact List.forall_mem_map.2 fun d hd => not_dissolvesIn_toJson And.right (hds d hd) (hstays d hd)

end Draft

section Written

variable {s : ColumnSchemas} {f g : Json}

/-- **What a filter is reduced to is a constant or in normal form**, where no list of values contains a list. -/
theorem reduceFilter_normal (hflat : (Draft.ofJson f).LeavesIn Draft.Flat) (h : reduceFilter s f = .ok g) :
    (∃ value, g = .str (constText value)) ∨ IsNormalFilter s g := by
  obtain ⟨r, hr, rfl⟩ := map_eq_ok.1 h
  have hP := (Draft.reducesTo_fixed s).and Draft.closed_typed.reducesTo
  rcases Draft.isReduced_reduce hP (fun l hl => ⟨hflat l hl, Draft.typed_ofJson f l hl⟩) hr with ⟨value, rfl⟩ | hnormal
  · exact Or.inl ⟨value, rfl⟩
  · exact Or.inr hnormal.isNormalFilter

/-- The tidy filter is in normal form. -/
theorem reduceFilter_normal_untidyPeople :
    (Draft.ofJson untidyPeople).LeavesIn Draft.Flat ∧ reduceFilter peopleColumns untidyPeople = .ok tidyPeople ∧
      IsNormalFilter peopleColumns tidyPeople := by
  refine ⟨flat_untidyPeople, reduceFilter_untidyPeople, ?_⟩
  rcases reduceFilter_normal flat_untidyPeople reduceFilter_untidyPeople with ⟨value, hconst⟩ | hnormal
  · cases hconst
  · exact hnormal

end Written

end TableQuery
